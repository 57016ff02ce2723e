import Mathlib.Data.Option.Basic

namespace Jiejian.Library.Places

/-- Values with named places in them. The part that stands at a place can be exchanged. -/
structure Nested (δ κ : Type) where
  child : δ → κ → Option δ
  put : δ → κ → δ → δ
  child_put : ∀ whole place part new, child whole place = some part → child (put whole place new) place = some new
  put_put : ∀ whole place part first second, child whole place = some part →
    put (put whole place first) place second = put whole place second
  put_child : ∀ whole place part, child whole place = some part → put whole place part = whole

variable {δ κ : Type}

/-- What stands at the end of a path. -/
def Nested.read (nested : Nested δ κ) : List κ → δ → Option δ
  | [], whole => some whole
  | place :: path, whole => (nested.child whole place).bind (nested.read path)

/-- The whole with another part at the end of the path. -/
def Nested.write (nested : Nested δ κ) : List κ → δ → δ → δ
  | [], new, _ => new
  | place :: path, new, whole =>
    match nested.child whole place with
    | some part => nested.put whole place (nested.write path new part)
    | none => whole

section Laws

variable {nested : Nested δ κ}

theorem read_cons {place : κ} {path : List κ} {whole last : δ} :
    nested.read (place :: path) whole = some last ↔
      ∃ part, nested.child whole place = some part ∧ nested.read path part = some last :=
  Option.bind_eq_some_iff

theorem write_cons {place : κ} {path : List κ} {whole part : δ} (here : nested.child whole place = some part) (new : δ) :
    nested.write (place :: path) new whole = nested.put whole place (nested.write path new part) := by
  rw [Nested.write, here]

theorem child_write {place : κ} {path : List κ} {whole part : δ} (here : nested.child whole place = some part) (new : δ) :
    nested.child (nested.write (place :: path) new whole) place = some (nested.write path new part) := by
  rw [write_cons here]
  exact nested.child_put whole place part _ here

theorem read_write {path : List κ} {whole last : δ} (holds : nested.read path whole = some last) (new : δ) :
    nested.read path (nested.write path new whole) = some new := by
  induction path generalizing whole with
  | nil => rfl
  | cons place path ih =>
    obtain ⟨part, here, later⟩ := read_cons.mp holds
    exact read_cons.mpr ⟨_, child_write here new, ih later⟩

theorem write_write {path : List κ} {whole last : δ} (holds : nested.read path whole = some last) (first second : δ) :
    nested.write path second (nested.write path first whole) = nested.write path second whole := by
  induction path generalizing whole with
  | nil => rfl
  | cons place path ih =>
    obtain ⟨part, here, later⟩ := read_cons.mp holds
    rw [write_cons (child_write here first), write_cons here, ih later, write_cons here]
    exact nested.put_put whole place part _ _ here

theorem write_read {path : List κ} {whole last : δ} (holds : nested.read path whole = some last) :
    nested.write path last whole = whole := by
  induction path generalizing whole with
  | nil => exact Option.some.inj holds.symm
  | cons place path ih =>
    obtain ⟨part, here, later⟩ := read_cons.mp holds
    rw [write_cons here, ih later]
    exact nested.put_child whole place part here

/-- A translation of a whole that translates the part at each of its places. -/
def Carries {ε : Type} (nested : Nested δ κ) (translate : δ → Except ε δ) (fit : δ → Prop) : Prop :=
  ∀ whole place part image, nested.child whole place = some part → fit part → translate whole = .ok image →
    ∃ partImage, translate part = .ok partImage ∧ nested.child image place = some partImage ∧
      ∀ new newImage, translate new = .ok newImage → fit new →
        translate (nested.put whole place new) = .ok (nested.put image place newImage)

/-- Such a translation translates what stands at the end of a path, and an exchanged part in its place. -/
theorem carries_path {ε : Type} {translate : δ → Except ε δ} {fit : δ → Prop} (carries : Carries nested translate fit)
    (fits : ∀ whole place part, nested.child whole place = some part → fit whole)
    (kept : ∀ whole place part new, nested.child whole place = some part → fit (nested.put whole place new))
    {path : List κ} {whole last image : δ} (holds : nested.read path whole = some last) (fit_last : fit last)
    (translated : translate whole = .ok image) :
    ∃ lastImage, translate last = .ok lastImage ∧ nested.read path image = some lastImage ∧
      ∀ new newImage, translate new = .ok newImage → fit new →
        translate (nested.write path new whole) = .ok (nested.write path newImage image) := by
  induction path generalizing whole image with
  | nil =>
    have same := Option.some.inj holds
    subst same
    exact ⟨image, translated, rfl, fun new newImage done _ => done⟩
  | cons place path ih =>
    obtain ⟨part, here, later⟩ := read_cons.mp holds
    have fit_part : fit part := by
      cases path with
      | nil => exact Option.some.inj later ▸ fit_last
      | cons next rest =>
        obtain ⟨deeper, there, -⟩ := read_cons.mp later
        exact fits part next deeper there
    obtain ⟨partImage, done, placed, exchange⟩ := carries whole place part image here fit_part translated
    obtain ⟨lastImage, last_done, read, inner⟩ := ih later done
    refine ⟨lastImage, last_done, read_cons.mpr ⟨partImage, placed, read⟩, ?_⟩
    intro new newImage new_done fit_new
    rw [write_cons here, write_cons placed]
    refine exchange _ _ (inner new newImage new_done fit_new) ?_
    cases path with
    | nil => exact fit_new
    | cons next rest =>
      obtain ⟨deeper, there, -⟩ := read_cons.mp later
      rw [write_cons there]
      exact kept part next deeper _ there

end Laws

end Jiejian.Library.Places
