import Jiejian.Library.Document
import Jiejian.Library.Table
import Jiejian.Library.Transition

namespace Jiejian.Records.SqliteCapture

open Library Library.Document

inductive JournalKind where
  | INSERT
  | UPDATE
  | DELETE
  deriving DecidableEq, Repr

/-- A row of `_jj_rows`. -/
structure JournalRow where
  seq : Nat
  tableName : String
  resourceId : String
  ownerId : String
  kind : JournalKind
  requestNonce : Option String
  transactionId : String
  beforeData : Option Json
  afterData : Option Json
  identityChanged : Bool

/-- The mapped columns of a row of the application's table. -/
structure ObjectRow where
  resourceId : String
  ownerId : String
  data : Json

/-- What a statement does to one row; a row of another captured table only enters the journal. -/
inductive Statement where
  | insert (row : ObjectRow)
  | update (resourceId : String) (row : ObjectRow)
  | delete (resourceId : String)
  | elsewhere (entry : JournalRow)

/-- A committed transaction. Each statement runs under the nonce of the request open at that moment. -/
structure Transaction where
  transactionId : String
  statements : List (Option String × Statement)

/-- The captured database, read through one mapped table. -/
structure Capture where
  generation : String
  objects : List ObjectRow
  journal : List JournalRow

def objectOf (state : Capture) (resourceId : String) : Option ObjectRow :=
  Table.lookup ObjectRow.resourceId state.objects resourceId

/-- The object is in the table. -/
def Present (state : Capture) (resourceId : String) : Prop := (objectOf state resourceId).isSome

instance (state : Capture) (resourceId : String) : Decidable (Present state resourceId) :=
  inferInstanceAs (Decidable ((objectOf state resourceId).isSome = true))

section Triggers

variable (table transactionId : String) (requestNonce : Option String)

/-- The row that a trigger of the mapped table writes; `AUTOINCREMENT` counts the rows. -/
def capturedRow (state : Capture) (kind : JournalKind) (named : ObjectRow) (before after : Option ObjectRow) :
    JournalRow where
  seq := state.journal.length + 1
  tableName := table
  resourceId := named.resourceId
  ownerId := named.ownerId
  kind := kind
  requestNonce := requestNonce
  transactionId := transactionId
  beforeData := before.map (·.data)
  afterData := after.map (·.data)
  identityChanged :=
    match before, after with
    | some old, some new => old.resourceId ≠ new.resourceId ∨ old.ownerId ≠ new.ownerId
    | _, _ => false

def elsewhereRow (state : Capture) (entry : JournalRow) : JournalRow :=
  { entry with seq := state.journal.length + 1, requestNonce, transactionId }

/-- One statement and the trigger it fires. A statement that breaks the unique key, or finds no row, does nothing. -/
def execute (state : Capture) (statement : Statement) : Capture :=
  match statement with
  | .insert row =>
    match objectOf state row.resourceId with
    | some _ => state
    | none =>
      { state with
        objects := state.objects ++ [row]
        journal := state.journal ++ [capturedRow table transactionId requestNonce state .INSERT row none (some row)] }
  | .update resourceId row =>
    match objectOf state resourceId with
    | none => state
    | some old =>
      if row.resourceId ≠ resourceId ∧ Present state row.resourceId then state
      else
        { state with
          objects := state.objects.map fun other => if other.resourceId = resourceId then row else other
          journal := state.journal ++
            [capturedRow table transactionId requestNonce state .UPDATE row (some old) (some row)] }
  | .delete resourceId =>
    match objectOf state resourceId with
    | none => state
    | some old =>
      { state with
        objects := state.objects.filter fun other => other.resourceId ≠ resourceId
        journal := state.journal ++ [capturedRow table transactionId requestNonce state .DELETE old (some old) none] }
  | .elsewhere entry =>
    if entry.tableName = table then state
    else { state with journal := state.journal ++ [elsewhereRow transactionId requestNonce state entry] }

end Triggers

/-- A transaction that is rolled back leaves neither rows nor a journal: only committed ones are here. -/
def commit (table : String) (state : Capture) (made : Transaction) : Capture :=
  made.statements.foldl (fun state statement => execute table made.transactionId statement.1 state statement.2) state

/-- The copy that the capture starts from. -/
def prepared (generation : String) (objects : List ObjectRow) : Capture := ⟨generation, objects, []⟩

def runCapture (table : String) (start : Capture) (history : List Transaction) : Capture :=
  Transition.run (commit table) start history

/-- No statement of the transaction gives an object another id. -/
def InPlace (made : Transaction) : Prop :=
  ∀ statement ∈ made.statements, ∀ resourceId row, statement.2 = .update resourceId row → row.resourceId = resourceId

end Jiejian.Records.SqliteCapture
