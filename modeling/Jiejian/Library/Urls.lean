import Mathlib.Data.List.Basic

namespace Jiejian.Library.Urls

/-- A URL that is taken apart. -/
structure SplitUrl where
  scheme : List Char
  netloc : List Char
  path : List Char
  query : List Char
  fragment : List Char
  deriving DecidableEq, Repr

section Addresses

def hexChar (char : Char) : Bool :=
  char.isDigit || ('a' ≤ char && char ≤ 'f') || ('A' ≤ char && char ≤ 'F')

def decimal (digits : List Char) : Nat := digits.foldl (fun value char => 10 * value + (char.toNat - 48)) 0

def octet (digits : List Char) : Option Nat :=
  if digits ≠ [] ∧ digits.length ≤ 3 ∧ digits.all Char.isDigit = true ∧ (digits.head? = some '0' → digits = ['0']) ∧
    decimal digits ≤ 255 then some (decimal digits) else none

/-- An address in four decimal numbers. -/
def ipv4Address (text : List Char) : Option Nat :=
  match text.splitOn '.' with
  | [first, second, third, fourth] => do
    let first ← octet first
    let second ← octet second
    let third ← octet third
    let fourth ← octet fourth
    return ((first * 256 + second) * 256 + third) * 256 + fourth
  | _ => none

def hextet (digits : List Char) : Bool := digits ≠ [] && digits.length ≤ 4 && digits.all hexChar

/-- The groups between the colons; an address in four numbers at the end stands for two of them. -/
def hextets (text : List Char) : Option (List (List Char)) :=
  let parts := text.splitOn ':'
  match parts.getLast? with
  | some last =>
    if '.' ∈ last then (ipv4Address last).map fun _ => parts.dropLast ++ [['0'], ['0']] else some parts
  | none => none

def allHextets (parts : List (List Char)) : Bool := parts.all hextet

/-- The places of the empty groups that are neither first nor last. -/
def skips (parts : List (List Char)) : List Nat :=
  (List.range' 1 (parts.length - 2)).filter fun index => parts[index]? = some []

def ipv6Groups (parts : List (List Char)) : Bool :=
  3 ≤ parts.length && parts.length ≤ 9 &&
    match skips parts with
    | [] => parts.length = 8 && allHextets parts
    | [skip] =>
      let front := parts.take skip
      let back := parts.drop (skip + 1)
      let front := if front.head? = some [] then front.drop 1 else front
      let back := if back.getLast? = some [] then back.dropLast else back
      (front = [] || parts.head? ≠ some []) && (back = [] || parts.getLast? ≠ some []) && front.length + back.length < 8 &&
        allHextets front && allHextets back
    | _ => false

def ipv6Address (text : List Char) : Bool :=
  let address := text.takeWhile (· ≠ '%')
  let scope := (text.dropWhile (· ≠ '%')).drop 1
  (!text.contains '%' || (scope ≠ [] && !scope.contains '%')) && 3 ≤ (address.splitOn ':').length &&
    (hextets address).any ipv6Groups

end Addresses

section Splitting

/-- What stands after the last sign. -/
def afterLast (sign : Char) (text : List Char) : List Char := (text.reverse.takeWhile (· ≠ sign)).reverse

def future (host : List Char) : Bool :=
  match host with
  | 'v' :: rest =>
    let digits := rest.takeWhile hexChar
    digits ≠ [] &&
      match rest.drop digits.length with
      | '.' :: name => name ≠ []
      | _ => false
  | _ => false

/-- A host in brackets is an address of the sixth version, or of a future one. -/
def bracketedHost (host : List Char) : Bool :=
  if host.head? = some 'v' then future host else (ipv4Address host).isNone && ipv6Address host

/-- Brackets come in pairs, around the host alone. -/
def bracketed (netloc : List Char) : Bool :=
  if netloc.contains '[' ≠ netloc.contains ']' then false
  else if netloc.contains '[' = false then true
  else
    let place := afterLast '@' netloc
    if place.contains '[' then
      let inside := (place.dropWhile (· ≠ '[')).drop 1
      let port := (inside.dropWhile (· ≠ ']')).drop 1
      place.head? = some '[' && (port = [] || port.head? = some ':') && bracketedHost (inside.takeWhile (· ≠ ']'))
    else bracketedHost (place.takeWhile (· ≠ ':'))

def separators : List Char := ['/', '?', '#', '@', ':']

/-- The place stays one when it is normalized, by the form that the names of hosts are compared in. -/
def normalizes (nfkc : List Char → List Char) (netloc : List Char) : Bool :=
  netloc.all (fun char => char.toNat < 128) ||
    let bare := netloc.filter fun char => char ∉ ['@', ':', '#', '?']
    nfkc bare = bare || (nfkc bare).all fun char => char ∉ separators

def stripped (url : List Char) : List Char :=
  (url.dropWhile fun char => char.toNat ≤ 32).filter fun char => char ∉ ['\t', '\r', '\n']

def schemeChar (char : Char) : Bool := char.isAlphanum || char ∈ ['+', '-', '.']

def splitScheme (default url : List Char) : List Char × List Char :=
  let front := url.takeWhile (· ≠ ':')
  match front.head?, url.drop front.length with
  | some first, _ :: rest =>
    if first.isAlpha && front.all schemeChar then (front.map Char.toLower, rest) else (default, url)
  | _, _ => (default, url)

def splitNetloc (url : List Char) : List Char × List Char :=
  match url with
  | '/' :: '/' :: rest =>
    (rest.takeWhile fun char => char ∉ ['/', '?', '#'], rest.dropWhile fun char => char ∉ ['/', '?', '#'])
  | url => ([], url)

def cut (sign : Char) (text : List Char) : List Char × List Char :=
  (text.takeWhile (· ≠ sign), (text.dropWhile (· ≠ sign)).drop 1)

/-- `urlsplit`; nothing when it raises `ValueError`. -/
def urlsplit (nfkc : List Char → List Char) (url default : List Char) : Option SplitUrl :=
  let (scheme, rest) := splitScheme default (stripped url)
  let (netloc, rest) := splitNetloc rest
  let (rest, fragment) := cut '#' rest
  let (path, query) := cut '?' rest
  if bracketed netloc && normalizes nfkc netloc then some ⟨scheme, netloc, path, query, fragment⟩ else none

end Splitting

section Joining

def usesRelative : List (List Char) :=
  ["", "ftp", "http", "gopher", "nntp", "imap", "wais", "file", "https", "shttp", "mms", "prospero", "rtsp", "rtsps",
    "rtspu", "sftp", "svn", "svn+ssh", "ws", "wss"].map String.toList

def usesNetloc : List (List Char) :=
  ["", "ftp", "http", "gopher", "nntp", "telnet", "imap", "wais", "file", "mms", "https", "shttp", "snews", "prospero",
    "rtsp", "rtsps", "rtspu", "rsync", "svn", "svn+ssh", "sftp", "nfs", "git", "git+ssh", "ws", "wss"].map String.toList

def usesParams : List (List Char) :=
  ["", "ftp", "hdl", "prospero", "http", "imap", "https", "shttp", "rtsp", "rtsps", "rtspu", "sip", "sips", "mms", "sftp",
    "tel"].map String.toList

/-- The parameters of the last segment of a path. -/
def splitParams (scheme path : List Char) : List Char × List Char :=
  let last := afterLast '/' path
  if scheme ∈ usesParams ∧ ';' ∈ last then
    (path.take (path.length - last.length) ++ last.takeWhile (· ≠ ';'), (last.dropWhile (· ≠ ';')).drop 1)
  else (path, [])

def optional (sign : Char) (text : List Char) : List Char := if text = [] then [] else sign :: text

def urlunsplit (url : SplitUrl) : List Char :=
  let rooted :=
    if url.netloc ≠ [] then
      ['/', '/'] ++ url.netloc ++ (if url.path ≠ [] ∧ url.path.head? ≠ some '/' then '/' :: url.path else url.path)
    else if ['/', '/'] <+: url.path then ['/', '/'] ++ url.path
    else if url.scheme ≠ [] ∧ url.scheme ∈ usesNetloc ∧ (url.path = [] ∨ url.path.head? = some '/') then
      ['/', '/'] ++ url.path
    else url.path
  (if url.scheme = [] then [] else url.scheme ++ [':']) ++ rooted ++ optional '?' url.query ++ optional '#' url.fragment

/-- The segments of a joined path, without the dots. -/
def resolveSegment (resolved : List (List Char)) (segment : List Char) : List (List Char) :=
  if segment = ['.', '.'] then resolved.dropLast else if segment = ['.'] then resolved else resolved ++ [segment]

def resolvePath (base path : List Char) : List Char :=
  let baseParts := base.splitOn '/'
  let baseParts := if baseParts.getLast? = some [] then baseParts else baseParts.dropLast
  let segments :=
    if path.head? = some '/' then path.splitOn '/'
    else
      let all := baseParts ++ path.splitOn '/'
      all.take 1 ++ ((all.drop 1).dropLast.filter (· ≠ []) ++ (all.drop 1).getLast?.toList)
  let resolved := segments.foldl resolveSegment []
  let resolved := if segments.getLast? ∈ [some ['.'], some ['.', '.']] then resolved ++ [[]] else resolved
  let joined := ['/'].intercalate resolved
  if joined = [] then ['/'] else joined

/-- `urljoin`; nothing when it raises `ValueError`. -/
def urljoin (nfkc : List Char → List Char) (base url : List Char) : Option (List Char) :=
  if base = [] then some url
  else if url = [] then some base
  else do
    let origin ← urlsplit nfkc base []
    let target ← urlsplit nfkc url origin.scheme
    let (basePath, baseParams) := splitParams origin.scheme origin.path
    let (path, params) := splitParams target.scheme target.path
    if target.scheme ≠ origin.scheme ∨ target.scheme ∉ usesRelative then some url
    else if target.scheme ∈ usesNetloc ∧ target.netloc ≠ [] then
      some (urlunsplit ⟨target.scheme, target.netloc, path ++ optional ';' params, target.query, target.fragment⟩)
    else
      let netloc := if target.scheme ∈ usesNetloc then origin.netloc else target.netloc
      if path = [] ∧ params = [] then
        let query := if target.query = [] then origin.query else target.query
        some (urlunsplit ⟨target.scheme, netloc, basePath ++ optional ';' baseParams, query, target.fragment⟩)
      else
        some (urlunsplit ⟨target.scheme, netloc, resolvePath basePath path ++ optional ';' params, target.query, target.fragment⟩)

end Joining

end Jiejian.Library.Urls
