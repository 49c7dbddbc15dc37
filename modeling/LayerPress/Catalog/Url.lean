import LayerPress.Text.Percent
import LayerPress.Text.Split

/-!
# Addresses on the web

How an address is read before it is requested, as the URL standard has it for the schemes http
and https: blanks around it and line breaks in it are dropped, a backslash separates like a
slash, dot segments are resolved, a question mark ends the path and a number sign the query, and
characters that cannot stand in a path or query are percent-encoded.
-/

namespace LayerPress

/-- An address as it is requested; segments and query are in their encoded form. -/
structure Url where
  secure : Bool
  authority : List Char
  segments : List (List Char)
  query : Option (List Char)
  deriving DecidableEq, Repr, Inhabited

namespace Url

/-- A control character or a space. -/
def isControlOrSpace (c : Char) : Bool :=
  c.toNat ≤ 0x20

/-- The address without blanks around it and without tabs and line breaks. -/
def clean (cs : List Char) : List Char :=
  let inner := ((cs.dropWhile isControlOrSpace).reverse.dropWhile isControlOrSpace).reverse
  inner.filter fun c => !(c == '\t' || c == '\n' || c == '\r')

/-- Characters outside printable ASCII. -/
def isOutside (c : Char) : Bool :=
  c.toNat < 0x20 || 0x7e < c.toNat

/-- Characters that are encoded in a path. -/
def encodedInPath (c : Char) : Bool :=
  isOutside c || [' ', '"', '#', '<', '>', '?', Char.ofNat 0x60, '\x7b', '\x7d'].contains c

/-- Characters that are encoded in a query. -/
def encodedInQuery (c : Char) : Bool :=
  isOutside c || [' ', '"', '#', '<', '>', Char.ofNat 0x27].contains c

/-- A text with some of its characters percent-encoded. -/
def encodeIf (p : Char → Bool) (cs : List Char) : List Char :=
  cs.flatMap fun c =>
    if p c then (Text.Utf8.encode c.toString).flatMap Text.Percent.encodeByte else [c]

/-- A separator between path segments. -/
def isSeparator (c : Char) : Bool :=
  c == '/' || c == '\\'

/-- The pieces between separators, always at least one. -/
def splitPath : List Char → List (List Char)
  | [] => [[]]
  | c :: rest =>
    if isSeparator c then [] :: splitPath rest
    else match splitPath rest with
      | piece :: more => (c :: piece) :: more
      | [] => [[c]]

/-- A segment with encoded dots written as dots. -/
def plainDots : List Char → List Char
  | '%' :: '2' :: 'e' :: rest => '.' :: plainDots rest
  | '%' :: '2' :: 'E' :: rest => '.' :: plainDots rest
  | c :: rest => c :: plainDots rest
  | [] => []

/-- A segment that stays in its folder. -/
def isSingleDot (segment : List Char) : Bool :=
  plainDots segment == ['.']

/-- A segment that goes one folder up. -/
def isDoubleDot (segment : List Char) : Bool :=
  plainDots segment == ['.', '.']

/-- The segments with dot segments resolved, on top of those passed; a dot segment at the end
leaves an empty one. -/
def resolveDots (passed : List (List Char)) : List (List Char) → List (List Char)
  | [] => passed
  | segment :: rest =>
    if isDoubleDot segment then
      resolveDots (passed.dropLast ++ if rest.isEmpty then [[]] else []) rest
    else if isSingleDot segment then
      resolveDots (passed ++ if rest.isEmpty then [[]] else []) rest
    else resolveDots (passed ++ [encodeIf encodedInPath segment]) rest

/-- The segments of a path, which starts with a separator or is empty. -/
def readPath (cs : List Char) : List (List Char) :=
  match cs with
  | [] => [[]]
  | _ :: rest => resolveDots [] (splitPath rest)

/-- A text after a scheme, either case, and its colon. -/
def afterScheme? (scheme cs : List Char) : Option (List Char) :=
  let small (c : Char) : Char := if 'A' ≤ c ∧ c ≤ 'Z' then Char.ofNat (c.toNat + 32) else c
  if (cs.take scheme.length).map small = scheme then
    match cs.drop scheme.length with
    | ':' :: rest => some rest
    | _ => none
  else none

/-- Characters that cannot stand in the name of a host. -/
def isForbiddenInHost (c : Char) : Bool :=
  isControlOrSpace c ||
    ['#', '/', '<', '>', '?', '@', '\\', '^', '|', '%', '\x7f'].contains c

/-- Login, host and port are well formed: the host is not empty, and the port is a number of
sixteen bits or empty. -/
def isAuthority (cs : List Char) : Bool :=
  let place := match Text.splitLast '@' cs with
    | some (_, place) => place
    | none => cs
  let (host, port) := match Text.splitLast ':' place with
    | some (host, port) => if port.contains ']' then (place, []) else (host, port)
    | none => (place, [])
  !host.isEmpty && !host.any isForbiddenInHost && port.all Json.isDigit &&
    Json.digitsValue port < UInt16.size

/-- Reads an address of one of the two schemes. -/
def parse? (s : String) : Option Url := do
  let cs := clean s.toList
  let (secure, rest) ← match afterScheme? "http".toList cs with
    | some rest => some (false, rest)
    | none => (afterScheme? "https".toList cs).map (true, ·)
  let rest := (rest.dropWhile isSeparator).takeWhile (· != '#')
  let place := rest.takeWhile fun c => !isSeparator c && c != '?'
  let after := rest.dropWhile fun c => !isSeparator c && c != '?'
  if !isAuthority place then none
  let path := after.takeWhile (· != '?')
  let query := match after.dropWhile (· != '?') with
    | [] => none
    | _ :: q => some (encodeIf encodedInQuery q)
  return ⟨secure, place, readPath path, query⟩

/-- The path and query as they are sent. -/
def target (u : Url) : String :=
  let path := u.segments.flatMap fun segment => '/' :: segment
  String.ofList (path ++ match u.query with
    | some q => '?' :: q
    | none => [])

end Url

end LayerPress
