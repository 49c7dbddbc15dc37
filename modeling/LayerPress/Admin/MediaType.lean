import LayerPress.Admin.Message
import LayerPress.Text.Split

/-!
# Media types

The value of a content type: a type, a slash, a subtype with an optional suffix after its last
plus sign, and parameters. Bodies are read as JSON when the type is application and the subtype
or the suffix is json, in any case.
-/

namespace LayerPress.Admin.MediaType

/-- The characters of a token. -/
def isToken (c : Char) : Bool :=
  ('a' ≤ c && c ≤ 'z') || ('A' ≤ c && c ≤ 'Z') || ('0' ≤ c && c ≤ '9') ||
    ['!', '#', '$', '%', '&', Char.ofNat 39, '*', '+', '-', '.', '^', '_', Char.ofNat 96, '|',
      '~'].contains c

/-- The characters inside a quoted value. -/
def isQuotable (c : Char) : Bool :=
  (0x20 ≤ c.toNat && c.toNat ≤ 0x7e && c != '"') || c == '\t'

/-- What follows a quoted value: blanks, and a semicolon before further parameters. -/
def afterQuoted : List Char → Option (List Char)
  | [] => some []
  | ';' :: rest => some rest
  | ' ' :: rest => afterQuoted rest
  | _ :: _ => none

/-- A parameter value, with the text of the further parameters. -/
def parameterValue? : List Char → Option (List Char)
  | '"' :: rest =>
    match rest.takeWhile isQuotable, rest.dropWhile isQuotable with
    | _ :: _, '"' :: rest => afterQuoted rest
    | _, _ => none
  | cs =>
    match cs.takeWhile isToken, cs.dropWhile isToken with
    | _, [] => some []
    | _ :: _, ';' :: rest => some rest
    | _, _ => none

/-- The parameters after a semicolon are well formed. The first argument bounds their number,
which is less than the length of the text. -/
def areParameters : Nat → List Char → Bool
  | 0, cs => cs.isEmpty
  | fuel + 1, cs =>
    match cs with
    | [] => true
    | ' ' :: rest => areParameters fuel rest
    | _ =>
      match cs.takeWhile isToken, cs.dropWhile isToken with
      | _ :: _, '=' :: rest =>
        match parameterValue? rest with
        | some rest => areParameters fuel rest
        | none => false
      | _, _ => false

/-- A type, a subtype and what follows the subtype. -/
def split? (cs : List Char) : Option (List Char × List Char × List Char) :=
  match cs.takeWhile isToken, cs.dropWhile isToken with
  | type@(_ :: _), '/' :: rest => some (type, rest.takeWhile isToken, rest.dropWhile isToken)
  | _, _ => none

/-- A subtype is json, or has json as its name or its suffix. -/
def isJsonSubtype (subtype : String) : Bool :=
  match Text.splitLast '+' subtype.toList with
  | some (name, suffix) =>
    if name.isEmpty then subtype == "json"
    else name == "json".toList || suffix == "json".toList
  | none => subtype == "json"

/-- A content type of JSON. -/
def isJson (value : String) : Bool :=
  match split? value.toList with
  | none => false
  | some (type, subtype, rest) =>
    let wellFormed := match rest with
      | [] => true
      | ';' :: parameters => !subtype.isEmpty && areParameters (parameters.length + 1) parameters
      | _ => false
    wellFormed && lowerAscii (String.ofList type) == "application" &&
      isJsonSubtype (lowerAscii (String.ofList subtype))

end LayerPress.Admin.MediaType
