import LayerPress.Number.Double

/-!
# JSON documents

A document is a tree of the six JSON kinds, whole numbers and doubles apart. The fields of an
object keep the order in which they were written. A double without a number text is written as
null.
-/

namespace LayerPress

/-- A JSON document. -/
inductive Json where
  | null
  | bool (value : Bool)
  | integer (value : Int)
  | double (value : Double)
  | string (value : String)
  | array (items : List Json)
  | object (fields : List (String × Json))
  deriving Repr, Inhabited

namespace Json

mutual

/-- Two documents are the same. -/
def same : Json → Json → Bool
  | .null, .null => true
  | .bool a, .bool b => a == b
  | .integer a, .integer b => a == b
  | .double a, .double b => a == b
  | .string a, .string b => a == b
  | .array as, .array bs => sameItems as bs
  | .object as, .object bs => sameFields as bs
  | _, _ => false

/-- The items of two arrays are the same. -/
def sameItems : List Json → List Json → Bool
  | [], [] => true
  | a :: as, b :: bs => same a b && sameItems as bs
  | _, _ => false

/-- The fields of two objects are the same. -/
def sameFields : List (String × Json) → List (String × Json) → Bool
  | [], [] => true
  | (n, a) :: as, (m, b) :: bs => n == m && same a b && sameFields as bs
  | _, _ => false

end

mutual

/-- Documents that are the same are equal. -/
theorem same_iff (a b : Json) : same a b = true ↔ a = b := by
  cases a with
  | array as =>
    cases b with
    | array bs => simp [same, sameItems_iff as bs]
    | _ => simp [same]
  | object as =>
    cases b with
    | object bs => simp [same, sameFields_iff as bs]
    | _ => simp [same]
  | _ => cases b <;> simp [same]

/-- Items that are the same are equal. -/
theorem sameItems_iff (as bs : List Json) : sameItems as bs = true ↔ as = bs := by
  cases as with
  | nil => cases bs <;> simp [sameItems]
  | cons a as =>
    cases bs with
    | nil => simp [sameItems]
    | cons b bs => simp [sameItems, same_iff a b, sameItems_iff as bs]

/-- Fields that are the same are equal. -/
theorem sameFields_iff (as bs : List (String × Json)) : sameFields as bs = true ↔ as = bs := by
  cases as with
  | nil => cases bs <;> simp [sameFields]
  | cons field as =>
    obtain ⟨n, a⟩ := field
    cases bs with
    | nil => simp [sameFields]
    | cons field bs =>
      obtain ⟨m, b⟩ := field
      simp [sameFields, same_iff a b, sameFields_iff as bs, and_assoc]

end

instance decidableEq : DecidableEq Json := fun a b =>
  decidable_of_iff (same a b = true) (same_iff a b)

/-- A text, or null. -/
def ofText? : Option String → Json
  | some s => .string s
  | none => .null

/-- The document of the value, or null. -/
def ofOption {α : Type} (document : α → Json) : Option α → Json
  | some a => document a
  | none => .null

/-- The fields of an object; other documents have none. -/
def fields : Json → List (String × Json)
  | .object fs => fs
  | _ => []

/-- The field of a name, the last one when several have it. -/
def field? (j : Json) (name : String) : Option Json :=
  (j.fields.reverse.find? (·.1 == name)).map (·.2)

/-- A digit of a hexadecimal escape. -/
def hexDigit (n : Nat) : Char :=
  (Nat.toDigits 16 (n % 16)).headD '0'

/-- A character inside a string. -/
def escape (c : Char) : List Char :=
  if c == '"' then ['\\', '"']
  else if c == '\\' then ['\\', '\\']
  else if c.toNat < 0x20 then
    ['\\', 'u', '0', '0', hexDigit (c.toNat / 16), hexDigit c.toNat]
  else [c]

/-- A string with its quotes. -/
def renderString (s : String) : String :=
  String.ofList ('"' :: (s.toList.flatMap escape ++ ['"']))

mutual

/-- The text of a document. -/
def render : Json → String
  | .null => "null"
  | .bool true => "true"
  | .bool false => "false"
  | .integer n => toString n
  | .double d => d.text?.getD "null"
  | .string s => renderString s
  | .array items => "[" ++ renderItems items ++ "]"
  | .object fs => "\x7b" ++ renderFields fs ++ "\x7d"

/-- The items of an array, separated by commas. -/
def renderItems : List Json → String
  | [] => ""
  | [item] => render item
  | item :: rest => render item ++ "," ++ renderItems rest

/-- The fields of an object, separated by commas. -/
def renderFields : List (String × Json) → String
  | [] => ""
  | [(name, value)] => renderString name ++ ":" ++ render value
  | (name, value) :: rest =>
    renderString name ++ ":" ++ render value ++ "," ++ renderFields rest

end

end Json

end LayerPress
