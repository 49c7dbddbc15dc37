import LayerPress.Json.Basic

/-!
# Documents over several lines

A document is laid out with every item and every field on a line of its own, indented by two
blanks for each level. What holds nothing stays on one line.
-/

namespace LayerPress.Json

/-- The start of a line at some level. -/
def indent (level : Nat) : String :=
  "\n" ++ String.ofList (List.replicate (2 * level) ' ')

mutual

/-- The text of a document whose first line is at some level. -/
def prettyAt (level : Nat) : Json → String
  | .array [] => "[]"
  | .array (item :: items) =>
    "[" ++ indent (level + 1) ++ prettyAt (level + 1) item ++ prettyItems (level + 1) items ++
      indent level ++ "]"
  | .object [] => "\x7b\x7d"
  | .object ((name, value) :: fs) =>
    "\x7b" ++ indent (level + 1) ++ renderString name ++ ": " ++ prettyAt (level + 1) value ++
      prettyFields (level + 1) fs ++ indent level ++ "\x7d"
  | j => render j

/-- Further items of an array, each after a comma. -/
def prettyItems (level : Nat) : List Json → String
  | [] => ""
  | item :: items => "," ++ indent level ++ prettyAt level item ++ prettyItems level items

/-- Further fields of an object, each after a comma. -/
def prettyFields (level : Nat) : List (String × Json) → String
  | [] => ""
  | (name, value) :: fs =>
    "," ++ indent level ++ renderString name ++ ": " ++ prettyAt level value ++
      prettyFields level fs

end

/-- The text of a document over several lines. -/
def pretty (j : Json) : String := prettyAt 0 j

end LayerPress.Json
