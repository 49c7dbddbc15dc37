import LayerPress.Host.Script

/-!
# Expanded words

What a word becomes once its values are known: a list of arguments, one text, or a pattern.
Unquoted values are cut at separators, and each of all the arguments is one of its own; in a
pattern only unquoted characters have a special meaning. Blanks that separate count once however
many they are, and any other separator ends an argument even when that is empty.
-/

namespace LayerPress.Host

/-- A piece whose value is known. -/
inductive Part where
  | text (s : String) (quoted : Bool)
  | value (s : String) (quoted : Bool)
  | every (arguments : List String) (quoted : Bool)
  deriving DecidableEq, Repr

/-- A blank that may separate. -/
def isSpace (c : Char) : Bool := c == ' ' || c == '\t' || c == '\n'

/-- Arguments that are complete, newest first, the one still open, and whether a blank has just
closed one. -/
structure Fields where
  closed : List String := []
  current : Option String := none
  afterBlank : Bool := false

namespace Fields

/-- Adds a text to the open argument. -/
def glue (f : Fields) (s : String) : Fields :=
  { f with current := some (f.current.getD "" ++ s), afterBlank := false }

/-- Closes the open argument. -/
def cut (f : Fields) : Fields :=
  match f.current with
  | some s => ⟨s :: f.closed, none, false⟩
  | none => f

/-- Adds one character of a value, which may be a separator. -/
def take (separators : List Char) (f : Fields) (c : Char) : Fields :=
  if !separators.contains c then f.glue (String.ofList [c])
  else match f.current with
    | some _ => { f.cut with afterBlank := isSpace c }
    | none =>
      if isSpace c then f
      else if f.afterBlank then { f with afterBlank := false }
      else { f with closed := "" :: f.closed }

/-- Adds a value that is cut at its separators. -/
def spread (separators : List Char) (f : Fields) (s : String) : Fields :=
  s.toList.foldl (take separators) f

/-- Adds texts, each in an argument of its own. -/
def separate (f : Fields) (add : Fields → String → Fields) : List String → Fields
  | [] => f
  | [s] => add f s
  | s :: more => separate (add f s).cut add more

/-- The arguments in order. -/
def toList (f : Fields) : List String :=
  f.cut.closed.reverse

end Fields

namespace Part

/-- Adds a part to the arguments. -/
def addTo (separators : List Char) (f : Fields) : Part → Fields
  | text s quoted => if quoted || !s.isEmpty then f.glue s else f
  | value s quoted => if quoted then f.glue s else f.spread separators s
  | every arguments quoted =>
    if quoted then f.separate Fields.glue arguments
    else f.separate (Fields.spread separators) arguments

/-- The arguments a word becomes. -/
def fields (separators : List Char) (parts : List Part) : List String :=
  (parts.foldl (addTo separators) {}).toList

/-- The text of one part. -/
def joined : Part → String
  | text s _ | value s _ => s
  | every arguments _ => " ".intercalate arguments

/-- The text a word becomes where it is not cut. -/
def wholeText (parts : List Part) : String :=
  String.join (parts.map joined)

/-- The part of an operand in the place of the word it belongs to: its texts are cut like
values. -/
def inOperand : Part → Part
  | text s quoted => value s quoted
  | p => p

/-- The characters of a part, each with whether it stands for itself. -/
def patternChars : Part → List (Char × Bool)
  | text s quoted | value s quoted => s.toList.map (·, quoted)
  | every arguments quoted => (" ".intercalate arguments).toList.map (·, quoted)

end Part

/-- A character belongs to a set of characters and ranges. -/
def inSet (c : Char) : List Char → Bool
  | a :: '-' :: b :: rest => (a ≤ c && c ≤ b) || inSet c rest
  | a :: rest => a == c || inSet c rest
  | [] => false

/-- A pattern matches a text: a star stands for any text, a question mark for one character, and
brackets for one of a set. -/
def matchesPattern : List (Char × Bool) → List Char → Bool
  | [], cs => cs.isEmpty
  | ('*', false) :: more, cs =>
    matchesPattern more cs || (match cs with
      | [] => false
      | _ :: rest => matchesPattern (('*', false) :: more) rest)
  | ('?', false) :: more, cs =>
    match cs with
    | [] => false
    | _ :: rest => matchesPattern more rest
  | ('[', false) :: more, cs =>
    let inside := more.takeWhile (·.1 != ']')
    if inside.length = more.length then
      match cs with
      | c :: rest => c == '[' && matchesPattern more rest
      | [] => false
    else
      match cs with
      | [] => false
      | c :: rest =>
        let set := inside.map (·.1)
        let found := match set with
          | '!' :: others => !inSet c others
          | _ => inSet c set
        found && matchesPattern (more.drop (inside.length + 1)) rest
  | (p, _) :: more, cs =>
    match cs with
    | c :: rest => p == c && matchesPattern more rest
    | [] => false
termination_by pattern cs => pattern.length + cs.length
decreasing_by all_goals simp_all <;> omega

/-- The lengths up to one, from the shortest or the longest on. -/
def lengths (longest : Bool) (n : Nat) : List Nat :=
  if longest then (List.range (n + 1)).reverse else List.range (n + 1)

/-- A text without the piece at its front that a pattern matches. -/
def trimFront (longest : Bool) (pattern : List (Char × Bool)) (cs : List Char) : List Char :=
  match (lengths longest cs.length).find? fun n => matchesPattern pattern (cs.take n) with
  | some n => cs.drop n
  | none => cs

/-- A text without the piece at its end that a pattern matches. -/
def trimBack (longest : Bool) (pattern : List (Char × Bool)) (cs : List Char) : List Char :=
  match (lengths longest cs.length).find? fun n =>
      matchesPattern pattern (cs.drop (cs.length - n)) with
  | some n => cs.take (cs.length - n)
  | none => cs

end LayerPress.Host
