/-!
# Scripts

The commands a shell carries out. A word is made of pieces; a quoted piece is taken as it is,
while what an unquoted one stands for is cut into words at its blanks.
-/

namespace LayerPress.Host

/-- What is made of a variable's value. The first four look at whether the variable is set, or is
set and not empty; the last two take a piece off the value that a pattern matches. -/
inductive Change where
  | fallback (emptyToo : Bool)
  | provide (emptyToo : Bool)
  | require (emptyToo : Bool)
  | replace (emptyToo : Bool)
  | trimFront (longest : Bool)
  | trimBack (longest : Bool)
  deriving DecidableEq, Repr

/-- A piece of a word: a text, a variable's value, that value changed by means of an operand, its
length, what a script writes, the value of a sum, or something that has no meaning. -/
inductive Piece where
  | text (s : String) (quoted : Bool)
  | variable (name : String) (quoted : Bool)
  | changed (name : String) (change : Change) (operand : String) (quoted : Bool)
  | length (name : String) (quoted : Bool)
  | output (script : String) (quoted : Bool)
  | sum (expression : String) (quoted : Bool)
  | meaningless
  deriving DecidableEq, Repr

/-- A word of a command. -/
abbrev Word := List Piece

/-- Where a stream of a command leads. -/
inductive Redirection where
  | write (stream : Nat) (appending : Bool) (target : Word)
  | read (source : Word)
  | inset (lines : Word)
  | copy (stream : Nat) (of : Word)
  deriving DecidableEq, Repr

namespace Redirection

/-- The word of a redirection. -/
def word : Redirection → Word
  | write _ _ w | read w | inset w | copy _ w => w

/-- The redirection leads the input somewhere. -/
def isInput : Redirection → Bool
  | read _ | inset _ => true
  | write .. | copy .. => false

end Redirection

/-- A script. A list of case arms is a chain that ends in a skip. -/
inductive Script where
  | skip
  | simple (line : Nat) (assignments : List (String × Word)) (words : List Word)
      (redirections : List Redirection)
  | inOrder (first second : Script)
  | both (first second : Script)
  | either (first second : Script)
  | not (s : Script)
  | pipe (first second : Script)
  | subshell (s : Script)
  | background (s : Script)
  | redirected (line : Nat) (s : Script) (redirections : List Redirection)
  | choice (test yes no : Script)
  | loop (until_ : Bool) (test body : Script)
  | each (name : String) (values : List Word) (body : Script)
  | case (subject : Word) (patterns : List Word) (body otherwise : Script)
  | define (name : String) (body : Script)
  deriving Repr

/-- The redirections of a whole command. -/
def Script.redirections : Script → List Redirection
  | simple _ _ _ rs | redirected _ _ rs => rs
  | _ => []

end LayerPress.Host
