import LayerPress.Host.Script

/-!
# Tokens of scripts

A script is cut into words and signs. Quotes and backslashes keep characters from being signs or
blanks; a dollar sign or a pair of backquotes puts a value or a script's output into a word. The
lines that a redirection asks for follow the line it stands in. Where the text cannot be cut any
further the tokens end in a fault, and otherwise in a finish.
-/

namespace LayerPress.Host

/-- Why a script cannot be read. -/
inductive ScriptFault where
  | unterminatedQuote
  | unterminatedBackquote
  | missing (closer : String)
  | unexpected (what : String) (expecting : Option String)
  | badLoopVariable
  | badFunctionName
  deriving DecidableEq, Repr

/-- The wording of a fault. -/
def ScriptFault.message : ScriptFault → String
  | unterminatedQuote => "Syntax error: Unterminated quoted string"
  | unterminatedBackquote => "Syntax error: EOF in backquote substitution"
  | missing closer => "Syntax error: Missing '" ++ closer ++ "'"
  | unexpected what none => "Syntax error: " ++ what ++ " unexpected"
  | unexpected what (some e) => "Syntax error: " ++ what ++ " unexpected (expecting " ++ e ++ ")"
  | badLoopVariable => "Syntax error: Bad for loop variable"
  | badFunctionName => "Syntax error: Bad function name"

/-- A token: a word, a sign, the number of a stream before a redirection, lines that were asked
for, or the end. -/
inductive Token where
  | word (w : Word)
  | sign (s : String)
  | stream (n : Nat)
  | lines (w : Word)
  | fault (f : ScriptFault)
  | finish
  deriving DecidableEq, Repr

/-- Tokens with the lines they stand in. -/
abbrev Tokens := List (Nat × Token)

namespace Token

/-- The backquote. -/
def backquote : Char := '\x60'

/-- A blank between words of a line. -/
def isBlank (c : Char) : Bool := c == ' ' || c == '\t'

/-- A character that ends an unquoted word. -/
def isMeta (c : Char) : Bool :=
  isBlank c || c == '\n' || "|&;<>()".contains c

/-- A character a name may start with. -/
def startsName (c : Char) : Bool := c.isAlpha || c == '_'

/-- A character of a name. -/
def inName (c : Char) : Bool := c.isAlphanum || c == '_'

/-- The characters spell a name. -/
def isName : List Char → Bool
  | c :: more => startsName c && more.all inName
  | [] => false

/-- A variable of one character that is no letter. -/
def isSpecial (c : Char) : Bool := c.isDigit || "@*#?$!-".contains c

/-- The text up to the bracket that closes one already open, quotes respected. -/
def closing (opener closer : Char) (depth : Nat) (quote : Option Char) :
    List Char → Option (List Char × List Char)
  | [] => none
  | '\\' :: c :: rest =>
    if quote == some '\'' then
      (closing opener closer depth (if c == '\'' then none else quote) rest).map
        fun (a, b) => ('\\' :: c :: a, b)
    else (closing opener closer depth quote rest).map fun (a, b) => ('\\' :: c :: a, b)
  | c :: rest =>
    match quote with
    | some q =>
      (closing opener closer depth (if c == q then none else quote) rest).map
        fun (a, b) => (c :: a, b)
    | none =>
      if c == closer && depth == 0 then some ([], rest)
      else
        let depth := if c == opener then depth + 1 else if c == closer then depth - 1 else depth
        let quote := if c == '\'' || c == '"' then some c else none
        (closing opener closer depth quote rest).map fun (a, b) => (c :: a, b)

/-- The script between backquotes, with the backslashes before its own ones removed. -/
def backquoted : List Char → Option (List Char × List Char)
  | [] => none
  | '\\' :: c :: rest =>
    (backquoted rest).map fun (a, b) =>
      (if c == backquote || c == '\\' || c == '$' then c :: a else '\\' :: c :: a, b)
  | c :: rest =>
    if c == backquote then some ([], rest)
    else (backquoted rest).map fun (a, b) => (c :: a, b)

/-- The variable's name at the front of what stands in braces. -/
def nameAt : List Char → List Char
  | [] => []
  | c :: rest =>
    if startsName c then c :: rest.takeWhile inName
    else if c.isDigit then c :: rest.takeWhile (·.isDigit)
    else if isSpecial c then [c]
    else []

/-- The change that a sign after a variable's name asks for, and its operand. -/
def change? : List Char → Option (Change × List Char)
  | ':' :: '-' :: rest => some (.fallback true, rest)
  | ':' :: '=' :: rest => some (.provide true, rest)
  | ':' :: '?' :: rest => some (.require true, rest)
  | ':' :: '+' :: rest => some (.replace true, rest)
  | '-' :: rest => some (.fallback false, rest)
  | '=' :: rest => some (.provide false, rest)
  | '?' :: rest => some (.require false, rest)
  | '+' :: rest => some (.replace false, rest)
  | '%' :: '%' :: rest => some (.trimBack true, rest)
  | '%' :: rest => some (.trimBack false, rest)
  | '#' :: '#' :: rest => some (.trimFront true, rest)
  | '#' :: rest => some (.trimFront false, rest)
  | _ => none

/-- What stands in braces after a dollar sign. -/
def braced (quoted : Bool) (inside : List Char) : Piece :=
  let name := nameAt inside
  let after := inside.drop name.length
  if name.isEmpty then .meaningless
  else if after.isEmpty then .variable (String.ofList name) quoted
  else if name = ['#'] && nameAt after = after then .length (String.ofList after) quoted
  else match change? after with
    | some (change, operand) =>
      .changed (String.ofList name) change (String.ofList operand) quoted
    | none => .meaningless

/-- What a dollar sign stands for. -/
def dollar (quoted : Bool) : List Char → Except ScriptFault (Piece × List Char)
  | '(' :: rest =>
    match closing '(' ')' 0 none rest with
    | some (inside, after) =>
      match inside, inside.getLast? with
      | '(' :: sum, some ')' => .ok (.sum (String.ofList sum.dropLast) quoted, after)
      | _, _ => .ok (.output (String.ofList inside) quoted, after)
    | none =>
      .error (if rest.head? = some '(' then .missing "))"
        else .unexpected "end of file" (some "\")\""))
  | '\x7b' :: rest =>
    match closing '\x7b' '\x7d' 0 none rest with
    | some (inside, after) => .ok (braced quoted inside, after)
    | none => .error (if quoted then .unterminatedQuote else .missing "\x7d")
  | c :: rest =>
    if isSpecial c then .ok (.variable (String.ofList [c]) quoted, rest)
    else if startsName c then
      let more := rest.takeWhile inName
      .ok (.variable (String.ofList (c :: more)) quoted, rest.drop more.length)
    else .ok (.text "$" quoted, c :: rest)
  | [] => .ok (.text "$" quoted, [])

/-- A character in front of the pieces of a word. -/
def addChar (c : Char) (quoted : Bool) : List Piece → List Piece
  | .text s q :: more =>
    if q == quoted then .text (String.ofList [c] ++ s) q :: more
    else .text (String.ofList [c]) quoted :: .text s q :: more
  | pieces => .text (String.ofList [c]) quoted :: pieces

/-- Quoted pieces up to a closing double quote, or up to the end where none is needed. The number
bounds the characters. -/
def inQuotes (closed : Bool) : Nat → List Char → Except ScriptFault (List Piece × List Char)
  | 0, _ | _, [] => if closed then .error .unterminatedQuote else .ok ([], [])
  | fuel + 1, c :: rest => do
    if c == '"' && closed then return ([], rest)
    else if c == '$' then
      let (piece, after) ← dollar true rest
      let (pieces, after) ← inQuotes closed fuel after
      return (piece :: pieces, after)
    else if c == backquote then
      match backquoted rest with
      | none => throw .unterminatedBackquote
      | some (inside, after) =>
        let (pieces, after) ← inQuotes closed fuel after
        return (.output (String.ofList inside) true :: pieces, after)
    else match c, rest with
      | '\\', '\n' :: after => inQuotes closed fuel after
      | '\\', d :: after =>
        let (pieces, left) ← inQuotes closed fuel after
        if d == '$' || d == backquote || d == '\\' || (d == '"' && closed) then
          return (addChar d true pieces, left)
        else return (addChar '\\' true (addChar d true pieces), left)
      | _, _ =>
        let (pieces, left) ← inQuotes closed fuel rest
        return (addChar c true pieces, left)

/-- The pieces of a word at the front, up to a character that ends it. The number bounds the
characters. -/
def piecesAt (ends : Char → Bool) :
    Nat → List Char → Except ScriptFault (List Piece × List Char)
  | 0, cs => .ok ([], cs)
  | _, [] => .ok ([], [])
  | fuel + 1, c :: rest => do
    if ends c then return ([], c :: rest)
    else if c == '$' then
      let (piece, after) ← dollar false rest
      let (pieces, after) ← piecesAt ends fuel after
      return (piece :: pieces, after)
    else if c == backquote then
      match backquoted rest with
      | none => throw .unterminatedBackquote
      | some (inside, after) =>
        let (pieces, after) ← piecesAt ends fuel after
        return (.output (String.ofList inside) false :: pieces, after)
    else if c == '"' then
      let (inside, after) ← inQuotes true (rest.length + 1) rest
      let (pieces, after) ← piecesAt ends fuel after
      return ((if inside.isEmpty then [.text "" true] else inside) ++ pieces, after)
    else if c == '\'' then
      let inside := rest.takeWhile (· != '\'')
      match rest.drop inside.length with
      | [] => throw .unterminatedQuote
      | _ :: after =>
        let (pieces, after) ← piecesAt ends fuel after
        return (.text (String.ofList inside) true :: pieces, after)
    else match c, rest with
      | '\\', '\n' :: after => piecesAt ends fuel after
      | '\\', d :: after =>
        let (pieces, left) ← piecesAt ends fuel after
        return (addChar d true pieces, left)
      | _, _ =>
        let (pieces, left) ← piecesAt ends fuel rest
        return (addChar c false pieces, left)

/-- The pieces of a text that stands in double quotes as a whole. -/
def quotedPieces (s : String) : Word :=
  match inQuotes false (s.length + 1) s.toList with
  | .ok (pieces, _) => pieces
  | .error _ => [.meaningless]

/-- A text without the double quotes that no backslash stands before. -/
def withoutQuotes : List Char → List Char
  | '\\' :: c :: rest => '\\' :: c :: withoutQuotes rest
  | c :: rest => if c == '"' then withoutQuotes rest else c :: withoutQuotes rest
  | [] => []

/-- The pieces of an operand, in which blanks and signs are characters like others. -/
def operandPieces (quoted : Bool) (s : String) : Word :=
  if quoted then quotedPieces (String.ofList (withoutQuotes s.toList))
  else match piecesAt (fun _ => false) (s.length + 1) s.toList with
    | .ok (pieces, _) => pieces
    | .error _ => [.meaningless]

/-- The signs, longer ones first. -/
def signs : List String :=
  ["&&", "||", ";;", "<<-", "<<", ">>", ">&", "<&", ">|", "&", "|", ";", ">", "<", "(", ")"]

/-- The sign at the front. -/
def sign? (cs : List Char) : Option (String × List Char) :=
  signs.findSome? fun s =>
    if s.toList.isPrefixOf cs then some (s, cs.drop s.length) else none

/-- Lines that a redirection asks for: the line after the last one, whether they are taken as
they are, and whether tabs in front of them are dropped. -/
structure Request where
  mark : String
  literal : Bool
  stripped : Bool
  deriving DecidableEq, Repr

namespace Request

/-- The request of a word after the sign. -/
def ofWord (stripped : Bool) (w : Word) : Request where
  mark := String.join (w.map fun
    | .text s _ => s
    | _ => "")
  literal := w.any fun
    | .text _ quoted => quoted
    | _ => false
  stripped := stripped

/-- The lines of a request, those after its mark, and how many lines both take. The number bounds
the lines. -/
def take (r : Request) : Nat → List Char → List Char × List Char × Nat
  | 0, cs => ([], cs, 0)
  | _, [] => ([], [], 0)
  | fuel + 1, cs =>
    let whole := cs.takeWhile (· != '\n')
    let ended := cs.length != whole.length
    let line := if r.stripped then whole.dropWhile (· == '\t') else whole
    let rest := cs.drop (whole.length + 1)
    if line = r.mark.toList then ([], rest, 1)
    else
      let (more, left, n) := r.take fuel rest
      (line ++ (if ended then ['\n'] else []) ++ more, left, n + 1)

/-- The lines as a word. -/
def word (r : Request) (taken : List Char) : Word :=
  if r.literal then [.text (String.ofList taken) true] else quotedPieces (String.ofList taken)

end Request

/-- The lines that follow a line, one token for each request. -/
def linesFor : List Request → Nat → List Char → Tokens × Nat × List Char
  | [], line, cs => ([], line, cs)
  | r :: more, line, cs =>
    let (taken, rest, n) := r.take (cs.length + 1) cs
    let (ts, after, left) := linesFor more (line + n) rest
    ((line, .lines (r.word taken)) :: ts, after, left)

/-- The tokens of a script from a line on, with requests still open. The number bounds the
characters. -/
def scan : Nat → Nat → List Request → List Char → Tokens
  | 0, line, _, _ => [(line, .finish)]
  | _, line, open_, [] => (linesFor open_ line []).1 ++ [(line, .finish)]
  | fuel + 1, line, open_, c :: rest =>
    if isBlank c then scan fuel line open_ rest
    else if c == '\n' then
      let (ts, after, left) := linesFor open_ (line + 1) rest
      (line, .sign "\n") :: ts ++ scan fuel after [] left
    else if c == '#' then scan fuel line open_ (rest.dropWhile (· != '\n'))
    else if c == '\\' && rest.head? == some '\n' then scan fuel (line + 1) open_ (rest.drop 1)
    else match sign? (c :: rest) with
      | some (s, after) =>
        if s = "<<" || s = "<<-" then
          let start := after.dropWhile isBlank
          match piecesAt isMeta (start.length + 1) start with
          | .error f => [(line, .sign "<<"), (line + start.count '\n', .fault f)]
          | .ok ([], _) => (line, .sign "<<") :: scan fuel line open_ start
          | .ok (w, left) =>
            (line, .sign "<<") :: (line, .word w) ::
              scan fuel line (open_ ++ [Request.ofWord (s = "<<-") w]) left
        else (line, .sign s) :: scan fuel line open_ after
      | none =>
        let digits := (c :: rest).takeWhile (·.isDigit)
        let after := (c :: rest).drop digits.length
        if !digits.isEmpty && (after.head? == some '<' || after.head? == some '>') then
          let n := digits.foldl (fun n d => n * 10 + (d.toNat - '0'.toNat)) 0
          (line, .stream n) :: scan fuel line open_ after
        else match piecesAt isMeta ((c :: rest).length + 1) (c :: rest) with
          | .error f => [(line + rest.count '\n', .fault f)]
          | .ok (pieces, after) =>
            let used := (c :: rest).take ((c :: rest).length - after.length)
            (line, .word pieces) :: scan fuel (line + used.count '\n') open_ after

/-- Tokens in which each request's word is replaced by its lines. -/
def attach : List Word → Tokens → Tokens
  | w :: more, (l, .sign "<<") :: (m, .word _) :: rest =>
    (l, .sign "<<") :: (m, .word w) :: attach more rest
  | ws, (_, .lines _) :: rest => attach ws rest
  | ws, t :: rest => t :: attach ws rest
  | _, [] => []

/-- The tokens of a script that starts in a line. -/
def ofText (line : Nat) (script : String) : Tokens :=
  let ts := scan (script.length + 1) line [] script.toList
  attach (ts.filterMap fun
    | (_, .lines w) => some w
    | _ => none) ts

end Token

end LayerPress.Host
