import LayerPress.Host.Token

/-!
# Reading scripts

Commands are joined by pipes first, then by "and" and "or", then one after another. A word that
starts a command may be reserved, and then opens or closes a compound command. A script is read
line by line, so that a fault in a later line does not keep the lines before it from being
carried out.
-/

namespace LayerPress.Host

namespace Word

/-- The text of a word without quotes or values in it. -/
def bare? : Word → Option String
  | [.text s false] => some s
  | _ => none

/-- The assignment a word spells: a name, an equals sign and the rest. -/
def assignment? : Word → Option (String × Word)
  | .text s false :: rest =>
    let name := s.toList.takeWhile Token.inName
    match s.toList.drop name.length, name with
    | '=' :: value, first :: _ =>
      if Token.startsName first then
        some (String.ofList name,
          if value.isEmpty then rest else .text (String.ofList value) false :: rest)
      else none
    | _, _ => none
  | _ => none

end Word

/-- A fault and the line it stands in. -/
structure Misread where
  line : Nat
  fault : ScriptFault
  deriving DecidableEq, Repr

namespace Script

/-- The words that may not start a command. -/
def closers : List String :=
  ["then", "else", "elif", "fi", "do", "done", "esac", "\x7d"]

/-- A reader of tokens. -/
abbrev Reader (α : Type) := Tokens → Except Misread (α × Tokens)

/-- The reserved word at the front. -/
def reserved? : Tokens → Option String
  | (_, .word w) :: _ => Word.bare? w
  | _ => none

/-- The signs of redirections. -/
def redirectionSigns : List String := [">", ">|", ">>", ">&", "<", "<&", "<<"]

/-- The complaint about the token at the front, where another may be wanted. -/
def misread (ts : Tokens) (wanted : Option String) : Misread :=
  let wanted := wanted.map fun w => "\"" ++ w ++ "\""
  match ts with
  | [] => ⟨0, .unexpected "end of file" wanted⟩
  | (l, .finish) :: _ => ⟨l, .unexpected "end of file" wanted⟩
  | (l, .fault f) :: _ => ⟨l, f⟩
  | (l, .sign s) :: _ =>
    if s = "\n" then ⟨l + 1, .unexpected "newline" wanted⟩
    else if redirectionSigns.contains s then ⟨l, .unexpected "redirection" wanted⟩
    else ⟨l, .unexpected ("\"" ++ s ++ "\"") wanted⟩
  | (l, .stream _) :: _ | (l, .lines _) :: _ => ⟨l, .unexpected "redirection" wanted⟩
  | (l, .word w) :: _ =>
    match Word.bare? w with
    | some s =>
      ⟨l, .unexpected (if closers.contains s then "\"" ++ s ++ "\"" else "word") wanted⟩
    | none => ⟨l, .unexpected "word" wanted⟩

/-- The tokens after line ends. -/
def skipLines : Tokens → Tokens
  | (_, .sign "\n") :: rest => skipLines rest
  | ts => ts

/-- Takes a reserved word. -/
def expect (name : String) : Reader Unit := fun ts =>
  if reserved? ts = some name then .ok ((), ts.drop 1) else .error (misread ts (some name))

/-- Takes a sign. -/
def expectSign (s : String) : Reader Unit
  | (l, .sign t) :: rest =>
    if s = t then .ok ((), rest) else .error (misread ((l, .sign t) :: rest) (some s))
  | ts => .error (misread ts (some s))

/-- A list of commands ends here. -/
def atEnd (ts : Tokens) : Bool :=
  match ts with
  | [] | (_, .finish) :: _ => true
  | (_, .sign s) :: _ => s == ")" || s == ";;"
  | _ => (reserved? ts).any closers.contains

/-- The stream a sign redirects unless another is named. -/
def defaultStream (s : String) : Nat :=
  if s.startsWith "<" then 0 else 1

/-- The redirection of a sign to a word. -/
def redirection? (n : Nat) (s : String) (w : Word) : Option Redirection :=
  if s == ">" || s == ">|" then some (.write n false w)
  else if s == ">>" then some (.write n true w)
  else if s == ">&" || s == "<&" then some (.copy n w)
  else if s == "<<" then some (.inset w)
  else if s == "<" then some (.read w)
  else none

/-- The redirection at the front, if there is one. -/
def takeRedirection (ts : Tokens) : Except Misread (Option (Redirection × Tokens)) :=
  let (stream, rest) := match ts with
    | (_, .stream n) :: rest => (some n, rest)
    | _ => (none, ts)
  match rest with
  | (_, .sign s) :: (l, t) :: rest =>
    if redirectionSigns.contains s then
      match t with
      | .word w => .ok ((redirection? (stream.getD (defaultStream s)) s w).map (·, rest))
      | _ => .error (misread ((l, t) :: rest) none)
    else .ok none
  | _ => .ok none

/-- The redirections after a compound command. The number bounds the tokens. -/
def takeRedirections : Nat → Reader (List Redirection)
  | 0, ts => .ok ([], ts)
  | fuel + 1, ts => do
    match ← takeRedirection ts with
    | none => return ([], ts)
    | some (r, rest) =>
      let (more, rest) ← takeRedirections fuel rest
      return (r :: more, rest)

/-- What a simple command is made of. -/
structure Parts where
  assignments : List (String × Word) := []
  words : List Word := []
  redirections : List Redirection := []

/-- The parts of a simple command. The number bounds the tokens. -/
def parts : Nat → Parts → Reader Parts
  | 0, p, ts => .ok (p, ts)
  | fuel + 1, p, ts => do
    match ← takeRedirection ts with
    | some (r, rest) => parts fuel { p with redirections := p.redirections ++ [r] } rest
    | none =>
      match ts with
      | (_, .word w) :: rest =>
        match (if p.words.isEmpty then Word.assignment? w else none) with
        | some a => parts fuel { p with assignments := p.assignments ++ [a] } rest
        | none => parts fuel { p with words := p.words ++ [w] } rest
      | _ => return (p, ts)

/-- The line of the token at the front. -/
def lineOf : Tokens → Nat
  | (l, _) :: _ => l
  | [] => 0

/-- A simple command. -/
def simpleCommand : Reader Script := fun ts => do
  let (p, rest) ← parts (ts.length + 1) {} ts
  if p.assignments.isEmpty && p.words.isEmpty && p.redirections.isEmpty then
    throw (misread ts none)
  return (.simple (lineOf ts) p.assignments p.words p.redirections, rest)

/-- Words up to the end of a line or a semicolon. -/
def wordsOfLine : Tokens → List Word × Tokens
  | (_, .word w) :: rest =>
    let (more, rest) := wordsOfLine rest
    (w :: more, rest)
  | ts => ([], ts)

/-- The tokens after a separator of commands. -/
def skipSeparator : Tokens → Tokens
  | (_, .sign ";") :: rest => skipLines rest
  | ts => skipLines ts

/-- The patterns of a case arm up to its parenthesis. -/
def patterns : Reader (List Word)
  | (_, .word w) :: (_, .sign ")") :: rest => .ok ([w], rest)
  | (_, .word w) :: (_, .sign "|") :: rest => do
    let (more, rest) ← patterns rest
    return (w :: more, rest)
  | (_, .word _) :: rest => .error (misread rest (some ")"))
  | ts => .error (misread ts (some ")"))

/-- The word that a parenthesis makes the name of a function. -/
def functionName? : Tokens → Option (Word × Tokens)
  | (_, .word w) :: (_, .sign "(") :: rest =>
    if (Word.assignment? w).isSome then none else some (w, rest)
  | _ => none

/-- The command ran out of depth. -/
def tooDeep {α : Type} (ts : Tokens) : Except Misread α := .error (misread ts none)

mutual

/-- Commands up to where their list ends, at least one unless the script is over. The number
bounds the depth and the length. -/
def body : Nat → Reader Script
  | 0, ts => tooDeep ts
  | fuel + 1, ts => do
    match skipLines ts with
    | (l, .finish) :: rest => return (.skip, (l, .finish) :: rest)
    | ts => commands fuel ts

/-- Commands up to where their list ends. -/
def commands : Nat → Reader Script
  | 0, ts => tooDeep ts
  | fuel + 1, ts => do
    let (first, rest) ← chain fuel ts
    match rest with
    | (_, .sign s) :: after =>
      if s = ";" || s = "&" || s = "\n" then
        let first := if s = "&" then .background first else first
        let after := skipLines after
        if atEnd after then return (first, after)
        let (more, after) ← commands fuel after
        return (.inOrder first more, after)
      else return (first, rest)
    | _ => return (first, rest)

/-- The commands of one line, which is where a script can be carried out so far. -/
def commandLine : Nat → Reader Script
  | 0, ts => tooDeep ts
  | fuel + 1, ts => do
    let (first, rest) ← chain fuel ts
    match rest with
    | (_, .sign "\n") :: after => return (first, after)
    | (_, .finish) :: _ => return (first, rest)
    | (_, .sign s) :: after =>
      if s = ";" || s = "&" then
        let first := if s = "&" then .background first else first
        match after with
        | (_, .sign "\n") :: after => return (first, after)
        | (_, .finish) :: _ => return (first, after)
        | _ =>
          let (more, after) ← commandLine fuel after
          return (.inOrder first more, after)
      else throw (misread rest none)
    | _ => throw (misread rest none)

/-- Pipelines joined by "and" and "or". -/
def chain : Nat → Reader Script
  | 0, ts => tooDeep ts
  | fuel + 1, ts => do
    let (first, rest) ← pipeline fuel ts
    joined fuel first rest

/-- What is joined to a pipeline. -/
def joined : Nat → Script → Reader Script
  | 0, _, ts => tooDeep ts
  | fuel + 1, first, (_, .sign "&&") :: rest => do
    let (second, rest) ← pipeline fuel (skipLines rest)
    joined fuel (.both first second) rest
  | fuel + 1, first, (_, .sign "||") :: rest => do
    let (second, rest) ← pipeline fuel (skipLines rest)
    joined fuel (.either first second) rest
  | _, first, ts => .ok (first, ts)

/-- Commands joined by pipes. -/
def pipeline : Nat → Reader Script
  | 0, ts => tooDeep ts
  | fuel + 1, ts => do
    if reserved? ts = some "!" then
      let (s, rest) ← pipeline fuel (ts.drop 1)
      return (.not s, rest)
    let (first, rest) ← command fuel ts
    match rest with
    | (_, .sign "|") :: rest =>
      let (second, rest) ← pipeline fuel (skipLines rest)
      return (.pipe first second, rest)
    | _ => return (first, rest)

/-- One command with its redirections. -/
def command : Nat → Reader Script
  | 0, ts => tooDeep ts
  | fuel + 1, ts => do
    match ← compound fuel ts with
    | some (s, rest) =>
      let (rs, rest) ← takeRedirections (rest.length + 1) rest
      return (if rs.isEmpty then s else .redirected (lineOf ts) s rs, rest)
    | none =>
      match functionName? ts with
      | none => simpleCommand ts
      | some (w, rest) =>
        let ((), rest) ← expectSign ")" rest
        match Word.bare? w with
        | some name =>
          if !Token.isName name.toList then throw ⟨lineOf ts, .badFunctionName⟩
          let (s, rest) ← command fuel (skipLines rest)
          return (.define name s, rest)
        | none => throw ⟨lineOf ts, .badFunctionName⟩

/-- A compound command, if one stands here. -/
def compound : Nat → Tokens → Except Misread (Option (Script × Tokens))
  | 0, ts => tooDeep ts
  | fuel + 1, ts => do
    match ts with
    | (_, .sign "(") :: rest =>
      let (s, rest) ← body fuel rest
      let ((), rest) ← expectSign ")" rest
      return some (.subshell s, rest)
    | _ =>
      match reserved? ts with
      | some "\x7b" =>
        let (s, rest) ← body fuel (ts.drop 1)
        let ((), rest) ← expect "\x7d" rest
        return some (s, rest)
      | some "if" =>
        let (s, rest) ← branch fuel (ts.drop 1)
        return some (s, rest)
      | some "while" =>
        let (s, rest) ← repetition fuel false (ts.drop 1)
        return some (s, rest)
      | some "until" =>
        let (s, rest) ← repetition fuel true (ts.drop 1)
        return some (s, rest)
      | some "for" =>
        let (s, rest) ← iteration fuel (ts.drop 1)
        return some (s, rest)
      | some "case" =>
        match ts.drop 1 with
        | (_, .word subject) :: rest =>
          let ((), rest) ← expect "in" (skipLines rest)
          let (s, rest) ← arms fuel subject (skipLines rest)
          return some (s, rest)
        | rest => throw (misread rest none)
      | some s => if closers.contains s then throw (misread ts none) else return none
      | none => return none

/-- What follows "if" or "elif". -/
def branch : Nat → Reader Script
  | 0, ts => tooDeep ts
  | fuel + 1, ts => do
    let (test, rest) ← body fuel ts
    let ((), rest) ← expect "then" rest
    let (yes, rest) ← body fuel rest
    match reserved? rest with
    | some "elif" =>
      let (no, rest) ← branch fuel (rest.drop 1)
      return (.choice test yes no, rest)
    | some "else" =>
      let (no, rest) ← body fuel (rest.drop 1)
      let ((), rest) ← expect "fi" rest
      return (.choice test yes no, rest)
    | _ =>
      let ((), rest) ← expect "fi" rest
      return (.choice test yes .skip, rest)

/-- What follows "while" or "until". -/
def repetition : Nat → Bool → Reader Script
  | 0, _, ts => tooDeep ts
  | fuel + 1, until_, ts => do
    let (test, rest) ← body fuel ts
    let ((), rest) ← expect "do" rest
    let (inner, rest) ← body fuel rest
    let ((), rest) ← expect "done" rest
    return (.loop until_ test inner, rest)

/-- What follows "for". -/
def iteration : Nat → Reader Script
  | 0, ts => tooDeep ts
  | fuel + 1, ts => do
    let some name := (reserved? ts).filter fun s => Token.isName s.toList
      | throw (match ts with
        | (_, .fault _) :: _ => misread ts none
        | _ => ⟨lineOf ts, .badLoopVariable⟩)
    let rest := skipLines (ts.drop 1)
    let (values, rest) := if reserved? rest = some "in" then wordsOfLine (rest.drop 1)
      else ([[.variable "@" true]], rest)
    let ((), rest) ← expect "do" (skipSeparator rest)
    let (inner, rest) ← body fuel rest
    let ((), rest) ← expect "done" rest
    return (.each name values inner, rest)

/-- The arms of a case up to its end. -/
def arms : Nat → Word → Reader Script
  | 0, _, ts => tooDeep ts
  | fuel + 1, subject, ts => do
    if reserved? ts = some "esac" then return (.skip, ts.drop 1)
    let open_ := match ts with
      | (_, .sign "(") :: rest => rest
      | _ => ts
    let (ws, rest) ← patterns open_
    let rest := skipLines rest
    let (inner, rest) ← if atEnd rest then pure (.skip, rest) else commands fuel rest
    match rest with
    | (_, .sign ";;") :: rest =>
      let (more, rest) ← arms fuel subject (skipLines rest)
      return (.case subject ws inner more, rest)
    | _ =>
      if reserved? rest = some "esac" then return (.case subject ws inner .skip, rest.drop 1)
      else throw (misread rest (some ";;"))

end

/-- The commands of the next line that has any, unless the script is over. -/
def next? (ts : Tokens) : Except Misread (Option (Script × Tokens)) :=
  match skipLines ts with
  | [] | (_, .finish) :: _ => .ok none
  | ts => (commandLine (8 * ts.length + 8) ts).map some

end Script

end LayerPress.Host
