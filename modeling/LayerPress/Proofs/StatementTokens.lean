import LayerPress.Proofs.Transcript
import LayerPress.SpatialDb.Store
import Mathlib.Logic.Function.Defs

/-!
# How the spatial database reads its statements

The database reads a statement as a row of tokens. Between two double quotes stands a name, in which
two quotes in a row are one. Names are quoted in such a way that whatever characters they have, a
statement about a table is read as tokens of its own with one qualified name among them, which is
that of the table.
-/

namespace LayerPress.SpatialDb

/-- The tokens of statements. A name is one that was quoted, without its quotes. -/
inductive Token where
  | word (text : String)
  | name (text : String)
  | number (text : String)
  | sign (c : Char)
  deriving DecidableEq, Repr

namespace Token

/-- Characters between tokens. -/
def isSpace (c : Char) : Bool :=
  c = ' ' || c = '\t' || c = '\n' || c = '\r' || c = '\x0c'

/-- Characters that begin a word: letters, the underscore and whatever is not ASCII. -/
def beginsWord (c : Char) : Bool :=
  c.isAlpha || c = '_' || 0x80 ≤ c.toNat

/-- Characters inside a word. -/
def isInWord (c : Char) : Bool :=
  beginsWord c || c.isDigit || c = '$'

/-- Signs that are tokens of their own whatever stands beside them. -/
def isPunctuation (c : Char) : Bool :=
  c = '(' || c = ')' || c = '[' || c = ']' || c = ',' || c = ';'

/-- Signs of which several in a row are one token, or begin a comment. -/
def isOperatorSign (c : Char) : Bool :=
  ['+', '-', '*', '/', '<', '>', '=', '~', '!', '@', '#', '%', '^', '&', '|', '?',
    '\x60'].contains c

/-- What has been read of the token that is being read. -/
inductive Reading where
  | between
  | word (read : List Char)
  | number (read : List Char)
  | dot
  | operator (c : Char)
  | quoted (read : List Char)
  | closing (read : List Char)
  deriving DecidableEq, Repr

/-- What a character begins that continues no token, with the token that it is by itself. Constants
in apostrophes and parameters are not read. -/
def begin? (c : Char) : Option (List Token × Reading) :=
  if isSpace c then some ([], .between)
  else if beginsWord c then some ([], .word [c])
  else if c.isDigit then some ([], .number [c])
  else if isPunctuation c then some ([.sign c], .between)
  else if c = '.' then some ([], .dot)
  else if isOperatorSign c then some ([], .operator c)
  else if c = '"' then some ([], .quoted [])
  else none

/-- A token that ends before a character, which begins another. -/
def ends (t : Token) (c : Char) : Option (List Token × Reading) :=
  (begin? c).map fun (found, reading) => (t :: found, reading)

/-- One more character: the tokens that it completes, and what is being read after it. A quote
inside a name may end it or be the first of two, which the next character shows. Fractions,
operators of several signs, comments and names with escapes are not read. -/
def step : Reading → Char → Option (List Token × Reading)
  | .between, c => begin? c
  | .word read, c =>
    if isInWord c then some ([], .word (read ++ [c])) else ends (.word (String.ofList read)) c
  | .number read, c =>
    if c.isDigit then some ([], .number (read ++ [c]))
    else if beginsWord c || c = '.' then none
    else ends (.number (String.ofList read)) c
  | .dot, c => if c.isDigit || c = '.' then none else ends (.sign '.') c
  | .operator before, c =>
    if isOperatorSign c || (before = '&' && c = '"') then none else ends (.sign before) c
  | .quoted read, c =>
    if c = '"' then some ([], .closing read) else some ([], .quoted (read ++ [c]))
  | .closing read, c =>
    if c = '"' then some ([], .quoted (read ++ ['"'])) else ends (.name (String.ofList read)) c

/-- The tokens that characters complete, and what is being read after them. -/
def advance : Reading → List Char → Option (List Token × Reading)
  | r, [] => some ([], r)
  | r, c :: rest =>
    (step r c).bind fun begun =>
      (advance begun.2 rest).map fun read => (begun.1 ++ read.1, read.2)

/-- The token that the end of a statement completes; a quote must be closed. -/
def last? : Reading → Option (List Token)
  | .between => some []
  | .word read => some [.word (String.ofList read)]
  | .number read => some [.number (String.ofList read)]
  | .dot => some [.sign '.']
  | .operator c => some [.sign c]
  | .quoted _ => none
  | .closing read => some [.name (String.ofList read)]

/-- The tokens of characters behind what is being read. -/
def readFrom (r : Reading) (cs : List Char) : Option (List Token) :=
  (advance r cs).bind fun read => (last? read.2).map (read.1 ++ ·)

/-- The tokens of a statement. -/
def ofText? (sql : String) : Option (List Token) :=
  readFrom .between sql.toList

/-- The tokens of a qualified name. -/
def qualified (schema table : String) : List Token :=
  [.name schema, .sign '.', .name table]

/-! ## Reading part by part -/

/-- Characters complete these tokens, and leave this to be read on. -/
def Reads (r : Reading) (cs : List Char) (found : List Token) (r' : Reading) : Prop :=
  advance r cs = some (found, r')

instance (r r' : Reading) (cs : List Char) (found : List Token) :
    Decidable (Reads r cs found r') :=
  inferInstanceAs (Decidable (advance r cs = some (found, r')))

section
variable {r r' r'' : Reading} {cs rest : List Char} {found more : List Token}

/-- A character is read, and then those behind it. -/
theorem readFrom_cons (r : Reading) (c : Char) (rest : List Char) :
    readFrom r (c :: rest) =
      (step r c).bind fun begun => (readFrom begun.2 rest).map (begun.1 ++ ·) := by
  rw [readFrom, advance]
  cases step r c with
  | none => rfl
  | some begun =>
    simp only [Option.bind_some, readFrom]
    cases advance begun.2 rest with
    | none => rfl
    | some read => simp [Function.comp_def]

/-- What is completed stands in front of what is read behind it. -/
theorem Reads.readFrom_append (h : Reads r cs found r') (rest : List Char) :
    readFrom r (cs ++ rest) = (readFrom r' rest).map (found ++ ·) := by
  induction cs generalizing r found with
  | nil =>
    obtain ⟨rfl, rfl⟩ := Prod.mk.inj (Option.some.inj h)
    simp
  | cons c cs ih =>
    obtain ⟨begun, hstep, hcs⟩ := Option.bind_eq_some_iff.mp h
    obtain ⟨read, hread, heq⟩ := Option.map_eq_some_iff.mp hcs
    obtain ⟨rfl, rfl⟩ := Prod.mk.inj heq
    rw [List.cons_append, readFrom_cons, hstep, Option.bind_some, ih hread, Option.map_map]
    simp [Function.comp_def]

end

/-! ## Quoted names -/

/-- The characters inside the quotes of a name are read as those of the name. -/
theorem readFrom_flatMap_quoteChar (name read rest : List Char) :
    readFrom (.quoted read) (name.flatMap Naming.quoteChar ++ rest) =
      readFrom (.quoted (read ++ name)) rest := by
  induction name generalizing read with
  | nil => simp
  | cons c name ih =>
    have hchar : Reads (.quoted read) (Naming.quoteChar c) [] (.quoted (read ++ [c])) := by
      by_cases hc : c = '"'
      · subst hc
        rfl
      · simp [Reads, Naming.quoteChar, advance, step, hc]
    rw [List.flatMap_cons, List.append_assoc, hchar.readFrom_append, ih]
    simp

/-- What does not continue a closed quote is read as if nothing stood before it. -/
theorem readFrom_closing {rest : List Char} (name : List Char) (h : rest.head? ≠ some '"') :
    readFrom (.closing name) rest =
      (readFrom .between rest).map (.name (String.ofList name) :: ·) := by
  cases rest with
  | nil => rfl
  | cons c rest =>
    have hc : c ≠ '"' := fun heq => h (congrArg some heq)
    have hends : step (.closing name) c = ends (.name (String.ofList name)) c := if_neg hc
    rw [readFrom_cons, readFrom_cons, hends, ends, step]
    cases begin? c with
    | none => rfl
    | some begun => simp [Function.comp_def]

/-- A quoted name is read as the name, unless another quote follows. -/
theorem readFrom_quoteIdentifier {r : Reading} {found : List Token} {rest : List Char}
    (name : String) (hbegin : step r '"' = some (found, .quoted []))
    (hrest : rest.head? ≠ some '"') :
    readFrom r ((Naming.quoteIdentifier name).toList ++ rest) =
      (readFrom .between rest).map fun more => found ++ .name name :: more := by
  have hclosing : readFrom (.quoted name.toList) ('"' :: rest) =
      readFrom (.closing name.toList) rest := by
    rw [readFrom_cons]
    simp [step]
  rw [Naming.quoteIdentifier, String.toList_ofList, Naming.quoteChars, List.cons_append,
    List.append_assoc, List.singleton_append, readFrom_cons, hbegin, Option.bind_some,
    readFrom_flatMap_quoteChar, List.nil_append, hclosing, readFrom_closing _ hrest,
    String.ofList_toList, Option.map_map]
  rfl

/-- A qualified name is read as the two names and the dot between them. -/
theorem readFrom_qualified {rest : List Char} (schema table : String)
    (hrest : rest.head? ≠ some '"') :
    readFrom .between ((SpatialDb.qualified schema table).toList ++ rest) =
      (readFrom .between rest).map (qualified schema table ++ ·) := by
  have htable : readFrom .dot ((Naming.quoteIdentifier table).toList ++ rest) =
      (readFrom .between rest).map fun more => [.sign '.'] ++ .name table :: more :=
    readFrom_quoteIdentifier table rfl hrest
  have hdot : readFrom .between ('.' :: ((Naming.quoteIdentifier table).toList ++ rest)) =
      readFrom .dot ((Naming.quoteIdentifier table).toList ++ rest) := by
    rw [readFrom_cons, show step .between '.' = some ([], .dot) from rfl]
    simp
  have hsigned : (SpatialDb.qualified schema table).toList ++ rest =
      (Naming.quoteIdentifier schema).toList ++
        '.' :: ((Naming.quoteIdentifier table).toList ++ rest) := by
    rw [SpatialDb.qualified, String.toList_append, String.toList_append]
    simp
  rw [hsigned, readFrom_quoteIdentifier schema rfl (by simp), hdot, htable, Option.map_map]
  rfl

/-- A qualified name is read as one between whatever stands before and after it. -/
theorem ofText?_around_qualified {before after : String} {found more : List Token}
    (schema table : String) (hbefore : Reads .between before.toList found .between)
    (hafter : ofText? after = some more) (hrest : after.toList.head? ≠ some '"') :
    ofText? (before ++ SpatialDb.qualified schema table ++ after) =
      some (found ++ qualified schema table ++ more) := by
  rw [ofText?] at hafter
  rw [ofText?, String.toList_append, String.toList_append, List.append_assoc,
    hbefore.readFrom_append, readFrom_qualified schema table hrest, hafter]
  simp

/-- A quoted name is read as the name. -/
theorem ofText?_quoteIdentifier (name : String) :
    ofText? (Naming.quoteIdentifier name) = some [.name name] := by
  have hend : ([] : List Char).head? ≠ some '"' := by decide
  have hname := readFrom_quoteIdentifier name (rfl : step .between '"' = some ([], .quoted [])) hend
  rwa [List.append_nil] at hname

end Token

/-! ## Dialogues -/

section
variable {σ α β : Type}

/-- The statements that a dialogue executes with a server in a state. -/
def executed (server : Server σ) (d : Dialogue α) (s : σ) : List Query :=
  (d.run.transcript server s).filterMap fun
    | ⟨.execute q, _⟩ => some q
    | ⟨.connect, _⟩ => none

/-- The statements that work executes are those of its parts. -/
theorem executed_bind (server : Server σ) (d : Dialogue α) (k : α → Dialogue β) (s : σ) :
    executed server (d >>= k) s = executed server d s ++
      match converse server d s with
      | (.ok a, last) => executed server (k a) last
      | (.error _, _) => [] := by
  have hrun : (d >>= k).run = d.run >>= ExceptT.bindCont k := rfl
  rw [executed, hrun, Procedure.transcript_bind, List.filterMap_append, converse]
  congr 1
  cases d.run.run server s with
  | mk answer last =>
    cases answer with
    | ok a => rfl
    | error f => rfl

/-- What only looks at an answer executes nothing more. -/
theorem executed_bind_of_silent {server : Server σ} {d : Dialogue α} {k : α → Dialogue β} {s : σ}
    (hk : ∀ a, ∃ b, (k a).run = .result b) :
    executed server (d >>= k) s = executed server d s := by
  rw [executed_bind]
  split
  · next a last _ =>
    obtain ⟨b, hb⟩ := hk a
    have hnone : executed server (k a) last = [] := by
      rw [executed, hb]
      rfl
    rw [hnone, List.append_nil]
  · exact List.append_nil _

/-- A statement executed by itself is the only one. -/
theorem executed_execute (server : Server σ) (s : σ) (q : Query) :
    executed server (execute q) s = [q] := by
  rw [executed, execute, ExceptT.run_mk, Procedure.transcript_bind, Procedure.ask, Procedure.run,
    Procedure.transcript]
  cases server (.execute q) s with
  | mk answer last =>
    cases answer with
    | none => rfl
    | some rows => rfl

/-- Connecting executes nothing. -/
theorem executed_connect (server : Server σ) (s : σ) : executed server connect s = [] := rfl

/-- Connecting ends as the server answers it. -/
theorem converse_connect (server : Server σ) (s : σ) :
    converse server connect s =
      (match (server .connect s).1 with
        | .ok () => .ok ()
        | .error f => .error (.spatialDatabase f.message), (server .connect s).2) := by
  rw [converse, connect, ExceptT.run_mk, Procedure.run_bind, Procedure.ask, Procedure.run]
  cases server .connect s with
  | mk answer last =>
    cases answer with
    | error f => rfl
    | ok _ => rfl

/-- A statement by itself ends with its rows, or fails where it has none. -/
theorem converse_execute (server : Server σ) (s : σ) (q : Query) :
    converse server (execute q) s =
      (match (server (.execute q) s).1 with
        | some rows => .ok rows
        | none => .error (.spatialDatabase "db error"), (server (.execute q) s).2) := by
  rw [converse, execute, ExceptT.run_mk, Procedure.run_bind, Procedure.ask, Procedure.run]
  cases server (.execute q) s with
  | mk answer last =>
    cases answer with
    | none => rfl
    | some rows => rfl

/-- A server takes the connection that is made in a state, and then the time limit. -/
structure Server.Admits (server : Server σ) (s : σ) : Prop where
  connects : (server .connect s).1 = .ok ()
  limits : (server (.execute timeLimit) (server .connect s).2).1.isSome

/-- A statement is executed after the time limit, and it is executed just when the server lets it
come so far. -/
theorem executed_ask (server : Server σ) (s : σ) (q : Query) :
    executed server (ask q) s <+: [timeLimit, q] ∧
      (executed server (ask q) s = [timeLimit, q] ↔ server.Admits s) := by
  rw [ask, executed_bind, executed_connect, List.nil_append, converse_connect]
  cases hconnect : (server .connect s).1 with
  | error fault =>
    have hnot : ¬ server.Admits s := fun h => nomatch hconnect.symm.trans h.connects
    exact ⟨List.nil_prefix, iff_of_false (List.cons_ne_nil _ _).symm hnot⟩
  | ok =>
    dsimp only
    rw [executed_bind, executed_execute, converse_execute]
    cases hlimit : (server (.execute timeLimit) (server .connect s).2).1 with
    | none =>
      have hnot : ¬ server.Admits s := fun h => by simpa [hlimit] using h.limits
      exact ⟨⟨[q], rfl⟩, iff_of_false (by simp) hnot⟩
    | some rows =>
      have hadmits : server.Admits s := ⟨hconnect, Option.isSome_of_eq_some hlimit⟩
      simp only [executed_execute]
      exact ⟨List.prefix_rfl, iff_of_true rfl hadmits⟩

/-- To look at the rows of an answer no other statement is executed. -/
theorem executed_ask_bind {server : Server σ} {s : σ} {q : Query}
    {k : List (List Cell) → Dialogue β} (hk : ∀ rows, ∃ b, (k rows).run = .result b) :
    executed server (ask q >>= k) s <+: [timeLimit, q] ∧
      (executed server (ask q >>= k) s = [timeLimit, q] ↔ server.Admits s) := by
  rw [executed_bind_of_silent hk]
  exact executed_ask server s q

end

/-! ## Statements about tables -/

/-- What is done with a table by a statement that names it. -/
inductive TableUse where
  | count
  | geometryType
  | extent
  | drop

namespace TableUse

/-- The statement of a use. -/
def query : TableUse → (schema table : String) → Query
  | count => countQuery
  | geometryType => sampleQuery
  | extent => extentQuery
  | drop => dropQuery

/-- The tokens of a use before the table's name. -/
def before : TableUse → List Token
  | count => [.word "SELECT", .word "COUNT", .sign '(', .sign '*', .sign ')', .word "FROM"]
  | geometryType =>
    [.word "SELECT", .word "GeometryType", .sign '(', .name "geom", .sign ')', .word "FROM"]
  | extent =>
    [.word "SELECT", .word "ST_XMin", .sign '(', .word "e", .sign ')', .sign ',',
      .word "ST_YMin", .sign '(', .word "e", .sign ')', .sign ',',
      .word "ST_XMax", .sign '(', .word "e", .sign ')', .sign ',',
      .word "ST_YMax", .sign '(', .word "e", .sign ')', .word "FROM",
      .sign '(', .word "SELECT", .word "ST_Extent", .sign '(', .name "geom", .sign ')',
      .word "AS", .word "e", .word "FROM"]
  | drop => [.word "DROP", .word "TABLE", .word "IF", .word "EXISTS"]

/-- The tokens of a use after the table's name. -/
def after : TableUse → List Token
  | count => []
  | geometryType =>
    [.word "WHERE", .name "geom", .word "IS", .word "NOT", .word "NULL", .word "LIMIT", .number "1"]
  | extent => [.sign ')', .word "AS", .word "extent"]
  | drop => [.word "CASCADE"]

/-- A statement is read as the tokens of its use around the table's name. -/
theorem ofText?_query (use : TableUse) (schema table : String) :
    Token.ofText? (use.query schema table).sql =
      some (use.before ++ Token.qualified schema table ++ use.after) := by
  cases use with
  | count =>
    have hsql : (query count schema table).sql =
        "SELECT COUNT(*) FROM " ++ qualified schema table ++ "" := String.append_empty.symm
    rw [hsql]
    exact Token.ofText?_around_qualified schema table
      (by decide +kernel) (by decide +kernel) (by decide)
  | geometryType =>
    have hsql : (query geometryType schema table).sql =
        "SELECT GeometryType(" ++ geometry ++ ") FROM " ++ qualified schema table ++
          (" WHERE " ++ geometry ++ " IS NOT NULL LIMIT 1") := by
      rw [← String.append_assoc, ← String.append_assoc]
      rfl
    rw [hsql]
    exact Token.ofText?_around_qualified schema table
      (by decide +kernel) (by decide +kernel) (by decide +kernel)
  | extent =>
    exact Token.ofText?_around_qualified schema table
      (by decide +kernel) (by decide +kernel) (by decide)
  | drop =>
    exact Token.ofText?_around_qualified schema table
      (by decide +kernel) (by decide +kernel) (by decide)

/-- The statements that a dialogue about a table executes with a server in a state. -/
def executed {σ : Type} (server : Server σ) (s : σ) (schema table : String) :
    TableUse → List Query
  | count => SpatialDb.executed server (SpatialDb.count schema table) s
  | geometryType => SpatialDb.executed server (SpatialDb.geometryType schema table) s
  | extent => SpatialDb.executed server (SpatialDb.extent schema table) s
  | drop => SpatialDb.executed server (SpatialDb.drop schema table) s

/-- A dialogue about a table executes the time limit and then the statement of its use, which is
executed just when the server lets it come so far. -/
theorem executed_eq {σ : Type} (use : TableUse) (server : Server σ) (s : σ)
    (schema table : String) :
    use.executed server s schema table <+: [timeLimit, use.query schema table] ∧
      (use.executed server s schema table = [timeLimit, use.query schema table] ↔
        server.Admits s) := by
  cases use with
  | count | geometryType | extent =>
    refine executed_ask_bind fun rows => ?_
    split <;> exact ⟨_, rfl⟩
  | drop => exact executed_ask_bind fun rows => ⟨_, rfl⟩

end TableUse

/-- Names that are quoted alike are the same. -/
theorem quoteIdentifier_injective : Function.Injective Naming.quoteIdentifier := by
  intro name name' h
  have hread := congrArg Token.ofText? h
  rw [Token.ofText?_quoteIdentifier, Token.ofText?_quoteIdentifier] at hread
  simpa using hread

/-- Whatever characters a schema and a table have, the statement by which the table is counted,
sampled, measured or dropped is read as the tokens of its use with one qualified name among them,
that of the table. A dialogue executes no other statement but the time limit, and it executes both
just when the server takes its connection and the time limit. A quoted name is read as the name, so
different names are quoted differently. -/
theorem statements_name_tables :
    (∀ (use : TableUse) (schema table : String),
      Token.ofText? (use.query schema table).sql =
          some (use.before ++ Token.qualified schema table ++ use.after) ∧
        Token.sign '.' ∉ use.before ++ use.after ∧
        ∀ {σ : Type} (server : Server σ) (s : σ),
          use.executed server s schema table <+: [timeLimit, use.query schema table] ∧
            (use.executed server s schema table = [timeLimit, use.query schema table] ↔
              server.Admits s)) ∧
      (∀ name, Token.ofText? (Naming.quoteIdentifier name) = some [.name name]) ∧
      Function.Injective Naming.quoteIdentifier := by
  refine ⟨fun use schema table => ⟨use.ofText?_query schema table, ?_, fun server s => ?_⟩,
    Token.ofText?_quoteIdentifier, quoteIdentifier_injective⟩
  · cases use <;> decide
  · exact use.executed_eq server s schema table

/-- A name whose quotes were not doubled could end its statement and begin another. -/
example :
    Token.ofText? ("DROP TABLE \"" ++ "a\"; DROP TABLE \"b" ++ "\"") =
      some [.word "DROP", .word "TABLE", .name "a", .sign ';',
        .word "DROP", .word "TABLE", .name "b"] := by
  decide +kernel

end LayerPress.SpatialDb
