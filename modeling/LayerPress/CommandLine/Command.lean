import LayerPress.Uuid.Basic

/-!
# Commands

The arguments of the program name a command and its options. An option is given at most once,
with its value in the next argument or after an equals sign; a value in an argument of its own
does not start with a hyphen. Arguments that spell no command are refused before anything else
is looked at.
-/

namespace LayerPress

/-- What the program is asked to do. -/
inductive Command where
  | serve
  | importLayer (id : Uuid)
  | delete (table entry : Option String)
  | createLayer (title slug layerKind geometryKind : String) (sourceFile : Option String)
  deriving DecidableEq, Repr

/-- Why no command is carried out: the arguments are refused, or ask how to use the program. -/
inductive Usage where
  | refused
  | help
  deriving DecidableEq, Repr

namespace Command

/-- The values given for options, by name. -/
abbrev Given := List (String × String)

/-- An argument that asks for help. -/
def isHelp (a : String) : Bool := a == "--help" || a == "-h"

/-- An argument that cannot be a value on its own. -/
def looksLikeOption (a : String) : Bool := a.startsWith "-" && a != "-"

/-- An option's name and the value after an equals sign. -/
def splitOption (a : String) : Option (String × Option String) :=
  match a.toList with
  | '-' :: '-' :: rest =>
    let name := rest.takeWhile (· != '=')
    match rest.drop name.length with
    | [] => some (String.ofList name, none)
    | _ :: value => some (String.ofList name, some (String.ofList value))
  | _ => none

/-- The options among arguments, each of a known name, with a value its test accepts. -/
def readOptions (known : List (String × (String → Bool))) :
    Given → List String → Except Usage Given
  | given, [] => .ok given
  | given, [a] =>
    if isHelp a then .error .help
    else if a = "--" then .ok given
    else match splitOption a with
      | some (name, some value) =>
        match known.lookup name with
        | some accepts =>
          if accepts value && (given.lookup name).isNone then .ok ((name, value) :: given)
          else .error .refused
        | none => .error .refused
      | _ => .error .refused
  | given, a :: b :: rest =>
    if isHelp a then .error .help
    else match splitOption a with
      | some (name, some value) =>
        match known.lookup name with
        | some accepts =>
          if accepts value && (given.lookup name).isNone then
            readOptions known ((name, value) :: given) (b :: rest)
          else .error .refused
        | none => .error .refused
      | some (name, none) =>
        match known.lookup name with
        | some accepts =>
          if !looksLikeOption b && accepts b && (given.lookup name).isNone then
            readOptions known ((name, b) :: given) rest
          else .error .refused
        | none => .error .refused
      | none => .error .refused

/-- Any value is accepted. -/
def anyText : String → Bool := fun _ => true

/-- A value that must be given. -/
def required (given : Given) (name : String) : Except Usage String :=
  match given.lookup name with
  | some value => .ok value
  | none => .error .refused

/-- A layer is imported by its id. -/
def readImport (arguments : List String) : Except Usage Command := do
  let given ← readOptions [("layer-id", fun v => (Uuid.parse? v).isSome)] [] arguments
  match Uuid.parse? (← required given "layer-id") with
  | some id => return .importLayer id
  | none => throw .refused

/-- A teardown names a table, an entry, both or neither. -/
def readDelete (arguments : List String) : Except Usage Command := do
  let given ← readOptions [("table", anyText), ("catalog-entry", anyText)] [] arguments
  return .delete (given.lookup "table") (given.lookup "catalog-entry")

/-- A layer is declared with a title and a slug. -/
def readCreate (arguments : List String) : Except Usage Command := do
  let names := ["title", "slug", "source-file", "layer-kind", "geom-kind"]
  let given ← readOptions (names.map (·, anyText)) [] arguments
  let title ← required given "title"
  let slug ← required given "slug"
  return .createLayer title slug ((given.lookup "layer-kind").getD "vector")
    ((given.lookup "geom-kind").getD "line") (given.lookup "source-file")

/-- A question about the use of a command or of one below it. -/
def readHelp : List (List String) → List String → Usage
  | paths, names => if paths.contains names then .help else .refused

/-- The command that arguments spell; without any it is to serve. -/
def ofArguments : List String → Except Usage Command
  | [] => .ok .serve
  | ["serve"] => .ok .serve
  | "serve" :: arguments => do
    let _ ← readOptions [] [] arguments
    return .serve
  | "import" :: arguments => readImport arguments
  | "delete" :: arguments => readDelete arguments
  | "layer" :: "create" :: arguments => readCreate arguments
  | "layer" :: "help" :: names =>
    .error (readHelp [[], ["create"], ["help"]] names)
  | "layer" :: a :: _ => .error (if isHelp a then .help else .refused)
  | "help" :: names =>
    .error (readHelp [[], ["serve"], ["import"], ["delete"], ["layer"], ["layer", "create"],
      ["help"]] names)
  | "--" :: arguments => if arguments.isEmpty then .ok .serve else .error .refused
  | a :: _ => .error (if isHelp a then .help else .refused)

end Command

end LayerPress
