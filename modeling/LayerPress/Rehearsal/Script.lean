import LayerPress.Work.Site

/-!
# Scripted services

For rehearsals the outside services answer from scripts: each kind of call has a list of
answers, used in order, the last of which repeats. The calls are listed as they are made. A
runner that is held has its call listed before it is answered.
-/

namespace LayerPress.Rehearsal

/-- Answers in order, the last of which repeats. -/
abbrev Script (α : Type) := List (Except Failure α)

/-- The next answer of a script, and the script after it; an empty script has a default. -/
def Script.next {α : Type} (default : α) : Script α → Except Failure α × Script α
  | [] => (.ok default, [])
  | [a] => (a, [a])
  | a :: rest => (a, rest)

/-- What a scripted program does: it ends, or runs past its time. -/
inductive RunnerAnswer where
  | ends (output : ProcessOutput)
  | overruns
  deriving DecidableEq, Repr

/-- A script for each kind of call. -/
structure Scripts where
  runner : Script RunnerAnswer
  count : Script Int
  geometryType : Script (Option String)
  extent : Script (Option BoundingBox)
  columns : Script (List Column)
  drop : Script Unit
  publish : Script PublishAction
  unpublish : Script Unit
  info : Script (Option Json)

/-- Scripts by which everything succeeds and every table is empty. -/
def Scripts.plain : Scripts :=
  ⟨[], [], [], [], [], [], [], [], []⟩

/-- The answer of the scripts to a call, and the scripts after it. -/
def Scripts.answer (s : Scripts) : (c : ServiceCall) → Except Failure c.Value × Scripts
  | .run _ _ timeout =>
    let (a, rest) := Script.next (.ends ⟨some 0, "", ""⟩) s.runner
    let value : Except Failure ProcessOutput := match a with
      | .ok (.ends output) => .ok output
      | .ok .overruns => .error (.importTimeout timeout)
      | .error f => .error f
    (value, { s with runner := rest })
  | .count _ =>
    let (a, rest) := Script.next 0 s.count
    (a, { s with count := rest })
  | .geometryType _ =>
    let (a, rest) := Script.next none s.geometryType
    (a, { s with geometryType := rest })
  | .extent _ =>
    let (a, rest) := Script.next none s.extent
    (a, { s with extent := rest })
  | .columns _ =>
    let (a, rest) := Script.next [] s.columns
    (a, { s with columns := rest })
  | .drop _ =>
    let (a, rest) := Script.next () s.drop
    (a, { s with drop := rest })
  | .publish .. =>
    let (a, rest) := Script.next .created s.publish
    (a, { s with publish := rest })
  | .unpublish .. =>
    let (a, rest) := Script.next () s.unpublish
    (a, { s with unpublish := rest })
  | .info .. =>
    let (a, rest) := Script.next none s.info
    (a, { s with info := rest })

/-- Scripted services with the calls made so far, and those listed before they are answered. -/
structure Outside where
  scripts : Scripts
  calls : List ServiceCall
  announced : List ServiceCall

/-- Scripted services to which no call has been made. -/
def Outside.fresh (scripts : Scripts) : Outside :=
  ⟨scripts, [], []⟩

/-- The services after a call has been listed ahead of its answer. -/
def Outside.announce (o : Outside) (c : ServiceCall) : Outside :=
  { o with calls := o.calls ++ [c], announced := o.announced ++ [c] }

/-- The services after a call is listed, unless it was listed ahead. -/
def Outside.list (o : Outside) (c : ServiceCall) : Outside :=
  if o.announced.contains c then { o with announced := o.announced.erase c }
  else { o with calls := o.calls ++ [c] }

/-- The surroundings of a rehearsal: scripted services, a sound record store and a clock that
stands still. -/
def surroundings (moment : Timestamp) : Surroundings Outside where
  answer := fun c o =>
    let (a, scripts) := o.scripts.answer c
    (a, { o.list c with scripts := scripts })
  recordFault := fun _ o => (none, o)
  now := fun o => (moment, o)

end LayerPress.Rehearsal
