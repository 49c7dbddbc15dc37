import LayerPress.Jobs.Store
import LayerPress.Work.Teardown

/-!
# Jobs as tasks

A task works on a site and shares the job store with others: it may queue jobs, look them up,
send their events, and wait for one of the permits that bound how many jobs run at once. A job's
task takes a permit, does its work, sends the result and its end or the error, ends the job, and
gives the permit back.
-/

namespace LayerPress

/-- What a task may do. -/
inductive TaskAction where
  | site (a : SiteAction)
  | takePermit
  | givePermit
  | announce (channel : Nat) (e : TaskEvent)
  | endJob (id : JobId) (status : JobStatus) (result : Option Json) (error : Option String)
  | queueImport (layer : Uuid)
  | queueTeardown (table entry : Option String)
  | runningImport (layer : Uuid)
  | job (id : JobId)
  | subscribe (id : JobId)

/-- The answers to task actions: a queued import answers its id, or the id of the running import
that refuses it; a job answers with the nanoseconds since it was created. -/
abbrev TaskAction.Answer : TaskAction → Type
  | site a => a.Answer
  | takePermit => Unit
  | givePermit => Unit
  | announce .. => Unit
  | endJob .. => Unit
  | queueImport _ => Except JobId JobId
  | queueTeardown .. => JobId
  | runningImport _ => Option JobId
  | job _ => Option (Job × Nat)
  | subscribe _ => Option Nat

/-- The signature of task actions. -/
abbrev taskActions : Signature := ⟨TaskAction, TaskAction.Answer⟩

/-- A procedure among others. -/
abbrev Task := Procedure taskActions

namespace Task

/-- One site action. -/
def site (a : SiteAction) : Task a.Answer :=
  Procedure.ask (S := taskActions) (TaskAction.site a)

/-- Waits for a permit. -/
def takePermit : Task Unit :=
  Procedure.ask (S := taskActions) TaskAction.takePermit

/-- Gives the permit back. -/
def givePermit : Task Unit :=
  Procedure.ask (S := taskActions) TaskAction.givePermit

/-- Sends an event. -/
def announce (channel : Nat) (e : TaskEvent) : Task Unit :=
  Procedure.ask (S := taskActions) (TaskAction.announce channel e)

/-- Ends a job well. -/
def complete (id : JobId) (result : Json) : Task Unit :=
  Procedure.ask (S := taskActions) (TaskAction.endJob id .completed (some result) none)

/-- Sends the error of a job and ends it badly. -/
def fail (id : JobId) (channel : Nat) (message : String) (result : Json) : Task Unit := do
  announce channel (.error message)
  Procedure.ask (S := taskActions) (TaskAction.endJob id .failed (some result) (some message))

/-- Site actions in a job: stages are told to the subscribers. -/
def reporting (channel : Nat) : (a : SiteAction) → Task a.Answer
  | .note stage => announce channel (.progress stage.text)
  | a => site a

/-- Work outside a job. -/
def ofWork {α : Type} (w : Work α) : Task α :=
  w.expand site

/-- Ends a job with its result. -/
def conclude (id : JobId) (channel : Nat) (success : Bool) (message : String) (data : Json) :
    Task Unit :=
  if success then do
    announce channel (.result data)
    announce channel .done
    complete id data
  else fail id channel message data

/-- The task of an import job. -/
def importJob (settings : ImportSettings) (id : JobId) (channel : Nat) (layer : Uuid) :
    Task Unit := do
  takePermit
  let outcome ← (Work.runImport settings layer).expand (reporting channel)
  conclude id channel outcome.success outcome.message outcome.document
  givePermit

/-- The task of a teardown job. -/
def teardownJob (settings : ImportSettings) (id : JobId) (channel : Nat)
    (table entry : Option String) : Task Unit := do
  takePermit
  let outcome ← (Work.runTeardown settings table entry).expand (reporting channel)
  conclude id channel outcome.success outcome.failureText outcome.document
  givePermit

end Task

end LayerPress
