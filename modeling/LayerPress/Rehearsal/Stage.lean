import LayerPress.Admin.Router
import LayerPress.Jobs.Machine
import LayerPress.Rehearsal.Script

/-!
# Rehearsals

A machine over scripted services, whose jobs move only when they are told to. Requests and
foreground work run to their end at once; settling lets every job run as far as it can, in the
order in which the jobs were queued. While the runner is held, a job that has come to its
program waits there with the call listed.
-/

namespace LayerPress.Rehearsal

/-- A machine in rehearsal, and the jobs whose program call was listed while the runner is
held. -/
structure Stage where
  office : Office Outside
  machine : Machine Outside
  origins : List String
  held : Bool
  waiting : List Nat

/-- An action that calls the runner. -/
def startsProgram : TaskAction → Bool
  | .site (.call (.run ..)) => true
  | _ => false

namespace Stage

/-- A stage with nothing queued. -/
def start (settings : ImportSettings) (site : Site Outside) (workers : Nat)
    (origins : List String) (moment : Timestamp) (jobId : Nat → JobId) : Stage where
  office := ⟨settings, surroundings moment, jobId⟩
  machine := Machine.start site workers
  origins := origins
  held := false
  waiting := []

/-- The site of the stage. -/
def site (s : Stage) : Site Outside := s.machine.site

/-- The stage with another site. -/
def withSite (s : Stage) (after : Site Outside) : Stage :=
  { s with machine := { s.machine with site := after } }

/-- The stage with other services. -/
def withOutside (s : Stage) (o : Outside) : Stage :=
  s.withSite { s.site with outside := o }

/-- The program call a task has come to. -/
def pendingCall? : Task Unit → Option ServiceCall
  | .perform (.site (.call c)) _ =>
    match c with
    | .run .. => some c
    | _ => none
  | _ => none

/-- The stage with the program calls of waiting jobs listed. -/
def listWaiting (s : Stage) : Stage :=
  let calls := s.machine.tasks.zipIdx.filterMap fun (task, i) =>
    if s.waiting.contains i then none else (pendingCall? task).map (i, ·)
  { s.withOutside (calls.foldl (fun o (_, c) => o.announce c) s.site.outside) with
    waiting := s.waiting ++ calls.map (·.1) }

/-- The steps that settling may take; no rehearsal comes near it. -/
def patience : Nat := 1000000

/-- Lets every job run as far as it can. -/
def settle (s : Stage) : Stage :=
  let may (a : TaskAction) : Bool := !(s.held && startsProgram a)
  ({ s with machine := s.machine.settle s.office may patience } : Stage).listWaiting

/-- Holds the runner. -/
def hold (s : Stage) : Stage := { s with held := true }

/-- Lets the runner go on. -/
def release (s : Stage) : Stage := { s with held := false, waiting := [] }

/-- Runs foreground work, with the stages it notes. -/
def work {α : Type} (s : Stage) (w : Work α) : α × List ImportStage × Stage :=
  let (a, after) := ({ s.site with stages := [] } : Site Outside).run s.office.surroundings w
  (a, after.stages, s.withSite after)

/-- Performs one task action of a client. -/
def act (s : Stage) (a : TaskAction) : Option (a.Answer × Stage) :=
  match s.machine.handle s.office (.client 0) a with
  | some (answer, m) => some (answer, { s with machine := m })
  | none => none

/-- Answers a request. -/
def serve (s : Stage) (r : Admin.Request) : Option (Admin.Response × Stage) :=
  match s.machine.serve s.office (.client 0) (Admin.respond s.origins r) with
  | (some a, m) => some (a, { s with machine := m })
  | (none, _) => none

/-- Puts a running import into the store that nobody carries out. -/
def registerIdle (s : Stage) (layer : Uuid) : Except JobId JobId × Stage :=
  let (answer, m) := s.machine.queue s.office .importing (some layer) fun _ _ =>
    Procedure.result ()
  (answer, { s with machine := m })

/-- Ends a job from outside. -/
def endJob (s : Stage) (id : JobId) (error : Option String) (result : Option Json) : Stage :=
  let m := s.machine
  let jobs := match error with
    | some e => m.jobs.fail m.now id e result
    | none => m.jobs.complete m.now id (result.getD .null)
  { s with machine := { m with jobs := jobs } }

/-- Subscribes to a job's events. -/
def subscribe (s : Stage) (id : JobId) : Option (Nat × Stage) :=
  match s.act (.subscribe id) with
  | some (some receiver, after) => some (receiver, after)
  | _ => none

/-- What a receiver got since it was last read: the number lost, and the events. -/
def read (s : Stage) (receiver : Nat) : Nat × List TaskEvent × Stage :=
  let (missed, events, b) := s.machine.broadcast.read receiver
  (missed, events, { s with machine := { s.machine with broadcast := b } })

end Stage

end LayerPress.Rehearsal
