import LayerPress.Jobs.Broadcast
import LayerPress.Uuid.Basic

/-!
# The job store

Jobs by id, running and finished, and for each layer the job that imports it. A second import of
a layer is refused while the first runs; teardowns carry no layer and are never refused. A
finished job stays until the first registration an hour or more after it finished.
-/

namespace LayerPress

/-- The id of a job. -/
abbrev JobId := String

/-- What a job does. -/
inductive JobKind where
  | importing
  | teardown
  deriving DecidableEq, Repr

/-- The name of a kind. -/
def JobKind.text : JobKind → String
  | importing => "import"
  | teardown => "delete"

/-- Where a job stands. -/
inductive JobStatus where
  | running
  | completed
  | failed
  deriving DecidableEq, Repr

/-- The name of a status. -/
def JobStatus.text : JobStatus → String
  | running => "running"
  | completed => "completed"
  | failed => "failed"

/-- A registered job; times are in ticks of the store's clock. -/
structure Job where
  id : JobId
  kind : JobKind
  layer : Option Uuid
  status : JobStatus
  channel : Nat
  createdAt : Nat
  finishedAt : Option Nat
  result : Option Json
  error : Option String
  deriving Repr

namespace Job

/-- A new job that runs. -/
def start (id : JobId) (kind : JobKind) (layer : Option Uuid) (channel now : Nat) : Job where
  id := id
  kind := kind
  layer := layer
  status := .running
  channel := channel
  createdAt := now
  finishedAt := none
  result := none
  error := none

/-- The job has not finished. -/
def isRunning (j : Job) : Bool :=
  j.status == .running

end Job

/-- A clock, by the number of its ticks in a second. -/
structure Clock where
  second : Nat
  second_pos : 0 < second
  deriving Repr

namespace Clock

/-- A clock that counts seconds. -/
def seconds : Clock := ⟨1, by decide⟩

/-- A clock that counts nanoseconds. -/
def nanoseconds : Clock := ⟨1000000000, by decide⟩

/-- How long a finished job stays: an hour, by a clock. -/
def finishedJobLifetime (c : Clock) : Nat := 3600 * c.second

/-- By every clock a finished job stays for some time. -/
theorem finishedJobLifetime_pos (c : Clock) : 0 < c.finishedJobLifetime :=
  Nat.mul_pos (by decide) c.second_pos

end Clock

/-- The registered jobs, and the import of each layer, with the clock by which times are told. -/
structure JobStore where
  jobs : List Job
  active : List (Uuid × JobId)
  clock : Clock
  deriving Repr

namespace JobStore

/-- No jobs, and times in seconds. -/
def empty : JobStore := ⟨[], [], .seconds⟩

/-- The store by another clock. The times in it, if there are any, are taken as they are. -/
def timedBy (s : JobStore) (clock : Clock) : JobStore :=
  { s with clock := clock }

/-- The job of an id. -/
def get? (s : JobStore) (id : JobId) : Option Job :=
  s.jobs.find? (·.id == id)

/-- The job registered for a layer, if it is still stored. -/
def registered? (s : JobStore) (layer : Uuid) : Option Job :=
  (s.active.lookup layer).bind s.get?

/-- The running import of a layer. -/
def active? (s : JobStore) (layer : Uuid) : Option Job :=
  (s.registered? layer).filter (·.isRunning)

/-- A job that has not outlived its time. -/
def isFresh (clock : Clock) (now : Nat) (j : Job) : Bool :=
  match j.finishedAt with
  | none => true
  | some t => now - t < clock.finishedJobLifetime

/-- The store without the jobs that outlived their time. -/
def evict (s : JobStore) (now : Nat) : JobStore :=
  { s with jobs := s.jobs.filter (isFresh s.clock now) }

/-- The store with a job in place of any of its id. -/
def put (s : JobStore) (j : Job) : JobStore :=
  { s with jobs := s.jobs.filter (·.id != j.id) ++ [j] }

/-- The store with a job as the import of a layer. -/
def activate (s : JobStore) (layer : Uuid) (id : JobId) : JobStore :=
  { s with active := (layer, id) :: s.active.filter (·.1 != layer) }

/-- The store without the import of a layer. -/
def deactivate (s : JobStore) (layer : Uuid) : JobStore :=
  { s with active := s.active.filter (·.1 != layer) }

/-- Registers a job, unless an import of its layer is running; either way old jobs are
evicted. -/
def register (s : JobStore) (now : Nat) (j : Job) : Except JobId JobId × JobStore :=
  let kept := s.evict now
  match j.layer with
  | none => (.ok j.id, kept.put j)
  | some layer =>
    match kept.active? layer with
    | some running => (.error running.id, kept)
    | none => (.ok j.id, (kept.activate layer j.id).put j)

/-- Ends a job and gives its layer free if it is that layer's import. -/
def finish (s : JobStore) (now : Nat) (id : JobId) (status : JobStatus) (result : Option Json)
    (error : Option String) : JobStore :=
  match s.get? id with
  | none => s
  | some j =>
    let ended := { s with jobs := s.jobs.map fun x =>
      if x.id == id then
        { x with status := status, finishedAt := some now, result := result, error := error }
      else x }
    match j.layer with
    | none => ended
    | some layer => if s.active.lookup layer = some id then ended.deactivate layer else ended

/-- Ends a job well. -/
def complete (s : JobStore) (now : Nat) (id : JobId) (result : Json) : JobStore :=
  s.finish now id .completed (some result) none

/-- Ends a job badly. -/
def fail (s : JobStore) (now : Nat) (id : JobId) (error : String) (result : Option Json) :
    JobStore :=
  s.finish now id .failed result (some error)

end JobStore

end LayerPress
