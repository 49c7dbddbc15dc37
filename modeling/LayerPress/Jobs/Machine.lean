import LayerPress.Jobs.Task

/-!
# The shared state of all tasks

One site, one job store and a number of permits are shared by every task. A step performs the
next action of one task; any task that is not blocked may be next. A task waits for a permit
while none is left, and to write records while another task has a transaction open. Reading
records then sees them as they were committed.
-/

namespace LayerPress

/-- Who performs an action: the task of a queued job, or a client's request, by number. -/
inductive Actor where
  | job (i : Nat)
  | client (i : Nat)
  deriving DecidableEq, Repr

/-- The shared state, with the tasks of the queued jobs in order. The time is in nanoseconds. -/
structure Machine (σ : Type) where
  site : Site σ
  holder : Option Actor
  jobs : JobStore
  broadcast : Broadcast
  now : Nat
  nextJob : Nat
  permits : Nat
  tasks : List (Task Unit)

/-- What the tasks are told beforehand: the import settings, the surroundings and the ids of new
jobs. -/
structure Office (σ : Type) where
  settings : ImportSettings
  surroundings : Surroundings σ
  jobId : Nat → JobId

namespace Machine

variable {σ α : Type}

/-- A machine without jobs; there is at least one permit. -/
def start (site : Site σ) (workers : Nat) : Machine σ where
  site := site
  holder := none
  jobs := JobStore.empty.timedBy .nanoseconds
  broadcast := .empty
  now := 0
  nextJob := 0
  permits := max workers 1
  tasks := []

/-- Another task has a transaction open. -/
def isHeldAgainst (m : Machine σ) (who : Actor) : Bool :=
  match m.holder with
  | some other => other != who
  | none => false

/-- The machine with a site, whose transaction is that of the acting task. -/
def withSite (m : Machine σ) (who : Actor) (s : Site σ) : Machine σ :=
  { m with site := s, holder := s.working.map fun _ => who }

/-- A record action of one task, if it need not wait. -/
def records (env : Surroundings σ) (m : Machine σ) (who : Actor) (a : RecordAction) :
    Option (Except RecordFault a.Value × Machine σ) :=
  if m.isHeldAgainst who then
    match a with
    | .statement st =>
      if st.isWrite then none
      else
        let (answer, s) :=
          Site.handle env (.records (.statement st)) { m.site with working := none }
        some (answer, { m with site := { s with working := m.site.working } })
    | .begin => none
    | .commit => none
  else
    let (answer, s) := Site.handle env (.records a) m.site
    some (answer, m.withSite who s)

/-- A site action of one task, if it need not wait. -/
def onSite (env : Surroundings σ) (m : Machine σ) (who : Actor) :
    (a : SiteAction) → Option (a.Answer × Machine σ)
  | .records a => m.records env who a
  | .rollback =>
    if m.isHeldAgainst who then some ((), m)
    else some ((), m.withSite who (Site.handle env .rollback m.site).2)
  | a =>
    let (answer, s) := Site.handle env a m.site
    some (answer, { m with site := s })

/-- Registers a new job with its channel and, unless it is refused, starts its task. -/
def queue (office : Office σ) (m : Machine σ) (kind : JobKind) (layer : Option Uuid)
    (task : JobId → Nat → Task Unit) : Except JobId JobId × Machine σ :=
  let id := office.jobId m.nextJob
  let (channel, broadcast) := m.broadcast.openChannel
  let (answer, jobs) := m.jobs.register m.now (Job.start id kind layer channel m.now)
  let registered := { m with jobs := jobs, broadcast := broadcast, nextJob := m.nextJob + 1 }
  match answer with
  | .ok id => (.ok id, { registered with tasks := m.tasks ++ [task id channel] })
  | .error running => (.error running, registered)

/-- The id of a registration that cannot be refused. -/
def eitherId : Except JobId JobId → JobId
  | .ok id => id
  | .error id => id

/-- The answer to the next action of one task, if it need not wait. -/
def handle (office : Office σ) (m : Machine σ) (who : Actor) :
    (a : TaskAction) → Option (a.Answer × Machine σ)
  | .site a => m.onSite office.surroundings who a
  | .takePermit =>
    match m.permits with
    | 0 => none
    | left + 1 => some ((), { m with permits := left })
  | .givePermit => some ((), { m with permits := m.permits + 1 })
  | .announce channel e => some ((), { m with broadcast := m.broadcast.send channel e })
  | .endJob id status result error =>
    some ((), { m with jobs := m.jobs.finish m.now id status result error })
  | .queueImport layer =>
    some (m.queue office .importing (some layer) fun id channel =>
      Task.importJob office.settings id channel layer)
  | .queueTeardown table entry =>
    let (answer, after) := m.queue office .teardown none fun id channel =>
      Task.teardownJob office.settings id channel table entry
    some (eitherId answer, after)
  | .runningImport layer => some ((m.jobs.active? layer).map (·.id), m)
  | .job id => some ((m.jobs.get? id).map fun j => (j, m.now - j.createdAt), m)
  | .subscribe id =>
    match m.jobs.get? id with
    | none => some (none, m)
    | some j =>
      let (receiver, broadcast) := m.broadcast.subscribe j.channel
      some (some receiver, { m with broadcast := broadcast })

/-- One step of a procedure: it has ended, waits, or goes on. -/
def advance (office : Office σ) (m : Machine σ) (who : Actor) :
    Task α → Option (Task α × Machine σ)
  | .result _ => none
  | .perform a next =>
    match m.handle office who a with
    | some (answer, after) => some (next answer, after)
    | none => none

/-- One step of the job task of a number. -/
def step (office : Office σ) (m : Machine σ) (i : Nat) : Option (Machine σ) :=
  match m.tasks[i]? with
  | none => none
  | some task =>
    match m.advance office (.job i) task with
    | some (rest, after) => some { after with tasks := after.tasks.set i rest }
    | none => none

/-- The tasks that may go on, by a test on their next action. -/
def firstReady (office : Office σ) (m : Machine σ) (may : TaskAction → Bool) :
    Option (Machine σ) :=
  (List.range m.tasks.length).findSome? fun i =>
    match m.tasks[i]? with
    | some (Procedure.perform a _) => if may a then m.step office i else none
    | _ => none

/-- Steps the first task that may go on, again and again, at most as often as given. -/
def settle (office : Office σ) (may : TaskAction → Bool) : Nat → Machine σ → Machine σ
  | 0, m => m
  | fuel + 1, m =>
    match m.firstReady office may with
    | some after => settle office may fuel after
    | none => m

/-- Runs a procedure to its end while no task moves; it has no result if it would have to
wait. -/
def serve (office : Office σ) (who : Actor) : Task α → Machine σ → Option α × Machine σ
  | .result a, m => (some a, m)
  | .perform a next, m =>
    match m.handle office who a with
    | some (answer, after) => serve office who (next answer) after
    | none => (none, m)

end Machine

end LayerPress
