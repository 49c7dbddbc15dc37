import LayerPress.Jobs.Machine
import LayerPress.Proofs.JobStore

/-!
# What an action does to the machine

Actions on the site leave jobs, permits and tasks alone. Queueing either is refused and only
evicts old jobs, or starts a task whose job is the newest in the store. These two facts are all
that the proofs about jobs use of the machine.
-/

namespace LayerPress.Machine

variable {σ : Type} {office : Office σ} {env : Surroundings σ} {m m' : Machine σ} {who : Actor}

/-- Two machines have the same jobs, permits and tasks, at the same time. -/
structure SameJobs (m m' : Machine σ) : Prop where
  jobs : m'.jobs = m.jobs
  permits : m'.permits = m.permits
  tasks : m'.tasks = m.tasks
  nextJob : m'.nextJob = m.nextJob
  now : m'.now = m.now

/-- Every machine has its own jobs. -/
theorem SameJobs.refl (m : Machine σ) : SameJobs m m := ⟨rfl, rfl, rfl, rfl, rfl⟩

/-- A record action leaves jobs alone. -/
theorem sameJobs_of_records {a : RecordAction} {answer : Except RecordFault a.Value}
    (h : m.records env who a = some (answer, m')) : SameJobs m m' := by
  unfold records at h
  split at h
  · split at h
    · split at h
      · cases h
      · cases h
        exact ⟨rfl, rfl, rfl, rfl, rfl⟩
    · cases h
    · cases h
  · cases h
    exact ⟨rfl, rfl, rfl, rfl, rfl⟩

/-- An action on the site leaves jobs alone. -/
theorem sameJobs_of_onSite {a : SiteAction} {answer : a.Answer}
    (h : m.onSite env who a = some (answer, m')) : SameJobs m m' := by
  cases a with
  | records a => exact sameJobs_of_records h
  | rollback =>
    simp only [onSite] at h
    split at h <;> cases h <;> exact ⟨rfl, rfl, rfl, rfl, rfl⟩
  | _ => cases h; exact ⟨rfl, rfl, rfl, rfl, rfl⟩

/-- What queueing does to the machine, when it is refused and when it is not. -/
inductive Queued (office : Office σ) (m : Machine σ) (kind : JobKind) (layer : Option Uuid)
    (task : JobId → Nat → Task Unit) : Except JobId JobId → Machine σ → Prop
  | refused {m' : Machine σ} {running : Job} (permits : m'.permits = m.permits)
      (tasks : m'.tasks = m.tasks) (nextJob : m'.nextJob = m.nextJob + 1)
      (site : m'.site = m.site) (holder : m'.holder = m.holder)
      (jobs : m'.jobs = m.jobs.evict m.now)
      (conflict : layer.bind (m.jobs.evict m.now).active? = some running) :
      Queued office m kind layer task (.error running.id) m'
  | started {m' : Machine σ} (permits : m'.permits = m.permits)
      (tasks : m'.tasks = m.tasks ++ [task (office.jobId m.nextJob) m.broadcast.nextChannel])
      (nextJob : m'.nextJob = m.nextJob + 1) (site : m'.site = m.site)
      (holder : m'.holder = m.holder)
      (jobs : m'.jobs = ((m.jobs.evict m.now).notedWith layer (office.jobId m.nextJob)).put
        (Job.start (office.jobId m.nextJob) kind layer m.broadcast.nextChannel m.now))
      (free : layer.bind (m.jobs.evict m.now).active? = none) :
      Queued office m kind layer task (.ok (office.jobId m.nextJob)) m'

/-- Queueing leaves the site and its transaction alone. -/
theorem Queued.site_holder {kind : JobKind} {layer : Option Uuid} {task : JobId → Nat → Task Unit}
    {answer : Except JobId JobId} (h : Queued office m kind layer task answer m') :
    m'.site = m.site ∧ m'.holder = m.holder := by
  cases h with
  | refused _ _ _ hsite hholder => exact ⟨hsite, hholder⟩
  | started _ _ _ hsite hholder => exact ⟨hsite, hholder⟩

/-- Queueing is refused for a running import of the layer and starts a task otherwise. -/
theorem queued_queue (office : Office σ) (m : Machine σ) (kind : JobKind) (layer : Option Uuid)
    (task : JobId → Nat → Task Unit) :
    Queued office m kind layer task (m.queue office kind layer task).1
      (m.queue office kind layer task).2 := by
  simp only [queue, Broadcast.openChannel, JobStore.register_eq]
  have hlayer : ∀ id channel now, (Job.start id kind layer channel now).layer = layer :=
    fun _ _ _ => rfl
  rw [hlayer]
  cases hactive : layer.bind (m.jobs.evict m.now).active? with
  | some running => exact .refused rfl rfl rfl rfl rfl rfl hactive
  | none => exact .started rfl rfl rfl rfl rfl rfl hactive

/-- Queueing an import. -/
theorem queued_of_queueImport {layer : Uuid} {answer : Except JobId JobId}
    (h : m.handle office who (.queueImport layer) = some (answer, m')) :
    Queued office m .importing (some layer)
      (fun id channel => Task.importJob office.settings id channel layer) answer m' := by
  have hqueued := queued_queue office m .importing (some layer) fun id channel =>
    Task.importJob office.settings id channel layer
  simp only [handle, Option.some.injEq] at h
  rw [h] at hqueued
  exact hqueued

/-- Queueing a teardown, which is never refused. -/
theorem queued_of_queueTeardown {table entry : Option String} {id : JobId}
    (h : m.handle office who (.queueTeardown table entry) = some (id, m')) :
    Queued office m .teardown none
      (fun id channel => Task.teardownJob office.settings id channel table entry) (.ok id) m' := by
  have hqueued := queued_queue office m .teardown none fun id channel =>
    Task.teardownJob office.settings id channel table entry
  simp only [handle, Option.some.injEq] at h
  obtain ⟨hid, hmachine⟩ := Prod.mk.injEq .. ▸ h
  rw [hmachine] at hqueued
  cases hanswer : (m.queue office .teardown none fun id channel =>
      Task.teardownJob office.settings id channel table entry).1 with
  | ok started =>
    rw [hanswer] at hqueued hid
    exact (show started = id from hid) ▸ hqueued
  | error running =>
    rw [hanswer] at hqueued
    cases hqueued with
    | refused _ _ _ _ _ _ hconflict => cases hconflict

end LayerPress.Machine
