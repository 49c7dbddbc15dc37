import LayerPress.Proofs.JobEndings

/-!
# Running imports and the queue

The store of a machine is indexed by the ids that have been given out, whatever the tasks and the
requests do, as long as no job is ended as running. Then the queue refuses the import of a layer
exactly for the import of this layer that is running. A refusal is felt by nobody else: it evicts
jobs that have outlived their time, opens a channel that nobody uses and passes over one number.
-/

namespace LayerPress

section
variable {σ ρ : Type} {office : Office σ} {m m' : Machine σ} {who : Actor} {layer : Uuid} {j : Job}
  {id : JobId}

namespace Machine

/-- The ids that have been given out. -/
def issued (office : Office σ) (m : Machine σ) : List JobId :=
  (List.range m.nextJob).map office.jobId

/-- The store is indexed by the ids that have been given out. -/
def Indexed (office : Office σ) (m : Machine σ) : Prop :=
  m.jobs.Indexed (m.issued office)

/-- The machine after a refused import. -/
def passOver (m : Machine σ) : Machine σ :=
  { m with
    jobs := m.jobs.evict m.now
    broadcast := m.broadcast.openChannel.2
    nextJob := m.nextJob + 1 }

/-- A machine without jobs is indexed. -/
theorem indexed_start (office : Office σ) (site : Site σ) (workers : Nat) :
    (start site workers).Indexed office := by
  simpa [Indexed, issued, start] using JobStore.indexed_empty

/-- The next id has not been given out. -/
theorem notMem_issued (hinj : Function.Injective office.jobId) :
    office.jobId m.nextJob ∉ m.issued office := by
  intro hmem
  obtain ⟨n, hn, hid⟩ := List.mem_map.mp hmem
  rw [hinj hid, List.mem_range] at hn
  exact Nat.lt_irrefl _ hn

/-- No job that is still stored has the next id. -/
theorem Indexed.ne_next (h : m.Indexed office) (hinj : Function.Injective office.jobId) :
    ∀ k ∈ (m.jobs.evict m.now).jobs, k.id ≠ office.jobId m.nextJob := by
  intro k hk hid
  exact notMem_issued hinj (hid ▸ JobStore.Indexed.stored h k (List.mem_of_mem_filter hk))

/-- One more id has been given out when the next number is taken. -/
theorem issued_succ (hnext : m'.nextJob = m.nextJob + 1) :
    m'.issued office = m.issued office ++ [office.jobId m.nextJob] := by
  simp [issued, hnext, List.range_succ]

/-- Only the jobs and the next number matter for the index. -/
theorem Indexed.congr (h : m.Indexed office) (hjobs : m'.jobs = m.jobs)
    (hnext : m'.nextJob = m.nextJob) : m'.Indexed office := by
  rw [Indexed, issued, hjobs, hnext]
  exact h

/-- Queueing registers a job, refused or not. -/
theorem jobs_queue (office : Office σ) (m : Machine σ) (kind : JobKind) (layer : Option Uuid)
    (task : JobId → Nat → Task Unit) :
    (m.queue office kind layer task).2.jobs = (m.jobs.register m.now
        (Job.start (office.jobId m.nextJob) kind layer m.broadcast.nextChannel m.now)).2 ∧
      (m.queue office kind layer task).2.nextJob = m.nextJob + 1 := by
  simp only [queue, Broadcast.openChannel]
  split <;> exact ⟨rfl, rfl⟩

/-- Queueing keeps the index. -/
theorem Indexed.queue (h : m.Indexed office) (hinj : Function.Injective office.jobId)
    (kind : JobKind) (layer : Option Uuid) (task : JobId → Nat → Task Unit) :
    (m.queue office kind layer task).2.Indexed office := by
  obtain ⟨hjobs, hnext⟩ := jobs_queue office m kind layer task
  rw [Indexed, issued_succ hnext, hjobs]
  exact JobStore.Indexed.register h (notMem_issued hinj) rfl m.now

/-- Every action keeps the index, unless it ends a job as running. -/
theorem Indexed.handle (h : m.Indexed office) (hinj : Function.Injective office.jobId)
    {a : TaskAction} {x : a.Answer} (hhandle : m.handle office who a = some (x, m'))
    (hends : ∀ id verdict, a.ending? = some (id, verdict) → verdict.status ≠ .running) :
    m'.Indexed office := by
  cases a with
  | site a =>
    have hsame := sameJobs_of_onSite hhandle
    exact h.congr hsame.jobs hsame.nextJob
  | takePermit =>
    simp only [Machine.handle] at hhandle
    split at hhandle <;> cases hhandle
    exact h.congr rfl rfl
  | endJob id status result error =>
    cases hhandle
    exact JobStore.Indexed.finish h (hends id ⟨status, result, error⟩ rfl) m.now id result error
  | subscribe id =>
    simp only [Machine.handle] at hhandle
    split at hhandle <;> cases hhandle <;> exact h.congr rfl rfl
  | queueImport layer =>
    have hqueue := h.queue hinj .importing (some layer) fun id channel =>
      Task.importJob office.settings id channel layer
    simp only [Machine.handle, Option.some.injEq] at hhandle
    rw [hhandle] at hqueue
    exact hqueue
  | queueTeardown table entry =>
    have hqueue := h.queue hinj .teardown none fun id channel =>
      Task.teardownJob office.settings id channel table entry
    simp only [Machine.handle, Option.some.injEq, Prod.mk.injEq] at hhandle
    rw [hhandle.2] at hqueue
    exact hqueue
  | _ => cases hhandle; exact h.congr rfl rfl

/-- The import of a layer is refused while another is running, and nothing else comes of it. -/
theorem Indexed.queueImport (h : m.Indexed office) (hactive : m.jobs.active? layer = some j)
    (who : Actor) :
    m.handle office who (.queueImport layer) = some (.error j.id, m.passOver) := by
  have hregister : m.jobs.register m.now
      (Job.start (office.jobId m.nextJob) .importing (some layer) m.broadcast.nextChannel
        m.now) = (.error j.id, m.jobs.evict m.now) := by
    rw [JobStore.Indexed.register_eq h]
    simp [Job.start, hactive]
  simp only [Machine.handle, Machine.queue, Broadcast.openChannel, hregister]
  rfl

/-- The import of a layer is refused for one that is running. -/
theorem Indexed.active?_of_refused (h : m.Indexed office)
    (hhandle : m.handle office who (.queueImport layer) = some (.error id, m')) :
    ∃ j, m.jobs.active? layer = some j ∧ j.id = id := by
  cases queued_of_queueImport hhandle with
  | @refused _ running _ _ _ _ _ _ conflict =>
    refine ⟨running, ?_, rfl⟩
    rw [← JobStore.Indexed.active?_evict h (JobStore.Indexed.evict h m.now)]
    exact conflict

end Machine

variable {c : Course σ ρ}

/-- The store stays indexed after one more deed. -/
theorem Course.Enrolled.indexed_act (hrolled : c.Enrolled office)
    (hinj : Function.Injective office.jobId) (h : c.scene.machine.Indexed office) {d : Deed}
    {s : Scene σ ρ} (htake : c.scene.take office who = some (d, s)) : s.machine.Indexed office := by
  have hends : ∀ id verdict, d.action.ending? = some (id, verdict) → verdict.status ≠ .running := by
    intro id verdict hends
    obtain ⟨m, htook⟩ := Scene.exists_took htake
    obtain ⟨i, job, hactor, hjob⟩ := Course.Stored.exists_ended hrolled htook hends
    exact (Course.Stored.exists_verdict (hrolled.act htake) hactor (Roster.getElem?_concat hjob d)
      hends).2.1
  cases who with
  | job i =>
    obtain ⟨a, next, x, m, -, hhandle, rfl, rfl⟩ := Scene.take_job_eq_some htake
    exact (h.handle hinj hhandle hends).congr rfl rfl
  | client i =>
    obtain ⟨a, next, x, m, -, hhandle, rfl, rfl⟩ := Scene.take_client_eq_some htake
    exact h.handle hinj hhandle hends

/-- The store stays indexed throughout a course. -/
theorem Course.Enrolled.run_indexed (hrolled : c.Enrolled office)
    (hinj : Function.Injective office.jobId) (h : c.scene.machine.Indexed office)
    (turns : List Turn) : (c.run office turns).scene.machine.Indexed office := by
  have hboth := run_induction (P := fun c => c.Enrolled office ∧ c.scene.machine.Indexed office)
    ⟨hrolled, h⟩ (fun _ _ _ _ hc htake => ⟨hc.1.act htake, hc.1.indexed_act hinj hc.2 htake⟩)
    (fun _ elapsed hc => ⟨hc.1.later elapsed, hc.2.congr rfl rfl⟩) turns
  exact hboth.2

end

end LayerPress
