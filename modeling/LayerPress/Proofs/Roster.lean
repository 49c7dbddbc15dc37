import LayerPress.Proofs.Clients
import LayerPress.Proofs.JobReport

/-!
# The roster of jobs

From the deeds of a course one can read which jobs were queued, in the order of their tasks, and
what each actor has done. Every attempt to queue a job takes a number, refused or not, and the
number of a job decides both its id and its channel. The task of each job is what its own deeds have
left of its errand; so a statement about the transcripts of one task holds of every job in a course,
whatever goes on around it.
-/

namespace LayerPress

/-! ## Reading the deeds -/

/-- The exchanges of one actor. -/
def exchangesOf (who : Actor) (deeds : List Deed) : List (Exchange taskActions) :=
  (deeds.filter (·.actor == who)).map fun d => ⟨d.action, d.answer⟩

/-- The job that a deed queued, if it queued one. -/
def Deed.assignment? (channel : Nat) : Deed → Option Assignment
  | ⟨_, .queueImport layer, .ok id⟩ => some ⟨id, channel, .importing layer⟩
  | ⟨_, .queueTeardown table entry, id⟩ => some ⟨id, channel, .tearing table entry⟩
  | _ => none

/-- How often a job was to be queued, and the queued jobs in the order of their tasks. -/
structure Roster where
  attempts : Nat
  jobs : List Assignment

namespace Roster

/-- The roster after one more deed. -/
def note (r : Roster) (d : Deed) : Roster where
  attempts := r.attempts + d.action.queues.toNat
  jobs := r.jobs ++ (d.assignment? r.attempts).toList

/-- The roster of a list of deeds. -/
def ofDeeds (deeds : List Deed) : Roster :=
  deeds.foldl note ⟨0, []⟩

/-- One more deed is noted after all before it. -/
theorem ofDeeds_concat (deeds : List Deed) (d : Deed) :
    ofDeeds (deeds ++ [d]) = (ofDeeds deeds).note d := by
  simp [ofDeeds]

end Roster

/-- A job stays in its place in the roster. -/
theorem Roster.getElem?_concat {deeds : List Deed} {i : Nat} {job : Assignment}
    (h : (ofDeeds deeds).jobs[i]? = some job) (d : Deed) :
    (ofDeeds (deeds ++ [d])).jobs[i]? = some job := by
  rw [ofDeeds_concat, note, List.getElem?_append_left (List.getElem?_eq_some_iff.mp h).1]
  exact h

/-- One more deed is the last exchange of its actor. -/
theorem exchangesOf_concat_self (deeds : List Deed) (d : Deed) :
    exchangesOf d.actor (deeds ++ [d]) = exchangesOf d.actor deeds ++ [⟨d.action, d.answer⟩] := by
  simp [exchangesOf]

/-- One more deed is no exchange of another actor. -/
theorem exchangesOf_concat_of_ne {who : Actor} {deeds : List Deed} {d : Deed} (h : d.actor ≠ who) :
    exchangesOf who (deeds ++ [d]) = exchangesOf who deeds := by
  simp [exchangesOf, h]

/-- Who does nothing exchanges nothing. -/
theorem exchangesOf_eq_nil {who : Actor} {deeds : List Deed} (h : ∀ d ∈ deeds, d.actor ≠ who) :
    exchangesOf who deeds = [] := by
  rw [exchangesOf, List.map_eq_nil_iff, List.filter_eq_nil_iff]
  intro d hd hown
  exact h d hd (beq_iff_eq.mp hown)

/-! ## What a deed does -/

/-- Whether an action changes neither the jobs nor their channels. -/
def TaskAction.isQuiet : TaskAction → Bool
  | site _ | takePermit | givePermit | runningImport _ | job _ => true
  | announce .. | endJob .. | queueImport _ | queueTeardown .. | subscribe _ => false

section
variable {σ ρ : Type} {office : Office σ} {m m' : Machine σ} {who : Actor} {d : Deed}

/-- What a deed does to the jobs, to their channels and to their tasks. -/
inductive Machine.Handled (office : Office σ) (m : Machine σ) : Deed → Machine σ → Prop
  | quiet {d : Deed} {m' : Machine σ} (quiet : d.action.isQuiet = true) (jobs : m'.jobs = m.jobs)
      (broadcast : m'.broadcast = m.broadcast) (tasks : m'.tasks = m.tasks)
      (nextJob : m'.nextJob = m.nextJob) : Handled office m d m'
  | announced (who : Actor) (channel : Nat) (e : TaskEvent) :
      Handled office m ⟨who, .announce channel e, ()⟩
        { m with broadcast := m.broadcast.send channel e }
  | ended (who : Actor) (id : JobId) (v : Verdict) :
      Handled office m ⟨who, .endJob id v.status v.result v.error, ()⟩
        { m with jobs := m.jobs.finish m.now id v.status v.result v.error }
  | joined (who : Actor) {id : JobId} {j : Job} (found : m.jobs.get? id = some j) :
      Handled office m ⟨who, .subscribe id, some m.broadcast.nextReceiver⟩
        { m with broadcast := (m.broadcast.subscribe j.channel).2 }
  | missed (who : Actor) {id : JobId} (missing : m.jobs.get? id = none) :
      Handled office m ⟨who, .subscribe id, none⟩ m
  | refused {d : Deed} {m' : Machine σ} (queues : d.action.queues = true)
      (refused : ∀ channel, d.assignment? channel = none)
      (jobs : m'.jobs = m.jobs.evict m.now)
      (broadcast : m'.broadcast = m.broadcast.openChannel.2) (tasks : m'.tasks = m.tasks)
      (nextJob : m'.nextJob = m.nextJob + 1) : Handled office m d m'
  | queued {d : Deed} {m' : Machine σ} {job : Assignment} (queues : d.action.queues = true)
      (assignment : d.assignment? m.broadcast.nextChannel = some job)
      (id : job.id = office.jobId m.nextJob) (channel : job.channel = m.broadcast.nextChannel)
      (jobs : m'.jobs = ((m.jobs.evict m.now).notedWith job.errand.layer? job.id).put
        (Job.start job.id job.errand.kind job.errand.layer? job.channel m.now))
      (broadcast : m'.broadcast = m.broadcast.openChannel.2)
      (tasks : m'.tasks = m.tasks ++ [job.task office.settings])
      (nextJob : m'.nextJob = m.nextJob + 1) : Handled office m d m'

namespace Machine

/-- An action on the site is not heard of. -/
theorem broadcast_of_onSite {env : Surroundings σ} {a : SiteAction} {x : a.Answer}
    (h : m.onSite env who a = some (x, m')) : m'.broadcast = m.broadcast := by
  cases a with
  | records a =>
    simp only [onSite, records] at h
    split at h
    · split at h
      · split at h <;> cases h
        rfl
      · cases h
      · cases h
    · cases h
      rfl
  | rollback =>
    simp only [onSite] at h
    split at h <;> cases h <;> rfl
  | _ => cases h; rfl

/-- Queueing opens a channel, refused or not. -/
theorem broadcast_queue (office : Office σ) (m : Machine σ) (kind : JobKind) (layer : Option Uuid)
    (task : JobId → Nat → Task Unit) :
    (m.queue office kind layer task).2.broadcast = m.broadcast.openChannel.2 := by
  simp only [queue]
  split <;> rfl

/-- Every deed does one of these things. -/
theorem handled_of_handle (h : m.handle office d.actor d.action = some (d.answer, m')) :
    m.Handled office d m' := by
  obtain ⟨who, a, x⟩ := d
  cases a with
  | site a =>
    have hsame := sameJobs_of_onSite h
    exact .quiet rfl hsame.jobs (broadcast_of_onSite h) hsame.tasks hsame.nextJob
  | takePermit =>
    simp only [handle] at h
    split at h <;> cases h
    exact .quiet rfl rfl rfl rfl rfl
  | announce channel e => cases h; exact .announced who channel e
  | endJob id status result error => cases h; exact .ended who id ⟨status, result, error⟩
  | subscribe id =>
    simp only [handle] at h
    split at h
    · next hmissing => cases h; exact .missed who hmissing
    · next hfound => cases h; exact .joined who hfound
  | queueImport layer =>
    have hbroadcast := broadcast_queue office m .importing (some layer) fun id channel =>
      Task.importJob office.settings id channel layer
    have hqueued := queued_of_queueImport h
    simp only [handle, Option.some.injEq] at h
    rw [h] at hbroadcast
    cases hqueued with
    | refused _ htasks hnextJob _ _ hjobs =>
      exact .refused rfl (fun _ => rfl) hjobs hbroadcast htasks hnextJob
    | started _ htasks hnextJob _ _ hjobs =>
      exact .queued rfl rfl rfl rfl hjobs hbroadcast htasks hnextJob
  | queueTeardown table entry =>
    have hbroadcast := broadcast_queue office m .teardown none fun id channel =>
      Task.teardownJob office.settings id channel table entry
    have hqueued := queued_of_queueTeardown h
    simp only [handle, Option.some.injEq, Prod.mk.injEq] at h
    rw [h.2] at hbroadcast
    cases hqueued with
    | started _ htasks hnextJob _ _ hjobs =>
      exact .queued rfl rfl rfl rfl hjobs hbroadcast htasks hnextJob
  | _ => cases h; exact .quiet rfl rfl rfl rfl rfl

end Machine

/-- A quiet action queues no job. -/
theorem TaskAction.queues_of_isQuiet {a : TaskAction} (h : a.isQuiet = true) :
    a.queues = false := by
  cases a with
  | queueImport | queueTeardown => cases h
  | _ => rfl

/-- What queues no job adds none to the roster. -/
theorem Deed.assignment?_eq_none (h : d.action.queues = false) (channel : Nat) :
    d.assignment? channel = none := by
  obtain ⟨who, a, x⟩ := d
  cases a with
  | queueImport | queueTeardown => cases h
  | _ => rfl

/-- What queues no job leaves the jobs of the roster as they are. -/
theorem Roster.jobs_concat_of_not_queues {deeds : List Deed} (h : d.action.queues = false) :
    (ofDeeds (deeds ++ [d])).jobs = (ofDeeds deeds).jobs := by
  rw [ofDeeds_concat, note, Deed.assignment?_eq_none h]
  exact List.append_nil _

namespace Machine.Handled

/-- Whatever is queued takes the next number. -/
theorem counters (h : m.Handled office d m') :
    m'.nextJob = m.nextJob + d.action.queues.toNat ∧
      m'.broadcast.nextChannel = m.broadcast.nextChannel + d.action.queues.toNat := by
  cases h with
  | quiet quiet _ broadcast _ nextJob =>
    rw [TaskAction.queues_of_isQuiet quiet, broadcast, nextJob]
    exact ⟨rfl, rfl⟩
  | refused queues _ _ broadcast _ nextJob | queued queues _ _ _ _ broadcast _ nextJob =>
    rw [queues, broadcast, nextJob]
    exact ⟨rfl, rfl⟩
  | _ => exact ⟨rfl, rfl⟩

/-- A queued job is given the next id, and its task is started. -/
theorem started (h : m.Handled office d m') :
    let queued := d.assignment? m.broadcast.nextChannel
    m'.tasks = m.tasks ++ (queued.map (·.task office.settings)).toList ∧
      ∀ job ∈ queued, job.id = office.jobId m.nextJob ∧ job.channel = m.broadcast.nextChannel := by
  cases h with
  | quiet quiet _ _ tasks =>
    rw [Deed.assignment?_eq_none (TaskAction.queues_of_isQuiet quiet), tasks]
    simp
  | refused _ refused _ _ tasks =>
    rw [refused, tasks]
    simp
  | queued _ assignment id channel _ _ tasks =>
    rw [assignment, tasks]
    simp [id, channel]
  | _ => simp [Deed.assignment?]

end Machine.Handled

/-- What a deed does to a scene: the machine handles its action, and the procedure of its actor, and
no other, goes on with the answer. -/
structure Scene.Took (office : Office σ) (s s' : Scene σ ρ) (d : Deed) (m : Machine σ) : Prop where
  handled : s.machine.Handled office d m
  machine : s'.machine = { m with tasks := s'.machine.tasks }
  length : s'.machine.tasks.length = m.tasks.length
  own : ∀ i, d.actor = .job i → ∃ next, s.machine.tasks[i]? = some (.perform d.action next) ∧
    s'.machine.tasks[i]? = some (next d.answer)
  others : ∀ i, d.actor ≠ .job i → s'.machine.tasks[i]? = m.tasks[i]?
  request : ∀ i, d.actor = .client i → ∃ next, s.clients[i]? = some (.perform d.action next) ∧
    s'.clients = s.clients.set i (next d.answer)
  requests : (∀ i, d.actor ≠ .client i) → s'.clients = s.clients

/-- Every deed does this. -/
theorem Scene.exists_took {s s' : Scene σ ρ} {d : Deed} (h : s.take office who = some (d, s')) :
    ∃ m, s.Took office s' d m := by
  cases who with
  | job i =>
    obtain ⟨a, next, x, m, htask, hhandle, rfl, rfl⟩ := take_job_eq_some h
    have hhandled := Machine.handled_of_handle (d := ⟨.job i, a, x⟩) hhandle
    have hlt : i < m.tasks.length := by
      rw [hhandled.started.1, List.length_append]
      exact Nat.lt_add_right _ (List.getElem?_eq_some_iff.mp htask).1
    refine ⟨m, hhandled, rfl, by simp, ?_, ?_, nofun, fun _ => rfl⟩
    · intro k hk
      cases hk
      exact ⟨next, htask, by simp [hlt]⟩
    · intro k hk
      have hne : i ≠ k := fun heq => hk (heq ▸ rfl)
      simp [hne]
  | client i =>
    obtain ⟨a, next, x, m, htask, hhandle, rfl, rfl⟩ := take_client_eq_some h
    refine ⟨m, Machine.handled_of_handle hhandle, rfl, rfl, nofun, fun _ _ => rfl, ?_, ?_⟩
    · intro k hk
      cases hk
      exact ⟨next, htask, rfl⟩
    · intro hnone
      exact absurd rfl (hnone i)

end

/-! ## Courses -/

/-- The scene in which requests of any kind have come in and no job is queued yet. -/
def Scene.receiving {σ : Type} (site : Site σ) (workers : Nat) (origins : List String)
    (requests : List Admin.Request) : Scene σ Admin.Response :=
  ⟨Machine.start site workers, requests.map (Admin.respond origins)⟩

variable {σ ρ : Type} {office : Office σ} {c : Course σ ρ}

/-- The roster tells of every task what it is, and the numbers of the jobs grow. -/
structure Course.Enrolled (office : Office σ) (c : Course σ ρ) : Prop where
  nextJob : c.scene.machine.nextJob = (Roster.ofDeeds c.deeds).attempts
  nextChannel : c.scene.machine.broadcast.nextChannel = (Roster.ofDeeds c.deeds).attempts
  issued : ∀ job ∈ (Roster.ofDeeds c.deeds).jobs,
    job.id = office.jobId job.channel ∧ job.channel < (Roster.ofDeeds c.deeds).attempts
  increasing : ((Roster.ofDeeds c.deeds).jobs.map (·.channel)).Pairwise (· < ·)
  length : (Roster.ofDeeds c.deeds).jobs.length = c.scene.machine.tasks.length
  actors : ∀ d ∈ c.deeds, ∀ i, d.actor = .job i → i < c.scene.machine.tasks.length
  tasks : ∀ (i : Nat) job t, (Roster.ofDeeds c.deeds).jobs[i]? = some job →
    c.scene.machine.tasks[i]? = some t →
      (job.task office.settings).Leaves (exchangesOf (.job i) c.deeds) t
  clients : ∀ t ∈ c.scene.clients, ClientTask t
  requests : ∀ d ∈ c.deeds, ∀ i, d.actor = .client i → d.action.isOpenToClients

namespace Course.Enrolled

/-- A scene in which nothing has happened has an empty roster. -/
theorem start (office : Office σ) (site : Site σ) (workers : Nat) {clients : List (Task ρ)}
    (hclients : ∀ t ∈ clients, ClientTask t) :
    (Course.start ⟨Machine.start site workers, clients⟩).Enrolled office where
  nextJob := rfl
  nextChannel := rfl
  issued := by simp [Roster.ofDeeds, Course.start]
  increasing := by simp [Roster.ofDeeds, Course.start]
  length := rfl
  actors := by simp [Course.start]
  tasks := by simp [Roster.ofDeeds, Course.start]
  clients := hclients
  requests := by simp [Course.start]

/-- A task that has not been started has done nothing. -/
theorem exchangesOf_eq_nil (h : c.Enrolled office) {i : Nat}
    (hi : c.scene.machine.tasks.length ≤ i) : exchangesOf (.job i) c.deeds = [] := by
  refine LayerPress.exchangesOf_eq_nil fun d hd hown => ?_
  have := h.actors d hd i hown
  omega

/-- The tasks after one more deed are what it has left of their errands. -/
theorem leaves_of_took (h : c.Enrolled office) {d : Deed} {s : Scene σ ρ} {m : Machine σ}
    (htook : c.scene.Took office s d m) {i : Nat} {job : Assignment} {t : Task Unit}
    (hjob : (Roster.ofDeeds (c.deeds ++ [d])).jobs[i]? = some job)
    (ht : s.machine.tasks[i]? = some t) :
    (job.task office.settings).Leaves (exchangesOf (.job i) (c.deeds ++ [d])) t := by
  obtain ⟨htasks, -⟩ := htook.handled.started
  rw [Roster.ofDeeds_concat] at hjob
  rcases Nat.lt_or_ge i c.scene.machine.tasks.length with hi | hi
  · rw [Roster.note, List.getElem?_append_left (h.length ▸ hi)] at hjob
    by_cases hactor : d.actor = .job i
    · obtain ⟨next, hbefore, hafter⟩ := htook.own i hactor
      obtain rfl : next d.answer = t := Option.some.inj (hafter.symm.trans ht)
      rw [← hactor, exchangesOf_concat_self, hactor]
      exact (h.tasks i job _ hjob hbefore).concat d.answer
    · rw [htook.others i hactor, htasks, List.getElem?_append_left hi] at ht
      rw [exchangesOf_concat_of_ne hactor]
      exact h.tasks i job t hjob ht
  · -- The task is new, and has done nothing.
    have hactor : d.actor ≠ .job i := by
      intro hactor
      obtain ⟨next, hbefore, -⟩ := htook.own i hactor
      have := (List.getElem?_eq_some_iff.mp hbefore).1
      omega
    rw [Roster.note, List.getElem?_append_right (h.length ▸ hi), h.length, ← h.nextChannel] at hjob
    rw [htook.others i hactor, htasks, List.getElem?_append_right hi, Option.toList_map,
      List.getElem?_map, hjob] at ht
    rw [exchangesOf_concat_of_ne hactor, h.exchangesOf_eq_nil hi, ← Option.some.inj ht]
    exact .start _

/-- The roster after one more deed. -/
theorem act (h : c.Enrolled office) {who : Actor} {d : Deed} {s : Scene σ ρ}
    (htake : c.scene.take office who = some (d, s)) :
    Course.Enrolled office ⟨s, c.deeds ++ [d]⟩ := by
  obtain ⟨m, htook⟩ := Scene.exists_took htake
  obtain ⟨hnextJob, hnextChannel⟩ := htook.handled.counters
  obtain ⟨htasks, hnew⟩ := htook.handled.started
  rw [h.nextChannel] at htasks hnew hnextChannel
  rw [h.nextJob] at hnew hnextJob
  have hlength : s.machine.tasks.length = c.scene.machine.tasks.length +
      (d.assignment? (Roster.ofDeeds c.deeds).attempts).toList.length := by
    rw [htook.length, htasks, Option.toList_map, List.length_append, List.length_map]
  have hnumber : ∀ job ∈ (d.assignment? (Roster.ofDeeds c.deeds).attempts).toList,
      job.id = office.jobId job.channel ∧ job.channel = (Roster.ofDeeds c.deeds).attempts ∧
        d.action.queues = true := by
    intro job hjob
    obtain ⟨hid, hchannel⟩ := hnew job (Option.mem_toList.mp hjob)
    refine ⟨hchannel ▸ hid, hchannel, ?_⟩
    by_contra hqueues
    rw [Deed.assignment?_eq_none (Bool.eq_false_iff.mpr hqueues)] at hjob
    cases hjob
  refine ⟨?_, ?_, ?_, ?_, ?_, ?_, ?_, ?_, ?_⟩
  · rw [htook.machine, Roster.ofDeeds_concat]
    exact hnextJob
  · rw [htook.machine, Roster.ofDeeds_concat]
    exact hnextChannel
  · rw [Roster.ofDeeds_concat]
    intro job hjob
    rcases List.mem_append.mp hjob with hjob | hjob
    · obtain ⟨hid, hlt⟩ := h.issued job hjob
      exact ⟨hid, Nat.lt_add_right _ hlt⟩
    · obtain ⟨hid, hchannel, hqueues⟩ := hnumber job hjob
      exact ⟨hid, by simp [Roster.note, hchannel, hqueues]⟩
  · rw [Roster.ofDeeds_concat, Roster.note, List.map_append, List.pairwise_append]
    refine ⟨h.increasing, ?_, ?_⟩
    · cases d.assignment? (Roster.ofDeeds c.deeds).attempts <;> simp
    · simp only [List.forall_mem_map]
      intro old hold new hnew
      rw [(hnumber new hnew).2.1]
      exact (h.issued old hold).2
  · rw [Roster.ofDeeds_concat, Roster.note, List.length_append, h.length, hlength]
  · intro e he i hactor
    rcases List.mem_append.mp he with he | he
    · exact Nat.lt_of_lt_of_le (h.actors e he i hactor) (hlength ▸ Nat.le_add_right _ _)
    · obtain rfl := List.mem_singleton.mp he
      obtain ⟨next, -, hafter⟩ := htook.own i hactor
      exact (List.getElem?_eq_some_iff.mp hafter).1
  · exact fun i job t hjob ht => h.leaves_of_took htook hjob ht
  · intro t ht
    change t ∈ s.clients at ht
    cases hactor : d.actor with
    | job i =>
      rw [htook.requests (by simp [hactor])] at ht
      exact h.clients t ht
    | client i =>
      obtain ⟨next, hbefore, hafter⟩ := htook.request i hactor
      rw [hafter] at ht
      rcases List.mem_or_eq_of_mem_set ht with hold | rfl
      · exact h.clients t hold
      · exact (h.clients _ (List.mem_of_getElem? hbefore)).2 d.answer
  · intro e he i hactor
    rcases List.mem_append.mp he with he | he
    · exact h.requests e he i hactor
    · obtain rfl := List.mem_singleton.mp he
      obtain ⟨next, hbefore, -⟩ := htook.request i hactor
      exact (h.clients _ (List.mem_of_getElem? hbefore)).1

/-- The roster does not change while time goes by. -/
theorem later (h : c.Enrolled office) (elapsed : Nat) :
    Course.Enrolled office ⟨c.scene.later elapsed, c.deeds⟩ :=
  ⟨h.nextJob, h.nextChannel, h.issued, h.increasing, h.length, h.actors, h.tasks, h.clients,
    h.requests⟩

/-- The roster tells of every task throughout a course. -/
theorem run (h : c.Enrolled office) (turns : List Turn) : (c.run office turns).Enrolled office :=
  run_induction h (fun _ _ _ _ hc htake => hc.act htake) (fun _ elapsed hc => hc.later elapsed)
    turns

/-- The roster tells of every task in a course of requests. -/
theorem receiving (office : Office σ) (site : Site σ) (workers : Nat) (origins : List String)
    (requests : List Admin.Request) :
    (Course.start (Scene.receiving site workers origins requests)).Enrolled office := by
  apply start
  simp [Admin.clientTask_respond]

/-- Every task has its job in the roster. -/
theorem exists_job (h : c.Enrolled office) {i : Nat} {t : Task Unit}
    (ht : c.scene.machine.tasks[i]? = some t) :
    ∃ job, (Roster.ofDeeds c.deeds).jobs[i]? = some job := by
  have hlt := (List.getElem?_eq_some_iff.mp ht).1
  exact ⟨_, List.getElem?_eq_getElem (h.length ▸ hlt)⟩

/-- Every job in the roster has a task, whose transcript agrees with a report on its work. -/
theorem exists_trace (h : c.Enrolled office) {i : Nat} {job : Assignment}
    (hjob : (Roster.ofDeeds c.deeds).jobs[i]? = some job) :
    ∃ t, c.scene.machine.tasks[i]? = some t ∧ ∃ work events verdict,
      TaskTrace office.settings job (exchangesOf (.job i) c.deeds) t.hasEnded work events
        verdict := by
  have hlt := (List.getElem?_eq_some_iff.mp hjob).1
  have ht := List.getElem?_eq_getElem (h.length ▸ hlt)
  exact ⟨_, ht, Assignment.exists_trace (h.tasks i job _ hjob ht)⟩

/-- Two jobs have different channels. -/
theorem eq_of_channel (h : c.Enrolled office) {i k : Nat} {job other : Assignment}
    (hjob : (Roster.ofDeeds c.deeds).jobs[i]? = some job)
    (hother : (Roster.ofDeeds c.deeds).jobs[k]? = some other) (heq : job.channel = other.channel) :
    i = k := by
  have hnodup : ((Roster.ofDeeds c.deeds).jobs.map (·.channel)).Nodup :=
    h.increasing.imp fun hlt => Nat.ne_of_lt hlt
  have hlt : i < ((Roster.ofDeeds c.deeds).jobs.map (·.channel)).length := by
    simpa using (List.getElem?_eq_some_iff.mp hjob).1
  apply (List.getElem?_inj hlt hnodup).mp
  rw [List.getElem?_map, List.getElem?_map, hjob, hother, Option.map_some, Option.map_some, heq]

/-- Where ids differ, two jobs have different ids. -/
theorem eq_of_id (h : c.Enrolled office) (hinj : Function.Injective office.jobId) {i k : Nat}
    {job other : Assignment} (hjob : (Roster.ofDeeds c.deeds).jobs[i]? = some job)
    (hother : (Roster.ofDeeds c.deeds).jobs[k]? = some other) (heq : job.id = other.id) :
    i = k := by
  apply h.eq_of_channel hjob hother
  apply hinj
  rw [← (h.issued job (List.mem_of_getElem? hjob)).1, heq,
    (h.issued other (List.mem_of_getElem? hother)).1]

end Course.Enrolled

end LayerPress
