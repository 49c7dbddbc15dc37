import LayerPress.Proofs.JobHistory
import LayerPress.Proofs.Plain
import LayerPress.Proofs.Roster

/-!
# How jobs end

What a subscriber hears of a job, what the store says of it and what its work came to are three
views of one thing, the transcript of its task. A stored job shows the verdict of this transcript,
or that it runs if there is none yet, and nothing takes it away before another job is queued after
its end.
-/

namespace LayerPress

/-- The verdict in a transcript. -/
def verdictIn (log : List (Exchange taskActions)) : Option Verdict :=
  (endingsIn log).head?.map (·.2)

/-- A stored job is that of an assignment, and has ended as given or runs. -/
structure Job.Shows (j : Job) (job : Assignment) (verdict : Option Verdict) : Prop where
  id : j.id = job.id
  kind : j.kind = job.errand.kind
  layer : j.layer = job.errand.layer?
  channel : j.channel = job.channel
  status : j.status = (verdict.map (·.status)).getD .running
  result : j.result = verdict.bind (·.result)
  error : j.error = verdict.bind (·.error)

/-- A job was to be queued when this one had ended. -/
def QueuedAfterEnd (i : Nat) (deeds : List Deed) : Prop :=
  ∃ earlier d later, deeds = earlier ++ d :: later ∧ d.action.queues = true ∧
    verdictIn (exchangesOf (.job i) earlier) ≠ none

/-- What is queued before the last deed is queued after it. -/
theorem QueuedAfterEnd.concat {i : Nat} {deeds : List Deed} (h : QueuedAfterEnd i deeds)
    (d : Deed) : QueuedAfterEnd i (deeds ++ [d]) := by
  obtain ⟨earlier, e, later, rfl, hqueues, hended⟩ := h
  exact ⟨earlier, e, later ++ [d], by simp, hqueues, hended⟩

/-- A transcript has no verdict exactly if it has no ending. -/
theorem verdictIn_eq_none {log : List (Exchange taskActions)} :
    verdictIn log = none ↔ endingsIn log = [] := by
  simp [verdictIn]

/-- One more deed of an actor may end one more job. -/
theorem endingsIn_concat {who : Actor} {d : Deed} (h : d.actor = who) (deeds : List Deed) :
    endingsIn (exchangesOf who (deeds ++ [d])) =
      endingsIn (exchangesOf who deeds) ++ d.action.ending?.toList := by
  rw [← h, exchangesOf_concat_self, endingsIn_append]
  cases hends : d.action.ending? <;> simp [endingsIn, hends]

/-- What ends no job changes no verdict. -/
theorem verdictIn_concat_of_none {deeds : List Deed} {d : Deed} (h : d.action.ending? = none)
    (who : Actor) :
    verdictIn (exchangesOf who (deeds ++ [d])) = verdictIn (exchangesOf who deeds) := by
  by_cases hactor : d.actor = who
  · rw [verdictIn, endingsIn_concat hactor, h, Option.toList_none, List.append_nil, verdictIn]
  · rw [exchangesOf_concat_of_ne hactor]

/-- What ends a job queues none. -/
theorem TaskAction.queues_of_ending? {a : TaskAction} (h : a.ending?.isSome) :
    a.queues = false := by
  cases a with
  | queueImport | queueTeardown => cases h
  | _ => rfl

/-- A quiet action ends no job. -/
theorem TaskAction.ending?_of_isQuiet {a : TaskAction} (h : a.isQuiet = true) :
    a.ending? = none := by
  cases a with
  | endJob => cases h
  | _ => rfl

/-- What queues a job ends none. -/
theorem TaskAction.ending?_of_queues {a : TaskAction} (h : a.queues = true) : a.ending? = none := by
  cases a with
  | queueImport | queueTeardown => rfl
  | _ => cases h

section
variable {σ ρ : Type} {office : Office σ} {c : Course σ ρ} {m m' : Machine σ} {d : Deed}

/-! ## What a deed does to the store -/

/-- Jobs are stored by queueing, and changed by ending them. -/
theorem Machine.Handled.jobs_eq (h : m.Handled office d m') (hqueues : d.action.queues = false)
    (hends : d.action.ending? = none) : m'.jobs = m.jobs := by
  cases h with
  | quiet _ jobs => exact jobs
  | ended => cases hends
  | refused queues | queued queues => rw [hqueues] at queues; cases queues
  | _ => rfl

/-- Ending a job is what the store is told of it. -/
theorem Machine.Handled.jobs_of_ending (h : m.Handled office d m') {id : JobId} {verdict : Verdict}
    (hends : d.action.ending? = some (id, verdict)) :
    m'.jobs = m.jobs.finish m.now id verdict.status verdict.result verdict.error := by
  cases h with
  | quiet quiet => rw [TaskAction.ending?_of_isQuiet quiet] at hends; cases hends
  | ended => cases hends; rfl
  | refused queues | queued queues => rw [TaskAction.ending?_of_queues queues] at hends; cases hends
  | _ => cases hends

/-! ## What the store says -/

/-- Every stored job shows what its task has done, and a job is stored at least until another is
queued after its end. -/
structure Course.Stored (c : Course σ ρ) : Prop where
  sound : c.scene.machine.jobs.Sound
  shown : ∀ j ∈ c.scene.machine.jobs.jobs, ∃ i job, (Roster.ofDeeds c.deeds).jobs[i]? = some job ∧
    j.Shows job (verdictIn (exchangesOf (.job i) c.deeds))
  stored : ∀ (i : Nat) job, (Roster.ofDeeds c.deeds).jobs[i]? = some job →
    ¬QueuedAfterEnd i c.deeds → ∃ j ∈ c.scene.machine.jobs.jobs, j.id = job.id

namespace Course.Stored

/-- Nothing is stored before anything happens. -/
theorem start (site : Site σ) (workers : Nat) (clients : List (Task ρ)) :
    (Course.start ⟨Machine.start site workers, clients⟩).Stored where
  sound := JobStore.sound_empty
  shown := by simp [Course.start, Machine.start, JobStore.empty, JobStore.timedBy]
  stored := by simp [Course.start, Roster.ofDeeds]

variable {s : Scene σ ρ}

/-- A deed that neither queues nor ends a job leaves the store as it is. -/
theorem unchanged (h : c.Stored) (hqueues : d.action.queues = false)
    (hends : d.action.ending? = none) (hjobs : s.machine.jobs = c.scene.machine.jobs) :
    Course.Stored ⟨s, c.deeds ++ [d]⟩ := by
  have hroster : (Roster.ofDeeds (c.deeds ++ [d])).jobs = (Roster.ofDeeds c.deeds).jobs :=
    Roster.jobs_concat_of_not_queues hqueues
  refine ⟨hjobs ▸ h.sound, ?_, ?_⟩
  · simp only [hjobs, hroster, verdictIn_concat_of_none hends]
    exact h.shown
  · simp only [hjobs, hroster]
    exact fun i job hjob hkept => h.stored i job hjob fun hqueued => hkept (hqueued.concat d)

/-- The job that a task ends shows the verdict from then on. -/
theorem ended (h : c.Stored) (hrolled : c.Enrolled office)
    (hinj : Function.Injective office.jobId) {i : Nat} {job : Assignment} {verdict : Verdict}
    (hactor : d.actor = .job i) (hjob : (Roster.ofDeeds c.deeds).jobs[i]? = some job)
    (hends : d.action.ending? = some (job.id, verdict)) (hstatus : verdict.status ≠ .running)
    (hfirst : verdictIn (exchangesOf (.job i) c.deeds) = none)
    (hjobs : s.machine.jobs = c.scene.machine.jobs.finish c.scene.machine.now job.id
      verdict.status verdict.result verdict.error) :
    Course.Stored ⟨s, c.deeds ++ [d]⟩ := by
  have hroster : (Roster.ofDeeds (c.deeds ++ [d])).jobs = (Roster.ofDeeds c.deeds).jobs :=
    Roster.jobs_concat_of_not_queues (TaskAction.queues_of_ending? (by simp [hends]))
  have hown : verdictIn (exchangesOf (.job i) (c.deeds ++ [d])) = some verdict := by
    rw [verdictIn, endingsIn_concat hactor, verdictIn_eq_none.mp hfirst, hends]
    rfl
  have hids : ∀ x ∈ c.scene.machine.jobs.jobs, ∃ j ∈ s.machine.jobs.jobs, j.id = x.id := by
    intro x hx
    rw [hjobs, JobStore.finish_jobs]
    refine ⟨_, List.mem_map_of_mem hx, ?_⟩
    split <;> rfl
  refine ⟨hjobs ▸ h.sound.finish hstatus _ _, ?_, ?_⟩
  · intro j hj
    simp only [hjobs, JobStore.finish_jobs, List.mem_map] at hj
    obtain ⟨x, hx, rfl⟩ := hj
    obtain ⟨k, other, hother, hshows⟩ := h.shown x hx
    refine ⟨k, other, hroster ▸ hother, ?_⟩
    by_cases hid : x.id = job.id
    · obtain rfl := hrolled.eq_of_id hinj hother hjob (hshows.id.symm.trans hid)
      obtain rfl := Option.some.inj (hother.symm.trans hjob)
      rw [hown]
      simp only [hid, beq_self_eq_true, if_true]
      exact ⟨rfl, hshows.kind, hshows.layer, hshows.channel, rfl, rfl, rfl⟩
    · have hne : d.actor ≠ .job k := by
        intro heq
        obtain rfl : i = k := by simpa using hactor.symm.trans heq
        obtain rfl := Option.some.inj (hother.symm.trans hjob)
        exact hid hshows.id
      simp only [beq_eq_false_iff_ne.mpr hid, Bool.false_eq_true, if_false]
      rw [exchangesOf_concat_of_ne hne]
      exact hshows
  · intro k other hother hkept
    obtain ⟨x, hx, hid⟩ := h.stored k other (hroster ▸ hother)
      fun hqueued => hkept (hqueued.concat d)
    obtain ⟨j, hj, hjid⟩ := hids x hx
    exact ⟨j, hj, hjid.trans hid⟩

/-- Eviction takes away no job that runs. -/
theorem stored_evict (h : c.Stored) (hrolled : c.Enrolled office)
    (hinj : Function.Injective office.jobId) (hqueues : d.action.queues = true) {i : Nat}
    {job : Assignment} (hjob : (Roster.ofDeeds c.deeds).jobs[i]? = some job)
    (hkept : ¬QueuedAfterEnd i (c.deeds ++ [d])) (now : Nat) :
    ∃ j ∈ (c.scene.machine.jobs.evict now).jobs, j.id = job.id := by
  obtain ⟨j, hj, hid⟩ := h.stored i job hjob fun hqueued => hkept (hqueued.concat d)
  obtain ⟨k, other, hother, hshows⟩ := h.shown j hj
  obtain rfl := hrolled.eq_of_id hinj hother hjob (hshows.id.symm.trans hid)
  have hruns : verdictIn (exchangesOf (.job k) c.deeds) = none := by
    by_contra hended
    exact hkept ⟨c.deeds, d, [], rfl, hqueues, hended⟩
  have hrunning : j.isRunning := by
    simp [Job.isRunning, hshows.status, hruns]
  exact ⟨j, h.sound.mem_evict hj hrunning now, hid⟩

/-- What eviction leaves shows what it did before, when a job is queued. -/
theorem shown_evict (h : c.Stored) (hqueues : d.action.queues = true) (now : Nat) :
    ∀ j ∈ (c.scene.machine.jobs.evict now).jobs, ∃ i job,
      (Roster.ofDeeds (c.deeds ++ [d])).jobs[i]? = some job ∧
        j.Shows job (verdictIn (exchangesOf (.job i) (c.deeds ++ [d]))) := by
  intro j hj
  obtain ⟨i, job, hjob, hshows⟩ := h.shown j (List.mem_of_mem_filter hj)
  refine ⟨i, job, Roster.getElem?_concat hjob d, ?_⟩
  rw [verdictIn_concat_of_none (TaskAction.ending?_of_queues hqueues)]
  exact hshows

/-- A refused job evicts only jobs that have ended. -/
theorem refused (h : c.Stored) (hrolled : c.Enrolled office)
    (hinj : Function.Injective office.jobId) (hqueues : d.action.queues = true)
    (hrefused : ∀ channel, d.assignment? channel = none) {now : Nat}
    (hjobs : s.machine.jobs = c.scene.machine.jobs.evict now) :
    Course.Stored ⟨s, c.deeds ++ [d]⟩ := by
  refine ⟨hjobs ▸ h.sound.evict now, hjobs ▸ h.shown_evict hqueues now, ?_⟩
  intro i job hjob hkept
  rw [Roster.ofDeeds_concat, Roster.note, hrefused, Option.toList_none, List.append_nil] at hjob
  change ∃ j ∈ s.machine.jobs.jobs, _
  rw [hjobs]
  exact h.stored_evict hrolled hinj hqueues hjob hkept now

/-- A queued job is stored and runs, and only jobs that have ended are evicted. -/
theorem queued (h : c.Stored) (hrolled : c.Enrolled office)
    (hafter : Course.Enrolled office ⟨s, c.deeds ++ [d]⟩) (hinj : Function.Injective office.jobId)
    (hqueues : d.action.queues = true) {new : Assignment}
    (hnew : d.assignment? (Roster.ofDeeds c.deeds).attempts = some new) {now : Nat}
    (hjobs : s.machine.jobs =
      ((c.scene.machine.jobs.evict now).notedWith new.errand.layer? new.id).put
        (Job.start new.id new.errand.kind new.errand.layer? new.channel now)) :
    Course.Stored ⟨s, c.deeds ++ [d]⟩ := by
  have hroster : (Roster.ofDeeds (c.deeds ++ [d])).jobs =
      (Roster.ofDeeds c.deeds).jobs ++ [new] := by
    rw [Roster.ofDeeds_concat, Roster.note, hnew, Option.toList_some]
  have hlast : (Roster.ofDeeds (c.deeds ++ [d])).jobs[c.scene.machine.tasks.length]? =
      some new := by
    rw [hroster, ← hrolled.length]
    simp
  have hfresh : ∀ k ∈ ((c.scene.machine.jobs.evict now).notedWith new.errand.layer? new.id).jobs,
      k.id ≠ new.id := by
    rw [JobStore.notedWith_jobs]
    intro k hk hid
    obtain ⟨i, job, hjob, hshows⟩ := h.shown k (List.mem_of_mem_filter hk)
    have heq := hafter.eq_of_id hinj (Roster.getElem?_concat hjob d) hlast
      (hshows.id.symm.trans hid)
    have hlt := (List.getElem?_eq_some_iff.mp hjob).1
    rw [hrolled.length] at hlt
    omega
  have hstored : s.machine.jobs.jobs = (c.scene.machine.jobs.evict now).jobs ++
      [Job.start new.id new.errand.kind new.errand.layer? new.channel now] := by
    rw [hjobs, JobStore.put_jobs hfresh, JobStore.notedWith_jobs]
  have hruns :
      verdictIn (exchangesOf (.job c.scene.machine.tasks.length) (c.deeds ++ [d])) = none := by
    rw [verdictIn_concat_of_none (TaskAction.ending?_of_queues hqueues),
      hrolled.exchangesOf_eq_nil (Nat.le_refl _)]
    rfl
  refine ⟨hjobs ▸ ((h.sound.evict now).notedWith _ _).put hfresh rfl, ?_, ?_⟩
  · intro j hj
    change j ∈ s.machine.jobs.jobs at hj
    rw [hstored, List.mem_append, List.mem_singleton] at hj
    rcases hj with hj | rfl
    · exact h.shown_evict hqueues now j hj
    · exact ⟨_, new, hlast, hruns ▸ ⟨rfl, rfl, rfl, rfl, rfl, rfl, rfl⟩⟩
  · intro i job hjob hkept
    change ∃ j ∈ s.machine.jobs.jobs, _
    rw [hstored]
    rw [hroster] at hjob
    rcases Watch.of_getElem?_concat hjob with hjob | ⟨-, rfl⟩
    · obtain ⟨j, hj, hid⟩ := h.stored_evict hrolled hinj hqueues hjob hkept now
      exact ⟨j, List.mem_append_left _ hj, hid⟩
    · exact ⟨_, List.mem_append_right _ (List.mem_singleton_self _), rfl⟩

/-- The first ending in the transcript of a task is that of its own job. -/
theorem exists_verdict (hafter : Course.Enrolled office ⟨s, c.deeds ++ [d]⟩) {i : Nat}
    {job : Assignment} {id : JobId} {verdict : Verdict} (hactor : d.actor = .job i)
    (hjob : (Roster.ofDeeds (c.deeds ++ [d])).jobs[i]? = some job)
    (hends : d.action.ending? = some (id, verdict)) :
    id = job.id ∧ verdict.status ≠ .running ∧ verdictIn (exchangesOf (.job i) c.deeds) = none := by
  obtain ⟨t, -, work, events, given, htrace⟩ := hafter.exists_trace hjob
  have hended := htrace.ended
  change endingsIn (exchangesOf (.job i) (c.deeds ++ [d])) <+: _ at hended
  rw [endingsIn_concat hactor, hends, Option.toList_some] at hended
  have hnone : endingsIn (exchangesOf (.job i) c.deeds) = [] := by
    have hlength := hended.length_le
    rw [List.length_append, List.length_singleton, List.length_singleton] at hlength
    exact List.eq_nil_of_length_eq_zero (by omega)
  rw [hnone, List.nil_append] at hended
  obtain ⟨rfl, rfl⟩ : id = job.id ∧ verdict = given := by simpa using hended
  exact ⟨rfl, htrace.report.status_ne_running, verdictIn_eq_none.mpr hnone⟩

/-- The job that a deed ends is that of its own task. -/
theorem exists_ended (hrolled : c.Enrolled office) {m : Machine σ}
    (htook : c.scene.Took office s d m) {ending : JobId × Verdict}
    (hends : d.action.ending? = some ending) :
    ∃ i job, d.actor = .job i ∧ (Roster.ofDeeds c.deeds).jobs[i]? = some job := by
  cases hactor : d.actor with
  | job i =>
    obtain ⟨next, hbefore, -⟩ := htook.own i hactor
    obtain ⟨job, hjob⟩ := hrolled.exists_job hbefore
    exact ⟨i, job, rfl, hjob⟩
  | client i =>
    obtain ⟨next, hbefore, -⟩ := htook.request i hactor
    have hopen := (hrolled.clients _ (List.mem_of_getElem? hbefore)).1
    cases haction : d.action with
    | endJob => rw [haction] at hopen; exact hopen.elim
    | _ => rw [haction] at hends; cases hends

/-- What the store says after one more deed. -/
theorem act (h : c.Stored) (hrolled : c.Enrolled office) (hinj : Function.Injective office.jobId)
    {who : Actor} (htake : c.scene.take office who = some (d, s)) :
    Course.Stored ⟨s, c.deeds ++ [d]⟩ := by
  obtain ⟨m, htook⟩ := Scene.exists_took htake
  have hafter := hrolled.act htake
  have hmachine : s.machine.jobs = m.jobs := by rw [htook.machine]
  have hhandled := htook.handled
  cases hqueues : d.action.queues with
  | true =>
    cases hhandled with
    | refused _ hrefused hjobs =>
      exact h.refused hrolled hinj hqueues hrefused (hmachine.trans hjobs)
    | queued _ hnew _ _ hjobs =>
      rw [hrolled.nextChannel] at hnew
      exact h.queued hrolled hafter hinj hqueues hnew (hmachine.trans hjobs)
    | quiet quiet => rw [TaskAction.queues_of_isQuiet quiet] at hqueues; cases hqueues
    | _ => cases hqueues
  | false =>
    cases hends : d.action.ending? with
    | none => exact h.unchanged hqueues hends (hmachine.trans (hhandled.jobs_eq hqueues hends))
    | some ending =>
      obtain ⟨i, job, hactor, hjob⟩ := exists_ended hrolled htook hends
      have hjob' : (Roster.ofDeeds (c.deeds ++ [d])).jobs[i]? = some job :=
        Roster.getElem?_concat hjob d
      obtain ⟨id, verdict⟩ := ending
      obtain ⟨rfl, hstatus, hfirst⟩ := exists_verdict hafter hactor hjob' hends
      exact h.ended hrolled hinj hactor hjob hends hstatus hfirst
        (hmachine.trans (hhandled.jobs_of_ending hends))

/-- The store says the same while time goes by. -/
theorem later (h : c.Stored) (elapsed : Nat) :
    Course.Stored ⟨c.scene.later elapsed, c.deeds⟩ :=
  ⟨h.sound, h.shown, h.stored⟩

/-- The store shows what the tasks have done throughout a course. -/
theorem run (h : c.Stored) (hrolled : c.Enrolled office) (hinj : Function.Injective office.jobId)
    (turns : List Turn) : (c.run office turns).Enrolled office ∧ (c.run office turns).Stored :=
  run_induction (P := fun c => c.Enrolled office ∧ c.Stored) ⟨hrolled, h⟩
    (fun _ _ _ _ hc htake => ⟨hc.1.act htake, hc.2.act hc.1 hinj htake⟩)
    (fun _ elapsed hc => ⟨hc.1.later elapsed, hc.2.later elapsed⟩) turns

/-- A job that is found is the one of its id, as its task has left it. -/
theorem shows_of_get? (h : c.Stored) (hrolled : c.Enrolled office)
    (hinj : Function.Injective office.jobId) {i : Nat} {job : Assignment}
    (hjob : (Roster.ofDeeds c.deeds).jobs[i]? = some job) {j : Job}
    (hfound : c.scene.machine.jobs.get? job.id = some j) :
    j.Shows job (verdictIn (exchangesOf (.job i) c.deeds)) := by
  obtain ⟨hj, hid⟩ := (JobStore.get?_eq_some_iff h.sound).mp hfound
  obtain ⟨k, other, hother, hshows⟩ := h.shown j hj
  obtain rfl := hrolled.eq_of_id hinj hother hjob (hshows.id.symm.trans hid)
  obtain rfl := Option.some.inj (hother.symm.trans hjob)
  exact hshows

/-- A job is found as long as no other is queued after its end. -/
theorem exists_get? (h : c.Stored) {i : Nat} {job : Assignment}
    (hjob : (Roster.ofDeeds c.deeds).jobs[i]? = some job) (hkept : ¬QueuedAfterEnd i c.deeds) :
    ∃ j, c.scene.machine.jobs.get? job.id = some j := by
  obtain ⟨j, hj, hid⟩ := h.stored i job hjob hkept
  exact ⟨j, (JobStore.get?_eq_some_iff h.sound).mpr ⟨hj, hid⟩⟩

end Course.Stored

/-- What was queued after the end of a job came after its verdict. -/
theorem endingsIn_ne_nil_of_queuedAfterEnd {i : Nat} {deeds : List Deed}
    (h : QueuedAfterEnd i deeds) : endingsIn (exchangesOf (.job i) deeds) ≠ [] := by
  obtain ⟨earlier, d, later, rfl, -, hended⟩ := h
  intro hnone
  apply hended
  rw [exchangesOf, List.filter_append, List.map_append, endingsIn_append] at hnone
  exact verdictIn_eq_none.mpr (List.append_eq_nil_iff.mp hnone).1

/-- The store agrees with the transcript of a task: the job runs until it has a verdict, shows the
verdict from then on, and is there at least until another job is queued after it has ended. -/
structure StoreTrace (store : JobStore) (job : Assignment) (log : List (Exchange taskActions))
    (verdict : Verdict) (queuedSince : Prop) : Prop where
  running : endingsIn log = [] → ∃ j, store.get? job.id = some j ∧ j.Shows job none
  ended : endingsIn log ≠ [] → ∀ j, store.get? job.id = some j → j.Shows job (some verdict)
  kept : ¬queuedSince → ∃ j, store.get? job.id = some j

/-- The store agrees with the transcript of every task. -/
theorem Course.Stored.storeTrace (h : c.Stored) (hrolled : c.Enrolled office)
    (hinj : Function.Injective office.jobId) {i : Nat} {job : Assignment}
    (hjob : (Roster.ofDeeds c.deeds).jobs[i]? = some job) {verdict : Verdict}
    (hverdict : endingsIn (exchangesOf (.job i) c.deeds) <+: [(job.id, verdict)]) :
    StoreTrace c.scene.machine.jobs job (exchangesOf (.job i) c.deeds) verdict
      (QueuedAfterEnd i c.deeds) where
  running := by
    intro hnone
    obtain ⟨j, hfound⟩ := h.exists_get? hjob fun hqueued =>
      endingsIn_ne_nil_of_queuedAfterEnd hqueued hnone
    have hshows := h.shows_of_get? hrolled hinj hjob hfound
    rw [verdictIn_eq_none.mpr hnone] at hshows
    exact ⟨j, hfound, hshows⟩
  ended := by
    intro hended j hfound
    have hwhole := hverdict.eq_of_length_le (List.length_pos_of_ne_nil hended)
    have hshows := h.shows_of_get? hrolled hinj hjob hfound
    rw [verdictIn, hwhole] at hshows
    exact hshows
  kept := h.exists_get? hjob

/-- Every job ends once, and its events, its status and its outcome agree, whatever the services
answer and whatever else is requested. The events of a task are the progress of its work, then the
result and the end, or the error; the job ends with the verdict of the same report, once; and this
is what the store shows of it. -/
theorem jobs_end_once (office : Office σ) (hinj : Function.Injective office.jobId) (site : Site σ)
    (workers : Nat) (origins : List String) (requests : List Admin.Request) (turns : List Turn) :
    let c := (Course.start (Scene.receiving site workers origins requests)).run office turns
    ∀ (i : Nat) (t : Task Unit), c.scene.machine.tasks[i]? = some t →
      ∃ job work events verdict, (Roster.ofDeeds c.deeds).jobs[i]? = some job ∧
        TaskTrace office.settings job (exchangesOf (.job i) c.deeds) t.hasEnded work events
          verdict ∧
        StoreTrace c.scene.machine.jobs job (exchangesOf (.job i) c.deeds) verdict
          (QueuedAfterEnd i c.deeds) := by
  intro c i t ht
  obtain ⟨hrolled, hstored⟩ := Course.Stored.run (.start site workers _)
    (.receiving office site workers origins requests) hinj turns
  obtain ⟨job, hjob⟩ := hrolled.exists_job ht
  obtain ⟨u, hu, work, events, verdict, htrace⟩ := hrolled.exists_trace hjob
  obtain rfl := Option.some.inj (ht.symm.trans hu)
  exact ⟨job, work, events, verdict, hjob, htrace,
    hstored.storeTrace hrolled hinj hjob htrace.ended⟩

/-- A request to import the plain layer. -/
def importRequest : Admin.Request :=
  ⟨"POST", "/api/v1/layers/00000000-0000-0000-0000-000000000001/import", [], ""⟩

/-- The plain layer is imported, with nothing else going on. -/
def importCourse : Course Unit Admin.Response :=
  (Course.start (Scene.receiving (Site.plain [.plain "roads"]) 1 [] [importRequest])).run .plain
    (List.replicate 2 (.act (.client 0)) ++ List.replicate 29 (.act (.job 0)))

/-- The plain import ends once. -/
theorem jobs_end_once_import :
    Function.Injective Office.plain.jobId ∧ ∃ t, importCourse.scene.machine.tasks[0]? = some t ∧
      ∃ job work events verdict, (Roster.ofDeeds importCourse.deeds).jobs[0]? = some job ∧
        TaskTrace .plain job (exchangesOf (.job 0) importCourse.deeds) t.hasEnded work events
          verdict ∧
        StoreTrace importCourse.scene.machine.jobs job (exchangesOf (.job 0) importCourse.deeds)
          verdict (QueuedAfterEnd 0 importCourse.deeds) := by
  have hsome : importCourse.scene.machine.tasks[0]?.isSome = true := by decide +kernel
  obtain ⟨t, ht⟩ := Option.isSome_iff_exists.mp hsome
  unfold importCourse at ht ⊢
  exact ⟨Office.plain_jobId_injective, t, ht, jobs_end_once .plain Office.plain_jobId_injective
    (Site.plain [.plain "roads"]) 1 [] [importRequest] _ 0 t ht⟩

/-- The plain import tells eight stages, its result and its end, and is completed without an
error. -/
example :
    (eventsIn (exchangesOf (.job 0) importCourse.deeds)).map (·.isTerminal) =
        List.replicate 9 false ++ [true] ∧
      importCourse.scene.machine.tasks.map (·.hasEnded) = [true] ∧
      importCourse.scene.machine.jobs.jobs.map (fun j => (j.status, j.error)) =
        [(.completed, none)] := by
  decide +kernel

end

end LayerPress
