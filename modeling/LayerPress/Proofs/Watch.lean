import LayerPress.Proofs.Course
import LayerPress.Proofs.Machine
import LayerPress.Proofs.Monitor

/-!
# Watching a course

A watch follows every job's task and every request of a course with monitors, and gives the
task of a queued job its first state. The states are read off the deeds. As long as every task
passes from the state it is in, each deed is one that its actor's monitor admits; so what is to
hold throughout a course need only be kept by admitted deeds.
-/

namespace LayerPress

/-- The tasks of a list stand in a relation to the states of another list, one by one. -/
structure Staffed {P α : Type} (R : P → α → Prop) (states : List P) (tasks : List α) : Prop where
  length : states.length = tasks.length
  each : ∀ (i : Nat) (p : P) (t : α), states[i]? = some p → tasks[i]? = some t → R p t

namespace Staffed

variable {P α : Type} {R : P → α → Prop} {states more : List P} {tasks others : List α} {i : Nat}

/-- Nobody is related to nobody. -/
theorem nil : Staffed R [] [] := ⟨rfl, fun _ _ _ h => by simp at h⟩

/-- One of each is related if they are. -/
theorem single {p : P} {t : α} (h : R p t) : Staffed R [p] [t] := by
  refine ⟨rfl, fun i q u hq hu => ?_⟩
  cases i with
  | zero => cases hq; cases hu; exact h
  | succ i => simp at hq

/-- Every task has a state. -/
theorem exists_state (h : Staffed R states tasks) {t : α} (ht : tasks[i]? = some t) :
    ∃ p, states[i]? = some p ∧ R p t := by
  have hlt : i < states.length := h.length ▸ (List.getElem?_eq_some_iff.mp ht).1
  have hp := List.getElem?_eq_getElem hlt
  exact ⟨states[i], hp, h.each i _ t hp ht⟩

/-- Every state has a task. -/
theorem exists_task (h : Staffed R states tasks) {p : P} (hp : states[i]? = some p) :
    ∃ t, tasks[i]? = some t ∧ R p t := by
  have hlt : i < tasks.length := h.length ▸ (List.getElem?_eq_some_iff.mp hp).1
  have ht := List.getElem?_eq_getElem hlt
  exact ⟨tasks[i], ht, h.each i p _ hp ht⟩

/-- One task goes on, and its state with it. -/
theorem moved (h : Staffed R states tasks) {f : P → P} {t : α}
    (ht : ∀ p, states[i]? = some p → R (f p) t) :
    Staffed R (states.modify i f) (tasks.set i t) where
  length := by simpa using h.length
  each := by
    intro k p u hp hu
    by_cases hk : i = k
    · subst hk
      rw [List.getElem?_modify_eq] at hp
      obtain ⟨old, hold, rfl⟩ := Option.map_eq_some_iff.mp hp
      have hlt : i < tasks.length := h.length ▸ (List.getElem?_eq_some_iff.mp hold).1
      rw [List.getElem?_set_self hlt] at hu
      exact Option.some.inj hu ▸ ht old hold
    · rw [List.getElem?_modify_ne f states hk] at hp
      rw [List.getElem?_set_ne hk] at hu
      exact h.each k p u hp hu

/-- More tasks join with their states. -/
theorem append (h : Staffed R states tasks) (hmore : Staffed R more others) :
    Staffed R (states ++ more) (tasks ++ others) where
  length := by simp [h.length, hmore.length]
  each := by
    intro k p u hp hu
    rcases Nat.lt_or_ge k states.length with hk | hk
    · rw [List.getElem?_append_left hk] at hp
      rw [List.getElem?_append_left (h.length ▸ hk)] at hu
      exact h.each k p u hp hu
    · rw [List.getElem?_append_right hk] at hp
      rw [List.getElem?_append_right (h.length ▸ hk), ← h.length] at hu
      exact hmore.each _ p u hp hu

end Staffed

/-- The action queues a job. -/
def TaskAction.queues : TaskAction → Bool
  | .queueImport _ | .queueTeardown .. => true
  | _ => false

namespace Machine

variable {σ : Type} {office : Office σ} {m m' : Machine σ} {who : Actor}

/-- An action that queues no job leaves the tasks as they are. -/
theorem tasks_of_handle {a : TaskAction} {x : a.Answer} (hqueues : a.queues = false)
    (h : m.handle office who a = some (x, m')) : m'.tasks = m.tasks := by
  cases a with
  | site a => exact (sameJobs_of_onSite h).tasks
  | takePermit =>
    simp only [handle] at h
    split at h <;> cases h
    rfl
  | subscribe id =>
    simp only [handle] at h
    split at h <;> cases h <;> rfl
  | queueImport | queueTeardown => cases hqueues
  | _ => cases h; rfl

end Machine

/-- Monitors for the tasks of jobs and for requests, and the first state of a job that a deed
queued. -/
structure Watch (P R : Type) where
  job : Monitor taskActions P
  client : Monitor taskActions R
  opening : Deed → Option P

namespace Watch

variable {P R σ ρ : Type}

/-- The states of the jobs after one more deed. -/
def noteJobs (W : Watch P R) (states : List P) (d : Deed) : List P :=
  (match d.actor with
    | .job i => states.modify i (W.job.after · d.action d.answer)
    | .client _ => states) ++ (W.opening d).toList

/-- The states of the requests after one more deed. -/
def noteClients (W : Watch P R) (states : List R) (d : Deed) : List R :=
  match d.actor with
  | .job _ => states
  | .client i => states.modify i (W.client.after · d.action d.answer)

/-- The deed is one that the monitor of its actor admits in the actor's state. -/
def Admits (W : Watch P R) (jobs : List P) (clients : List R) (d : Deed) : Prop :=
  match d.actor with
  | .job i => ∃ p, jobs[i]? = some p ∧ W.job.admits p d.action
  | .client i => ∃ r, clients[i]? = some r ∧ W.client.admits r d.action

/-- Queued jobs begin in states from which their tasks pass. -/
structure Fits (W : Watch P R) (Qj : P → Prop) (office : Office σ) : Prop where
  imports : ∀ who layer id, ∃ p, W.opening ⟨who, .queueImport layer, .ok id⟩ = some p ∧
    ∀ channel, W.job.Passes (fun _ => Qj) p (Task.importJob office.settings id channel layer)
  refused : ∀ who layer id, W.opening ⟨who, .queueImport layer, .error id⟩ = none
  teardowns : ∀ who table entry id, ∃ p,
    W.opening ⟨who, .queueTeardown table entry, id⟩ = some p ∧
      ∀ channel, W.job.Passes (fun _ => Qj) p
        (Task.teardownJob office.settings id channel table entry)
  others : ∀ d, d.action.queues = false → W.opening d = none

/-- Every task of a scene passes from the state that it is watched in. -/
structure Sees (W : Watch P R) (Qj : P → Prop) (Qc : ρ → R → Prop) (jobs : List P)
    (clients : List R) (s : Scene σ ρ) : Prop where
  jobs : Staffed (fun p t => W.job.Passes (fun _ => Qj) p t) jobs s.machine.tasks
  clients : Staffed (fun r t => W.client.Passes Qc r t) clients s.clients

variable {W : Watch P R} {Qj : P → Prop} {Qc : ρ → R → Prop} {office : Office σ}
  {jobs : List P} {clients : List R}

/-- After a deed of a job that queues none, its state has moved and the others have not. -/
theorem getElem?_noteJobs_job {i : Nat} {p : P} (hp : jobs[i]? = some p) {a : TaskAction}
    {x : a.Answer} (hnone : W.opening ⟨.job i, a, x⟩ = none) {k : Nat} {q : P} :
    (W.noteJobs jobs ⟨.job i, a, x⟩)[k]? = some q ↔
      k = i ∧ q = W.job.after p a x ∨ k ≠ i ∧ jobs[k]? = some q := by
  simp only [noteJobs, hnone, Option.toList_none, List.append_nil]
  by_cases hk : k = i
  · subst hk
    simp [hp, eq_comm]
  · rw [List.getElem?_modify_ne _ _ (Ne.symm hk)]
    simp [hk]

/-- After a deed of a request the jobs are as they were, and there may be one more. -/
theorem getElem?_noteJobs_client {i : Nat} {a : TaskAction} {x : a.Answer} {k : Nat} {q : P} :
    (W.noteJobs jobs ⟨.client i, a, x⟩)[k]? = some q ↔
      jobs[k]? = some q ∨ k = jobs.length ∧ W.opening ⟨.client i, a, x⟩ = some q := by
  simp only [noteJobs]
  rcases Nat.lt_trichotomy k jobs.length with hk | rfl | hk
  · rw [List.getElem?_append_left hk]
    simp [Nat.ne_of_lt hk]
  · rw [List.getElem?_append_right (Nat.le_refl _), Nat.sub_self]
    cases W.opening ⟨.client i, a, x⟩ <;> simp
  · have hnone : jobs[k]? = none := List.getElem?_eq_none (Nat.le_of_lt hk)
    have hne : k ≠ jobs.length := Nat.ne_of_gt hk
    rw [List.getElem?_append_right (Nat.le_of_lt hk), hnone]
    have hpos : k - jobs.length ≠ 0 := by omega
    cases W.opening ⟨.client i, a, x⟩ <;> simp [hne, hpos]

/-- A deed of a request that queues no job leaves the jobs as they were. -/
theorem noteJobs_client_of_none {i : Nat} {a : TaskAction} {x : a.Answer}
    (hnone : W.opening ⟨.client i, a, x⟩ = none) : W.noteJobs jobs ⟨.client i, a, x⟩ = jobs := by
  simp only [noteJobs, hnone, Option.toList_none, List.append_nil]

/-- A state among some and one more is one of those or that one. -/
theorem of_getElem?_concat {p q : P} {k : Nat} (h : (jobs ++ [p])[k]? = some q) :
    jobs[k]? = some q ∨ k = jobs.length ∧ q = p := by
  rw [List.getElem?_append] at h
  split at h
  · exact .inl h
  · rw [List.getElem?_singleton] at h
    split at h
    · cases h
      exact .inr ⟨by omega, rfl⟩
    · cases h

/-- Time goes by without a task moving. -/
theorem Sees.later {s : Scene σ ρ} (h : W.Sees Qj Qc jobs clients s) (elapsed : Nat) :
    W.Sees Qj Qc jobs clients (s.later elapsed) := ⟨h.jobs, h.clients⟩

/-- The jobs that an action queues begin where they are watched from. -/
theorem Fits.staffed_opening (hfits : W.Fits Qj office) {m m' : Machine σ} {who : Actor}
    {a : TaskAction} {x : a.Answer} (h : m.handle office who a = some (x, m')) :
    ∃ others, m'.tasks = m.tasks ++ others ∧
      Staffed (fun p t => W.job.Passes (fun _ => Qj) p t) (W.opening ⟨who, a, x⟩).toList others := by
  cases hqueues : a.queues with
  | false =>
    refine ⟨[], by rw [Machine.tasks_of_handle hqueues h, List.append_nil], ?_⟩
    rw [hfits.others _ hqueues]
    exact .nil
  | true =>
    cases a with
    | queueImport layer =>
      cases Machine.queued_of_queueImport h with
      | @refused _ running _ htasks =>
        refine ⟨[], by rw [htasks, List.append_nil], ?_⟩
        rw [hfits.refused]
        exact .nil
      | started _ htasks =>
        obtain ⟨p, hp, hpasses⟩ := hfits.imports who layer (office.jobId m.nextJob)
        refine ⟨_, htasks, ?_⟩
        rw [hp]
        exact .single (hpasses _)
    | queueTeardown table entry =>
      obtain ⟨p, hp, hpasses⟩ := hfits.teardowns who table entry x
      cases Machine.queued_of_queueTeardown h with
      | started _ htasks =>
        refine ⟨_, htasks, ?_⟩
        rw [hp]
        exact .single (hpasses _)
    | _ => cases hqueues

/-- A deed is admitted, and after it every task still passes from where it is watched. -/
theorem Sees.act (hfits : W.Fits Qj office) {s s' : Scene σ ρ}
    (h : W.Sees Qj Qc jobs clients s) {who : Actor} {d : Deed}
    (htake : s.take office who = some (d, s')) :
    W.Admits jobs clients d ∧ W.Sees Qj Qc (W.noteJobs jobs d) (W.noteClients clients d) s' := by
  cases who with
  | job i =>
    obtain ⟨a, next, x, m', htask, hhandle, rfl, rfl⟩ := Scene.take_job_eq_some htake
    obtain ⟨p, hp, hpasses⟩ := h.jobs.exists_state htask
    obtain ⟨others, htasks, hothers⟩ := hfits.staffed_opening hhandle
    have hlt : i < s.machine.tasks.length := (List.getElem?_eq_some_iff.mp htask).1
    refine ⟨⟨p, hp, hpasses.1⟩, ?_, h.clients⟩
    have hmoved : Staffed (fun p t => W.job.Passes (fun _ => Qj) p t)
        (jobs.modify i (W.job.after · a x)) (s.machine.tasks.set i (next x)) :=
      h.jobs.moved fun q hq => by
        cases hp.symm.trans hq
        exact hpasses.2 x
    change Staffed _ _ (m'.tasks.set i (next x))
    rw [htasks, List.set_append_left _ _ hlt]
    exact hmoved.append hothers
  | client i =>
    obtain ⟨a, next, x, m', htask, hhandle, rfl, rfl⟩ := Scene.take_client_eq_some htake
    obtain ⟨r, hr, hpasses⟩ := h.clients.exists_state htask
    obtain ⟨others, htasks, hothers⟩ := hfits.staffed_opening hhandle
    refine ⟨⟨r, hr, hpasses.1⟩, ?_, ?_⟩
    · change Staffed _ _ m'.tasks
      rw [htasks]
      exact h.jobs.append hothers
    · exact h.clients.moved fun q hq => by
        cases hr.symm.trans hq
        exact hpasses.2 x

end Watch

end LayerPress
