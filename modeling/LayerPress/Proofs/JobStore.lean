import LayerPress.Jobs.Store
import Mathlib.Data.List.Nodup

/-!
# What the job store knows of running jobs

Each operation of the store is described by its effect on two things: which jobs run, with the
layers they import, and which job is noted for a layer. Evicting old jobs changes neither, since
a job that runs has no time at which it finished. A registration is refused exactly when the job
noted for its layer still runs.
-/

namespace LayerPress.JobStore

variable {s : JobStore} {id id' : JobId} {layer : Uuid} {noted : Option Uuid} {now : Nat}
  {clock : Clock}

/-- Ids are unique and no running job has finished. -/
structure Sound (s : JobStore) : Prop where
  distinct : (s.jobs.map (·.id)).Nodup
  unfinished : ∀ j ∈ s.jobs, j.isRunning → j.finishedAt = none

/-- A job of this id and layer runs. -/
def Runs (s : JobStore) (id : JobId) (noted : Option Uuid) : Prop :=
  ∃ j ∈ s.jobs, j.id = id ∧ j.layer = noted ∧ j.isRunning

/-- The empty store is sound. -/
theorem sound_empty : Sound (empty.timedBy clock) :=
  ⟨List.nodup_nil, fun _ h => absurd h List.not_mem_nil⟩

/-- Looking a job up finds the one stored job of the id. -/
theorem get?_eq_some_iff (hs : s.Sound) {j : Job} :
    s.get? id = some j ↔ j ∈ s.jobs ∧ j.id = id := by
  constructor
  · intro h
    exact ⟨List.mem_of_find?_eq_some h, by simpa using List.find?_some h⟩
  · rintro ⟨hmem, hid⟩
    cases hfound : s.get? id with
    | none =>
      have := List.find?_eq_none.mp hfound j hmem
      exact absurd hid (by simpa using this)
    | some k =>
      have hk : k.id = id := by simpa using List.find?_some hfound
      have hkmem : k ∈ s.jobs := List.mem_of_find?_eq_some hfound
      exact congrArg some (List.inj_on_of_nodup_map hs.distinct hkmem hmem (hk.trans hid.symm))

/-! ## Eviction -/

/-- Eviction keeps soundness. -/
theorem Sound.evict (hs : s.Sound) (now : Nat) : (s.evict now).Sound where
  distinct := hs.distinct.sublist (List.filter_sublist.map _)
  unfinished := fun j hj => hs.unfinished j (List.mem_of_mem_filter hj)

/-- Eviction stops no running job and starts none. -/
theorem runs_evict (hs : s.Sound) : (s.evict now).Runs id noted ↔ s.Runs id noted := by
  constructor
  · rintro ⟨j, hj, h⟩
    exact ⟨j, List.mem_of_mem_filter hj, h⟩
  · rintro ⟨j, hj, hid, hlayer, hrun⟩
    have hfresh : isFresh s.clock now j = true := by simp [isFresh, hs.unfinished j hj hrun]
    exact ⟨j, List.mem_filter.mpr ⟨hj, hfresh⟩, hid, hlayer, hrun⟩

/-- The jobs that run are the same after eviction, and in the same order. -/
theorem Sound.running_evict (hs : s.Sound) (now : Nat) :
    (s.evict now).jobs.filter (·.isRunning) = s.jobs.filter (·.isRunning) := by
  rw [JobStore.evict, List.filter_filter]
  apply List.filter_congr
  intro j hj
  cases hrun : j.isRunning with
  | false => rfl
  | true => simp [isFresh, hs.unfinished j hj hrun]

/-- The running import of a layer is the running job noted for it. -/
theorem active?_eq_some_iff (hs : s.Sound) {j : Job} :
    s.active? layer = some j ↔ s.active.lookup layer = some j.id ∧ j ∈ s.jobs ∧ j.isRunning := by
  simp only [active?, registered?, Option.filter_eq_some_iff, Option.bind_eq_some_iff,
    get?_eq_some_iff hs]
  constructor
  · rintro ⟨⟨id, hnoted, hmem, rfl⟩, hrun⟩
    exact ⟨hnoted, hmem, hrun⟩
  · rintro ⟨hnoted, hmem, hrun⟩
    exact ⟨⟨j.id, hnoted, hmem, rfl⟩, hrun⟩

/-- A layer whose noted job runs has a running import. -/
theorem active?_isSome_of_runs (hs : s.Sound) (hnoted : s.active.lookup layer = some id)
    (hrun : s.Runs id noted) : (s.active? layer).isSome := by
  obtain ⟨j, hmem, rfl, -, hj⟩ := hrun
  rw [(active?_eq_some_iff hs).mpr ⟨hnoted, hmem, hj⟩]
  rfl

/-! ## Registration -/

/-- Putting a job of a new id appends it. -/
theorem put_jobs {j : Job} (hnew : ∀ k ∈ s.jobs, k.id ≠ j.id) : (s.put j).jobs = s.jobs ++ [j] := by
  have hall : s.jobs.filter (·.id != j.id) = s.jobs :=
    List.filter_eq_self.mpr fun k hk => by simpa using hnew k hk
  simp [put, hall]

/-- Putting a running job of a new id keeps soundness. -/
theorem Sound.put {j : Job} (hs : s.Sound) (hnew : ∀ k ∈ s.jobs, k.id ≠ j.id)
    (hfinish : j.finishedAt = none) : (s.put j).Sound where
  distinct := by
    rw [put_jobs hnew, List.map_append]
    refine List.nodup_append'.mpr ⟨hs.distinct, List.nodup_singleton _, ?_⟩
    intro id hid hid'
    obtain ⟨k, hk, rfl⟩ := List.mem_map.mp hid
    exact hnew k hk (List.mem_singleton.mp hid')
  unfinished := by
    rw [put_jobs hnew]
    intro k hk hrun
    rcases List.mem_append.mp hk with hk | hk
    · exact hs.unfinished k hk hrun
    · rw [List.mem_singleton.mp hk, hfinish]

/-- Putting a running job of a new id adds it to those that run. -/
theorem runs_put {j : Job} (hnew : ∀ k ∈ s.jobs, k.id ≠ j.id) (hrun : j.isRunning) :
    (s.put j).Runs id noted ↔ (id = j.id ∧ noted = j.layer) ∨ s.Runs id noted := by
  simp only [Runs, put_jobs hnew, List.mem_append, List.mem_singleton]
  constructor
  · rintro ⟨k, hk | rfl, hid, hlayer, hk'⟩
    · exact Or.inr ⟨k, hk, hid, hlayer, hk'⟩
    · exact Or.inl ⟨hid.symm, hlayer.symm⟩
  · rintro (⟨rfl, rfl⟩ | ⟨k, hk, h⟩)
    · exact ⟨j, Or.inr rfl, rfl, rfl, hrun⟩
    · exact ⟨k, Or.inl hk, h⟩

/-- Removing the notes of one layer leaves those of another. -/
private theorem lookup_filter_ne {other : Uuid} (h : other ≠ layer) (l : List (Uuid × JobId)) :
    (l.filter (·.1 != layer)).lookup other = l.lookup other := by
  induction l with
  | nil => rfl
  | cons entry rest ih =>
    obtain ⟨k, v⟩ := entry
    by_cases hk : k = layer
    · have hne : (other == k) = false := by simpa [hk] using h
      simp [hk, ih, List.lookup_cons, hk ▸ hne]
    · simp [hk, ih, List.lookup_cons]

/-- Noting a job for a layer leaves the notes of other layers. -/
theorem lookup_activate (s : JobStore) (layer other : Uuid) (id : JobId) :
    (s.activate layer id).active.lookup other =
      if other = layer then some id else s.active.lookup other := by
  by_cases h : other = layer
  · simp [activate, h]
  · have hne : (other == layer) = false := by simpa using h
    simp [activate, h, List.lookup_cons, hne, lookup_filter_ne h]

/-- The notes after a job is registered. -/
def notedWith (s : JobStore) (noted : Option Uuid) (id : JobId) : JobStore :=
  match noted with
  | none => s
  | some layer => s.activate layer id

/-- Noting a job for a layer stores none. -/
@[simp] theorem notedWith_jobs (s : JobStore) (noted : Option Uuid) (id : JobId) :
    (s.notedWith noted id).jobs = s.jobs := by
  cases noted <;> rfl

/-- Noting a job for a layer keeps soundness. -/
theorem Sound.notedWith (hs : s.Sound) (noted : Option Uuid) (id : JobId) :
    (s.notedWith noted id).Sound where
  distinct := by simpa using hs.distinct
  unfinished := by simpa using hs.unfinished

/-- Noting a job for a layer stops no job and starts none. -/
theorem runs_notedWith {other : Option Uuid} :
    (s.notedWith other id').Runs id noted ↔ s.Runs id noted := by
  simp only [Runs, notedWith_jobs]

/-- A registration is refused for the job noted for the layer, if that one runs, and accepted
otherwise; old jobs are evicted either way. -/
theorem register_eq (s : JobStore) (now : Nat) (j : Job) :
    s.register now j =
      match j.layer.bind (s.evict now).active? with
      | some running => (.error running.id, s.evict now)
      | none => (.ok j.id, ((s.evict now).notedWith j.layer j.id).put j) := by
  unfold register
  cases hlayer : j.layer with
  | none => rfl
  | some layer =>
    cases hactive : (s.evict now).active? layer <;> simp [hactive, notedWith]

/-- A registration leaves the clock. -/
@[simp] theorem register_clock (s : JobStore) (now : Nat) (j : Job) :
    (s.register now j).2.clock = s.clock := by
  rw [register_eq]
  cases j.layer.bind (s.evict now).active? with
  | some running => rfl
  | none => cases j.layer <;> rfl

/-! ## Ending a job -/

/-- Whether or not the layer is given free, ending a job rewrites that job alone. -/
theorem finish_jobs (s : JobStore) (now : Nat) (id : JobId) (status : JobStatus)
    (result : Option Json) (error : Option String) :
    (s.finish now id status result error).jobs = s.jobs.map fun x =>
      if x.id == id then
        { x with status := status, finishedAt := some now, result := result, error := error }
      else x := by
  unfold finish
  cases hget : s.get? id with
  | none =>
    have hnone : ∀ x ∈ s.jobs, ¬ x.id == id := by
      simpa [get?, List.find?_eq_none] using hget
    refine (List.map_id' s.jobs).symm.trans (List.map_congr_left fun x hx => ?_)
    simp [hnone x hx]
  | some j =>
    dsimp only
    cases j.layer with
    | none => rfl
    | some layer =>
      dsimp only
      split <;> rfl

/-- Ending a job leaves the clock. -/
@[simp] theorem finish_clock (s : JobStore) (now : Nat) (id : JobId) (status : JobStatus)
    (result : Option Json) (error : Option String) :
    (s.finish now id status result error).clock = s.clock := by
  unfold finish
  cases s.get? id with
  | none => rfl
  | some j =>
    dsimp only
    cases j.layer with
    | none => rfl
    | some layer =>
      dsimp only
      split <;> rfl

/-- Ending a job keeps soundness. -/
theorem Sound.finish (hs : s.Sound) {status : JobStatus} (hstatus : status ≠ .running)
    (result : Option Json) (error : Option String) :
    (s.finish now id status result error).Sound where
  distinct := by
    rw [finish_jobs, List.map_map]
    convert hs.distinct using 2
    funext x
    simp only [Function.comp_apply]
    split <;> rfl
  unfinished := by
    rw [finish_jobs]
    intro j hj hrun
    obtain ⟨x, hx, rfl⟩ := List.mem_map.mp hj
    split at hrun
    · simp [Job.isRunning, hstatus] at hrun
    · rename_i hne
      simp only [hne, Bool.false_eq_true, ↓reduceIte]
      exact hs.unfinished x hx hrun

/-- Ending a job stops it and no other. -/
theorem runs_finish {status : JobStatus} (hstatus : status ≠ .running) (result : Option Json)
    (error : Option String) :
    (s.finish now id status result error).Runs id' noted ↔ id' ≠ id ∧ s.Runs id' noted := by
  simp only [Runs, finish_jobs, List.mem_map]
  constructor
  · rintro ⟨j, ⟨x, hx, rfl⟩, hid, hlayer, hrun⟩
    by_cases hne : x.id = id
    · simp [hne, Job.isRunning, hstatus] at hrun
    · simp only [beq_eq_false_iff_ne.mpr hne, Bool.false_eq_true, ↓reduceIte] at hid hlayer hrun
      exact ⟨hid ▸ hne, x, hx, hid, hlayer, hrun⟩
  · rintro ⟨hne, x, hx, rfl, hlayer, hrun⟩
    refine ⟨_, ⟨x, hx, rfl⟩, ?_⟩
    simp [beq_eq_false_iff_ne.mpr hne, hlayer, hrun]

/-- Ending a job gives free only a layer for which that job was noted. -/
theorem lookup_finish {other : Uuid} (status : JobStatus) (result : Option Json)
    (error : Option String) (h : s.active.lookup other ≠ some id) :
    (s.finish now id status result error).active.lookup other = s.active.lookup other := by
  unfold finish
  cases s.get? id with
  | none => rfl
  | some j =>
    dsimp only
    cases j.layer with
    | none => rfl
    | some layer =>
      dsimp only
      split
      · next hnoted =>
        have hne : other ≠ layer := fun heq => h (heq ▸ hnoted)
        exact lookup_filter_ne hne s.active
      · rfl

/-- Removing the notes of a layer leaves none for it. -/
private theorem lookup_filter_self (layer : Uuid) (l : List (Uuid × JobId)) :
    (l.filter (·.1 != layer)).lookup layer = none := by
  rw [List.lookup_eq_none_iff]
  intro entry hentry
  have hother : entry.1 ≠ layer := by simpa using (List.mem_filter.mp hentry).2
  simpa using hother.symm

/-- What is noted after a job has ended was noted before. -/
theorem lookup_of_lookup_finish {status : JobStatus} {result : Option Json} {error : Option String}
    (h : (s.finish now id status result error).active.lookup layer = some id') :
    s.active.lookup layer = some id' := by
  unfold finish at h
  split at h
  · exact h
  · split at h
    · exact h
    · next own _ =>
      split at h
      · by_cases hown : layer = own
        · simp [deactivate, hown, lookup_filter_self] at h
        · simpa [deactivate, lookup_filter_ne hown] using h
      · exact h

end LayerPress.JobStore
