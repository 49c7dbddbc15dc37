import LayerPress.Proofs.JobStore
import Mathlib.Data.List.Induction

/-!
# Histories of the job store

A history is a list of calls on an empty job store, each at some time by the store's clock: new jobs
are registered, and jobs are ended, known or not and however often. No id is given to two new jobs.
Nothing else is assumed, not even that the clock goes forward.

The note of a layer may outlive its job, but it does no harm: a stored job is noted for no layer
but its own, and a running job is noted for its layer. So the job found for a layer is the one
that runs for it, and exactly this job stands in the way of another.
-/

namespace LayerPress

/-- A call on the job store: a new job is registered, or a job is ended well or badly. -/
inductive StoreCall where
  | register (id : JobId) (kind : JobKind) (layer : Option Uuid) (channel createdAt : Nat)
  | complete (id : JobId) (result : Json)
  | fail (id : JobId) (error : String) (result : Option Json)

/-- The id of the job that a call is to register. -/
def StoreCall.newId? : StoreCall → Option JobId
  | register id .. => some id
  | complete .. | fail .. => none

/-- A call with the time at which it is made. -/
structure TimedCall where
  time : Nat
  call : StoreCall

/-- The ids of the new jobs of a history, refused ones included. -/
def newIds (calls : List TimedCall) : List JobId :=
  calls.filterMap (·.call.newId?)

namespace JobStore

/-- The store after a call. -/
def after (s : JobStore) (c : TimedCall) : JobStore :=
  match c.call with
  | .register id kind layer channel createdAt =>
    (s.register c.time (Job.start id kind layer channel createdAt)).2
  | .complete id result => s.complete c.time id result
  | .fail id error result => s.fail c.time id error result

/-- The store after a history, timed by a clock. -/
def ofCalls (clock : Clock) (calls : List TimedCall) : JobStore :=
  calls.foldl after (empty.timedBy clock)

/-- Jobs and notes are of the given ids, a stored job is noted for no layer but its own, and a
running job is noted for its layer. -/
structure Indexed (s : JobStore) (ids : List JobId) : Prop where
  sound : s.Sound
  stored : ∀ j ∈ s.jobs, j.id ∈ ids
  noted : ∀ layer id, s.active.lookup layer = some id → id ∈ ids
  harmless : ∀ layer, ∀ j ∈ s.jobs, s.active.lookup layer = some j.id → j.layer = some layer
  indexed : ∀ layer, ∀ j ∈ s.jobs, j.isRunning → j.layer = some layer →
    s.active.lookup layer = some j.id

variable {s : JobStore} {ids : List JobId} {layer : Uuid} {noted : Option Uuid} {now : Nat}
  {id : JobId} {j : Job} {clock : Clock}

/-! ## What is found for a layer -/

/-- A running job is never evicted. -/
theorem Sound.mem_evict (hs : s.Sound) (hj : j ∈ s.jobs) (hrun : j.isRunning) (now : Nat) :
    j ∈ (s.evict now).jobs := by
  have hfresh : isFresh s.clock now j = true := by simp [isFresh, hs.unfinished j hj hrun]
  exact List.mem_filter.mpr ⟨hj, hfresh⟩

/-- The job found for a layer is the one that runs for it. -/
theorem Indexed.active?_eq_some_iff (h : s.Indexed ids) :
    s.active? layer = some j ↔ j ∈ s.jobs ∧ j.layer = some layer ∧ j.isRunning := by
  rw [JobStore.active?_eq_some_iff h.sound]
  constructor
  · intro hfound
    obtain ⟨hnoted, hj, hrun⟩ := hfound
    exact ⟨hj, h.harmless layer j hj hnoted, hrun⟩
  · intro hruns
    obtain ⟨hj, hlayer, hrun⟩ := hruns
    exact ⟨h.indexed layer j hj hrun hlayer, hj, hrun⟩

/-- The jobs that run for a layer are the one found for it, or none. -/
theorem Indexed.filter_running (h : s.Indexed ids) (layer : Uuid) :
    s.jobs.filter (fun j => j.layer == some layer && j.isRunning) = (s.active? layer).toList := by
  have hmem : ∀ j, j ∈ s.jobs.filter (fun j => j.layer == some layer && j.isRunning) ↔
      j ∈ (s.active? layer).toList := by
    intro j
    rw [Option.mem_toList, h.active?_eq_some_iff]
    simp
  have hnodup : (s.jobs.filter (fun j => j.layer == some layer && j.isRunning)).Nodup :=
    List.Nodup.filter _ (List.Nodup.of_map _ h.sound.distinct)
  cases hfound : s.active? layer with
  | none =>
    rw [hfound] at hmem
    exact List.eq_nil_iff_forall_not_mem.mpr fun j hj => by simpa using (hmem j).mp hj
  | some running =>
    rw [hfound] at hmem
    apply List.perm_singleton.mp
    apply (List.perm_ext_iff_of_nodup hnodup (List.nodup_singleton _)).mpr
    intro j
    simpa using hmem j

/-- Eviction changes nothing of what is found for a layer. -/
theorem Indexed.active?_evict (h : s.Indexed ids) (hevicted : (s.evict now).Indexed ids)
    (layer : Uuid) : (s.evict now).active? layer = s.active? layer := by
  refine Option.ext fun j => ?_
  rw [hevicted.active?_eq_some_iff, h.active?_eq_some_iff]
  constructor
  · intro hruns
    exact ⟨List.mem_of_mem_filter hruns.1, hruns.2⟩
  · intro hruns
    exact ⟨h.sound.mem_evict hruns.1 hruns.2.2 now, hruns.2⟩

/-! ## What a history keeps -/

/-- An empty store is indexed. -/
theorem indexed_empty : Indexed (empty.timedBy clock) [] where
  sound := sound_empty
  stored := by simp [empty, timedBy]
  noted := by simp [empty, timedBy]
  harmless := by simp [empty, timedBy]
  indexed := by simp [empty, timedBy]

/-- Eviction keeps the index. -/
theorem Indexed.evict (h : s.Indexed ids) (now : Nat) : (s.evict now).Indexed ids where
  sound := h.sound.evict now
  stored := fun j hj => h.stored j (List.mem_of_mem_filter hj)
  noted := h.noted
  harmless := fun layer j hj => h.harmless layer j (List.mem_of_mem_filter hj)
  indexed := fun layer j hj => h.indexed layer j (List.mem_of_mem_filter hj)

/-- A registration is refused for the job that runs for the layer, and accepted if none does. -/
theorem Indexed.register_eq (h : s.Indexed ids) (now : Nat) (j : Job) :
    s.register now j =
      match j.layer.bind s.active? with
      | some running => (.error running.id, s.evict now)
      | none => (.ok j.id, ((s.evict now).notedWith j.layer j.id).put j) := by
  have hfound : j.layer.bind (s.evict now).active? = j.layer.bind s.active? := by
    cases j.layer with
    | none => rfl
    | some layer => exact h.active?_evict (h.evict now) layer
  cases hactive : j.layer.bind s.active? <;> simp [JobStore.register_eq, hfound, hactive]

/-- Looking up the note of a layer after a job is noted for its own. -/
theorem lookup_notedWith (s : JobStore) (noted : Option Uuid) (id : JobId) (layer : Uuid) :
    (s.notedWith noted id).active.lookup layer =
      if noted = some layer then some id else s.active.lookup layer := by
  cases noted with
  | none => simp [notedWith]
  | some other =>
    rw [notedWith, lookup_activate]
    simp [eq_comm]

/-- A new job that is accepted is indexed with those before it. -/
theorem Indexed.put (h : s.Indexed ids) (hnew : j.id ∉ ids) (hfinish : j.finishedAt = none)
    (hfree : ∀ k ∈ s.jobs, k.isRunning → ∀ layer, k.layer = some layer → j.layer ≠ some layer) :
    ((s.notedWith j.layer j.id).put j).Indexed (ids ++ [j.id]) := by
  have hne : ∀ k ∈ s.jobs, k.id ≠ j.id := fun k hk heq => hnew (heq ▸ h.stored k hk)
  have hjobs : ((s.notedWith j.layer j.id).put j).jobs = s.jobs ++ [j] := by
    rw [put_jobs (by simpa using hne), notedWith_jobs]
  have hlookup : ∀ layer, ((s.notedWith j.layer j.id).put j).active.lookup layer =
      if j.layer = some layer then some j.id else s.active.lookup layer :=
    lookup_notedWith s j.layer j.id
  refine ⟨(h.sound.notedWith j.layer j.id).put (by simpa using hne) hfinish, ?_, ?_, ?_, ?_⟩
  · intro k hk
    rw [hjobs, List.mem_append, List.mem_singleton] at hk
    rcases hk with hk | rfl
    · simp [h.stored k hk]
    · simp
  · intro layer id hnoted
    rw [hlookup] at hnoted
    split at hnoted
    · simp_all
    · simp [h.noted layer id hnoted]
  · intro layer k hk hnoted
    rw [hjobs, List.mem_append, List.mem_singleton] at hk
    rw [hlookup] at hnoted
    split at hnoted
    · next hlayer =>
      rcases hk with hk | rfl
      · exact absurd (Option.some.inj hnoted).symm (hne k hk)
      · exact hlayer
    · rcases hk with hk | rfl
      · exact h.harmless layer k hk hnoted
      · exact absurd (h.noted layer _ hnoted) hnew
  · intro layer k hk hrun hlayer
    rw [hjobs, List.mem_append, List.mem_singleton] at hk
    rw [hlookup]
    rcases hk with hk | rfl
    · rw [if_neg (hfree k hk hrun layer hlayer), h.indexed layer k hk hrun hlayer]
    · rw [if_pos hlayer]

/-- Registering a new job keeps the index, whether or not it is refused. -/
theorem Indexed.register (h : s.Indexed ids) (hnew : j.id ∉ ids) (hfinish : j.finishedAt = none)
    (now : Nat) : (s.register now j).2.Indexed (ids ++ [j.id]) := by
  rw [h.register_eq]
  cases hfound : j.layer.bind s.active? with
  | some running =>
    have hkept := h.evict now
    exact ⟨hkept.sound, fun k hk => List.mem_append_left _ (hkept.stored k hk),
      fun layer id hnoted => List.mem_append_left _ (hkept.noted layer id hnoted),
      hkept.harmless, hkept.indexed⟩
  | none =>
    refine (h.evict now).put hnew hfinish ?_
    intro k hk hrun layer hlayer hsame
    have hactive : s.active? layer = some k :=
      h.active?_eq_some_iff.mpr ⟨List.mem_of_mem_filter hk, hlayer, hrun⟩
    rw [hsame, Option.bind_some, hactive] at hfound
    cases hfound

/-- Ending a job keeps the index. -/
theorem Indexed.finish (h : s.Indexed ids) {status : JobStatus} (hstatus : status ≠ .running)
    (now : Nat) (id : JobId) (result : Option Json) (error : Option String) :
    (s.finish now id status result error).Indexed ids := by
  have hmem : ∀ j ∈ (s.finish now id status result error).jobs, ∃ k ∈ s.jobs,
      k.id = j.id ∧ k.layer = j.layer ∧ (j.isRunning → k.isRunning ∧ k.id ≠ id) := by
    intro j hj
    rw [finish_jobs, List.mem_map] at hj
    obtain ⟨k, hk, rfl⟩ := hj
    refine ⟨k, hk, ?_⟩
    by_cases hid : k.id = id
    · simp [hid, Job.isRunning, hstatus]
    · simp [hid]
  refine ⟨h.sound.finish hstatus result error, ?_, ?_, ?_, ?_⟩
  · intro j hj
    obtain ⟨k, hk, hid, -, -⟩ := hmem j hj
    exact hid ▸ h.stored k hk
  · intro layer other hnoted
    exact h.noted layer other (lookup_of_lookup_finish hnoted)
  · intro layer j hj hnoted
    obtain ⟨k, hk, hid, hlayer, -⟩ := hmem j hj
    rw [← hid] at hnoted
    rw [← hlayer]
    exact h.harmless layer k hk (lookup_of_lookup_finish hnoted)
  · intro layer j hj hrun hlayer
    obtain ⟨k, hk, hid, hsame, hkept⟩ := hmem j hj
    obtain ⟨hkrun, hne⟩ := hkept hrun
    have hnoted := h.indexed layer k hk hkrun (hsame.trans hlayer)
    rw [lookup_finish status result error (by rw [hnoted]; simpa using hne), hnoted, hid]

/-- A call keeps the index, if a job that it registers is new. -/
theorem Indexed.after (h : s.Indexed ids) (c : TimedCall) (hnew : ∀ id ∈ c.call.newId?, id ∉ ids) :
    (s.after c).Indexed (ids ++ c.call.newId?.toList) := by
  obtain ⟨time, call⟩ := c
  cases call with
  | register id kind layer channel createdAt => exact h.register (hnew id rfl) rfl time
  | complete id result =>
    rw [show StoreCall.newId? _ = none from rfl, Option.toList_none, List.append_nil]
    exact h.finish (by decide) time id (some result) none
  | fail id error result =>
    rw [show StoreCall.newId? _ = none from rfl, Option.toList_none, List.append_nil]
    exact h.finish (by decide) time id result (some error)

/-- One more call acts on the store that those before it have left. -/
theorem ofCalls_concat (clock : Clock) (calls : List TimedCall) (c : TimedCall) :
    ofCalls clock (calls ++ [c]) = (ofCalls clock calls).after c :=
  List.foldl_concat ..

/-- Calls leave the clock. -/
@[simp] theorem after_clock (s : JobStore) (c : TimedCall) : (s.after c).clock = s.clock := by
  obtain ⟨time, call⟩ := c
  cases call with
  | register => exact register_clock ..
  | complete | fail => exact finish_clock ..

/-- The store goes by the clock of its history. -/
@[simp] theorem ofCalls_clock (clock : Clock) (calls : List TimedCall) :
    (ofCalls clock calls).clock = clock := by
  induction calls using List.reverseRecOn with
  | nil => rfl
  | append_singleton calls c ih => rw [ofCalls_concat, after_clock, ih]

/-- One more call may bring one more id. -/
theorem newIds_concat (calls : List TimedCall) (c : TimedCall) :
    newIds (calls ++ [c]) = newIds calls ++ c.call.newId?.toList := by
  cases hc : c.call.newId? <;> simp [newIds, hc]

/-- Where no id is repeated one more call brings an id that is new, if any. -/
theorem notMem_of_nodup_concat {calls : List TimedCall} {c : TimedCall}
    (hnew : (newIds (calls ++ [c])).Nodup) :
    (newIds calls).Nodup ∧ ∀ id ∈ c.call.newId?, id ∉ newIds calls := by
  rw [newIds_concat, List.nodup_append'] at hnew
  exact ⟨hnew.1, fun id hid hmem => hnew.2.2 hmem (Option.mem_toList.mpr hid)⟩

/-- A history without repeated ids keeps the index. -/
theorem indexed_ofCalls (clock : Clock) (calls : List TimedCall) (hnew : (newIds calls).Nodup) :
    (ofCalls clock calls).Indexed (newIds calls) := by
  induction calls using List.reverseRecOn with
  | nil => exact indexed_empty
  | append_singleton calls c ih =>
    obtain ⟨hearlier, hlast⟩ := notMem_of_nodup_concat hnew
    rw [newIds_concat, ofCalls_concat]
    exact (ih hearlier).after c hlast

/-! ## What an indexed store answers -/

/-- An id that is not among those given is unknown. -/
theorem Indexed.get?_eq_none (h : s.Indexed ids) (hnew : id ∉ ids) : s.get? id = none := by
  apply List.find?_eq_none.mpr
  intro j hj hid
  have hstored := h.stored j hj
  rw [beq_iff_eq.mp hid] at hstored
  exact hnew hstored

/-- A new job for whose layer none runs is accepted and stored. -/
theorem Indexed.register_of_free (h : s.Indexed ids) (hnew : j.id ∉ ids)
    (hfinish : j.finishedAt = none) (hfree : j.layer.bind s.active? = none) (now : Nat) :
    (s.register now j).1 = .ok j.id ∧ (s.register now j).2.get? j.id = some j := by
  have hafter := h.register hnew hfinish now
  have hmem : j ∈ (s.register now j).2.jobs := by
    rw [h.register_eq, hfree]
    simp [JobStore.put]
  refine ⟨?_, (get?_eq_some_iff hafter.sound).mpr ⟨hmem, rfl⟩⟩
  rw [h.register_eq, hfree]

/-- A job for whose layer another runs is refused, and neither stored nor noted. -/
theorem Indexed.register_of_busy (h : s.Indexed ids) (hnew : j.id ∉ ids) {running : Job}
    (hbusy : j.layer.bind s.active? = some running) (now : Nat) :
    (s.register now j).1 = .error running.id ∧ (s.register now j).2.get? j.id = none ∧
      (s.register now j).2.active = s.active ∧ ∀ k ∈ (s.register now j).2.jobs, k ∈ s.jobs := by
  rw [h.register_eq, hbusy]
  exact ⟨rfl, (h.evict now).get?_eq_none hnew, rfl, fun k hk => List.mem_of_mem_filter hk⟩

/-- Ending an unknown job changes nothing. -/
theorem finish_of_unknown (hunknown : s.get? id = none) (now : Nat) (status : JobStatus)
    (result : Option Json) (error : Option String) :
    s.finish now id status result error = s := by
  rw [finish, hunknown]

/-- Ending a job leaves another one that runs for a layer in its place. -/
theorem Indexed.active?_finish (h : s.Indexed ids) {status : JobStatus}
    (hstatus : status ≠ .running) (hactive : s.active? layer = some j) (hne : id ≠ j.id) (now : Nat)
    (result : Option Json) (error : Option String) :
    (s.finish now id status result error).active? layer = some j := by
  obtain ⟨hj, hlayer, hrun⟩ := h.active?_eq_some_iff.mp hactive
  refine (h.finish hstatus now id result error).active?_eq_some_iff.mpr ⟨?_, hlayer, hrun⟩
  rw [finish_jobs, List.mem_map]
  exact ⟨j, hj, by simp [hne.symm]⟩

/-- One import of each layer at a time. The jobs that run for a layer are the one found for it. A
new import is refused exactly for that one, and then nothing is registered; otherwise it is
accepted, stored and running, as a teardown always is. Ending an unknown job changes nothing, and
ending another job than the one that runs for a layer leaves this one in its place. -/
structure OneImportEach (s : JobStore) (ids : List JobId) : Prop where
  running : ∀ layer, s.jobs.filter (fun j => j.layer == some layer && j.isRunning) =
    (s.active? layer).toList
  refused : ∀ layer id channel createdAt now other, id ∉ ids →
    let new := Job.start id .importing (some layer) channel createdAt
    ((s.register now new).1 = .error other ↔ (s.active? layer).map (·.id) = some other) ∧
      ((s.register now new).1 = .error other → (s.register now new).2.get? id = none ∧
        (s.register now new).2.active = s.active ∧
        ∀ j ∈ (s.register now new).2.jobs, j ∈ s.jobs)
  accepted : ∀ layer id channel createdAt now, id ∉ ids →
    let new := Job.start id .importing (some layer) channel createdAt
    (∀ other, (s.register now new).1 ≠ .error other) →
      (s.register now new).1 = .ok id ∧ (s.register now new).2.get? id = some new ∧ new.isRunning
  teardowns : ∀ id channel createdAt now, id ∉ ids →
    let new := Job.start id .teardown none channel createdAt
    (s.register now new).1 = .ok id ∧ (s.register now new).2.get? id = some new ∧ new.isRunning
  unknown : ∀ id now, s.get? id = none →
    (∀ result, s.complete now id result = s) ∧ ∀ error result, s.fail now id error result = s
  others : ∀ layer j, s.active? layer = some j → ∀ id now, id ≠ j.id →
    (∀ result, (s.complete now id result).active? layer = some j) ∧
      ∀ error result, (s.fail now id error result).active? layer = some j

/-- The job store keeps to one running import of each layer, whatever is called and when, and by
whichever clock. -/
theorem one_import_each (clock : Clock) (calls : List TimedCall) (hnew : (newIds calls).Nodup) :
    OneImportEach (ofCalls clock calls) (newIds calls) := by
  have h := indexed_ofCalls clock calls hnew
  refine ⟨h.filter_running, ?_, ?_, ?_, ?_, ?_⟩
  · intro layer id channel createdAt now other hid new
    cases hactive : (ofCalls clock calls).active? layer with
    | none =>
      obtain ⟨hanswer, -⟩ := h.register_of_free (j := new) hid rfl hactive now
      simp [hanswer]
    | some running =>
      obtain ⟨hanswer, hrest⟩ := h.register_of_busy (j := new) hid hactive now
      refine ⟨?_, fun _ => hrest⟩
      simp [hanswer]
  · intro layer id channel createdAt now hid new haccepted
    cases hactive : (ofCalls clock calls).active? layer with
    | none =>
      obtain ⟨hanswer, hstored⟩ := h.register_of_free (j := new) hid rfl hactive now
      exact ⟨hanswer, hstored, rfl⟩
    | some running =>
      exact absurd (h.register_of_busy (j := new) hid hactive now).1 (haccepted running.id)
  · intro id channel createdAt now hid new
    obtain ⟨hanswer, hstored⟩ := h.register_of_free (j := new) hid rfl rfl now
    exact ⟨hanswer, hstored, rfl⟩
  · intro id now hunknown
    exact ⟨fun result => finish_of_unknown hunknown now _ _ _,
      fun error result => finish_of_unknown hunknown now _ _ _⟩
  · intro layer j hactive id now hne
    exact ⟨fun result => h.active?_finish (by decide) hactive hne now _ _,
      fun error result => h.active?_finish (by decide) hactive hne now _ _⟩

/-- A layer is imported again, and the first job is ended once more while the second runs. -/
def renewedCalls : List TimedCall := [
  ⟨0, .register "first" .importing (some ⟨1⟩) 0 0⟩,
  ⟨10, .complete "first" .null⟩,
  ⟨20, .register "second" .importing (some ⟨1⟩) 1 20⟩,
  ⟨30, .fail "first" "late" none⟩,
  ⟨40, .register "third" .importing (some ⟨1⟩) 2 40⟩]

/-- The store keeps to one running import when a layer is imported again. -/
theorem one_import_each_renewed :
    (newIds renewedCalls).Nodup ∧
      OneImportEach (ofCalls .seconds renewedCalls) (newIds renewedCalls) :=
  ⟨by decide, one_import_each .seconds renewedCalls (by decide)⟩

/-- Ending the first job again does not hide the second, which stands in the way of the third. -/
example :
    ((ofCalls .seconds renewedCalls).active? ⟨1⟩).map (·.id) = some "second" ∧
      (ofCalls .seconds renewedCalls).jobs.map (·.id) = ["first", "second"] := by
  decide +kernel

end JobStore

end LayerPress
