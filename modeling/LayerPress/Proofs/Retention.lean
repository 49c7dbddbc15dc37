import LayerPress.Proofs.JobHistory

/-!
# How long jobs stay

A job that was accepted stays as its latest end has left it, or as it was registered if it has not
ended. It is gone with the first registration an hour or more after its latest end, and only then,
though a job may be ended again and again and its hour begins anew each time. A registration clears
the old jobs even if it is refused.

The clock may count in any unit and do what it likes: an hour has passed when the times of two calls
say so.
-/

namespace LayerPress

/-- How a job was ended, and when. -/
structure Ending where
  time : Nat
  status : JobStatus
  result : Option Json
  error : Option String

/-- How a call ends a job, if it does. -/
def TimedCall.ending? (c : TimedCall) (id : JobId) : Option Ending :=
  match c.call with
  | .register .. => none
  | .complete other result =>
    if other = id then some ⟨c.time, .completed, some result, none⟩ else none
  | .fail other error result =>
    if other = id then some ⟨c.time, .failed, result, some error⟩ else none

/-- How a job was ended latest. -/
def lastEnding? (calls : List TimedCall) (id : JobId) : Option Ending :=
  (calls.filterMap (·.ending? id)).getLast?

/-- The call comes when the end is an hour old, or more. -/
def Ending.IsOldAt (clock : Clock) (e : Ending) (c : TimedCall) : Prop :=
  e.time + clock.finishedJobLifetime ≤ c.time

/-- Among some calls is a registration that comes when the latest end of a job is old. -/
def HasLapsed (clock : Clock) (calls : List TimedCall) (id : JobId) : Prop :=
  ∃ earlier c later e, calls = earlier ++ c :: later ∧ c.call.newId?.isSome ∧
    lastEnding? earlier id = some e ∧ e.IsOldAt clock c

/-- The job as it was ended. -/
def Job.endedBy (j : Job) : Option Ending → Job
  | none => j
  | some e =>
    { j with status := e.status, finishedAt := some e.time, result := e.result, error := e.error }

section
variable {clock : Clock} {calls : List TimedCall} {c : TimedCall} {id : JobId}

/-- The latest end is that of the last call, if it ends the job. -/
theorem lastEnding?_concat (calls : List TimedCall) (c : TimedCall) (id : JobId) :
    lastEnding? (calls ++ [c]) id = (c.ending? id).or (lastEnding? calls id) := by
  cases hc : c.ending? id <;> simp [lastEnding?, hc]

/-- A registration ends no job. -/
theorem TimedCall.ending?_of_registers (hc : c.call.newId?.isSome) (id : JobId) :
    c.ending? id = none := by
  obtain ⟨time, call⟩ := c
  cases call with
  | register => rfl
  | complete | fail => cases hc

/-- A job lapses with the first registration for which its latest end is old. -/
theorem hasLapsed_concat : HasLapsed clock (calls ++ [c]) id ↔
    HasLapsed clock calls id ∨
      (c.call.newId?.isSome ∧ ∃ e, lastEnding? calls id = some e ∧ e.IsOldAt clock c) := by
  constructor
  · intro h
    obtain ⟨earlier, d, later, e, hcalls, hd, hlast, hold⟩ := h
    cases later using List.reverseRecOn with
    | nil =>
      obtain ⟨rfl, hsame⟩ := List.append_inj' hcalls rfl
      obtain rfl : c = d := by simpa using hsame
      exact .inr ⟨hd, e, hlast, hold⟩
    | append_singleton later _ =>
      rw [← List.cons_append, ← List.append_assoc] at hcalls
      obtain ⟨rfl, -⟩ := List.append_inj' hcalls rfl
      exact .inl ⟨earlier, d, later, e, rfl, hd, hlast, hold⟩
  · rintro (⟨earlier, d, later, e, rfl, hd, hlast, hold⟩ | ⟨hc, e, hlast, hold⟩)
    · exact ⟨earlier, d, later ++ [c], e, by simp, hd, hlast, hold⟩
    · exact ⟨calls, c, [], e, rfl, hc, hlast, hold⟩

/-- No job lapses before anything is called. -/
theorem not_hasLapsed_nil (clock : Clock) (id : JobId) : ¬HasLapsed clock [] id := by
  rintro ⟨earlier, c, later, e, hcalls, -⟩
  simp at hcalls

/-- Of two ends the later one is seen. -/
theorem Job.endedBy_endedBy (j : Job) (first second : Option Ending) :
    (j.endedBy first).endedBy second = j.endedBy (second.or first) := by
  cases second with
  | none => rfl
  | some e => cases first <;> rfl

end

namespace JobStore

variable {s : JobStore} {ids : List JobId} {id : JobId} {j : Job} {now : Nat} {c : TimedCall}
  {clock : Clock}

/-- A new job is always fresh, and an ended one until its end is an hour old. -/
theorem isFresh_endedBy (hfinish : j.finishedAt = none) (ending : Option Ending) :
    isFresh clock c.time (j.endedBy ending) = true ↔
      ∀ e, ending = some e → ¬e.IsOldAt clock c := by
  cases ending with
  | none => simp [isFresh, Job.endedBy, hfinish]
  | some e =>
    simp only [isFresh, Job.endedBy, decide_eq_true_eq, Option.some.injEq, forall_eq',
      Ending.IsOldAt]
    have hpos := clock.finishedJobLifetime_pos
    omega

/-- Eviction takes away what is not fresh. -/
theorem get?_evict (hs : s.Sound) (now : Nat) (id : JobId) :
    (s.evict now).get? id = (s.get? id).filter (isFresh s.clock now) := by
  refine Option.ext fun j => ?_
  rw [get?_eq_some_iff (hs.evict now), Option.filter_eq_some_iff, get?_eq_some_iff hs]
  simp only [evict, List.mem_filter]
  tauto

/-- A registration takes away what is not fresh, and leaves all other jobs. -/
theorem get?_register (hs : s.Sound) (hnew : ∀ k ∈ s.jobs, k.id ≠ j.id) (now : Nat)
    (hne : j.id ≠ id) :
    (s.register now j).2.get? id = (s.get? id).filter (isFresh s.clock now) := by
  rw [← get?_evict hs, JobStore.register_eq]
  cases j.layer.bind (s.evict now).active? with
  | some running => rfl
  | none =>
    have hjobs : (((s.evict now).notedWith j.layer j.id).put j).jobs =
        (s.evict now).jobs ++ [j] := by
      rw [put_jobs, notedWith_jobs]
      rw [notedWith_jobs]
      exact fun k hk => hnew k (List.mem_of_mem_filter hk)
    simp only [get?]
    rw [hjobs, List.find?_append]
    simp [hne]

/-- Ending a job is seen in that job alone. -/
theorem get?_finish (s : JobStore) (now : Nat) (other : JobId) (status : JobStatus)
    (result : Option Json) (error : Option String) (id : JobId) :
    (s.finish now other status result error).get? id = (s.get? id).map fun j =>
      j.endedBy (if other = id then some ⟨now, status, result, error⟩ else none) := by
  rw [get?, finish_jobs, List.find?_map]
  have hid : ((·.id == id) ∘ fun x : Job => if x.id == other then
      { x with status := status, finishedAt := some now, result := result, error := error }
      else x) = (·.id == id) := by
    funext x
    simp only [Function.comp_apply]
    split <;> rfl
  rw [hid, get?]
  cases hfound : s.jobs.find? (·.id == id) with
  | none => rfl
  | some j =>
    have hj : j.id = id := by simpa using List.find?_some hfound
    by_cases hother : other = id
    · simp [hj, hother, Job.endedBy]
    · simp [hj, hother, Ne.symm hother, Job.endedBy]

/-- A call that registers no job shows in a job as far as it ends it. -/
theorem get?_after_of_ends (s : JobStore) (hc : c.call.newId? = none) (id : JobId) :
    (s.after c).get? id = (s.get? id).map (·.endedBy (c.ending? id)) := by
  obtain ⟨time, call⟩ := c
  cases call with
  | register => cases hc
  | complete other result => exact get?_finish s time other _ _ _ id
  | fail other error result => exact get?_finish s time other _ _ _ id

/-- A call that registers another job leaves a job that is fresh. -/
theorem Indexed.get?_after_of_registers (h : s.Indexed ids) {new : JobId}
    (hc : c.call.newId? = some new) (hnew : new ∉ ids) (hne : new ≠ id) :
    (s.after c).get? id = (s.get? id).filter (isFresh s.clock c.time) := by
  obtain ⟨time, call⟩ := c
  cases call with
  | register other kind layer channel createdAt =>
    obtain rfl : other = new := by simpa [StoreCall.newId?] using hc
    have hunused : ∀ k ∈ s.jobs, k.id ≠ other := fun k hk heq => hnew (heq ▸ h.stored k hk)
    exact get?_register h.sound hunused time hne
  | complete | fail => cases hc

/-- A registration never takes a running job away, and a call that ends it keeps it. -/
theorem Indexed.get?_after_of_isRunning (h : s.Indexed ids) (hj : j ∈ s.jobs) (hrun : j.isRunning)
    (hnew : ∀ id ∈ c.call.newId?, id ∉ ids) :
    (s.after c).get? j.id = some (j.endedBy (c.ending? j.id)) := by
  have hfound : s.get? j.id = some j := (get?_eq_some_iff h.sound).mpr ⟨hj, rfl⟩
  cases hc : c.call.newId? with
  | none => rw [get?_after_of_ends s hc, hfound, Option.map_some]
  | some new =>
    have hunused := hnew new hc
    have hne : new ≠ j.id := fun heq => hunused (heq ▸ h.stored j hj)
    have hends := TimedCall.ending?_of_registers (c := c) (by simp [hc]) j.id
    have hfresh : isFresh s.clock c.time j = true := by simp [isFresh, h.sound.unfinished j hj hrun]
    rw [h.get?_after_of_registers hc hunused hne, hfound, hends]
    simp [Job.endedBy, hfresh]

/-- After a registration, refused or not, no end is old. -/
theorem not_isOldAt_after (s : JobStore) (hc : c.call.newId?.isSome) (hj : j ∈ (s.after c).jobs)
    {t : Nat} (hfinish : j.finishedAt = some t) : c.time < t + s.clock.finishedJobLifetime := by
  obtain ⟨time, call⟩ := c
  cases call with
  | complete | fail => cases hc
  | register id kind layer channel createdAt =>
    have hmem : j ∈ (s.evict time).jobs := by
      rw [after] at hj
      dsimp only at hj
      rw [JobStore.register_eq] at hj
      split at hj
      · exact hj
      · simp only [put, notedWith_jobs, List.mem_append, List.mem_singleton, List.mem_filter] at hj
        rcases hj with hj | rfl
        · exact hj.1
        · cases hfinish
    have hfresh := (List.mem_filter.mp hmem).2
    simp only [isFresh, hfinish, decide_eq_true_eq] at hfresh
    dsimp only
    omega

/-- After the calls that follow its registration, an accepted job is found as it was last ended,
unless it has lapsed. -/
theorem get?_of_accepted {before after : List TimedCall} {time : Nat} {kind : JobKind}
    {layer : Option Uuid} {channel createdAt : Nat}
    (hnew : (newIds (before ++ ⟨time, .register id kind layer channel createdAt⟩ :: after)).Nodup)
    (haccepted : ((ofCalls clock before).register time
      (Job.start id kind layer channel createdAt)).1 = .ok id) :
    let s := ofCalls clock (before ++ ⟨time, .register id kind layer channel createdAt⟩ :: after)
    (¬HasLapsed clock after id → s.get? id =
      some ((Job.start id kind layer channel createdAt).endedBy (lastEnding? after id))) ∧
    (HasLapsed clock after id → s.get? id = none) := by
  dsimp only
  set new := Job.start id kind layer channel createdAt with hstart
  -- The last call decides whether the job lapses with it and how it is ended latest.
  induction after using List.reverseRecOn with
  | nil =>
    obtain ⟨hearlier, hunused⟩ := notMem_of_nodup_concat hnew
    have h := indexed_ofCalls clock before hearlier
    have hid : new.id ∉ newIds before := hunused id rfl
    refine ⟨fun _ => ?_, fun hlapsed => absurd hlapsed (not_hasLapsed_nil clock id)⟩
    rw [ofCalls_concat]
    cases hfree : new.layer.bind (ofCalls clock before).active? with
    | none => exact (h.register_of_free hid rfl hfree time).2
    | some running =>
      rw [(h.register_of_busy hid hfree time).1] at haccepted
      cases haccepted
  | append_singleton after c ih =>
    rw [← List.cons_append, ← List.append_assoc] at hnew ⊢
    obtain ⟨hearlier, hunused⟩ := notMem_of_nodup_concat hnew
    obtain ⟨hkept, hgone⟩ := ih hearlier
    have h := indexed_ofCalls clock _ hearlier
    rw [ofCalls_concat, hasLapsed_concat, lastEnding?_concat]
    cases hc : c.call.newId? with
    | none =>
      rw [get?_after_of_ends _ hc]
      simp only [Option.isSome_none, Bool.false_eq_true, false_and, or_false]
      refine ⟨fun hlapsed => ?_, fun hlapsed => by rw [hgone hlapsed, Option.map_none]⟩
      rw [hkept hlapsed, Option.map_some, Job.endedBy_endedBy]
    | some other =>
      have hne : other ≠ id := by
        intro heq
        exact hunused other hc (by simp [newIds, StoreCall.newId?, heq])
      rw [h.get?_after_of_registers hc (hunused other hc) hne,
        TimedCall.ending?_of_registers (by simp [hc]), ofCalls_clock]
      simp only [Option.isSome_some, true_and, Option.none_or, not_or]
      have hfresh : isFresh clock c.time (new.endedBy (lastEnding? after id)) = true ↔ _ :=
        isFresh_endedBy rfl (lastEnding? after id)
      constructor
      · intro hlapsed
        rw [hkept hlapsed.1, Option.filter_some, if_pos]
        exact hfresh.mpr fun e he hold => hlapsed.2 ⟨e, he, hold⟩
      · intro hlapsed
        by_cases hearly : HasLapsed clock after id
        · rw [hgone hearly, Option.filter_none]
        · obtain ⟨e, he, hold⟩ := hlapsed.resolve_left hearly
          rw [hkept hearly, Option.filter_some, if_neg]
          exact fun hstill => hfresh.mp hstill e he hold

/-- Jobs are retained. An accepted job is found as it was last ended until the first registration
that comes an hour or more after this end, and not from then on; a running job is taken away by no
call; and after a registration, refused or not, no job ended an hour ago or more. -/
theorem jobs_retained (clock : Clock) (calls : List TimedCall) (hnew : (newIds calls).Nodup) :
    (∀ before time id kind layer channel createdAt after,
      calls = before ++ ⟨time, .register id kind layer channel createdAt⟩ :: after →
      ((ofCalls clock before).register time
          (Job.start id kind layer channel createdAt)).1 = .ok id →
        (¬HasLapsed clock after id → (ofCalls clock calls).get? id =
          some ((Job.start id kind layer channel createdAt).endedBy (lastEnding? after id))) ∧
        (HasLapsed clock after id → (ofCalls clock calls).get? id = none)) ∧
    (∀ j ∈ (ofCalls clock calls).jobs, j.isRunning → ∀ c : TimedCall,
      (∀ id ∈ c.call.newId?, id ∉ newIds calls) →
        ((ofCalls clock calls).after c).get? j.id = some (j.endedBy (c.ending? j.id))) ∧
    ∀ c : TimedCall, c.call.newId?.isSome → ∀ j ∈ ((ofCalls clock calls).after c).jobs,
      ∀ t, j.finishedAt = some t → c.time < t + clock.finishedJobLifetime := by
  have h := indexed_ofCalls clock calls hnew
  refine ⟨?_, ?_, ?_⟩
  · intro before time id kind layer channel createdAt after hcalls haccepted
    subst hcalls
    exact get?_of_accepted hnew haccepted
  · intro j hj hrun c hunused
    exact h.get?_after_of_isRunning hj hrun hunused
  · intro c hc j hj t hfinish
    have hyoung := not_isOldAt_after _ hc hj hfinish
    rwa [ofCalls_clock] at hyoung

/-- A job is ended twice, by a clock that counts nanoseconds. The first registration after that
comes an hour after the first end, and a nanosecond before an hour has passed since the second end.
The second one, which is refused, comes a nanosecond later. -/
def lingeringCalls : List TimedCall := [
  ⟨0, .register "first" .importing (some ⟨1⟩) 0 0⟩,
  ⟨10, .fail "first" "late" none⟩,
  ⟨11, .complete "first" .null⟩,
  ⟨3600000000010, .register "second" .importing (some ⟨1⟩) 1 3600000000010⟩,
  ⟨3600000000011, .register "third" .importing (some ⟨1⟩) 2 3600000000011⟩]

/-- The job stays an hour from its second end. -/
theorem jobs_retained_lingering :
    (newIds lingeringCalls).Nodup ∧
    (ofCalls .nanoseconds (lingeringCalls.take 4)).get? "first" =
      some { Job.start "first" .importing (some ⟨1⟩) 0 0 with
        status := .completed, finishedAt := some 11, result := some .null, error := none } ∧
    (ofCalls .nanoseconds lingeringCalls).get? "first" = none := by
  have hnew : (newIds lingeringCalls).Nodup := by decide
  refine ⟨hnew, ?_, ?_⟩
  · refine ((jobs_retained .nanoseconds (lingeringCalls.take 4) (by decide)).1 [] 0 "first"
      .importing _ 0 0 ([] ++ [_] ++ [_] ++ [_]) rfl rfl).1 ?_
    rw [hasLapsed_concat, hasLapsed_concat, hasLapsed_concat]
    simp [not_hasLapsed_nil, StoreCall.newId?, lastEnding?, TimedCall.ending?,
      Ending.IsOldAt, Clock.finishedJobLifetime, Clock.nanoseconds]
  · refine ((jobs_retained .nanoseconds lingeringCalls hnew).1 [] 0 "first" .importing _ 0 0 _
      rfl rfl).2 ?_
    refine ⟨(lingeringCalls.drop 1).take 3, _, [], ⟨11, .completed, some .null, none⟩, rfl, rfl,
      rfl, ?_⟩
    simp [Ending.IsOldAt, Clock.finishedJobLifetime, Clock.nanoseconds]

end JobStore

end LayerPress
