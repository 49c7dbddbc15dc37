import LayerPress.Proofs.Attendance
import LayerPress.Proofs.Rows

/-!
# Resets and imports of one layer

A reset queues the teardown of what the layer's record names and clears the record; the layer may
then be imported again while the teardown still waits. At the end something that the record names
is gone in exactly one case: a teardown unmade it after an import that was queued later had made
it.

Requests come one after another. So between a reset's look for a running import and the teardown
it queues nothing else is queued, and while any import is open every teardown was queued before
it. This order carries the invariant: what a record names was made by an import that is later
than all teardowns, unless there is none.
-/

namespace LayerPress

/-! ## Requests one after another -/

/-- Tasks one after another, with their results in order. -/
def Task.inTurn {ρ : Type} : List (Task ρ) → Task (List ρ)
  | [] => return []
  | task :: rest => do
    let first ← task
    let others ← inTurn rest
    return first :: others

/-- The request resets or imports a layer, alone or any number of times in a list. -/
def JobRequest.IsAboutImportsOf (layer : Uuid) : JobRequest → Prop
  | submitImport id => id = layer
  | bulkImport ids | bulkReset ids => ∀ id ∈ ids, id = layer
  | deleteLayer _ => False

/-- How far the reset of a layer has come: not begun, with no import running, or with a teardown
queued and the record not yet cleared. -/
inductive ResetPhase where
  | free
  | quiet
  | owing
  deriving DecidableEq, Repr

/-- What requests that reset or import a layer may do. -/
def resetMonitor (layer : Uuid) : Monitor taskActions ResetPhase where
  admits phase a :=
    match a with
    | .site (.records (.statement (.findLayer _))) => phase = .free
    | .site (.records (.statement (.changeLayer id (.cleared _)))) => id = layer ∧ phase = .owing
    | .site .now => True
    | .queueImport id | .runningImport id => id = layer ∧ phase = .free
    | .queueTeardown .. => phase = .quiet
    | _ => False
  after phase a x :=
    match a, x with
    | .runningImport _, none => .quiet
    | .queueTeardown .., _ => .owing
    | .site (.records (.statement (.changeLayer ..))), _ => .free
    | _, _ => phase

/-- The task resets or imports a layer, and leaves no reset half done. -/
def ResetTask {α : Type} (layer : Uuid) (t : Task α) : Prop :=
  (resetMonitor layer).Passes (fun _ last => last = .free) .free t

/-- What requests that reset or import a layer do is open to requests. -/
theorem isOpenToRequests_of_reset {layer : Uuid} {phase : ResetPhase} {a : TaskAction}
    (h : (resetMonitor layer).admits phase a) : a.isOpenToRequests := by
  cases a with
  | site a =>
    cases a with
    | records a =>
      cases a with
      | statement st =>
        cases st with
        | findLayer => trivial
        | changeLayer id change =>
          cases change with
          | cleared => trivial
          | loaded | published => exact h.elim
        | _ => exact h.elim
      | «begin» | commit => exact h.elim
    | now => trivial
    | _ => exact h.elim
  | queueImport | queueTeardown | runningImport => trivial
  | _ => exact h.elim

namespace Admin.Handling

variable {α β : Type} {layer id : Uuid}

/-- Handling in sequence leaves no reset half done when its parts leave none. -/
theorem resetTask_bind {h : Handling α} {k : α → Handling β} (hh : ResetTask layer h.run)
    (hk : ∀ a, ResetTask layer (k a).run) : ResetTask layer (h >>= k).run := by
  refine hh.bindExcept (fun a last hlast => ?_) fun _ _ hlast => hlast
  subst hlast
  exact hk a

/-- Finding a layer is no part of a reset. -/
theorem resetTask_findLayer (id : Uuid) : ResetTask layer (execute (.findLayer id)).run :=
  ⟨rfl, fun _ => rfl⟩

/-- Queueing an import of the layer is no part of a reset. -/
theorem resetTask_queueImport (hid : id = layer) : ResetTask layer (ask (.queueImport id)).run :=
  ⟨⟨hid, rfl⟩, fun _ => rfl⟩

/-- Doing something for each of a list leaves no reset half done when doing it once leaves none. -/
theorem resetTask_forEach {one : Uuid → Handling Placement} {ids : List Uuid}
    (h : ∀ id ∈ ids, ResetTask layer (one id).run) : ResetTask layer (forEach one ids).run := by
  induction ids with
  | nil => exact rfl
  | cons id rest ih =>
    refine resetTask_bind (h id List.mem_cons_self) fun _ => ?_
    have hrest : ResetTask layer (forEach one rest).run := ih fun i hi =>
      h i (List.mem_cons_of_mem id hi)
    exact resetTask_bind hrest fun _ => rfl

/-- Queueing the import of one layer of a list. -/
theorem resetTask_importOne (hid : id = layer) : ResetTask layer (importOne id).run := by
  refine resetTask_bind (resetTask_findLayer id) fun found => ?_
  cases found with
  | none => exact rfl
  | some l =>
    dsimp only
    split
    · refine resetTask_bind (resetTask_queueImport hid) fun queued => ?_
      cases queued <;> exact rfl
    · exact rfl

/-- Resetting one layer of a list: no import runs when the teardown is queued, and the record is
cleared after it. -/
theorem resetTask_resetOne (hid : id = layer) : ResetTask layer (resetOne id).run := by
  refine resetTask_bind (resetTask_findLayer id) fun found => ?_
  cases found with
  | none => exact rfl
  | some l =>
    dsimp only
    split
    · refine ⟨⟨hid, rfl⟩, fun running => ?_⟩
      cases running with
      | some job => exact rfl
      | none =>
        refine ⟨rfl, fun _ => ⟨trivial, fun _ => ⟨⟨hid, rfl⟩, fun answer => ?_⟩⟩⟩
        cases answer <;> exact rfl
    · exact rfl

/-- Queueing an import of the layer. -/
theorem resetTask_submitImport (hid : id = layer) : ResetTask layer (submitImport id).run := by
  have hfind : ResetTask layer (Handling.layer id).run := by
    refine resetTask_bind (resetTask_findLayer id) fun found => ?_
    cases found <;> exact rfl
  refine resetTask_bind hfind fun _ => resetTask_bind (resetTask_queueImport hid) fun queued => ?_
  cases queued <;> exact rfl

/-- Answering leaves no reset half done. -/
theorem resetTask_answer {h : Handling Response} (hh : ResetTask layer h.run) :
    ResetTask layer h.answer := by
  refine Monitor.Passes.bind hh fun answer last hlast => ?_
  cases answer <;> exact hlast

end Admin.Handling

open Admin in
/-- Requests about the imports of a layer leave no reset half done. -/
theorem JobRequest.IsAboutImportsOf.resetTask {layer : Uuid} {r : JobRequest}
    (h : r.IsAboutImportsOf layer) : ResetTask layer r.task := by
  cases r with
  | submitImport id => exact Handling.resetTask_answer (Handling.resetTask_submitImport h)
  | bulkImport ids =>
    refine Handling.resetTask_answer (Handling.resetTask_bind ?_ fun _ => rfl)
    exact Handling.resetTask_forEach fun id hid => Handling.resetTask_importOne (h id hid)
  | deleteLayer => exact h.elim
  | bulkReset ids =>
    refine Handling.resetTask_answer (Handling.resetTask_bind ?_ fun _ => rfl)
    exact Handling.resetTask_forEach fun id hid => Handling.resetTask_resetOne (h id hid)

/-- Requests one after another leave no reset half done. -/
theorem resetTask_inTurn {layer : Uuid} {requests : List JobRequest}
    (h : ∀ r ∈ requests, r.IsAboutImportsOf layer) :
    ResetTask layer (Task.inTurn (requests.map JobRequest.task)) := by
  induction requests with
  | nil => exact rfl
  | cons r rest ih =>
    refine (h r List.mem_cons_self).resetTask.bind fun _ last hlast => ?_
    subst hlast
    refine (ih fun r' hr' => h r' (List.mem_cons_of_mem r hr')).bind fun _ _ hlast => ?_
    exact hlast

/-! ## The order of teardowns and imports -/

/-- No teardown was queued, or an import that was queued after all of them made the artifact. -/
def Backed (states : List JobState) (deeds : List Deed) (x : Artifact) : Prop :=
  (∀ (k : Nat) (job : JobState), states[k]? = some job → job.isTeardown = false) ∨
    ∃ i, (.job i, .made) ∈ touches x deeds ∧
      ∀ (k : Nat) (job : JobState), states[k]? = some job → job.isTeardown = true → k < i

/-- What was backed stays so while no teardown is queued. -/
theorem Backed.mono {states states' : List JobState} {deeds : List Deed} {x : Artifact}
    (h : Backed states deeds x) (d : Deed)
    (hteardown : ∀ (k : Nat) (job : JobState), states'[k]? = some job → job.isTeardown = true →
      ∃ earlier, states[k]? = some earlier ∧ earlier.isTeardown = true) :
    Backed states' (deeds ++ [d]) x := by
  rcases h with hnone | ⟨i, hmade, hbefore⟩
  · refine .inl fun k job hjob => ?_
    cases hkind : job.isTeardown with
    | false => rfl
    | true =>
      obtain ⟨earlier, hearlier, htrue⟩ := hteardown k job hjob hkind
      rw [hnone k earlier hearlier] at htrue
      cases htrue
  · refine .inr ⟨i, mem_touches_concat hmade d, fun k job hjob hkind => ?_⟩
    obtain ⟨earlier, hearlier, htrue⟩ := hteardown k job hjob hkind
    exact hbefore k earlier hearlier htrue

/-- Everything that the row of a layer names is backed. -/
def BackedRow (layer : Uuid) (states : List JobState) (deeds : List Deed) (layers : List Layer) :
    Prop :=
  ∀ l, row? layer layers = some l → ∀ x ∈ l.artifacts, Backed states deeds x

/-- All imports are of the layer and those that are open come after every teardown, none is open
while a reset is half done, and what a row names is backed unless it is about to be cleared. -/
structure ResetOrder (layer : Uuid) (phase : ResetPhase) (states : List JobState) (s : Shelf)
    (deeds : List Deed) : Prop where
  about : ∀ (i : Nat) (job : JobState) (id : Uuid) (p : ImportPhase), states[i]? = some job →
    job.work = .importing id p → id = layer
  order : ∀ (i k : Nat) (job other : JobState), states[i]? = some job → job.isOpenImport = true →
    states[k]? = some other → other.isTeardown = true → k < i
  quiet : phase ≠ .free → ∀ (i : Nat) (job : JobState), states[i]? = some job →
    job.isOpenImport = false
  present : ∀ layers, s.Holds layers → (row? layer layers).isSome
  backed : phase ≠ .owing → ∀ layers, s.Holds layers → BackedRow layer states deeds layers

/-- A statement that deletes no layer leaves the row of each where it was. -/
theorem row?_isSome_of_effect {st : Statement} {v : st.Value} {before after : List Layer}
    (hkeeps : ∀ id, st ≠ .deleteLayer id) (h : st.Effect v before after) {layer : Uuid}
    (hrow : (row? layer before).isSome) : (row? layer after).isSome := by
  cases h with
  | changed => rw [row?_changed]; simpa using hrow
  | deleted id => exact absurd rfl (hkeeps id)
  | inserted l =>
    unfold row? at hrow ⊢
    rw [List.find?_append, Option.isSome_or, hrow]
    rfl
  | _ => exact hrow

/-- An import adds to a row only what it has made. -/
theorem exists_row_of_import {settings : ImportSettings} {layer : Uuid} {phase : ImportPhase}
    {who : Actor} {deeds : List Deed} {st : Statement} {v : st.Value} {before after : List Layer}
    (hadmits : st.isOpenToImport settings layer phase)
    (hshows : phase.Shows settings layer who deeds) (h : st.Effect v before after) {l : Layer}
    (hl : row? layer after = some l) :
    ∃ old, row? layer before = some old ∧
      ∀ x ∈ l.artifacts, x ∈ old.artifacts ∨ (who, .made) ∈ touches x deeds := by
  cases h with
  | @changed id change =>
    rw [row?_changed] at hl
    obtain ⟨old, hold, rfl⟩ := Option.map_eq_some_iff.mp hl
    refine ⟨old, hold, fun x hx => ?_⟩
    split at hx
    · cases change with
      | loaded table features kind extent now =>
        obtain ⟨rfl, found, rfl, rfl⟩ := hadmits
        rcases Layer.mem_artifacts.mp hx with ⟨t, ht, rfl⟩ | ⟨e, he, rfl⟩
        · cases ht
          exact .inr hshows
        · exact .inl (Layer.mem_artifacts.mpr (.inr ⟨e, he, rfl⟩))
      | published entry now =>
        obtain ⟨found, row, rfl, rfl, rfl⟩ := hadmits
        rcases Layer.mem_artifacts.mp hx with ⟨t, ht, rfl⟩ | ⟨e, he, rfl⟩
        · exact .inl (Layer.mem_artifacts.mpr (.inl ⟨t, ht, rfl⟩))
        · cases he
          exact .inr hshows.2.2
      | cleared => exact hadmits.elim
    · exact .inl hx
  | deleted | inserted | listed | listedAttributes | deletedAttributes => exact hadmits.elim
  | _ => exact ⟨l, hl, fun x hx => .inl hx⟩

namespace ResetOrder

variable {settings : ImportSettings} {client : Monitor taskActions ResetPhase} {layer : Uuid}
  {phase : ResetPhase} {states : List JobState} {s s' : Shelf} {deeds : List Deed} {i : Nat}
  {job : JobState} {a : TaskAction} {x : a.Answer}

/-- What a job writes is the work of an open import: the row stays, and the import adds to it only
what it has made. -/
theorem of_effect (h : ResetOrder layer phase states s deeds)
    (hagree : JobsAgree settings states s deeds) (hjob : states[i]? = some job)
    (hadmits : (jobMonitor settings).admits job a) {before after : List Layer}
    (heffect : a.Effect x before after) :
    job.isOpenImport = true ∧ ((row? layer before).isSome → (row? layer after).isSome) ∧
      ∀ l, row? layer after = some l → ∃ old, row? layer before = some old ∧
        ∀ y ∈ l.artifacts, y ∈ old.artifacts ∨ (.job i, .made) ∈ touches y deeds := by
  obtain ⟨hledger, hwork⟩ := hadmits
  unfold TaskAction.Effect at heffect
  split at heffect
  · next st v =>
    have hworking : job.entry.stage = .working := hledger
    cases hwhat : job.work with
    | importing id p =>
      rw [hwhat] at hwork
      cases h.about i job id p hjob hwhat
      have hshows := (hagree.imports i job layer p hjob hwhat).shows
      refine ⟨?_, row?_isSome_of_effect ?_ heffect,
        fun l hl => exists_row_of_import hwork hshows heffect hl⟩
      · rw [JobState.isOpenImport, JobState.isTeardown, hwhat, hworking]
        rfl
      · rintro id rfl
        exact hwork
    | tearing => rw [hwhat] at hwork; exact hwork.elim
  · cases heffect

/-- A deed of a job keeps the order. -/
theorem act (h : ResetOrder layer phase states s deeds) (hagree : JobsAgree settings states s deeds)
    (hjob : states[i]? = some job) (hadmits : (jobMonitor settings).admits job a)
    (hdoes : Shelf.Does (.job i) a x s s') :
    ResetOrder layer phase ((jobWatch settings client).noteJobs states ⟨.job i, a, x⟩) s'
      (deeds ++ [⟨.job i, a, x⟩]) := by
  have hpast : ∀ {k : Nat} {later : JobState},
      ((jobWatch settings client).noteJobs states ⟨.job i, a, x⟩)[k]? = some later →
        ∃ earlier, states[k]? = some earlier ∧ later.Follows earlier :=
    exists_follows_of_noteJobs hjob hadmits
  refine ⟨?_, ?_, ?_, ?_, ?_⟩
  · intro k later id p hlater hwork
    obtain ⟨earlier, hearlier, hfollows⟩ := hpast hlater
    obtain ⟨before, hbefore⟩ := hfollows.importing id p hwork
    exact h.about k earlier id before hearlier hbefore
  · intro k n later other hlater hopen hother hteardown
    obtain ⟨earlier, hearlier, hfollows⟩ := hpast hlater
    obtain ⟨earlier', hearlier', hfollows'⟩ := hpast hother
    exact h.order k n earlier earlier' hearlier (hfollows.isOpenImport hopen) hearlier'
      (hfollows'.isTeardown ▸ hteardown)
  · intro hphase k later hlater
    obtain ⟨earlier, hearlier, hfollows⟩ := hpast hlater
    have hclosed := h.quiet hphase k earlier hearlier
    cases hopen : later.isOpenImport with
    | false => rfl
    | true =>
      rw [hfollows.isOpenImport hopen] at hclosed
      cases hclosed
  · intro layers hholds
    obtain ⟨before, hbefore, rfl | heffect⟩ := hdoes.of_holds hholds
    · exact h.present _ hbefore
    · exact (h.of_effect hagree hjob hadmits heffect).2.1 (h.present before hbefore)
  · intro hphase layers hholds l hl y hy
    have hkept {z : Artifact} (hz : Backed states deeds z) :
        Backed ((jobWatch settings client).noteJobs states ⟨.job i, a, x⟩)
          (deeds ++ [⟨.job i, a, x⟩]) z := by
      refine hz.mono _ fun k later hlater hteardown => ?_
      obtain ⟨earlier, hearlier, hfollows⟩ := hpast hlater
      exact ⟨earlier, hearlier, hfollows.isTeardown ▸ hteardown⟩
    obtain ⟨before, hbefore, rfl | heffect⟩ := hdoes.of_holds hholds
    · exact hkept (h.backed hphase _ hbefore l hl y hy)
    · obtain ⟨hopen, -, hadds⟩ := h.of_effect hagree hjob hadmits heffect
      obtain ⟨old, hold, hrow⟩ := hadds l hl
      rcases hrow y hy with hy | hmade
      · exact hkept (h.backed hphase before hbefore old hold y hy)
      · exact hkept (.inr ⟨i, hmade, fun k other hother hteardown =>
          h.order i k job other hjob hopen hother hteardown⟩)

/-- What changes neither the jobs nor the shelf keeps the order, if at most it finds that no
job imports. -/
theorem looked (h : ResetOrder layer phase states s deeds) (d : Deed) {next : ResetPhase}
    (hquiet : next ≠ .free → ∀ (i : Nat) (job : JobState), states[i]? = some job →
      job.isOpenImport = false) (howing : next ≠ .owing → phase ≠ .owing) :
    ResetOrder layer next states s (deeds ++ [d]) where
  about := h.about
  order := h.order
  quiet := hquiet
  present := h.present
  backed hnext layers hholds l hl y hy :=
    (h.backed (howing hnext) layers hholds l hl y hy).mono d fun _ other hother hteardown =>
      ⟨other, hother, hteardown⟩

/-- A newly queued import comes after every teardown. -/
theorem importing (h : ResetOrder layer .free states s deeds) (d : Deed) (id : JobId) :
    ResetOrder layer .free
      (states ++ [⟨⟨id, some layer, .waiting⟩, .importing layer .seeking⟩]) s (deeds ++ [d]) := by
  have hteardown {n : Nat} {other : JobState}
      (hother : (states ++ [⟨⟨id, some layer, .waiting⟩, .importing layer .seeking⟩])[n]? =
        some other) (hkind : other.isTeardown = true) : states[n]? = some other := by
    rcases Watch.of_getElem?_concat hother with hother | ⟨-, rfl⟩
    · exact hother
    · cases hkind
  refine ⟨?_, ?_, fun hphase => absurd rfl hphase, h.present, ?_⟩
  · intro k other id' p hother hwork
    rcases Watch.of_getElem?_concat hother with hother | ⟨-, rfl⟩
    · exact h.about k other id' p hother hwork
    · cases hwork
      rfl
  · intro k n later other hlater hopen hother hkind
    have hn := hteardown hother hkind
    rcases Watch.of_getElem?_concat hlater with hlater | ⟨rfl, -⟩
    · exact h.order k n later other hlater hopen hn hkind
    · exact (List.getElem?_eq_some_iff.mp hn).1
  · intro hphase layers hholds l hl y hy
    exact (h.backed hphase layers hholds l hl y hy).mono d fun n other hother hkind =>
      ⟨other, hteardown hother hkind, hkind⟩

/-- A teardown is queued while no import is open. -/
theorem tearing (h : ResetOrder layer .quiet states s deeds) (d : Deed) (id : JobId)
    (table : Option String) :
    ResetOrder layer .owing (states ++ [⟨⟨id, none, .waiting⟩, .tearing table false⟩]) s
      (deeds ++ [d]) := by
  have hclosed {k : Nat} {other : JobState}
      (hother : (states ++ [⟨⟨id, none, .waiting⟩, .tearing table false⟩])[k]? = some other) :
      other.isOpenImport = false := by
    rcases Watch.of_getElem?_concat hother with hother | ⟨-, rfl⟩
    · exact h.quiet nofun k other hother
    · rfl
  refine ⟨?_, ?_, fun _ k other hother => hclosed hother, h.present, fun hphase => absurd rfl hphase⟩
  · intro k other id' p hother hwork
    rcases Watch.of_getElem?_concat hother with hother | ⟨-, rfl⟩
    · exact h.about k other id' p hother hwork
    · cases hwork
  · intro k n later other hlater hopen
    rw [hclosed hlater] at hopen
    cases hopen

/-- A cleared row names nothing. -/
theorem cleared (h : ResetOrder layer .owing states s deeds)
    (hagree : JobsAgree settings states s deeds) {who : Actor} {now : Timestamp} {row : Layer}
    (d : Deed)
    (hstep : Shelf.Step who (.statement (.changeLayer layer (.cleared now))) (.ok row) s s') :
    ResetOrder layer .free states s' (deeds ++ [d]) := by
  have hdraft := draft_eq_none_of_quiet hagree (h.quiet nofun)
  have hpresent := h.present s.stored (.inl rfl)
  cases hstep with
  | executed _ heffect =>
    rw [Shelf.seenBy_of_none hdraft] at heffect
    rw [Shelf.put_of_none hdraft]
    cases heffect with
    | changed =>
      refine ⟨h.about, h.order, fun hphase => absurd rfl hphase, ?_, ?_⟩
      · intro layers hholds
        rw [hholds.eq_stored hdraft, row?_changed]
        simpa using hpresent
      · intro _ layers hholds l hl y hy
        rw [hholds.eq_stored hdraft, row?_changed] at hl
        obtain ⟨old, hold, rfl⟩ := Option.map_eq_some_iff.mp hl
        rw [if_pos (beq_iff_eq.mpr (id_of_row? hold))] at hy
        cases hy

/-- A deed of a request keeps the order. -/
theorem request {σ : Type} {office : Office σ} {workers : Nat} {m m' : Machine σ}
    (hsound : ∀ a s, (office.surroundings.recordFault a s).1 = none)
    (hbooked : Booked office workers m (states.map (·.entry))) (hheld : m.IsHeld)
    (hagree : JobsAgree office.settings states m.shelf deeds)
    (h : ResetOrder layer phase states m.shelf deeds) (hadmits : (resetMonitor layer).admits phase a)
    (hhandle : m.handle office (.client i) a = some (x, m'))
    (hdoes : Shelf.Does (.client i) a x m.shelf m'.shelf) :
    ResetOrder layer ((resetMonitor layer).after phase a x)
      ((jobWatch office.settings client).noteJobs states ⟨.client i, a, x⟩) m'.shelf
      (deeds ++ [⟨.client i, a, x⟩]) := by
  have hstates (hnew : Deed.newJob? ⟨.client i, a, x⟩ = none) :
      (jobWatch office.settings client).noteJobs states ⟨.client i, a, x⟩ = states :=
    Watch.noteJobs_client_of_none hnew
  have hsame (hshelf : m'.shelf = m.shelf) (hnew : Deed.newJob? ⟨.client i, a, x⟩ = none)
      {next : ResetPhase} (hquiet : next ≠ .free → ∀ (i : Nat) (job : JobState),
        states[i]? = some job → job.isOpenImport = false) (howing : next ≠ .owing → phase ≠ .owing) :
      ResetOrder layer next ((jobWatch office.settings client).noteJobs states ⟨.client i, a, x⟩)
        m'.shelf (deeds ++ [⟨.client i, a, x⟩]) := by
    rw [hshelf, hstates hnew]
    exact h.looked _ hquiet howing
  cases a with
  | site a =>
    cases a with
    | records a =>
      cases a with
      | statement st =>
        cases st with
        | findLayer => exact hsame (hdoes.eq_of_keepsLayers rfl) rfl h.quiet id
        | changeLayer id change =>
          cases change with
          | cleared now =>
            obtain ⟨rfl, rfl⟩ := hadmits
            have hclosed := draft_eq_none_of_quiet hagree (h.quiet nofun)
            obtain ⟨l, hl⟩ := Option.isSome_iff_exists.mp (h.present m.shelf.stored (.inl rfl))
            obtain ⟨row, rfl⟩ :=
              Machine.exists_ok_of_changeLayer hsound hheld hclosed hl hhandle
            rw [hstates rfl]
            exact h.cleared hagree _ hdoes
          | loaded | published => exact hadmits.elim
        | _ => exact hadmits.elim
      | «begin» | commit => exact hadmits.elim
    | now => exact hsame hdoes rfl h.quiet id
    | _ => exact hadmits.elim
  | queueImport id =>
    obtain ⟨rfl, rfl⟩ := hadmits
    cases x with
    | error running => exact hsame hdoes rfl (fun hfree => absurd rfl hfree) fun _ => nofun
    | ok job =>
      have hshelf : m'.shelf = m.shelf := hdoes
      rw [hshelf]
      exact h.importing _ job
  | queueTeardown table entry =>
    have hphase : phase = .quiet := hadmits
    subst hphase
    have hshelf : m'.shelf = m.shelf := hdoes
    rw [hshelf]
    exact h.tearing _ x table
  | runningImport id =>
    obtain ⟨rfl, rfl⟩ := hadmits
    cases x with
    | some running => exact hsame hdoes rfl (fun hfree => absurd rfl hfree) fun _ => nofun
    | none =>
      have hquiet : ResetPhase.quiet ≠ .free → ∀ (k : Nat) (job : JobState),
          states[k]? = some job → job.isOpenImport = false := by
        intro _ k job hjob
        cases hopen : job.isOpenImport with
        | false => rfl
        | true =>
          obtain ⟨layer', p, hwork, hactive⟩ :=
            exists_active_of_isOpenImport hbooked hagree hjob hopen
          cases h.about k job layer' p hjob hwork
          simp only [Machine.handle, Option.some.injEq, Prod.mk.injEq] at hhandle
          rw [Option.map_eq_none_iff.mp hhandle.1] at hactive
          cases hactive
      exact hsame hdoes rfl hquiet fun _ => nofun
  | _ => exact hadmits.elim

end ResetOrder

/-! ## What is gone at the end -/

/-- A teardown has unmade the artifact last, though an import that was queued after the teardown
made it before. -/
def Outrun (x : Artifact) (deeds : List Deed) : Prop :=
  ∃ i k, k < i ∧ (.job i, .made) ∈ touches x deeds ∧ lastTouch? x deeds = some (.job k, .unmade)

/-- The scene in which one client is about to make requests, one after another. -/
def Scene.oneByOne {σ : Type} (site : Site σ) (workers : Nat) (requests : List JobRequest) :
    Scene σ (List Admin.Response) :=
  ⟨Machine.start site workers, [Task.inTurn (requests.map JobRequest.task)]⟩

/-- What a backed row names was unmade last only by a teardown that an import had outrun. -/
theorem Backed.outrun {settings : ImportSettings} {states : List JobState} {s : Shelf}
    {deeds : List Deed} {x : Artifact} (h : Backed states deeds x)
    (hagree : JobsAgree settings states s deeds) {who : Actor}
    (hlast : lastTouch? x deeds = some (who, .unmade)) : Outrun x deeds := by
  obtain ⟨k, job, rfl, hjob, hkind⟩ := hagree.touched x who .unmade (mem_touches_of_lastTouch? hlast)
  have hteardown : job.isTeardown = true := hkind.mpr rfl
  rcases h with hnone | ⟨i, hmade, hbefore⟩
  · rw [hnone k job hjob] at hteardown
    cases hteardown
  · exact ⟨i, k, hbefore k job hjob hteardown, hmade, hlast⟩

/-- One client makes the requests, and the order holds for how far it has come. -/
def KeptByResets (layer : Uuid) (states : List JobState) (clients : List ResetPhase) (s : Shelf)
    (deeds : List Deed) : Prop :=
  ∃ phase, clients = [phase] ∧ ResetOrder layer phase states s deeds

/-- Whatever happens keeps the order. -/
theorem KeptByResets.happens {σ ρ : Type} {office : Office σ} {workers : Nat} {layer : Uuid}
    {Q : ρ → ResetPhase → Prop} {states : List JobState} {clients : List ResetPhase} {c : Course σ ρ}
    {d : Deed} {m : Machine σ} (hsound : ∀ a s, (office.surroundings.recordFault a s).1 = none)
    (hattended : c.Attended office workers (resetMonitor layer) Q states clients)
    (h : KeptByResets layer states clients c.scene.machine.shelf c.deeds)
    (hhappens : Happens office (resetMonitor layer) states clients c.scene.machine m d) :
    KeptByResets layer ((jobWatch office.settings (resetMonitor layer)).noteJobs states d)
      ((jobWatch office.settings (resetMonitor layer)).noteClients clients d) m.shelf
      (c.deeds ++ [d]) := by
  obtain ⟨phase, rfl, horder⟩ := h
  cases hhappens with
  | job hjob hadmits _ hdoes =>
    exact ⟨phase, rfl, horder.act hattended.agree hjob hadmits hdoes⟩
  | @client i r a x hr hadmits hhandle hdoes =>
    have hi : i = 0 ∧ r = phase := by
      rw [List.getElem?_singleton] at hr
      split at hr
      · next hzero => exact ⟨hzero, (Option.some.inj hr).symm⟩
      · cases hr
    obtain ⟨rfl, rfl⟩ := hi
    exact ⟨_, rfl, horder.request hsound hattended.booked hattended.held hattended.agree hadmits
      hhandle hdoes⟩

/-- In every course of resets and imports of a layer, the order of teardowns and imports holds
throughout. -/
theorem exists_resetOrder {σ : Type} (office : Office σ) (hinj : Function.Injective office.jobId)
    (hsound : ∀ a s, (office.surroundings.recordFault a s).1 = none) {site : Site σ}
    (hworking : site.working = none) (workers : Nat) {layer : Uuid}
    (hlayer : (site.records.layer? layer).isSome) {requests : List JobRequest}
    (hrequests : ∀ r ∈ requests, r.IsAboutImportsOf layer) (turns : List Turn) :
    let c := (Course.start (Scene.oneByOne site workers requests)).run office turns
    ∃ states phase,
      c.Attended office workers (resetMonitor layer) (fun _ last => last = .free) states [phase] ∧
        ResetOrder layer phase states c.scene.machine.shelf c.deeds := by
  intro c
  have hstart : (Course.start (Scene.oneByOne site workers requests)).Attended office workers
      (resetMonitor layer) (fun _ last => last = .free) [] [.free] :=
    .start office workers hworking (.single (resetTask_inTurn hrequests))
  have hfirst : ResetOrder layer .free [] (Machine.start site workers).shelf [] := by
    refine ⟨by simp, by simp, by simp, fun layers hholds => ?_, fun _ layers _ l _ x _ => ?_⟩
    · rw [hholds.eq_stored rfl]
      exact hlayer
    · exact .inl (by simp)
  have hkept : KeptByResets layer [] [.free] (Machine.start site workers).shelf [] :=
    ⟨.free, rfl, hfirst⟩
  obtain ⟨states, clients, hattended, phase, rfl, horder⟩ :=
    hstart.run hinj (fun _ _ => isOpenToRequests_of_reset) hkept
      (fun hattended h hhappens => h.happens hsound hattended hhappens) turns
  exact ⟨states, phase, hattended, horder⟩

/-- When all requests and jobs have ended, the layer is there, and something that its record
names is gone exactly if a teardown unmade it after an import queued later had made it. -/
theorem gone_iff_outrun {σ : Type} (office : Office σ) (hinj : Function.Injective office.jobId)
    (hsound : ∀ a s, (office.surroundings.recordFault a s).1 = none) (site : Site σ)
    (hworking : site.working = none) (workers : Nat) (layer : Uuid)
    (hlayer : (site.records.layer? layer).isSome) (requests : List JobRequest)
    (hrequests : ∀ r ∈ requests, r.IsAboutImportsOf layer) (turns : List Turn) :
    let c := (Course.start (Scene.oneByOne site workers requests)).run office turns
    c.scene.isOver → ∃ l, c.scene.machine.site.records.layer? layer = some l ∧
      ∀ x ∈ l.artifacts,
        (∃ who, lastTouch? x c.deeds = some (who, .unmade)) ↔ Outrun x c.deeds := by
  intro c hover
  obtain ⟨states, phase, hattended, horder⟩ :=
    exists_resetOrder office hinj hsound hworking workers hlayer hrequests turns
  obtain ⟨l, hl⟩ := Option.isSome_iff_exists.mp (horder.present _ (.inl rfl))
  refine ⟨l, hl, fun x hx => ⟨?_, ?_⟩⟩
  · rintro ⟨who, hlast⟩
    -- The client has ended, so no reset is half done.
    obtain ⟨-, -, hphase⟩ := hattended.exists_answer hover (i := 0) rfl
    have hbacked := horder.backed (by rw [hphase]; nofun) _ (.inl rfl) l hl x hx
    exact hbacked.outrun hattended.agree hlast
  · rintro ⟨i, k, -, -, hlast⟩
    exact ⟨.job k, hlast⟩

/-- The layer is reset and then imported again. -/
def outrunRequests : List JobRequest := [.bulkReset [⟨1⟩], .submitImport ⟨1⟩]

/-- The client makes both requests, and the teardown takes its permit, but goes on only when the
job of the import has ended. -/
def outrunTurns : List Turn :=
  List.replicate 7 (.act (.client 0)) ++ [.act (.job 0)] ++
    List.replicate 40 (.act (.job 1)) ++ List.replicate 6 (.act (.job 0))

/-- The course of these requests in the plain office with two workers. -/
def outrunCourse : Course Unit (List Admin.Response) :=
  (Course.start (Scene.oneByOne (Site.plain [.plainImported]) 2 outrunRequests)).run .plain
    outrunTurns

/-- In the course of a reset and an import both jobs are completed and the record names its table
and entry, but the teardown has dropped the one and deleted the other last. -/
theorem import_lost_to_teardown :
    outrunCourse.scene.isOver ∧
      outrunCourse.scene.machine.jobs.jobs.map (·.status) = [.completed, .completed] ∧
      (outrunCourse.scene.machine.site.records.layer? ⟨1⟩).map
        (fun l => (l.tableName, l.catalogEntry)) = some (some "roads", some "gis:roads") ∧
      touches (.table "roads") outrunCourse.deeds = [(.job 1, .made), (.job 0, .unmade)] ∧
      touches (.entry "gis:roads") outrunCourse.deeds = [(.job 1, .made), (.job 0, .unmade)] := by
  decide +kernel

/-- What is gone at the end of this course is what was outrun. -/
theorem gone_iff_outrun_plain :
    Function.Injective Office.plain.jobId ∧
      (∀ a s, (Office.plain.surroundings.recordFault a s).1 = none) ∧
      outrunCourse.scene.isOver ∧
      ∃ l, outrunCourse.scene.machine.site.records.layer? ⟨1⟩ = some l ∧
        ∀ x ∈ l.artifacts, (∃ who, lastTouch? x outrunCourse.deeds = some (who, .unmade)) ↔
          Outrun x outrunCourse.deeds := by
  have hover : outrunCourse.scene.isOver := by decide +kernel
  have habout : ∀ r ∈ outrunRequests, r.IsAboutImportsOf ⟨1⟩ := by
    simp [outrunRequests, JobRequest.IsAboutImportsOf]
  have hgone := gone_iff_outrun .plain Office.plain_jobId_injective (fun _ _ => rfl)
    (Site.plain [.plainImported]) rfl 2 ⟨1⟩ rfl outrunRequests habout outrunTurns
  unfold outrunCourse at hover ⊢
  exact ⟨Office.plain_jobId_injective, fun _ _ => rfl, hover, hgone hover⟩

end LayerPress
