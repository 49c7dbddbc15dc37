import LayerPress.Proofs.DeletionSteps
import LayerPress.Proofs.TableDrops

/-!
# A deletion beside an import of the same layer

A deletion goes through its steps while an import of the layer may be queued and run. When it has
succeeded and everything has ended, a table that the import made is left exactly if the row that
the deletion read does not name it, or the import made it again after it was dropped.

An import that ended before the deletion began has recorded its table, so the deletion finds the
table in the row and queues its teardown. An import that is queued after the row is gone never
finds it. So, apart from a table without a name, a table is left only by an import that was in
progress between two steps of the deletion, or that failed after it had made the table.
-/

namespace LayerPress

/-! ## Being in progress beside a deletion -/

/-- The job is queued and its task has not ended it. -/
def IsUnderway (i : Nat) (deeds : List Deed) : Prop :=
  ∃ e, (Ledger.ofDeeds deeds)[i]? = some e ∧ e.stage.isOpen = true

/-- The actor has done something. -/
def HasActed (who : Actor) (deeds : List Deed) : Prop :=
  ∃ d ∈ deeds, d.actor = who

/-- The job was in progress after a deed of the actor. -/
def Meets (i : Nat) (who : Actor) (deeds : List Deed) : Prop :=
  ∃ before rest, deeds = before ++ rest ∧ HasActed who before ∧ IsUnderway i before

/-- The job was in progress between two deeds of the actor. -/
def Interrupts (i : Nat) (who : Actor) (deeds : List Deed) : Prop :=
  ∃ before rest, deeds = before ++ rest ∧ HasActed who before ∧ IsUnderway i before ∧
    HasActed who rest

section
variable {i : Nat} {who : Actor} {deeds : List Deed}

/-- Who has acted has acted. -/
theorem HasActed.concat (h : HasActed who deeds) (d : Deed) : HasActed who (deeds ++ [d]) := by
  obtain ⟨e, he, hwho⟩ := h
  exact ⟨e, List.mem_append_left _ he, hwho⟩

/-- Whose deed it is has acted. -/
theorem hasActed_concat (deeds : List Deed) (d : Deed) : HasActed d.actor (deeds ++ [d]) :=
  ⟨d, List.mem_append_right _ (List.mem_singleton_self d), rfl⟩

/-- A failed job stays failed. -/
theorem HasFailed.concat (h : HasFailed i deeds) (d : Deed) : HasFailed i (deeds ++ [d]) := by
  obtain ⟨id, result, error, hmem⟩ := h
  exact ⟨id, result, error, List.mem_append_left _ hmem⟩

/-- A job that is in progress now, after a deed of the actor. -/
theorem IsUnderway.meets (h : IsUnderway i deeds) (hacted : HasActed who deeds) :
    Meets i who deeds :=
  ⟨deeds, [], (List.append_nil deeds).symm, hacted, h⟩

/-- What was met stays met. -/
theorem Meets.concat (h : Meets i who deeds) (d : Deed) : Meets i who (deeds ++ [d]) := by
  obtain ⟨before, rest, rfl, hacted, hunderway⟩ := h
  exact ⟨before, rest ++ [d], List.append_assoc .., hacted, hunderway⟩

/-- What was interrupted stays so. -/
theorem Interrupts.concat (h : Interrupts i who deeds) (d : Deed) :
    Interrupts i who (deeds ++ [d]) := by
  obtain ⟨before, rest, rfl, hacted, hunderway, hagain⟩ := h
  exact ⟨before, rest ++ [d], List.append_assoc .., hacted, hunderway, hagain.concat d⟩

/-- A job that was met interrupts the actor at its next deed. -/
theorem Meets.interrupts (h : Meets i who deeds) {d : Deed} (hd : d.actor = who) :
    Interrupts i who (deeds ++ [d]) := by
  obtain ⟨before, rest, rfl, hacted, hunderway⟩ := h
  exact ⟨before, rest ++ [d], List.append_assoc .., hacted, hunderway, hd ▸ hasActed_concat rest d⟩

/-- A job is met before the last deed or after it. -/
theorem of_meets_concat {d : Deed} (h : Meets i who (deeds ++ [d])) :
    Meets i who deeds ∨ IsUnderway i (deeds ++ [d]) := by
  obtain ⟨before, rest, heq, hacted, hunderway⟩ := h
  rcases List.eq_nil_or_concat rest with rfl | ⟨rest, last, rfl⟩
  · rw [List.append_nil] at heq
    exact .inr (heq ▸ hunderway)
  · rw [List.concat_eq_append, ← List.append_assoc] at heq
    obtain ⟨rfl, -⟩ := List.append_inj' heq rfl
    exact .inl ⟨before, rest, rfl, hacted, hunderway⟩

/-- A job is in progress when its state is open. -/
theorem isUnderway_iff {states : List JobState}
    (hentries : states.map (·.entry) = Ledger.ofDeeds deeds) :
    IsUnderway i deeds ↔ ∃ job, states[i]? = some job ∧ job.entry.stage.isOpen = true := by
  unfold IsUnderway
  rw [← hentries]
  simp only [List.getElem?_map, Option.map_eq_some_iff]
  constructor
  · rintro ⟨_, ⟨job, hjob, rfl⟩, hopen⟩
    exact ⟨job, hjob, hopen⟩
  · rintro ⟨job, hjob, hopen⟩
    exact ⟨job.entry, ⟨job, hjob, rfl⟩, hopen⟩

end

/-! ## Imports beside the steps -/

/-- Every import was met by the deletion, or failed, or recorded its table in the row that the
deletion has read. -/
def Missed (layer : Uuid) (slug : String) (l : Layer) (states : List JobState) (deeds : List Deed) :
    Prop :=
  ∀ (i : Nat) (job : JobState) (p : ImportPhase), states[i]? = some job →
    job.work = .importing layer p →
      Meets i (.client 0) deeds ∨ HasFailed i deeds ∨ l.tableName = some (Naming.tableName slug)

/-- Every import that was met by the deletion interrupted it, or never finds the row. -/
def Met (layer : Uuid) (states : List JobState) (deeds : List Deed) : Prop :=
  ∀ (i : Nat) (job : JobState) (p : ImportPhase), states[i]? = some job →
    job.work = .importing layer p → Meets i (.client 0) deeds →
      Interrupts i (.client 0) deeds ∨ p = .seeking ∧ ∀ x, (.job i, .made) ∉ touches x deeds

/-- Once a teardown has attempted to drop the table, only an import that was met by the deletion
makes it again. -/
def RemadeByMet (slug : String) (states : List JobState) (deeds : List Deed) : Prop :=
  ∀ (k : Nat) (job : JobState), states[k]? = some job →
    job.work = .tearing (some (Naming.tableName slug)) true → ∀ i,
      lastTouch? (.table (Naming.tableName slug)) deeds = some (.job i, .made) →
        Meets i (.client 0) deeds

/-- While its row is gone an import finds nothing. -/
theorem eq_seeking_of_removed {settings : ImportSettings} {layer : Uuid} {s s' : Shelf} {i : Nat}
    {a : TaskAction} {x : a.Answer} (hremoved : ∀ layers, s.Holds layers → row? layer layers = none)
    (hadmits : ((importMonitor settings layer).inJob ImportPhase.mayEnd).admits .seeking a)
    (hdoes : Shelf.Does (.job i) a x s s') :
    ((importMonitor settings layer).inJob ImportPhase.mayEnd).after .seeking a x = .seeking ∧
      Deed.touch? ⟨.job i, a, x⟩ = none := by
  have htouch : Deed.touch? ⟨.job i, a, x⟩ = none := by
    cases htouched : Deed.touch? ⟨.job i, a, x⟩ with
    | none => rfl
    | some touched =>
      obtain ⟨y, how⟩ := touched
      obtain ⟨c, rfl, hc⟩ := exists_call_of_touch? htouched
      cases c with
      | run =>
        obtain ⟨l, source, hfound, -⟩ := hadmits
        cases hfound
      | publish =>
        obtain ⟨l, row, hrecorded, -⟩ := hadmits
        cases hrecorded
      | drop | unpublish | info => exact hadmits.elim
      | _ => cases hc
  refine ⟨?_, htouch⟩
  cases a with
  | site a =>
    cases a with
    | records a =>
      cases a with
      | statement st =>
        cases st with
        | findLayer id =>
          obtain ⟨rfl, -⟩ := hadmits
          cases hdoes with
          | faulted => rfl
          | executed _ heffect =>
            cases heffect with
            | found =>
              have hnone := hremoved _ (s.holds_seenBy (.job i))
              unfold row? at hnone
              rw [hnone]
              rfl
        | _ => rfl
      | «begin» | commit => rfl
    | call c => cases c <;> rfl
    | _ => rfl
  | _ => rfl

section
variable {settings : ImportSettings} {client : Monitor taskActions DeletionPhase} {layer : Uuid}
  {slug : String} {states : List JobState} {s s' : Shelf} {deeds : List Deed} {i : Nat}
  {job : JobState} {a : TaskAction} {x : a.Answer}

/-- A job that is met at a deed of a job was met before it. -/
theorem meets_before_act {k : Nat} {who : Actor}
    (hentries : states.map (·.entry) = Ledger.ofDeeds deeds)
    (hentries' : ((jobWatch settings client).noteJobs states ⟨.job i, a, x⟩).map (·.entry) =
      Ledger.ofDeeds (deeds ++ [⟨.job i, a, x⟩]))
    (hjob : states[i]? = some job) (hadmits : (jobMonitor settings).admits job a)
    (hacted : HasActed who deeds) (h : Meets k who (deeds ++ [⟨.job i, a, x⟩])) :
    Meets k who deeds := by
  rcases of_meets_concat h with hmeets | hunderway
  · exact hmeets
  · obtain ⟨later, hlater, hopen⟩ := (isUnderway_iff hentries').mp hunderway
    obtain ⟨earlier, hearlier, hfollows⟩ := exists_follows_of_noteJobs hjob hadmits hlater
    have hbefore : IsUnderway k deeds :=
      (isUnderway_iff hentries).mpr ⟨earlier, hearlier, hfollows.isOpen hopen⟩
    exact hbefore.meets hacted

/-- A job that is met at a deed of a request, and was queued before it, was met before it. -/
theorem meets_before_request {k : Nat} {who : Actor}
    (hentries : states.map (·.entry) = Ledger.ofDeeds deeds)
    (hentries' : ((jobWatch settings client).noteJobs states ⟨.client i, a, x⟩).map (·.entry) =
      Ledger.ofDeeds (deeds ++ [⟨.client i, a, x⟩]))
    (hjob : states[k]? = some job) (hacted : HasActed who deeds)
    (h : Meets k who (deeds ++ [⟨.client i, a, x⟩])) : Meets k who deeds := by
  rcases of_meets_concat h with hmeets | hunderway
  · exact hmeets
  · obtain ⟨later, hlater, hopen⟩ := (isUnderway_iff hentries').mp hunderway
    rw [Watch.getElem?_noteJobs_client.mpr (.inl hjob)] at hlater
    cases hlater
    have hbefore : IsUnderway k deeds := (isUnderway_iff hentries).mpr ⟨job, hjob, hopen⟩
    exact hbefore.meets hacted

/-- A newly queued import is in progress. -/
theorem isUnderway_of_newJob? {p : ImportPhase}
    (hentries' : ((jobWatch settings client).noteJobs states ⟨.client i, a, x⟩).map (·.entry) =
      Ledger.ofDeeds (deeds ++ [⟨.client i, a, x⟩]))
    (hnew : Deed.newJob? ⟨.client i, a, x⟩ = some job) (hwork : job.work = .importing layer p) :
    IsUnderway states.length (deeds ++ [⟨.client i, a, x⟩]) := by
  obtain ⟨id, hentry, -⟩ := eq_importing_of_newJob? hnew hwork
  refine (isUnderway_iff hentries').mpr ⟨job, ?_, by rw [hentry]; rfl⟩
  exact Watch.getElem?_noteJobs_client.mpr (.inr ⟨rfl, hnew⟩)

namespace Missed

variable {l : Layer}

/-- A deed of a job. -/
theorem act (h : Missed layer slug l states deeds) (hjob : states[i]? = some job)
    (hadmits : (jobMonitor settings).admits job a) :
    Missed layer slug l ((jobWatch settings client).noteJobs states ⟨.job i, a, x⟩)
      (deeds ++ [⟨.job i, a, x⟩]) := by
  intro k later p hlater hwork
  obtain ⟨earlier, hearlier, hfollows⟩ := exists_follows_of_noteJobs hjob hadmits hlater
  obtain ⟨before, hbefore⟩ := hfollows.importing layer p hwork
  rcases h k earlier before hearlier hbefore with hmeets | hfailed | hnamed
  · exact .inl (hmeets.concat _)
  · exact .inr (.inl (hfailed.concat _))
  · exact .inr (.inr hnamed)

/-- A deed of a request when the deletion has begun: an import that it queues is met. -/
theorem request (h : Missed layer slug l states deeds)
    (hentries' : ((jobWatch settings client).noteJobs states ⟨.client i, a, x⟩).map (·.entry) =
      Ledger.ofDeeds (deeds ++ [⟨.client i, a, x⟩]))
    (hacted : HasActed (.client 0) (deeds ++ [⟨.client i, a, x⟩])) :
    Missed layer slug l ((jobWatch settings client).noteJobs states ⟨.client i, a, x⟩)
      (deeds ++ [⟨.client i, a, x⟩]) := by
  intro k later p hlater hwork
  rcases Watch.getElem?_noteJobs_client.mp hlater with hother | ⟨rfl, hnew⟩
  · rcases h k later p hother hwork with hmeets | hfailed | hnamed
    · exact .inl (hmeets.concat _)
    · exact .inr (.inl (hfailed.concat _))
    · exact .inr (.inr hnamed)
  · exact .inl ((isUnderway_of_newJob? hentries' hnew hwork).meets hacted)

/-- At the deed with which the deletion reads the row, an import is in progress or has ended. -/
theorem of_read (hrecords : RecordsAgree layer slug states s deeds)
    (hentries' : ((jobWatch settings client).noteJobs states ⟨.client 0, a, x⟩).map (·.entry) =
      Ledger.ofDeeds (deeds ++ [⟨.client 0, a, x⟩]))
    (hrow : row? layer (s.seenBy (.client 0)) = some l) :
    Missed layer slug l ((jobWatch settings client).noteJobs states ⟨.client 0, a, x⟩)
      (deeds ++ [⟨.client 0, a, x⟩]) := by
  have hacted : HasActed (.client 0) (deeds ++ [⟨.client 0, a, x⟩]) := hasActed_concat deeds _
  intro k later p hlater hwork
  rcases Watch.getElem?_noteJobs_client.mp hlater with hother | ⟨rfl, hnew⟩
  · cases hopen : later.entry.stage.isOpen with
    | true =>
      have hunderway : IsUnderway k (deeds ++ [⟨.client 0, a, x⟩]) :=
        (isUnderway_iff hentries').mpr ⟨later, hlater, hopen⟩
      exact .inl (hunderway.meets hacted)
    | false =>
      have himport := hrecords.imports k later p hother hwork
      rcases himport.ended hopen with hfailed | hrecorded
      · exact .inr (.inl (hfailed.concat _))
      · exact .inr (.inr (himport.recorded hrecorded _ (s.holds_seenBy _) l hrow))
  · exact .inl ((isUnderway_of_newJob? hentries' hnew hwork).meets hacted)

end Missed

namespace Met

/-- A deed of a job, while the row is gone. -/
theorem act (h : Met layer states deeds) (hentries : states.map (·.entry) = Ledger.ofDeeds deeds)
    (hentries' : ((jobWatch settings client).noteJobs states ⟨.job i, a, x⟩).map (·.entry) =
      Ledger.ofDeeds (deeds ++ [⟨.job i, a, x⟩]))
    (hjob : states[i]? = some job) (hadmits : (jobMonitor settings).admits job a)
    (hacted : HasActed (.client 0) deeds)
    (hremoved : ∀ layers, s.Holds layers → row? layer layers = none)
    (hdoes : Shelf.Does (.job i) a x s s') :
    Met layer ((jobWatch settings client).noteJobs states ⟨.job i, a, x⟩)
      (deeds ++ [⟨.job i, a, x⟩]) := by
  have hnone : (jobWatch settings client).opening ⟨.job i, a, x⟩ = none :=
    newJob?_eq_none_of_job hadmits.1
  intro k later p hlater hwork hmeets
  have hbefore := meets_before_act hentries hentries' hjob hadmits hacted hmeets
  rcases (Watch.getElem?_noteJobs_job hjob hnone).mp hlater with ⟨rfl, rfl⟩ | ⟨hk, hother⟩
  · obtain ⟨e, work⟩ := job
    obtain ⟨-, hadmitted⟩ := hadmits
    cases work with
    | importing id phase =>
      cases hwork
      rcases h k _ phase hjob rfl hbefore with hinterrupts | ⟨rfl, hmade⟩
      · exact .inl (hinterrupts.concat _)
      · obtain ⟨hseeking, htouch⟩ := eq_seeking_of_removed hremoved hadmitted hdoes
        refine .inr ⟨hseeking, fun y hy => ?_⟩
        rcases of_mem_touches_concat hy with hy | ⟨-, hy⟩
        · exact hmade y hy
        · rw [htouch] at hy
          cases hy
    | tearing => cases hwork
  · rcases h k later p hother hwork hbefore with hinterrupts | ⟨hseeking, hmade⟩
    · exact .inl (hinterrupts.concat _)
    · refine .inr ⟨hseeking, fun y hy => ?_⟩
      rcases of_mem_touches_concat hy with hy | ⟨hwho, -⟩
      · exact hmade y hy
      · exact hk (by simpa using hwho.symm)

/-- A deed of a request when the deletion has begun: an import that it queues has made nothing. -/
theorem request (h : Met layer states deeds) (hagree : JobsAgree settings states s deeds)
    (hentries : states.map (·.entry) = Ledger.ofDeeds deeds)
    (hentries' : ((jobWatch settings client).noteJobs states ⟨.client i, a, x⟩).map (·.entry) =
      Ledger.ofDeeds (deeds ++ [⟨.client i, a, x⟩]))
    (hopen : a.isOpenToRequests) (hacted : HasActed (.client 0) deeds) :
    Met layer ((jobWatch settings client).noteJobs states ⟨.client i, a, x⟩)
      (deeds ++ [⟨.client i, a, x⟩]) := by
  have htouches (y : Artifact) : touches y (deeds ++ [⟨.client i, a, x⟩]) = touches y deeds :=
    touches_concat_of_request hopen y deeds
  intro k later p hlater hwork hmeets
  rcases Watch.getElem?_noteJobs_client.mp hlater with hother | ⟨rfl, hnew⟩
  · have hbefore := meets_before_request hentries hentries' hother hacted hmeets
    rcases h k later p hother hwork hbefore with hinterrupts | ⟨hseeking, hmade⟩
    · exact .inl (hinterrupts.concat _)
    · exact .inr ⟨hseeking, fun y hy => hmade y (htouches y ▸ hy)⟩
  · obtain ⟨-, -, rfl⟩ := eq_importing_of_newJob? hnew hwork
    refine .inr ⟨rfl, fun y hy => ?_⟩
    obtain ⟨k, other, hk, hother, -⟩ := hagree.touched y _ _ (htouches y ▸ hy)
    cases hk
    exact absurd (List.getElem?_eq_some_iff.mp hother).1 (Nat.lt_irrefl _)

/-- At a later deed of the deletion which queues nothing, every import that was met interrupts
it. -/
theorem of_deletion (hentries : states.map (·.entry) = Ledger.ofDeeds deeds)
    (hentries' : ((jobWatch settings client).noteJobs states ⟨.client 0, a, x⟩).map (·.entry) =
      Ledger.ofDeeds (deeds ++ [⟨.client 0, a, x⟩]))
    (hnone : Deed.newJob? ⟨.client 0, a, x⟩ = none) (hacted : HasActed (.client 0) deeds) :
    Met layer ((jobWatch settings client).noteJobs states ⟨.client 0, a, x⟩)
      (deeds ++ [⟨.client 0, a, x⟩]) := by
  intro k later p hlater hwork hmeets
  rw [Watch.noteJobs_client_of_none hnone] at hlater
  exact .inl ((meets_before_request hentries hentries' hlater hacted hmeets).interrupts rfl)

end Met

namespace RemadeByMet

/-- A deed of a job. Whoever makes a table has a task that has not ended, so it is met by the
deletion that has queued the teardown. -/
theorem act (h : RemadeByMet slug states deeds)
    (hentries : states.map (·.entry) = Ledger.ofDeeds deeds) (hjob : states[i]? = some job)
    (hadmits : (jobMonitor settings).admits job a)
    (hacted : ∀ (k : Nat) (other : JobState), states[k]? = some other → other.isTeardown = true →
      HasActed (.client 0) deeds)
    (hdrop : ∀ t, a = .site (.call (.drop t)) → ∃ y, Deed.touch? ⟨.job i, a, x⟩ = some y) :
    RemadeByMet slug ((jobWatch settings client).noteJobs states ⟨.job i, a, x⟩)
      (deeds ++ [⟨.job i, a, x⟩]) := by
  intro k later hlater hwork j hlast
  rw [lastTouch?_concat] at hlast
  cases htouch : Deed.touchOf? ⟨.job i, a, x⟩ (.table (Naming.tableName slug)) with
  | some touched =>
    rw [htouch] at hlast
    cases hlast
    obtain ⟨hwho, hmade⟩ := touchOf?_eq_some_iff.mp htouch
    cases hwho
    obtain ⟨earlier, hearlier, hfollows⟩ := exists_follows_of_noteJobs hjob hadmits hlater
    have hkind : earlier.isTeardown = true := by
      rw [← hfollows.isTeardown, JobState.isTeardown, hwork]
    obtain ⟨c, rfl, -⟩ := exists_call_of_touch? hmade
    have hworking : job.entry.stage = .working := hadmits.1
    have hunderway : IsUnderway i deeds :=
      (isUnderway_iff hentries).mpr ⟨job, hjob, by rw [hworking]; rfl⟩
    exact (hunderway.meets (hacted k earlier hearlier hkind)).concat _
  | none =>
    rw [htouch] at hlast
    have hnone : (jobWatch settings client).opening ⟨.job i, a, x⟩ = none :=
      newJob?_eq_none_of_job hadmits.1
    rcases (Watch.getElem?_noteJobs_job hjob hnone).mp hlater with ⟨rfl, rfl⟩ | ⟨-, hother⟩
    · obtain ⟨e, work⟩ := job
      obtain ⟨-, hadmitted⟩ := hadmits
      cases work with
      | importing => cases hwork
      | tearing table attempted =>
        obtain ⟨rfl, hafter⟩ := WorkPhase.tearing.inj hwork
        rcases attempted_or_dropped hadmitted hdrop hafter with rfl | hdropped
        · exact (h k _ hjob rfl j hlast).concat _
        · rw [touchOf?_eq_some_iff.mpr ⟨rfl, hdropped⟩] at htouch
          cases htouch
    · exact (h k later hother hwork j hlast).concat _

/-- A deed of a request touches nothing. -/
theorem request (h : RemadeByMet slug states deeds) (hopen : a.isOpenToRequests) :
    RemadeByMet slug ((jobWatch settings client).noteJobs states ⟨.client i, a, x⟩)
      (deeds ++ [⟨.client i, a, x⟩]) := by
  intro k later hlater hwork j hlast
  rw [lastTouch?, touches_concat_of_request hopen] at hlast
  rcases Watch.getElem?_noteJobs_client.mp hlater with hother | ⟨-, hnew⟩
  · exact (h k later hother hwork j hlast).concat _
  · cases eq_false_of_newJob? hnew hwork

end RemadeByMet

end

/-! ## The whole order -/

/-- What holds beside a deletion: where it has come, what it has read and queued, how the imports
stand to its steps, and that the row stays gone. -/
structure DeletionOrder (layer : Uuid) (slug : String) (phase : DeletionPhase)
    (states : List JobState) (s : Shelf) (deeds : List Deed) : Prop where
  here : phase ≠ .aside
  begun : phase ≠ .unread → HasActed (.client 0) deeds
  read : ∀ l, phase.row? = some l → HasRead (.client 0) layer l deeds
  cleanUp : CleanUp phase states
  missed : ∀ l, phase.row? = some l → Missed layer slug l states deeds
  met : ∀ l, phase = .gone l → Met layer states deeds
  remade : RemadeByMet slug states deeds
  removed : ∀ l, phase = .gone l → ∀ layers, s.Holds layers → row? layer layers = none

namespace DeletionOrder

variable {settings : ImportSettings} {client : Monitor taskActions DeletionPhase} {layer : Uuid}
  {slug : String} {phase next : DeletionPhase} {states : List JobState} {s s' : Shelf}
  {deeds : List Deed} {i : Nat} {job : JobState} {a : TaskAction} {x : a.Answer}

/-- Before anything has happened. -/
theorem start (layer : Uuid) (slug : String) (s : Shelf) :
    DeletionOrder layer slug .unread [] s [] where
  here := nofun
  begun hphase := absurd rfl hphase
  read _ hl := by cases hl
  cleanUp := .start
  missed _ hl := by cases hl
  met _ hl := by cases hl
  remade _ _ hjob := by simp at hjob
  removed _ hl := by cases hl

/-- The deletion that has queued a teardown has acted. -/
theorem hasActed (h : DeletionOrder layer slug phase states s deeds) {k : Nat}
    (hjob : states[k]? = some job) (hkind : job.isTeardown = true) : HasActed (.client 0) deeds := by
  refine h.begun ?_
  rintro rfl
  rw [h.cleanUp.early rfl k job hjob] at hkind
  cases hkind

/-- A deed of a job keeps the order. -/
theorem act (h : DeletionOrder layer slug phase states s deeds)
    (hrecords : RecordsAgree layer slug states s deeds)
    (hentries : states.map (·.entry) = Ledger.ofDeeds deeds)
    (hentries' : ((jobWatch settings client).noteJobs states ⟨.job i, a, x⟩).map (·.entry) =
      Ledger.ofDeeds (deeds ++ [⟨.job i, a, x⟩]))
    (hjob : states[i]? = some job) (hadmits : (jobMonitor settings).admits job a)
    (hdrop : ∀ t, a = .site (.call (.drop t)) → ∃ y, Deed.touch? ⟨.job i, a, x⟩ = some y)
    (hdoes : Shelf.Does (.job i) a x s s') :
    DeletionOrder layer slug phase ((jobWatch settings client).noteJobs states ⟨.job i, a, x⟩) s'
      (deeds ++ [⟨.job i, a, x⟩]) where
  here := h.here
  begun hphase := (h.begun hphase).concat _
  read l hl := List.mem_append_left _ (h.read l hl)
  cleanUp := h.cleanUp.act hjob hadmits
  missed l hl := (h.missed l hl).act hjob hadmits
  met l hl := by
    have hacted : HasActed (.client 0) deeds := h.begun (by rw [hl]; nofun)
    exact (h.met l hl).act hentries hentries' hjob hadmits hacted (h.removed l hl) hdoes
  remade := h.remade.act hentries hjob hadmits (fun _ _ hother hkind => h.hasActed hother hkind) hdrop
  removed l hl layers hholds := by
    obtain ⟨before, hbefore, rfl | heffect⟩ := hdoes.of_holds hholds
    · exact h.removed l hl _ hbefore
    · exact row?_eq_none_of_effect (h.removed l hl before hbefore)
        (hrecords.keepsNames hjob hadmits) heffect

/-- A step of the deletion keeps the order. -/
theorem deletion (h : DeletionOrder layer slug phase states s deeds)
    (hagree : JobsAgree settings states s deeds) (hrecords : RecordsAgree layer slug states s deeds)
    (hentries : states.map (·.entry) = Ledger.ofDeeds deeds)
    (hentries' : ((jobWatch settings client).noteJobs states ⟨.client 0, a, x⟩).map (·.entry) =
      Ledger.ofDeeds (deeds ++ [⟨.client 0, a, x⟩]))
    (hopen : a.isOpenToRequests) (hstep : DeletionStep layer phase a x next)
    (hdoes : Shelf.Does (.client 0) a x s s') :
    DeletionOrder layer slug next ((jobWatch settings client).noteJobs states ⟨.client 0, a, x⟩) s'
      (deeds ++ [⟨.client 0, a, x⟩]) where
  here := hstep.ne_aside
  begun _ := hasActed_concat deeds _
  read l hl := by
    rcases hstep.of_row? hl with hphase | hread
    · exact List.mem_append_left _ (h.read l hphase)
    · exact List.mem_append_right _ (List.mem_singleton.mpr (hread _).symm)
  cleanUp := h.cleanUp.deletion hstep
  missed l hl := by
    rcases hstep.of_row? hl with hphase | hread
    · exact (h.missed l hphase).request hentries' (hasActed_concat deeds _)
    · cases hread (.client 0)
      exact .of_read hrecords hentries' hdoes.row?_of_found
  met l hl := by
    subst hl
    cases hstep with
    | gone => exact .of_deletion hentries hentries' rfl (h.begun nofun)
  remade := h.remade.request hopen
  removed l hl layers hholds := by
    subst hl
    cases hstep with
    | gone =>
      refine hdoes.row?_of_deleted (fun held hheld => ?_) hholds
      obtain ⟨k, other, -, -, hk, -⟩ := hagree.owned _ held hheld
      cases hk

/-- A deed of the submitted import keeps the order. -/
theorem beside (h : DeletionOrder layer slug phase states s deeds)
    (hagree : JobsAgree settings states s deeds)
    (hentries : states.map (·.entry) = Ledger.ofDeeds deeds)
    (hentries' : ((jobWatch settings client).noteJobs states ⟨.client i, a, x⟩).map (·.entry) =
      Ledger.ofDeeds (deeds ++ [⟨.client i, a, x⟩]))
    (hadmits : (deletionMonitor layer).admits .aside a) (hdoes : Shelf.Does (.client i) a x s s') :
    DeletionOrder layer slug phase ((jobWatch settings client).noteJobs states ⟨.client i, a, x⟩) s'
      (deeds ++ [⟨.client i, a, x⟩]) := by
  have hopen := isOpenToRequests_of_deletion hadmits
  have hsame : s' = s := by
    rcases eq_of_submitted hadmits with rfl | rfl
    · exact hdoes.eq_of_keepsLayers rfl
    · exact hdoes
  have hacted {l : Layer} (hl : phase.row? = some l) : HasActed (.client 0) deeds :=
    h.begun (by rintro rfl; cases hl)
  exact {
    here := h.here
    begun := fun hphase => (h.begun hphase).concat _
    read := fun l hl => List.mem_append_left _ (h.read l hl)
    cleanUp := h.cleanUp.beside hadmits
    missed := fun l hl => (h.missed l hl).request hentries' ((hacted hl).concat _)
    met := fun l hl => (h.met l hl).request hagree hentries hentries' hopen (hacted (l := l) (hl ▸ rfl))
    remade := h.remade.request hopen
    removed := fun l hl => hsame ▸ h.removed l hl }

/-- At the end, the tables that a teardown has attempted to drop are the one in the row that the
deletion has read, if it has a name. -/
theorem attempted_iff {l : Layer} (h : DeletionOrder layer slug (.gone l) states s deeds)
    (hdrops : DropsAgree states deeds)
    (hended : ∀ (k : Nat) (job : JobState), states[k]? = some job → job.HasEnded) (t : String) :
    (∃ (k : Nat) (job : JobState), states[k]? = some job ∧ job.work = .tearing (some t) true) ↔
      l.tableName = some t ∧ t ≠ "" := by
  constructor
  · rintro ⟨k, job, hjob, hwork⟩
    have hname := h.cleanUp.named l rfl k job _ _ hjob hwork
    exact ⟨hname.symm, (hdrops.attempted t _ (hdrops.dropped k job t hjob hwork)).1⟩
  · rintro ⟨hname, hne⟩
    have htext : hasText l.tableName = true := by
      rw [hname]
      simpa [hasText] using hne
    obtain ⟨k, job, attempted, hjob, hwork⟩ := h.cleanUp.queued l rfl htext
    have hattempted : attempted = true := (hended k job hjob).2 _ _ hwork htext
    subst hattempted
    exact ⟨k, job, hjob, hname ▸ hwork⟩

/-- At the end, whoever made a table last was in progress between two steps of the deletion, or
failed, or the table has no name. -/
theorem interrupts_or_failed {l : Layer} (h : DeletionOrder layer slug (.gone l) states s deeds)
    (hagree : JobsAgree settings states s deeds) (hrecords : RecordsAgree layer slug states s deeds)
    (hdrops : DropsAgree states deeds)
    (hended : ∀ (k : Nat) (job : JobState), states[k]? = some job → job.HasEnded) {t : String}
    (hlast : lastTouch? (.table t) deeds = some (.job i, .made)) :
    Interrupts i (.client 0) deeds ∨ HasFailed i deeds ∨ t = "" := by
  have hmade := mem_touches_of_lastTouch? hlast
  obtain ⟨k, job, hk, hjob, hkind⟩ := hagree.touched _ _ .made hmade
  cases hk
  cases hrecords.made i t hmade
  cases hwork : job.work with
  | tearing =>
    have hmake := hkind.mp (by rw [JobState.isTeardown, hwork])
    cases hmake
  | importing id p =>
    cases hrecords.about i job id p hjob hwork
    -- An import that the deletion has met found the row, since it made the table.
    have hinterrupts (hmeets : Meets i (.client 0) deeds) : Interrupts i (.client 0) deeds := by
      rcases h.met l rfl i job p hjob hwork hmeets with hinterrupts | ⟨-, hnever⟩
      · exact hinterrupts
      · exact absurd hmade (hnever _)
    rcases h.missed l rfl i job p hjob hwork with hmeets | hfailed | hnamed
    · exact .inl (hinterrupts hmeets)
    · exact .inr (.inl hfailed)
    · by_cases hname : Naming.tableName slug = ""
      · exact .inr (.inr hname)
      · obtain ⟨k, other, hother, htearing⟩ :=
          (h.attempted_iff hdrops hended (Naming.tableName slug)).mpr ⟨hnamed, hname⟩
        exact .inl (hinterrupts (h.remade k other hother htearing i hlast))

end DeletionOrder

/-! ## Whole courses -/

/-- A drop that succeeds touches its table. -/
theorem exists_touch_of_drop {σ : Type} {office : Office σ} {m after : Machine σ} {who : Actor}
    (hdrops : ∀ t s, ∃ v, (office.surroundings.answer (.drop t) s).1 = .ok v) {a : TaskAction}
    {x : a.Answer} (hhandle : m.handle office who a = some (x, after)) {t : String}
    (ha : a = .site (.call (.drop t))) : ∃ y, Deed.touch? ⟨who, a, x⟩ = some y := by
  subst ha
  simp only [Machine.handle, Machine.onSite, Site.handle, Option.some.injEq, Prod.mk.injEq] at hhandle
  obtain ⟨v, hv⟩ := hdrops t m.site.outside
  rw [← hhandle.1, hv]
  exact ⟨(.table t, .unmade), rfl⟩

/-- Two clients make a deletion and beside it an import, which keep names, agree with the records
and the drops, and keep the order. -/
def KeptByDeletion (layer : Uuid) (slug : String) (states : List JobState)
    (clients : List DeletionPhase) (s : Shelf) (deeds : List Deed) : Prop :=
  ∃ phase, clients = [phase, .aside] ∧ RecordsAgree layer slug states s deeds ∧
    DropsAgree states deeds ∧ DeletionOrder layer slug phase states s deeds

/-- Whatever happens keeps the order. -/
theorem KeptByDeletion.happens {σ ρ : Type} {office : Office σ} {workers : Nat} {layer : Uuid}
    {slug : String} {Q : ρ → DeletionPhase → Prop} {states : List JobState}
    {clients : List DeletionPhase} {c : Course σ ρ} {d : Deed} {m : Machine σ}
    (hdrops : ∀ t s, ∃ v, (office.surroundings.answer (.drop t) s).1 = .ok v)
    (hattended : c.Attended office workers (deletionMonitor layer) Q states clients)
    (h : KeptByDeletion layer slug states clients c.scene.machine.shelf c.deeds)
    (hhappens : Happens office (deletionMonitor layer) states clients c.scene.machine m d) :
    KeptByDeletion layer slug
      ((jobWatch office.settings (deletionMonitor layer)).noteJobs states d)
      ((jobWatch office.settings (deletionMonitor layer)).noteClients clients d) m.shelf
      (c.deeds ++ [d]) := by
  obtain ⟨phase, rfl, hrecords, hdropped, horder⟩ := h
  have hentries := hattended.entries
  have hentries' := hattended.entries_concat d
  have hagree := hattended.agree
  cases hhappens with
  | job hjob hadmits hhandle hdoes =>
    have hdrop := fun t ha => exists_touch_of_drop hdrops hhandle (t := t) ha
    exact ⟨phase, rfl, hrecords.act hagree hjob hadmits hdoes, hdropped.act hjob hadmits hdrop,
      horder.act hrecords hentries hentries' hjob hadmits hdrop hdoes⟩
  | @client i r a x hr hadmits hhandle hdoes =>
    have hopen := isOpenToRequests_of_deletion hadmits
    have habout : ∀ id, a = .queueImport id → id = layer := by
      rintro id rfl
      exact hadmits.1
    have hrecords' : RecordsAgree layer slug
        ((jobWatch office.settings (deletionMonitor layer)).noteJobs states ⟨.client i, a, x⟩)
        m.shelf (c.deeds ++ [⟨.client i, a, x⟩]) :=
      hrecords.request hopen (keepsNames_of_deletion hadmits) habout hdoes
    match i with
    | 0 =>
      cases hr
      have hstep := step_of_deletion hadmits horder.here x
      exact ⟨_, rfl, hrecords', hdropped.request hopen,
        horder.deletion hagree hrecords hentries hentries' hopen hstep hdoes⟩
    | 1 =>
      cases hr
      exact ⟨phase, rfl, hrecords', hdropped.request hopen,
        horder.beside hagree hentries hentries' hadmits hdoes⟩
    | i + 2 => cases hr

/-- In every course of a deletion and an import of a layer, the order of their steps holds
throughout. -/
theorem exists_deletionOrder {σ : Type} (office : Office σ) (hinj : Function.Injective office.jobId)
    (hdrops : ∀ t s, ∃ v, (office.surroundings.answer (.drop t) s).1 = .ok v) {site : Site σ}
    (hworking : site.working = none) (workers : Nat) (layer : Uuid) (turns : List Turn) :
    let requests := [JobRequest.deleteLayer layer, .submitImport layer]
    let c := (Course.start (Scene.opening site workers requests)).run office turns
    ∃ slug states phase,
      c.Attended office workers (deletionMonitor layer) SaysGone states [phase, .aside] ∧
        RecordsAgree layer slug states c.scene.machine.shelf c.deeds ∧
          DropsAgree states c.deeds ∧
            DeletionOrder layer slug phase states c.scene.machine.shelf c.deeds := by
  intro requests c
  have hclients : Staffed (fun r t => (deletionMonitor layer).Passes SaysGone r t)
      [.unread, .aside] (requests.map JobRequest.task) :=
    (Staffed.single (Admin.Handling.passes_answer (Admin.Handling.passes_deleteLayer layer))).append
      (.single (Admin.Handling.passes_answer (Admin.Handling.passes_submitImport layer)))
  have hstart : (Course.start (Scene.opening site workers requests)).Attended office workers
      (deletionMonitor layer) SaysGone [] [.unread, .aside] :=
    .start office workers hworking hclients
  obtain ⟨slug, hrecords⟩ := RecordsAgree.exists_start (s := (Machine.start site workers).shelf) rfl layer
  have hkept : KeptByDeletion layer slug [] [.unread, .aside] (Machine.start site workers).shelf [] :=
    ⟨.unread, rfl, hrecords, .nil, .start layer slug _⟩
  obtain ⟨states, clients, hattended, phase, rfl, hkept⟩ :=
    hstart.run hinj (fun _ _ => isOpenToRequests_of_deletion) hkept
      (fun hattended h hhappens => h.happens hdrops hattended hhappens) turns
  exact ⟨slug, states, phase, hattended, hkept⟩

/-- When a deletion has succeeded beside an import of its layer and everything has ended, a table
is left exactly if the import made it, and made it again in case the row that the deletion read
names it. The import was then in progress between two steps of the deletion, or failed after all,
or the table has no name. -/
theorem table_left_iff {σ : Type} (office : Office σ) (hinj : Function.Injective office.jobId)
    (hdrops : ∀ t s, ∃ v, (office.surroundings.answer (.drop t) s).1 = .ok v) (site : Site σ)
    (hworking : site.working = none) (workers : Nat) (layer : Uuid) (turns : List Turn) :
    let requests := [JobRequest.deleteLayer layer, .submitImport layer]
    let c := (Course.start (Scene.opening site workers requests)).run office turns
    c.scene.isOver → ∀ r, c.scene.answers[0]? = some (some r) → r.status = 204 →
      ∃ l, HasRead (.client 0) layer l c.deeds ∧ ∀ t,
        ((∃ who, lastTouch? (.table t) c.deeds = some (who, .made)) ↔
          ∃ i, (.job i, .made) ∈ touches (.table t) c.deeds ∧
            (l.tableName = some t ∧ t ≠ "" → Remade (.table t) i c.deeds)) ∧
        ∀ i, lastTouch? (.table t) c.deeds = some (.job i, .made) →
          Interrupts i (.client 0) c.deeds ∨ HasFailed i c.deeds ∨ t = "" := by
  intro requests c hover r hanswer hstatus
  obtain ⟨slug, states, phase, hattended, hrecords, hdropped, horder⟩ :=
    exists_deletionOrder office hinj hdrops hworking workers layer turns
  have hended : ∀ (k : Nat) (job : JobState), states[k]? = some job → job.HasEnded :=
    fun _ _ hjob => hattended.hasEnded hover hjob
  obtain ⟨answer, hsame, hsays⟩ := hattended.exists_answer hover (i := 0) rfl
  rw [hanswer] at hsame
  cases hsame
  obtain ⟨l, rfl⟩ := hsays hstatus
  refine ⟨l, horder.read l rfl, fun t => ⟨?_, fun i hlast => ?_⟩⟩
  · rw [hdropped.made_iff hattended.agree horder.cleanUp.single t,
      horder.attempted_iff hdropped hended t]
  · exact horder.interrupts_or_failed hattended.agree hrecords hdropped hended hlast

/-- The deletion reads the layer, the import is submitted and its job runs to the end, and then
the deletion goes on. -/
def orphaningTurns : List Turn :=
  [.act (.client 0)] ++ List.replicate 2 (.act (.client 1)) ++
    List.replicate 40 (.act (.job 0)) ++ List.replicate 6 (.act (.client 0))

/-- The course of a deletion and an import of the plain layer. -/
def orphaningCourse : Course Unit Admin.Response :=
  (Course.start (Scene.opening (Site.plain [.plain "roads"]) 1
    [.deleteLayer ⟨1⟩, .submitImport ⟨1⟩])).run .plain orphaningTurns

/-- In this course the deletion succeeds and the job is completed, no record is left, and the
table that the job has made is left. -/
theorem table_orphaned_by_deletion :
    orphaningCourse.scene.isOver ∧
      orphaningCourse.scene.answers.map (·.map (·.status)) = [some 204, some 202] ∧
      orphaningCourse.scene.machine.jobs.jobs.map (·.status) = [.completed] ∧
      orphaningCourse.scene.machine.site.records.layers = [] ∧
      touches (.table "roads") orphaningCourse.deeds = [(.job 0, .made)] := by
  decide +kernel

/-- In this course the row that the deletion read does not name the table that is left, which was
made by an import that interrupted the deletion or failed. -/
theorem table_left_iff_plain :
    Function.Injective Office.plain.jobId ∧
      (∀ t s, ∃ v, (Office.plain.surroundings.answer (.drop t) s).1 = .ok v) ∧
      orphaningCourse.scene.isOver ∧
      ∃ r, orphaningCourse.scene.answers[0]? = some (some r) ∧ r.status = 204 ∧
        ∃ l, HasRead (.client 0) ⟨1⟩ l orphaningCourse.deeds ∧ ∀ t,
          ((∃ who, lastTouch? (.table t) orphaningCourse.deeds = some (who, .made)) ↔
            ∃ i, (.job i, .made) ∈ touches (.table t) orphaningCourse.deeds ∧
              (l.tableName = some t ∧ t ≠ "" → Remade (.table t) i orphaningCourse.deeds)) ∧
          ∀ i, lastTouch? (.table t) orphaningCourse.deeds = some (.job i, .made) →
            Interrupts i (.client 0) orphaningCourse.deeds ∨ HasFailed i orphaningCourse.deeds ∨
              t = "" := by
  have hover : orphaningCourse.scene.isOver := by decide +kernel
  have hanswer : orphaningCourse.scene.answers[0]?.map (·.map (·.status)) = some (some 204) := by
    decide +kernel
  obtain ⟨answer, hsome, hstatus⟩ := Option.map_eq_some_iff.mp hanswer
  obtain ⟨r, rfl, hr⟩ := Option.map_eq_some_iff.mp hstatus
  have hdrops : ∀ t s, ∃ v, (Office.plain.surroundings.answer (.drop t) s).1 = .ok v :=
    fun t s => Surroundings.plain_answers (.drop t) s
  have hleft := table_left_iff .plain Office.plain_jobId_injective hdrops
    (Site.plain [.plain "roads"]) rfl 1 ⟨1⟩ orphaningTurns
  unfold orphaningCourse at hover hsome ⊢
  exact ⟨Office.plain_jobId_injective, hdrops, hover, r, hsome, hr, hleft hover r hsome hr⟩

end LayerPress
