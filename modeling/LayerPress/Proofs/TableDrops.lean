import LayerPress.Proofs.Attendance

/-!
# The tables that teardowns drop

While every drop succeeds, a teardown that has attempted its drop has dropped its table, and
nobody else has. It does so once. So where a single teardown is queued, an import leaves its table
behind exactly if the teardown names another table or the import made the table again.
-/

namespace LayerPress

/-- The job made the artifact after somebody had unmade it. -/
def Remade (x : Artifact) (i : Nat) (deeds : List Deed) : Prop :=
  ∃ who, [(who, .unmade), (.job i, .made)].Sublist (touches x deeds)

section
variable {α : Type} {l : List α} {a b c : α}

/-- An element that is not the last comes before it. -/
theorem pair_sublist_of_getLast? (hlast : l.getLast? = some b) (ha : a ∈ l) (hne : a ≠ b) :
    [a, b].Sublist l := by
  obtain ⟨earlier, rfl⟩ := List.getLast?_eq_some_iff.mp hlast
  have hbefore : a ∈ earlier := by simpa [hne] using ha
  exact (List.singleton_sublist.mpr hbefore).append (List.Sublist.refl [b])

/-- What comes before something that is not last is not last either. -/
theorem mem_of_pair_sublist_concat (h : [a, b].Sublist (l ++ [c])) (hne : b ≠ c) : a ∈ l := by
  obtain ⟨front, back, heq, hfront, hback⟩ := List.sublist_append_iff.mp h
  rcases List.sublist_singleton.mp hback with rfl | rfl
  · rw [List.append_nil] at heq
    exact hfront.subset (heq ▸ List.mem_cons_self)
  · have hlast : b = c := by
      have := congrArg List.getLast? heq
      simpa using this
    exact absurd hlast hne

end

/-- The tables that were dropped are those of the teardowns that have attempted the drop, each of
which has a name and was dropped by the teardown once. -/
structure DropsAgree (states : List JobState) (deeds : List Deed) : Prop where
  attempted : ∀ (t : String) (who : Actor), (who, .unmade) ∈ touches (.table t) deeds →
    t ≠ "" ∧ ∃ (k : Nat) (job : JobState), who = .job k ∧ states[k]? = some job ∧
      job.work = .tearing (some t) true
  dropped : ∀ (k : Nat) (job : JobState) (t : String), states[k]? = some job →
    job.work = .tearing (some t) true → (.job k, .unmade) ∈ touches (.table t) deeds
  once : ∀ (t : String) (k : Nat), (touches (.table t) deeds).count (.job k, .unmade) ≤ 1

section
variable {settings : ImportSettings} {job : JobState} {a : TaskAction} {x : a.Answer} {who : Actor}
  {t : String}

/-- Only a teardown of the table drops it, before it has attempted to. -/
theorem work_of_unmade (hadmits : (jobMonitor settings).admits job a)
    (h : Deed.touch? ⟨who, a, x⟩ = some (.table t, .unmade)) :
    t ≠ "" ∧ job.work = .tearing (some t) false ∧
      ((jobMonitor settings).after job a x).work = .tearing (some t) true := by
  obtain ⟨e, work⟩ := job
  obtain ⟨-, hadmitted⟩ := hadmits
  cases work with
  | importing => cases eq_made_of_import hadmitted h
  | tearing table attempted =>
    obtain ⟨c, rfl, hc⟩ := exists_call_of_touch? h
    cases c with
    | drop name =>
      have hparts : table = some name ∧ name ≠ "" ∧ attempted = false := hadmitted
      obtain ⟨rfl, hname, rfl⟩ := hparts
      cases hc
      exact ⟨hname, rfl, rfl⟩
    | unpublish => cases hc
    | _ => exact hadmitted.elim

/-- A teardown that has attempted its drop did so before, or has just dropped its table. -/
theorem attempted_or_dropped {attempted : Bool} {mayEnd : JobStatus → Bool → Prop}
    (hadmits : ((teardownMonitor (some t)).inJob mayEnd).admits attempted a)
    (hdrop : ∀ name, a = .site (.call (.drop name)) → ∃ y, Deed.touch? ⟨who, a, x⟩ = some y)
    (h : ((teardownMonitor (some t)).inJob mayEnd).after attempted a x = true) :
    attempted = true ∨ Deed.touch? ⟨who, a, x⟩ = some (.table t, .unmade) := by
  cases a with
  | site a =>
    cases a with
    | call c =>
      cases c with
      | drop name =>
        obtain ⟨⟨⟩, -, -⟩ := hadmits
        obtain ⟨⟨y, how⟩, hy⟩ := hdrop t rfl
        obtain ⟨c, hc, htouched⟩ := exists_call_of_touch? hy
        cases hc
        cases htouched
        exact .inr hy
      | unpublish => exact .inl h
      | _ => exact hadmits.elim
    | _ => exact hadmits.elim
  | _ => exact .inl h

/-- What has been attempted stays attempted. -/
theorem tearing_after (hwork : job.work = .tearing (some t) true) :
    ((jobMonitor settings).after job a x).work = .tearing (some t) true := by
  obtain ⟨e, work⟩ := job
  cases hwork
  cases a with
  | site a =>
    cases a with
    | call c => cases c <;> rfl
    | _ => rfl
  | _ => rfl

/-- A teardown that is queued has attempted nothing. -/
theorem eq_false_of_newJob? {d : Deed} {table : Option String} {attempted : Bool}
    (h : d.newJob? = some job) (hwork : job.work = .tearing table attempted) : attempted = false := by
  obtain ⟨who, a, x⟩ := d
  cases a with
  | queueImport id =>
    cases x with
    | ok job => cases h; cases hwork
    | error running => cases h
  | queueTeardown => cases h; cases hwork; rfl
  | _ => cases h

end

namespace DropsAgree

variable {R : Type} {settings : ImportSettings} {client : Monitor taskActions R}
  {states : List JobState} {deeds : List Deed} {i : Nat} {job : JobState} {a : TaskAction}
  {x : a.Answer} {t : String}

/-- Nothing was dropped before anything has happened. -/
theorem nil : DropsAgree [] [] where
  attempted _ _ h := by simp [touches] at h
  dropped _ _ _ h := by simp at h
  once _ _ := by simp [touches]

/-- A deed of a job keeps the agreement. -/
theorem act (h : DropsAgree states deeds) (hjob : states[i]? = some job)
    (hadmits : (jobMonitor settings).admits job a)
    (hdrop : ∀ name, a = .site (.call (.drop name)) → ∃ y, Deed.touch? ⟨.job i, a, x⟩ = some y) :
    DropsAgree ((jobWatch settings client).noteJobs states ⟨.job i, a, x⟩)
      (deeds ++ [⟨.job i, a, x⟩]) := by
  have hlookup : ∀ {k : Nat} {other : JobState},
      ((jobWatch settings client).noteJobs states ⟨.job i, a, x⟩)[k]? = some other ↔
        k = i ∧ other = (jobMonitor settings).after job a x ∨ k ≠ i ∧ states[k]? = some other :=
    Watch.getElem?_noteJobs_job hjob (newJob?_eq_none_of_job hadmits.1)
  refine ⟨?_, ?_, ?_⟩
  · intro t who hunmade
    rcases of_mem_touches_concat hunmade with hearlier | ⟨rfl, htouch⟩
    · obtain ⟨hname, k, other, rfl, hother, hwork⟩ := h.attempted t who hearlier
      refine ⟨hname, ?_⟩
      by_cases hk : k = i
      · subst hk
        cases hjob.symm.trans hother
        exact ⟨k, _, rfl, hlookup.mpr (.inl ⟨rfl, rfl⟩), tearing_after hwork⟩
      · exact ⟨k, other, rfl, hlookup.mpr (.inr ⟨hk, hother⟩), hwork⟩
    · obtain ⟨hname, -, hafter⟩ := work_of_unmade hadmits htouch
      exact ⟨hname, i, _, rfl, hlookup.mpr (.inl ⟨rfl, rfl⟩), hafter⟩
  · intro k later t hlater hwork
    rcases hlookup.mp hlater with ⟨rfl, rfl⟩ | ⟨-, hother⟩
    · obtain ⟨e, work⟩ := job
      obtain ⟨-, hadmitted⟩ := hadmits
      cases work with
      | importing => cases hwork
      | tearing table attempted =>
        obtain ⟨rfl, hafter⟩ := WorkPhase.tearing.inj hwork
        rcases attempted_or_dropped hadmitted hdrop hafter with rfl | htouch
        · exact mem_touches_concat (h.dropped k _ t hjob rfl) _
        · exact mem_touches_of_touch? (d := ⟨.job k, a, x⟩) htouch
    · exact mem_touches_concat (h.dropped k later t hother hwork) _
  · intro t k
    rw [touches_concat, List.count_append]
    by_cases htouch : Deed.touchOf? ⟨.job i, a, x⟩ (.table t) = some (.job k, .unmade)
    · -- The teardown had not attempted its drop before.
      obtain ⟨hwho, hunmade⟩ := touchOf?_eq_some_iff.mp htouch
      cases hwho
      have hnever : (.job i, .unmade) ∉ touches (.table t) deeds := by
        intro hearlier
        obtain ⟨-, n, other, hn, hother, hwork⟩ := h.attempted t _ hearlier
        cases hn
        cases hjob.symm.trans hother
        rw [(work_of_unmade hadmits hunmade).2.1] at hwork
        cases hwork
      rw [List.count_eq_zero.mpr hnever, htouch]
      simp
    · have hnone : (Deed.touchOf? ⟨.job i, a, x⟩ (.table t)).toList.count (.job k, .unmade) = 0 :=
        List.count_eq_zero.mpr fun hmem => htouch (Option.mem_toList.mp hmem)
      rw [hnone]
      exact h.once t k

/-- A deed of a request keeps the agreement. -/
theorem request (h : DropsAgree states deeds) (hopen : a.isOpenToRequests) :
    DropsAgree ((jobWatch settings client).noteJobs states ⟨.client i, a, x⟩)
      (deeds ++ [⟨.client i, a, x⟩]) := by
  have htouches (y : Artifact) : touches y (deeds ++ [⟨.client i, a, x⟩]) = touches y deeds :=
    touches_concat_of_request hopen y deeds
  refine ⟨?_, ?_, fun t k => htouches _ ▸ h.once t k⟩
  · intro t who hunmade
    rw [htouches] at hunmade
    obtain ⟨hname, k, other, rfl, hother, hwork⟩ := h.attempted t who hunmade
    exact ⟨hname, k, other, rfl, Watch.getElem?_noteJobs_client.mpr (.inl hother), hwork⟩
  · intro k later t hlater hwork
    rw [htouches]
    rcases Watch.getElem?_noteJobs_client.mp hlater with hother | ⟨-, hnew⟩
    · exact h.dropped k later t hother hwork
    · cases eq_false_of_newJob? hnew hwork

/-- Where a single teardown is queued, a table is there at the end exactly if an import made it, and
made it again if the teardown has dropped it. -/
theorem made_iff {s : Shelf} (h : DropsAgree states deeds) (hagree : JobsAgree settings states s deeds)
    (hsingle : ∀ (k n : Nat) (job other : JobState), states[k]? = some job → states[n]? = some other →
      job.isTeardown = true → other.isTeardown = true → k = n) (t : String) :
    (∃ who, lastTouch? (.table t) deeds = some (who, .made)) ↔
      ∃ i, (.job i, .made) ∈ touches (.table t) deeds ∧
        ((∃ (k : Nat) (job : JobState), states[k]? = some job ∧ job.work = .tearing (some t) true) →
          Remade (.table t) i deeds) := by
  constructor
  · rintro ⟨who, hlast⟩
    have hmade := mem_touches_of_lastTouch? hlast
    obtain ⟨i, -, rfl, -⟩ := hagree.touched _ who .made hmade
    refine ⟨i, hmade, ?_⟩
    rintro ⟨k, job, hjob, hwork⟩
    exact ⟨.job k, pair_sublist_of_getLast? hlast (h.dropped k job t hjob hwork) (by simp)⟩
  · rintro ⟨i, hmade, hremade⟩
    obtain ⟨⟨who, how⟩, hlast⟩ := List.getLast?_isSome.mpr (List.ne_nil_of_mem hmade)
      |> Option.isSome_iff_exists.mp
    cases how with
    | made => exact ⟨who, hlast⟩
    | unmade =>
      -- The one drop would come both before the last touch and last.
      obtain ⟨-, k, job, rfl, hjob, hwork⟩ := h.attempted t who (List.mem_of_getLast? hlast)
      obtain ⟨w, hpair⟩ := hremade ⟨k, job, hjob, hwork⟩
      obtain ⟨-, n, other, rfl, hother, hwork'⟩ :=
        h.attempted t w (hpair.subset List.mem_cons_self)
      have hkn : k = n := by
        refine hsingle k n job other hjob hother ?_ ?_
        · rw [JobState.isTeardown, hwork]
        · rw [JobState.isTeardown, hwork']
      subst hkn
      have honce := h.once t k
      obtain ⟨earlier, hearlier⟩ := List.getLast?_eq_some_iff.mp hlast
      rw [hearlier] at hpair honce
      have hbefore := mem_of_pair_sublist_concat hpair (by simp)
      have hpos := List.count_pos_iff.mpr hbefore
      rw [List.count_append, List.count_singleton_self] at honce
      omega

end DropsAgree

end LayerPress
