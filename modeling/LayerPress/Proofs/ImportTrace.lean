import LayerPress.Proofs.Itinerary

/-!
# The trace of an import

An import says that it is queued and then makes one attempt after another. Each attempt begins
where the one before has ended; the one before has failed, and only a failure of the record store
or of input and output is worth another attempt. An attempt notes its stages and makes its calls
in one order, of which a failure cuts off the rest. The import says that it is done exactly if it
succeeds, and then at the very end.

Nothing is assumed of what files, services, records and the clock answer, nor of the site on which
the import begins.
-/

namespace LayerPress

/-! ## Attempts one after another -/

/-- Attempts by the sites at which they begin: the first at a given site, and each further one
where the one before it has ended, whose failure is worth another attempt. -/
structure Site.Tries {σ α : Type} (env : Surroundings σ) (attempt : Attempt α) (s : Site σ)
    (starts : List (Site σ)) : Prop where
  first : starts.head? = some s
  chain : starts.IsChain fun t t' => t' = (t.run env attempt.run).2
  worthwhile : ∀ t ∈ starts.dropLast,
    ∃ f, (t.run env attempt.run).1 = .error f ∧ f.isRetryable = true

namespace Site

variable {σ α : Type} {env : Surroundings σ} {attempt : Attempt α} {s : Site σ}

/-- A single attempt. -/
theorem Tries.single (env : Surroundings σ) (attempt : Attempt α) (s : Site σ) :
    Tries env attempt s [s] :=
  ⟨rfl, .singleton s, by simp⟩

/-- An attempt before others, which begin where it has failed. -/
theorem Tries.cons {f : Failure} {starts : List (Site σ)}
    (hfailed : (s.run env attempt.run).1 = .error f) (hworth : f.isRetryable = true)
    (h : Tries env attempt (s.run env attempt.run).2 starts) :
    Tries env attempt s (s :: starts) := by
  obtain ⟨hfirst, hchain, hworthwhile⟩ := h
  cases starts with
  | nil => cases hfirst
  | cons t rest =>
    obtain rfl : t = (s.run env attempt.run).2 := by simpa using hfirst
    refine ⟨rfl, .cons_cons rfl hchain, ?_⟩
    rw [List.dropLast_cons_of_ne_nil (List.cons_ne_nil _ rest)]
    exact List.forall_mem_cons.mpr ⟨⟨f, hfailed, hworth⟩, hworthwhile⟩

/-- What holds at first and is kept by an attempt worth another holds wherever one begins. -/
theorem Tries.invariant {I : Site σ → Prop} {starts : List (Site σ)}
    (h : Tries env attempt s starts) (hs : I s)
    (hkept : ∀ t f, I t → (t.run env attempt.run).1 = .error f → I (t.run env attempt.run).2) :
    ∀ t ∈ starts, I t := by
  obtain ⟨hfirst, hchain, hworthwhile⟩ := h
  induction starts generalizing s with
  | nil => cases hfirst
  | cons t rest ih =>
    obtain rfl : t = s := by simpa using hfirst
    refine List.forall_mem_cons.mpr ⟨hs, ?_⟩
    cases rest with
    | nil => exact List.forall_mem_nil I
    | cons t' rest =>
      obtain ⟨rfl, hchain⟩ := List.isChain_cons_cons.mp hchain
      rw [List.dropLast_cons_of_ne_nil (List.cons_ne_nil _ rest)] at hworthwhile
      obtain ⟨f, hfailed, -⟩ := hworthwhile t List.mem_cons_self
      exact ih (hkept t f hs hfailed) rfl hchain
        fun u hu => hworthwhile u (List.mem_cons_of_mem _ hu)

/-- The attempts that repeating makes, at most one more than it may repeat. The last of them
decides how repeating ends, and all together they note its stages and make its calls. -/
structure Repeats (env : Surroundings σ) (attempt : Attempt α) (left made : Nat) (s : Site σ)
    (starts : List (Site σ)) : Prop where
  tries : Tries env attempt s starts
  length : starts.length ≤ left + 1
  last : ∃ t, starts.getLast? = some t ∧
    s.run env (Work.retrying attempt left made) = t.run env attempt.run
  stages : stagesOf (s.transcript env (Work.retrying attempt left made)) =
    starts.flatMap fun t => stagesOf (t.transcript env attempt.run)
  calls : callsOf (s.transcript env (Work.retrying attempt left made)) =
    starts.flatMap fun t => callsOf (t.transcript env attempt.run)

/-- An attempt is not repeated if none may be or if it is not worth another. -/
theorem retrying_of_stop (left made : Nat)
    (h : ∀ f, (s.run env attempt.run).1 = .error f → f.isRetryable = true → left = 0) :
    s.run env (Work.retrying attempt left made) = s.run env attempt.run ∧
      s.transcript env (Work.retrying attempt left made) = s.transcript env attempt.run := by
  cases left with
  | zero => exact ⟨rfl, rfl⟩
  | succ left =>
    rw [Work.retrying, run_bind, transcript_bind]
    generalize hrun : s.run env attempt.run = ended at h
    obtain ⟨answer, last⟩ := ended
    cases answer with
    | ok a => exact ⟨rfl, List.append_nil _⟩
    | error f =>
      have hstop : f.isRetryable = false := by
        by_contra hworth
        cases h f rfl (eq_true_of_ne_false hworth)
      dsimp only
      rw [hstop]
      exact ⟨rfl, List.append_nil _⟩

/-- A failed attempt that is worth another is repeated, after a pause, from where it ended. -/
theorem retrying_of_error (left made : Nat) {f : Failure}
    (hfailed : (s.run env attempt.run).1 = .error f) (hworth : f.isRetryable = true) :
    let last := (s.run env attempt.run).2
    s.run env (Work.retrying attempt (left + 1) made) =
        last.run env (Work.retrying attempt left (made + 1)) ∧
      s.transcript env (Work.retrying attempt (left + 1) made) = s.transcript env attempt.run ++
        ⟨.pause (made + 1), ()⟩ :: last.transcript env (Work.retrying attempt left (made + 1)) := by
  rw [Work.retrying, run_bind, transcript_bind]
  generalize hrun : s.run env attempt.run = ended at hfailed
  obtain ⟨answer, last⟩ := ended
  obtain rfl : answer = .error f := hfailed
  dsimp only
  rw [if_pos hworth]
  exact ⟨rfl, rfl⟩

/-- An attempt that is not repeated is the only one. -/
theorem Repeats.single {left made : Nat}
    (hstop : ∀ f, (s.run env attempt.run).1 = .error f → f.isRetryable = true → left = 0) :
    Repeats env attempt left made s [s] := by
  obtain ⟨hrun, hlog⟩ := retrying_of_stop left made hstop
  refine ⟨.single env attempt s, by simp, ⟨s, rfl, hrun⟩, ?_, ?_⟩
  · rw [hlog]
    simp
  · rw [hlog]
    simp

/-- A failed attempt that is worth another comes before those that repeat it. -/
theorem Repeats.cons {left made : Nat} {f : Failure} {starts : List (Site σ)}
    (hfailed : (s.run env attempt.run).1 = .error f) (hworth : f.isRetryable = true)
    (h : Repeats env attempt left (made + 1) (s.run env attempt.run).2 starts) :
    Repeats env attempt (left + 1) made s (s :: starts) := by
  obtain ⟨hrun, hlog⟩ := retrying_of_error left made hfailed hworth
  obtain ⟨htries, hlength, ⟨t, hlast, hrest⟩, hstages, hcalls⟩ := h
  refine ⟨htries.cons hfailed hworth, ?_, ⟨t, ?_, ?_⟩, ?_, ?_⟩
  · simp only [List.length_cons]
    omega
  · rw [List.getLast?_cons, hlast]
    rfl
  · rw [hrun, hrest]
  · rw [hlog, stagesOf_append, List.flatMap_cons, ← hstages]
    rfl
  · rw [hlog, callsOf_append, List.flatMap_cons, ← hcalls]
    rfl

/-- Repeating an attempt makes attempts one after another. -/
theorem exists_repeats (env : Surroundings σ) (attempt : Attempt α) (left made : Nat)
    (s : Site σ) : ∃ starts, Repeats env attempt left made s starts := by
  induction left generalizing made s with
  | zero => exact ⟨[s], .single fun _ _ _ => rfl⟩
  | succ left ih =>
    by_cases hagain : ∃ f, (s.run env attempt.run).1 = .error f ∧ f.isRetryable = true
    · obtain ⟨f, hfailed, hworth⟩ := hagain
      obtain ⟨starts, hrest⟩ := ih (made + 1) (s.run env attempt.run).2
      exact ⟨s :: starts, hrest.cons hfailed hworth⟩
    · exact ⟨[s], .single fun f hf hworth => absurd ⟨f, hf, hworth⟩ hagain⟩

end Site

/-! ## The order within an attempt -/

/-- The stages of an attempt in their order. -/
def attemptStages : List ImportStage :=
  [.resolving, .loading, .extracting, .updatingRecord, .creatingAttributes, .publishing, .done]

/-- The calls of an attempt in their order. -/
def attemptCalls (settings : ImportSettings) (table title : String) (source : Path) :
    List ServiceCall :=
  [settings.conversionOf source table, .count table, .geometryType table, .extent table,
    .columns table, .publish table title settings.workspace settings.datastore]

/-- An attempt notes stages and makes calls in their order, up to some point. It notes all of them
if it succeeds, and is done only then. It runs the program when it has noted that it loads, and
publishes when it has noted that it publishes. -/
structure AttemptOrder (settings : ImportSettings) (answer : Except Failure ImportOutcome)
    (log : List (Exchange siteActions)) : Prop where
  stages : stagesOf log <+: attemptStages
  complete : ∀ o, answer = .ok o → stagesOf log = attemptStages
  incomplete : ∀ f, answer = .error f → .done ∉ stagesOf log
  calls : ∃ table title source, callsOf log <+: attemptCalls settings table title source
  loading : ∀ earlier e later program args timeout, log = earlier ++ e :: later →
    e.outward? = some (.call (.run program args timeout)) → .loading ∈ stagesOf earlier
  publishing : ∀ earlier e later table title workspace store, log = earlier ++ e :: later →
    e.outward? = some (.call (.publish table title workspace store)) →
      .publishing ∈ stagesOf earlier

/-- What is not among the first elements of a list stands behind them. -/
theorem isPrefix_of_append_cons {α : Type} {before after first rest : List α} {a : α}
    (h : before ++ a :: after = first ++ rest) (ha : a ∉ first) : first <+: before := by
  rcases List.append_eq_append_iff.mp h with ⟨middle, hfirst, hrest⟩ | ⟨middle, hbefore, -⟩
  · cases middle with
    | nil => exact ⟨[], by simpa using hfirst⟩
    | cons b middle =>
      obtain ⟨rfl, -⟩ := List.cons_eq_cons.mp hrest
      exact absurd (by simp [hfirst]) ha
  · exact ⟨middle, hbefore.symm⟩

section
variable {settings : ImportSettings} {table title : String} {source : Path}
  {answer : Except Failure ImportOutcome} {log : List (Exchange siteActions)}

/-- An attempt shows a beginning of its itinerary and of the last stage. -/
theorem Concludes.isPrefix {marks : List SiteAction} (h : Concludes marks answer log) :
    outward log <+: marks ++ [.note .done] := by
  cases answer with
  | ok o =>
    have hall : outward log = marks ++ [.note .done] := h
    exact ⟨[], by rw [List.append_nil, hall]⟩
  | error f => exact List.IsPrefix.trans h (List.prefix_append marks _)

/-- When an attempt shows some action, the stages that its itinerary has before have been noted. -/
theorem Concludes.mem_stagesOf {first rest : List SiteAction} {a : SiteAction}
    {stage : ImportStage} {earlier later : List (Exchange siteActions)} {e : Exchange siteActions}
    (h : Concludes (first ++ rest) answer log) (hlog : log = earlier ++ e :: later)
    (he : e.outward? = some a) (ha : a ∉ first) (hstage : .note stage ∈ first) :
    stage ∈ stagesOf earlier := by
  obtain ⟨missing, hwhole⟩ := h.isPrefix
  rw [hlog, outward_append, outward_cons, he] at hwhole
  simp only [Option.toList_some, List.append_assoc, List.singleton_append] at hwhole
  have hearlier : first <+: outward earlier := isPrefix_of_append_cons hwhole ha
  exact List.mem_filterMap.mpr ⟨.note stage, hearlier.subset hstage, rfl⟩

/-- An attempt makes a beginning of the calls of its itinerary. -/
theorem Concludes.callsOf_isPrefix
    (h : Concludes (itinerary settings table title source) answer log) :
    callsOf log <+: attemptCalls settings table title source := by
  exact h.isPrefix.filterMap (·.call?)

/-- A successful attempt makes all the calls of its itinerary. -/
theorem Concludes.callsOf_eq {o : ImportOutcome}
    (h : Concludes (itinerary settings table title source) (.ok o : Except Failure _) log) :
    callsOf log = attemptCalls settings table title source := by
  rw [callsOf, show outward log = _ from h]
  rfl

/-- An attempt that shows its itinerary keeps the order of stages and calls. -/
theorem Concludes.order (h : Concludes (itinerary settings table title source) answer log) :
    AttemptOrder settings answer log := by
  refine ⟨?_, ?_, ?_, ⟨table, title, source, h.callsOf_isPrefix⟩, ?_, ?_⟩
  · exact h.isPrefix.filterMap (·.stage?)
  · intro o ho
    subst ho
    rw [stagesOf, show outward log = _ from h]
    rfl
  · intro f hf hdone
    subst hf
    have hmem := (List.IsPrefix.filterMap (·.stage?) h).subset hdone
    simp [itinerary, surveyItinerary, finishing, SiteAction.stage?] at hmem
  · intro earlier e later program args timeout hlog he
    have hmarks : itinerary settings table title source =
        [.note .resolving, .note .loading] ++ (itinerary settings table title source).drop 2 := rfl
    rw [hmarks] at h
    exact h.mem_stagesOf hlog he (by simp) (by simp)
  · intro earlier e later table' title' workspace store hlog he
    let first : List SiteAction := surveyItinerary settings table source ++
      [.note .updatingRecord, .note .creatingAttributes, .note .publishing]
    have hmarks : itinerary settings table title source =
        first ++ (itinerary settings table title source).drop 11 := rfl
    rw [hmarks] at h
    exact h.mem_stagesOf hlog he
      (by simp [first, surveyItinerary, ImportSettings.conversionOf]) (by simp [first])

/-- An attempt keeps the order of stages and calls. -/
theorem AttemptTrace.order (h : AttemptTrace settings table answer log) :
    AttemptOrder settings answer log := by
  obtain ⟨⟨title, source, hconcludes⟩, -, -⟩ := h
  exact hconcludes.order

/-- An attempt that is worth another has lost no conversion. -/
theorem AttemptTrace.isLostConversion {f : Failure}
    (h : AttemptTrace settings table (.error f) log) (hworth : f.isRetryable = true) :
    ∀ e ∈ log, e.isLostConversion = false := by
  intro e he
  by_contra hkept
  obtain ⟨g, hg, hnot⟩ := h.lost e he (eq_true_of_ne_false hkept)
  cases hg
  rw [hworth] at hnot
  cases hnot

end

/-! ## The whole import -/

namespace Site

variable {σ : Type} (env : Surroundings σ) (settings : ImportSettings) (id : Uuid) (s : Site σ)

/-- An attempt on a site shows the itinerary of some table. -/
theorem exists_attemptTrace : ∃ table,
    AttemptTrace settings table (s.run env (Work.importLayer settings id).run).1
      (s.transcript env (Work.importLayer settings id).run) := by
  cases hlayer : s.register.visible.layer? id with
  | none =>
    refine ⟨"", run_ensures (Work.ensures_importLayer_trace ?_)⟩
    intro layer hfound
    rw [hlayer] at hfound
    cases hfound
  | some layer =>
    refine ⟨Naming.tableName layer.slug, run_ensures (Work.ensures_importLayer_trace ?_)⟩
    intro other hfound
    rw [hlayer] at hfound
    obtain rfl := Option.some_inj.mp hfound
    rfl

/-- The site of an import on which it has said that it is queued. -/
abbrev queued : Site σ := (s.run env (Work.note .queued)).2

/-- Repeated attempts at importing a layer. -/
abbrev attempts : Work (Except Failure ImportOutcome) :=
  Work.retrying (Work.importLayer settings id) settings.maxRetries 0

/-- After it has said that it is queued an import repeats its attempts, whose end is its own. -/
theorem runImport_eq :
    (s.run env (Work.runImport settings id)).2 =
        ((s.queued env).run env (attempts settings id)).2 ∧
      s.transcript env (Work.runImport settings id) =
        ⟨.note .queued, ()⟩ :: (s.queued env).transcript env (attempts settings id) ∧
      (s.run env (Work.runImport settings id)).1 =
        match ((s.queued env).run env (attempts settings id)).1 with
        | .ok o => o
        | .error f => .failed f.message := by
  rw [Work.runImport, run_bind, transcript_bind, run_bind, transcript_bind]
  generalize (s.queued env).run env (attempts settings id) = ended
  obtain ⟨answer, last⟩ := ended
  cases answer with
  | ok o => exact ⟨rfl, congrArg _ (List.append_nil _), rfl⟩
  | error f => exact ⟨rfl, congrArg _ (List.append_nil _), rfl⟩

variable {env settings id s}

/-- Attempts that were repeated failed in the record store or in input and output, were not done
and lost no conversion. -/
theorem Tries.repeated {starts : List (Site σ)}
    (h : Tries env (Work.importLayer settings id) s starts) : ∀ t ∈ starts.dropLast,
      (∃ f, (t.run env (Work.importLayer settings id).run).1 = .error f ∧
        ((∃ fault, f = .records fault) ∨ ∃ fault, f = .io fault)) ∧
      .done ∉ stagesOf (t.transcript env (Work.importLayer settings id).run) ∧
      ∀ e ∈ t.transcript env (Work.importLayer settings id).run, e.isLostConversion = false := by
  intro t ht
  obtain ⟨f, hfailed, hworth⟩ := h.worthwhile t ht
  obtain ⟨table, htrace⟩ := t.exists_attemptTrace env settings id
  refine ⟨⟨f, hfailed, ?_⟩, htrace.order.incomplete f hfailed, ?_⟩
  · cases f with
    | records fault => exact .inl ⟨fault, rfl⟩
    | io fault => exact .inr ⟨fault, rfl⟩
    | _ => cases hworth
  · rw [hfailed] at htrace
    exact htrace.isLostConversion hworth

/-- An import notes that it is queued and then the stages of its attempts. -/
theorem Repeats.stagesOf_runImport {starts : List (Site σ)}
    (h : Repeats env (Work.importLayer settings id) settings.maxRetries 0 (s.queued env) starts) :
    stagesOf (s.transcript env (Work.runImport settings id)) =
      .queued :: starts.flatMap fun t =>
        stagesOf (t.transcript env (Work.importLayer settings id).run) := by
  rw [(s.runImport_eq env settings id).2.1, ← h.stages]
  rfl

/-- An import makes the calls of its attempts. -/
theorem Repeats.callsOf_runImport {starts : List (Site σ)}
    (h : Repeats env (Work.importLayer settings id) settings.maxRetries 0 (s.queued env) starts) :
    callsOf (s.transcript env (Work.runImport settings id)) =
      starts.flatMap fun t => callsOf (t.transcript env (Work.importLayer settings id).run) := by
  rw [(s.runImport_eq env settings id).2.1, ← h.calls]
  rfl

/-- An import succeeds exactly if the attempt does with which its attempts end. -/
theorem success_runImport_iff {final : Site σ}
    (h : (s.queued env).run env (attempts settings id) =
      final.run env (Work.importLayer settings id).run) :
    (s.run env (Work.runImport settings id)).1.success = true ↔
      ∃ o, (final.run env (Work.importLayer settings id).run).1 = .ok o := by
  obtain ⟨table, -, hloaded, -⟩ := final.exists_attemptTrace env settings id
  rw [(s.runImport_eq env settings id).2.2, h]
  generalize (final.run env (Work.importLayer settings id).run).1 = answer at hloaded
  cases answer with
  | ok o => simpa using hloaded o rfl
  | error f => simp [ImportOutcome.success]

/-- Attempts are done exactly if the last of them succeeds, and then at the very end. -/
theorem Tries.done_iff {starts : List (Site σ)} {final : Site σ}
    (h : Tries env (Work.importLayer settings id) s starts) (hfinal : starts.getLast? = some final) :
    let stages := starts.flatMap fun t =>
      stagesOf (t.transcript env (Work.importLayer settings id).run)
    (.done ∈ stages ↔ ∃ o, (final.run env (Work.importLayer settings id).run).1 = .ok o) ∧
      (.done ∈ stages → stages.getLast? = some .done) := by
  intro stages
  obtain ⟨table, htrace⟩ := final.exists_attemptTrace env settings id
  have hsplit : stages = (starts.dropLast.flatMap fun t =>
      stagesOf (t.transcript env (Work.importLayer settings id).run)) ++
        stagesOf (final.transcript env (Work.importLayer settings id).run) := by
    simp only [stages]
    rw [← List.dropLast_append_getLast? final hfinal, List.flatMap_append, List.flatMap_singleton,
      List.dropLast_concat]
  have hnone : .done ∉ starts.dropLast.flatMap fun t =>
      stagesOf (t.transcript env (Work.importLayer settings id).run) := by
    intro hdone
    obtain ⟨t, ht, hmem⟩ := List.mem_flatMap.mp hdone
    exact (h.repeated t ht).2.1 hmem
  rw [hsplit]
  cases hanswer : (final.run env (Work.importLayer settings id).run).1 with
  | ok o =>
    rw [htrace.order.complete o hanswer]
    simp [attemptStages, List.getLast?_append]
  | error f =>
    have hnot := htrace.order.incomplete f hanswer
    simp only [List.mem_append, hnone, hnot]
    simp

end Site

/-- The trace of an import is that of attempts, by the sites at which they begin. -/
structure ImportTrace {σ : Type} (env : Surroundings σ) (settings : ImportSettings) (id : Uuid)
    (s : Site σ) (starts : List (Site σ)) : Prop where
  first : starts.head? = some (s.queued env)
  chain : starts.IsChain fun t t' => t' = (t.run env (Work.importLayer settings id).run).2
  length : starts.length ≤ settings.maxRetries + 1
  listed : (s.run env (Work.runImport settings id)).2.stages =
    s.stages ++ stagesOf (s.transcript env (Work.runImport settings id))
  stages : stagesOf (s.transcript env (Work.runImport settings id)) =
    .queued :: starts.flatMap fun t =>
      stagesOf (t.transcript env (Work.importLayer settings id).run)
  calls : callsOf (s.transcript env (Work.runImport settings id)) =
    starts.flatMap fun t => callsOf (t.transcript env (Work.importLayer settings id).run)
  attempts : ∀ t ∈ starts, AttemptOrder settings
    (t.run env (Work.importLayer settings id).run).1
    (t.transcript env (Work.importLayer settings id).run)
  repeated : ∀ t ∈ starts.dropLast,
    (∃ f, (t.run env (Work.importLayer settings id).run).1 = .error f ∧
      ((∃ fault, f = .records fault) ∨ ∃ fault, f = .io fault)) ∧
    .done ∉ stagesOf (t.transcript env (Work.importLayer settings id).run) ∧
    ∀ e ∈ t.transcript env (Work.importLayer settings id).run, e.isLostConversion = false
  done : .done ∈ stagesOf (s.transcript env (Work.runImport settings id)) ↔
    (s.run env (Work.runImport settings id)).1.success = true
  last : (s.run env (Work.runImport settings id)).1.success = true →
    (stagesOf (s.transcript env (Work.runImport settings id))).getLast? = some .done

/-- An import makes attempts one after another, in whose order its stages and calls come. -/
theorem exists_importTrace {σ : Type} (env : Surroundings σ) (settings : ImportSettings)
    (id : Uuid) (s : Site σ) : ∃ starts, ImportTrace env settings id s starts := by
  obtain ⟨starts, hrepeats⟩ :=
    Site.exists_repeats env (Work.importLayer settings id) settings.maxRetries 0 (s.queued env)
  have hwhole := hrepeats.stagesOf_runImport
  have hmade := hrepeats.callsOf_runImport
  obtain ⟨htries, hlength, ⟨final, hfinal, hrun⟩, -, -⟩ := hrepeats
  have hattempts : ∀ t ∈ starts, AttemptOrder settings
      (t.run env (Work.importLayer settings id).run).1
      (t.transcript env (Work.importLayer settings id).run) := by
    intro t _
    obtain ⟨table, htrace⟩ := t.exists_attemptTrace env settings id
    exact htrace.order
  obtain ⟨hdone, hend⟩ := htries.done_iff hfinal
  have hsuccess : .done ∈ stagesOf (s.transcript env (Work.runImport settings id)) ↔
      (s.run env (Work.runImport settings id)).1.success = true := by
    rw [Site.success_runImport_iff hrun, ← hdone, hwhole]
    simp
  refine ⟨starts, htries.first, htries.chain, hlength, Site.stages_run env _ s, hwhole, hmade,
    hattempts, htries.repeated, hsuccess, ?_⟩
  intro hok
  have hmem := hsuccess.mpr hok
  rw [hwhole] at hmem ⊢
  rw [List.getLast?_cons, hend (by simpa using hmem)]
  rfl

end LayerPress
