import LayerPress.Proofs.ImportTrace
import LayerPress.Proofs.SoundStore

/-!
# Imports that only the catalog tells apart

Two imports of a layer begin with the same tables, in sound record stores, and are answered alike
by files and services, except that the catalog publishes the table in one of them and refuses it
in the other. Attempt by attempt they then do the same, up to the one that publishes. That one
succeeds in either, as a refusal is no failure of the attempt, and none follows it.

So both imports show the same to the outside and report the same load. The tables that they leave
differ in the entry of the layer, which the refused import keeps, and in a time.
-/

namespace LayerPress

/-! ## Publications -/

/-- What a publication is answered. -/
def Exchange.publication? : Exchange siteActions → Option (Except Failure PublishAction)
  | ⟨.call (.publish ..), x⟩ => some x
  | _ => none

/-- The answers to the publications of a transcript. -/
def publications (log : List (Exchange siteActions)) : List (Except Failure PublishAction) :=
  log.filterMap (·.publication?)

/-- The publications of a transcript are those of its parts. -/
theorem publications_append (log more : List (Exchange siteActions)) :
    publications (log ++ more) = publications log ++ publications more :=
  List.filterMap_append

/-- Where no call is made nothing is published. -/
theorem publications_of_callsOf {log : List (Exchange siteActions)} (h : callsOf log = []) :
    publications log = [] := by
  refine List.filterMap_eq_nil_iff.mpr fun e he => ?_
  obtain ⟨a, x⟩ := e
  cases a with
  | call c =>
    have hcall := mem_callsOf he
    rw [h] at hcall
    cases hcall
  | _ => rfl

/-- Inquiries publish nothing. -/
theorem publications_of_isInquiry {log : List (Exchange siteActions)}
    (h : ∀ e ∈ log, e.action.isInquiry = true) : publications log = [] := by
  refine List.filterMap_eq_nil_iff.mpr fun e he => ?_
  have hinquiry := h e he
  obtain ⟨a, x⟩ := e
  cases a with
  | call c =>
    cases c with
    | publish => cases hinquiry
    | _ => rfl
  | _ => rfl

/-! ## One attempt -/

/-- Two attempts have failed alike, with the tables as they were and nothing published, or have
recorded the same load, published it once, and reported what either got from the catalog. -/
inductive Parallel (settings : ImportSettings) (id : Uuid) (before : Records) :
    Except Failure ImportOutcome → Register → List (Except Failure PublishAction) →
    Except Failure ImportOutcome → Register → List (Except Failure PublishAction) → Prop
  | failed (f : Failure) :
      Parallel settings id before (.error f) ⟨before, none⟩ [] (.error f) ⟨before, none⟩ []
  | loaded {layer : Layer} {t : TableReport} {published published' : Except Failure PublishAction}
      {last last' : Register} (hfound : before.layer? id = some layer)
      (htables : Records.HoldsLoad id layer t
        ((settings.entryFrom layer published).or layer.catalogEntry) before last.stored)
      (htables' : Records.HoldsLoad id layer t
        ((settings.entryFrom layer published').or layer.catalogEntry) before last'.stored) :
      Parallel settings id before
        (.ok (.loaded (Naming.tableName layer.slug) t.features t.kind
          (settings.entryFrom layer published))) last [published]
        (.ok (.loaded (Naming.tableName layer.slug) t.features t.kind
          (settings.entryFrom layer published'))) last' [published']

/-- Two courses show the same to the outside and end in parallel, after the same questions and
answers if they fail. -/
structure InStep (settings : ImportSettings) (id : Uuid) (before : Records)
    (answer : Except Failure ImportOutcome) (last : Register) (log : List (Exchange siteActions))
    (answer' : Except Failure ImportOutcome) (last' : Register)
    (log' : List (Exchange siteActions)) : Prop where
  seen : outward log = outward log'
  asked : ∀ f, answer = .error f → asked log = asked log'
  ends : Parallel settings id before answer last (publications log) answer' last'
    (publications log')

section
variable {settings : ImportSettings} {id : Uuid} {before : Records} {layer : Layer}
  {t : TableReport} {answer answer' : Except Failure ImportOutcome} {last last' : Register}
  {log log' more more' : List (Exchange siteActions)}
  {published published' : List (Except Failure PublishAction)}

/-- An attempt beside one that failed has failed with it. -/
theorem Parallel.of_error {f : Failure}
    (h : Parallel settings id before (.error f) last published answer' last' published') :
    answer' = .error f ∧ last = ⟨before, none⟩ ∧ last' = ⟨before, none⟩ ∧ published = [] ∧
      published' = [] := by
  cases h with
  | failed => exact ⟨rfl, rfl, rfl, rfl, rfl⟩

/-- An attempt that failed has failed with the one beside it. -/
theorem Parallel.error_of_error {f : Failure}
    (h : Parallel settings id before answer last published (.error f) last' published') :
    answer = .error f := by
  cases h with
  | failed => rfl

/-- The publication between parts that make no call is the only one. -/
theorem publications_between (h : callsOf log = []) (h' : callsOf more = [])
    (x : Except Failure PublishAction) :
    publications (log ++ ⟨.call (settings.publicationOf layer), x⟩ :: more) = [x] := by
  rw [publications_append, publications_of_callsOf h]
  change x :: publications more = [x]
  rw [publications_of_callsOf h']

/-- Recording and publishing one survey twice is the same but for the catalog. -/
theorem FinishEnd.parallel (h : FinishEnd settings id before layer t answer last log)
    (h' : FinishEnd settings id before layer t answer' last' log')
    (hfound : before.layer? id = some layer) :
    InStep settings id before answer last log answer' last' log' := by
  cases h with
  | clashing hclash hseen hasked =>
    cases h' with
    | clashing _ hseen' hasked' =>
      have hnone : publications log = [] := publications_of_callsOf (by rw [callsOf, hseen]; rfl)
      have hnone' : publications log' = [] := publications_of_callsOf (by rw [callsOf, hseen']; rfl)
      refine ⟨hseen.trans hseen'.symm, fun _ _ => hasked.trans hasked'.symm, ?_⟩
      rw [hnone, hnone']
      exact .failed _
    | published hdistinct => exact absurd hdistinct hclash
  | @published x recording closing last hdistinct hseen hasked hclosing htables hdraft =>
    cases h' with
    | clashing hclash => exact absurd hdistinct hclash
    | @published x' recording' closing' last' _ hseen' _ hclosing' htables' =>
      refine ⟨by simp [hseen, hseen', hclosing, hclosing'], by simp, ?_⟩
      have hbefore : callsOf recording = [] := by rw [callsOf, hseen]; rfl
      have hafter : callsOf closing = [] := by rw [callsOf, hclosing]; rfl
      have hbefore' : callsOf recording' = [] := by rw [callsOf, hseen']; rfl
      have hafter' : callsOf closing' = [] := by rw [callsOf, hclosing']; rfl
      rw [publications_between hbefore hafter, publications_between hbefore' hafter']
      exact .loaded hfound htables htables'

/-- Attempts that begin with the same tables and are answered alike are the same but for the
catalog. -/
theorem SoundEnd.parallel (h : SoundEnd settings id before answer last log)
    (h' : SoundEnd settings id before answer' last' log')
    (halike : AnsweredAlike (log ++ more) (log' ++ more')) :
    InStep settings id before answer last log answer' last' log' := by
  cases hfound : before.layer? id with
  | none =>
    obtain ⟨rfl, rfl, rfl⟩ := h.of_none hfound
    obtain ⟨rfl, rfl, rfl⟩ := h'.of_none hfound
    exact ⟨rfl, fun _ _ => rfl, .failed _⟩
  | some layer =>
    obtain ⟨report, surveyed, finish, rfl, hsurvey, hyields, hrest⟩ := h.of_some hfound
    obtain ⟨report', surveyed', finish', rfl, -, hyields', hrest'⟩ := h'.of_some hfound
    have hsurveys : surveyed = surveyed' ∧ report = report' := by
      simp only [List.cons_append, List.append_assoc] at halike
      exact halike.of_records.eq_of_yields hyields hyields' hsurvey.isInquiry
    obtain ⟨rfl, rfl⟩ := hsurveys
    have hunpublished : ∀ rest, publications (surveyed ++ rest) = publications rest := by
      intro rest
      rw [publications_append, publications_of_isInquiry hsurvey.isInquiry, List.nil_append]
    cases report with
    | error f =>
      obtain ⟨rfl, rfl, rfl⟩ := hrest
      obtain ⟨rfl, rfl, rfl⟩ := hrest'
      refine ⟨rfl, fun _ _ => rfl, ?_⟩
      change Parallel settings id before _ _ (publications (surveyed ++ [])) _ _
        (publications (surveyed ++ []))
      rw [hunpublished]
      exact .failed f
    | ok t =>
      obtain ⟨hseen, hasked, hparallel⟩ := FinishEnd.parallel hrest hrest' hfound
      refine ⟨?_, ?_, ?_⟩
      · simp [hseen]
      · intro f hf
        change asked (surveyed ++ finish) = asked (surveyed ++ finish')
        rw [asked_append, asked_append, hasked f hf]
      · change Parallel settings id before _ _ (publications (surveyed ++ finish)) _ _
          (publications (surveyed ++ finish'))
        rw [hunpublished, hunpublished]
        exact hparallel

end

/-! ## One attempt after another -/

namespace Site

variable {σ τ : Type} {env : Surroundings σ} {env' : Surroundings τ} {settings : ImportSettings}
  {id : Uuid} {before : Records} {s : Site σ} {s' : Site τ} {left made : Nat}

section
variable (env env' settings id before s s')

/-- A piece of work goes in step on two sites. -/
abbrev RunInStep (w : Work (Except Failure ImportOutcome)) : Prop :=
  InStep settings id before (s.run env w).1 (s.run env w).2.register (s.transcript env w)
    (s'.run env' w).1 (s'.run env' w).2.register (s'.transcript env' w)

/-- Repeated attempts at an import go in step on two sites, as many on either. -/
structure RepeatInStep (left made : Nat) : Prop where
  attempts : ∃ starts starts',
    Repeats env (Work.importLayer settings id) left made s starts ∧
    Repeats env' (Work.importLayer settings id) left made s' starts' ∧
    starts.length = starts'.length
  run : RunInStep env env' settings id before s s'
    (Work.retrying (Work.importLayer settings id) left made)

end

/-- Attempts that begin with the same tables, in sound record stores, go in step as long as they
are answered alike. -/
theorem runInStep_importLayer (hs : s.register = ⟨before, none⟩)
    (hs' : s'.register = ⟨before, none⟩) (hsound : env.IsSound) (hsound' : env'.IsSound)
    (hkeyed : Attribute.Keyed before.attributes) {more more' : List (Exchange siteActions)}
    (halike : AnsweredAlike (s.transcript env (Work.importLayer settings id).run ++ more)
      (s'.transcript env' (Work.importLayer settings id).run ++ more')) :
    RunInStep env env' settings id before s s' (Work.importLayer settings id).run := by
  have hend := Work.ensures_importLayer_sound settings id hkeyed
  rw [← hs] at hend
  have hend' := Work.ensures_importLayer_sound settings id hkeyed
  rw [← hs'] at hend'
  exact (run_serves hsound hend).parallel (run_serves hsound' hend') halike

/-- Attempts in step of which the first is not repeated are the only ones. -/
theorem RepeatInStep.single
    (h : RunInStep env env' settings id before s s' (Work.importLayer settings id).run)
    (hstop : ∀ f, (s.run env (Work.importLayer settings id).run).1 = .error f →
      f.isRetryable = true → left = 0) :
    RepeatInStep env env' settings id before s s' left made := by
  have hstop' : ∀ f, (s'.run env' (Work.importLayer settings id).run).1 = .error f →
      f.isRetryable = true → left = 0 := by
    intro f hf
    have hends := h.ends
    rw [hf] at hends
    exact hstop f hends.error_of_error
  obtain ⟨hrun, hlog⟩ := retrying_of_stop left made hstop
  obtain ⟨hrun', hlog'⟩ := retrying_of_stop left made hstop'
  refine ⟨⟨[s], [s'], .single hstop, .single hstop', rfl⟩, ?_⟩
  unfold RunInStep
  rw [hrun, hlog, hrun', hlog']
  exact h

/-- Attempts in step that have failed come before the attempts in step that repeat them. -/
theorem RepeatInStep.cons {f : Failure}
    (h : RunInStep env env' settings id before s s' (Work.importLayer settings id).run)
    (hfailed : (s.run env (Work.importLayer settings id).run).1 = .error f)
    (hworth : f.isRetryable = true)
    (hrest : RepeatInStep env env' settings id before
      (s.run env (Work.importLayer settings id).run).2
      (s'.run env' (Work.importLayer settings id).run).2 left (made + 1)) :
    RepeatInStep env env' settings id before s s' (left + 1) made := by
  obtain ⟨⟨starts, starts', hattempts, hattempts', hlength⟩, hseen, hasked, hends⟩ := hrest
  obtain ⟨hfirst, hquestions, hfailures⟩ := h
  have hquestions := hquestions f hfailed
  rw [hfailed] at hfailures
  obtain ⟨hfailed', -, -, hnone, hnone'⟩ := hfailures.of_error
  obtain ⟨hrun, hlog⟩ := retrying_of_error left made hfailed hworth
  obtain ⟨hrun', hlog'⟩ := retrying_of_error left made hfailed' hworth
  refine ⟨⟨_, _, hattempts.cons hfailed hworth, hattempts'.cons hfailed' hworth, ?_⟩, ?_⟩
  · rw [List.length_cons, List.length_cons, hlength]
  · unfold RunInStep
    rw [hrun, hlog, hrun', hlog']
    refine ⟨?_, ?_, ?_⟩
    · rw [outward_append, outward_append, outward_cons, outward_cons, hfirst, hseen]
    · intro g hg
      rw [asked_append, asked_append, hquestions]
      exact congrArg _ (hasked g hg)
    · rw [publications_append, publications_append, hnone, hnone']
      exact hends

/-- Imports that begin with the same tables, in sound record stores, go in step as long as they are
answered alike. -/
theorem repeatInStep (hs : s.register = ⟨before, none⟩)
    (hs' : s'.register = ⟨before, none⟩) (hsound : env.IsSound) (hsound' : env'.IsSound)
    (hkeyed : Attribute.Keyed before.attributes)
    (halike : AnsweredAlike
      (s.transcript env (Work.retrying (Work.importLayer settings id) left made))
      (s'.transcript env' (Work.retrying (Work.importLayer settings id) left made))) :
    RepeatInStep env env' settings id before s s' left made := by
  induction left generalizing made s s' with
  | zero =>
    rw [Work.retrying, ← List.append_nil (s.transcript _ _),
      ← List.append_nil (s'.transcript _ _)] at halike
    exact .single (runInStep_importLayer hs hs' hsound hsound' hkeyed halike) fun _ _ _ => rfl
  | succ left ih =>
    have hbegin := halike
    rw [Work.retrying, transcript_bind, transcript_bind] at hbegin
    have hattempt := runInStep_importLayer hs hs' hsound hsound' hkeyed hbegin
    by_cases hagain : ∃ f, (s.run env (Work.importLayer settings id).run).1 = .error f ∧
        f.isRetryable = true
    · obtain ⟨f, hfailed, hworth⟩ := hagain
      have hfailures := hattempt.ends
      rw [hfailed] at hfailures
      obtain ⟨hfailed', hlast, hlast', -, -⟩ := hfailures.of_error
      apply RepeatInStep.cons hattempt hfailed hworth
      apply ih hlast hlast'
      rw [(retrying_of_error left made hfailed hworth).2,
        (retrying_of_error left made hfailed' hworth).2] at halike
      have hlater := halike.of_append (hattempt.asked f hfailed)
      exact hlater
    · exact .single hattempt fun f hf hworth => absurd ⟨f, hf, hworth⟩ hagain

end Site

/-! ## The entry that a refusal costs -/

/-- Two imports of a layer have left the same tables, except that one has recorded an entry, at
some time, and the other has kept the entry from before. -/
structure Records.SameButEntry (id : Uuid) (entry : String) (before published refused : Records) :
    Prop where
  row : ∃ former row moment, before.layer? id = some former ∧ refused.layer? id = some row ∧
    row.catalogEntry = former.catalogEntry ∧
    published.layer? id = some { row with catalogEntry := some entry, updatedAt := moment }
  attributes : published.attributes = refused.attributes
  otherLayers : published.layers.filter (·.id != id) = refused.layers.filter (·.id != id)

/-- Loads of the same report leave the same tables but for the entry. -/
theorem Records.HoldsLoad.sameButEntry {id : Uuid} {layer : Layer} {t : TableReport}
    {before published refused : Records} {entry : String} (hfound : before.layer? id = some layer)
    (h : Records.HoldsLoad id layer t (some entry) before published)
    (h' : Records.HoldsLoad id layer t layer.catalogEntry before refused) :
    before.SameButEntry id entry published refused := by
  obtain ⟨now, hrow⟩ := h.row
  obtain ⟨now', hrow'⟩ := h'.row
  exact ⟨⟨layer, _, now, hfound, hrow', rfl, hrow⟩, h.attributes.trans h'.attributes.symm,
    h.otherLayers.trans h'.otherLayers.symm⟩

/-- Two imports, the first of which was published, show the same to the outside in as many
attempts. They report the same load and leave the same tables, but for the entry. -/
structure OnlyUnpublished {σ τ : Type} (env : Surroundings σ) (env' : Surroundings τ)
    (settings : ImportSettings) (id : Uuid) (s : Site σ) (s' : Site τ) : Prop where
  attempts : ∃ starts starts',
    Site.Repeats env (Work.importLayer settings id) settings.maxRetries 0 (s.queued env) starts ∧
    Site.Repeats env' (Work.importLayer settings id) settings.maxRetries 0 (s'.queued env')
      starts' ∧
    starts.length = starts'.length
  seen : outward (s.transcript env (Work.runImport settings id)) =
    outward (s'.transcript env' (Work.runImport settings id))
  loaded : ∃ table features kind entry,
    (s.run env (Work.runImport settings id)).1 = .loaded table features kind (some entry) ∧
    (s'.run env' (Work.runImport settings id)).1 = .loaded table features kind none ∧
    s.records.SameButEntry id entry (s.run env (Work.runImport settings id)).2.records
      (s'.run env' (Work.runImport settings id)).2.records

/-- Of two parallel courses, one that was published and one that was not report the same load and
leave the same tables, but for the entry. -/
theorem Parallel.sameButEntry {settings : ImportSettings} {id : Uuid} {before : Records}
    {answer answer' : Except Failure ImportOutcome} {last last' : Register}
    {published published' : List (Except Failure PublishAction)} {action : PublishAction}
    {f : Failure} (h : Parallel settings id before answer last published answer' last' published')
    (hpublished : .ok action ∈ published) (hrefused : .error f ∈ published') :
    ∃ table features kind entry, answer = .ok (.loaded table features kind (some entry)) ∧
      answer' = .ok (.loaded table features kind none) ∧
      before.SameButEntry id entry last.stored last'.stored := by
  cases h with
  | failed => cases hpublished
  | loaded hfound htables htables' =>
    obtain rfl := List.mem_singleton.mp hpublished
    obtain rfl := List.mem_singleton.mp hrefused
    exact ⟨_, _, _, _, rfl, rfl, htables.sameButEntry hfound htables'⟩

/-- Of two imports of a layer that begin with the same tables, in sound record stores, and are
answered alike, let the catalog publish the one and refuse the other, however it does so. The
refused import is the same as the published one, except that it has no new entry. -/
theorem refusal_only_unpublishes {σ τ : Type} {env : Surroundings σ} {env' : Surroundings τ}
    (hsound : env.IsSound) (hsound' : env'.IsSound) (settings : ImportSettings) (id : Uuid)
    {s : Site σ} {s' : Site τ} (hclosed : s.working = none) (hclosed' : s'.working = none)
    (hrecords : s'.records = s.records) (hkeyed : Attribute.Keyed s.records.attributes)
    (halike : AnsweredAlike (s.transcript env (Work.runImport settings id))
      (s'.transcript env' (Work.runImport settings id)))
    {action : PublishAction} {f : Failure}
    (hpublished : .ok action ∈ publications (s.transcript env (Work.runImport settings id)))
    (hrefused : .error f ∈ publications (s'.transcript env' (Work.runImport settings id))) :
    OnlyUnpublished env env' settings id s s' := by
  obtain ⟨hlast, hlog, houtcome⟩ := s.runImport_eq env settings id
  obtain ⟨hlast', hlog', houtcome'⟩ := s'.runImport_eq env' settings id
  have hs : (s.queued env).register = ⟨s.records, none⟩ := by
    change (⟨s.records, s.working⟩ : Register) = _
    rw [hclosed]
  have hs' : (s'.queued env').register = ⟨s.records, none⟩ := by
    change (⟨s'.records, s'.working⟩ : Register) = _
    rw [hclosed', hrecords]
  rw [hlog, hlog'] at halike
  rw [hlog] at hpublished
  rw [hlog'] at hrefused
  have hsteps : Site.RepeatInStep env env' settings id s.records (s.queued env) (s'.queued env')
      settings.maxRetries 0 :=
    Site.repeatInStep hs hs' hsound hsound' hkeyed halike
  obtain ⟨hattempts, hseen, -, hends⟩ := hsteps
  obtain ⟨table, features, kind, entry, hanswer, hanswer', htables⟩ :=
    hends.sameButEntry hpublished hrefused
  rw [hanswer] at houtcome
  rw [hanswer'] at houtcome'
  refine ⟨hattempts, ?_, ⟨table, features, kind, entry, houtcome, houtcome', ?_⟩⟩
  · rw [hlog, hlog', outward_cons, outward_cons, hseen]
  · rw [hlast, hlast']
    exact htables

/-- Plain surroundings in which the first count is interrupted and every publication is answered
alike. -/
def Surroundings.interrupted (published : Except Failure PublishAction) : Surroundings Nat where
  answer c n :=
    match c, n with
    | .count _, 0 => (.error (.io (.other "Interrupted system call")), 1)
    | .publish .., n => (published, n)
    | c, n => ((Surroundings.plain.answer c ()).1, n)
  recordFault _ n := (none, n)
  now n := (⟨2020, 1, 1, 0, 0, 0, 0⟩, n)

/-- Of two imports that were both interrupted once, the one whose publication is then refused, with
a failure that would be worth another attempt. -/
theorem refusal_only_unpublishes_interrupted :
    let settings := { ImportSettings.plain with maxRetries := 2 }
    let s : Site Nat := { Site.plain [.plain "roads"] with outside := 0 }
    let env := Surroundings.interrupted (.ok .created)
    let env' := Surroundings.interrupted (.error (.records .unavailable))
    stagesOf (s.transcript env' (Work.runImport settings ⟨1⟩)) =
        [.queued, .resolving, .loading, .resolving, .loading, .extracting, .updatingRecord,
          .creatingAttributes, .publishing, .done] ∧
      OnlyUnpublished env env' settings ⟨1⟩ s s := by
  intro settings s env env'
  have hstages : stagesOf (s.transcript env' (Work.runImport settings ⟨1⟩)) =
      [.queued, .resolving, .loading, .resolving, .loading, .extracting, .updatingRecord,
        .creatingAttributes, .publishing, .done] := by
    decide +kernel
  have hpublished : .ok .created ∈ publications (s.transcript env (Work.runImport settings ⟨1⟩)) := by
    decide +kernel
  have hrefused : .error (.records .unavailable) ∈
      publications (s.transcript env' (Work.runImport settings ⟨1⟩)) := by
    decide +kernel
  have hlog : asked (s.transcript env (Work.runImport settings ⟨1⟩)) =
      (asked (s.transcript env (Work.runImport settings ⟨1⟩))).dropLast ++
        [⟨.call (.publish "roads" "Roads" "gis" "postgis"), .ok .created⟩] := by
    decide +kernel
  have hlog' : asked (s.transcript env' (Work.runImport settings ⟨1⟩)) =
      (asked (s.transcript env (Work.runImport settings ⟨1⟩))).dropLast ++
        [⟨.call (.publish "roads" "Roads" "gis" "postgis"), .error (.records .unavailable)⟩] := by
    decide +kernel
  exact ⟨hstages, refusal_only_unpublishes (fun _ _ => rfl) (fun _ _ => rfl) settings ⟨1⟩ rfl rfl rfl
    ⟨.nil, .nil⟩ (.of_last hlog hlog' rfl) hpublished hrefused⟩

end LayerPress
