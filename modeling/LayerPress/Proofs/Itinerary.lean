import LayerPress.Proofs.Survey

/-!
# The itinerary of an attempt

Of what work does, the outside sees the stages that it notes, the calls that it makes and its
pauses. An attempt to import a layer shows the beginning of one itinerary: it resolves, loads,
extracts, records and publishes, with its calls in their places. It comes to the end of the
itinerary exactly if it succeeds, wherever and however it may fail.

A conversion that could not be run, ran out of time or did not end well is a failure for which no
further attempt is made.
-/

namespace LayerPress

/-! ## What the outside sees -/

/-- What the outside sees of an exchange. -/
@[simp]
def Exchange.outward? : Exchange siteActions → Option SiteAction
  | ⟨.note stage, _⟩ => some (.note stage)
  | ⟨.call c, _⟩ => some (.call c)
  | ⟨.pause n, _⟩ => some (.pause n)
  | _ => none

/-- What the outside sees of a transcript. -/
def outward (log : List (Exchange siteActions)) : List SiteAction :=
  log.filterMap (·.outward?)

/-- The stage that an action notes. -/
def SiteAction.stage? : SiteAction → Option ImportStage
  | .note stage => some stage
  | _ => none

/-- The call that an action makes. -/
def SiteAction.call? : SiteAction → Option ServiceCall
  | .call c => some c
  | _ => none

/-- The stages noted in a transcript. -/
def stagesOf (log : List (Exchange siteActions)) : List ImportStage :=
  (outward log).filterMap (·.stage?)

/-- The calls made in a transcript. -/
def callsOf (log : List (Exchange siteActions)) : List ServiceCall :=
  (outward log).filterMap (·.call?)

section
variable (log more : List (Exchange siteActions))

/-- Of nothing the outside sees nothing. -/
@[simp]
theorem outward_nil : outward [] = [] := rfl

/-- The outside sees a transcript exchange by exchange. -/
@[simp]
theorem outward_cons (e : Exchange siteActions) :
    outward (e :: log) = e.outward?.toList ++ outward log := by
  rw [outward, List.filterMap_cons]
  cases e.outward? <;> rfl

/-- The outside sees a transcript part by part. -/
@[simp]
theorem outward_append : outward (log ++ more) = outward log ++ outward more :=
  List.filterMap_append

/-- The stages of a transcript are those of its parts. -/
theorem stagesOf_append : stagesOf (log ++ more) = stagesOf log ++ stagesOf more := by
  simp [stagesOf, outward_append]

/-- The calls of a transcript are those of its parts. -/
theorem callsOf_append : callsOf (log ++ more) = callsOf log ++ callsOf more := by
  simp [callsOf, outward_append]

end

/-- A call in a transcript is seen from outside. -/
theorem mem_callsOf {log : List (Exchange siteActions)} {c : ServiceCall}
    {x : Except Failure c.Value} (h : (⟨.call c, x⟩ : Exchange siteActions) ∈ log) :
    c ∈ callsOf log := by
  have houtward : SiteAction.call c ∈ outward log := List.mem_filterMap.mpr ⟨_, h, rfl⟩
  exact List.mem_filterMap.mpr ⟨_, houtward, rfl⟩

/-- The site lists the stages that are noted. -/
theorem Site.stages_run {σ α : Type} (env : Surroundings σ) (w : Work α) (s : Site σ) :
    (s.run env w).2.stages = s.stages ++ stagesOf (s.transcript env w) := by
  induction w generalizing s with
  | result a => exact (List.append_nil s.stages).symm
  | perform action next ih =>
    have hhandle : (handle env action s).2.stages =
        s.stages ++ stagesOf [⟨action, (handle env action s).1⟩] := by
      cases action with
      | note stage => rfl
      | records a =>
        rw [show stagesOf [⟨.records a, (handle env (.records a) s).1⟩] = [] from rfl,
          List.append_nil]
        simp only [handle]
        split
        · rfl
        · cases a with
          | statement st =>
            simp only [perform]
            split
            · unfold withVisible
              split <;> rfl
            · rfl
          | «begin» | commit => rfl
      | _ => exact (List.append_nil s.stages).symm
    have hnext := ih (handle env action s).1 (handle env action s).2
    rw [hhandle, List.append_assoc, ← stagesOf_append] at hnext
    exact hnext

/-! ## The itinerary -/

section
variable (settings : ImportSettings) (table title : String) (source : Path)

/-- What a complete survey shows. -/
def surveyItinerary : List SiteAction :=
  [.note .resolving, .note .loading, .call (settings.conversionOf source table),
    .call (.count table), .call (.geometryType table), .note .extracting, .call (.extent table),
    .call (.columns table)]

/-- What is shown while a table is recorded and published. -/
def finishing : List SiteAction :=
  [.note .updatingRecord, .note .creatingAttributes, .note .publishing,
    .call (.publish table title settings.workspace settings.datastore)]

/-- What a complete attempt shows before it says that it is done. -/
def itinerary : List SiteAction :=
  surveyItinerary settings table source ++ finishing settings table title

end

/-- The conversion could not be run, ran out of time, or did not end with code zero. -/
def Exchange.isLostConversion : Exchange siteActions → Bool
  | ⟨.call (.run ..), .error (.io _)⟩ => true
  | ⟨.call (.run ..), .error (.importTimeout _)⟩ => true
  | ⟨.call (.run ..), .ok output⟩ => !output.success
  | _ => false

/-- A lost conversion is a call of the conversion program. -/
theorem Exchange.exists_run_of_isLostConversion {e : Exchange siteActions}
    (h : e.isLostConversion = true) :
    ∃ program args timeout, e.outward? = some (.call (.run program args timeout)) := by
  unfold isLostConversion at h
  split at h
  · exact ⟨_, _, _, rfl⟩
  · exact ⟨_, _, _, rfl⟩
  · exact ⟨_, _, _, rfl⟩
  · cases h

/-- Where no program is run no conversion is lost. -/
theorem isLostConversion_of_outward {log : List (Exchange siteActions)}
    (h : ∀ program args timeout, SiteAction.call (.run program args timeout) ∉ outward log) :
    ∀ e ∈ log, e.isLostConversion = false := by
  intro e he
  by_contra hlost
  obtain ⟨program, args, timeout, hrun⟩ :=
    Exchange.exists_run_of_isLostConversion (eq_true_of_ne_false hlost)
  exact h program args timeout (List.mem_filterMap.mpr ⟨e, he, hrun⟩)

/-- An attempt that succeeded has shown all of a list and that it is done, and one that failed has
shown a beginning of the list. -/
def Concludes {α : Type} (marks : List SiteAction) (answer : Except Failure α)
    (log : List (Exchange siteActions)) : Prop :=
  match answer with
  | .ok _ => outward log = marks ++ [.note .done]
  | .error _ => outward log <+: marks

/-- What an attempt shows is the itinerary of a table, as far as the attempt comes, and where it
succeeds the table is loaded. A lost conversion is not worth another attempt. -/
structure AttemptTrace (settings : ImportSettings) (table : String)
    (answer : Except Failure ImportOutcome) (log : List (Exchange siteActions)) : Prop where
  course : ∃ title source, Concludes (itinerary settings table title source) answer log
  success : ∀ o, answer = .ok o → o.success = true
  lost : ∀ e ∈ log, e.isLostConversion = true → ∃ f, answer = .error f ∧ f.isRetryable = false

/-! ## What the survey shows -/

section
variable {settings : ImportSettings} {source : Path} {table : String} {layer : Layer}
  {log : List (Exchange siteActions)}

/-- The failure of a lost conversion is not worth another attempt. -/
theorem isRetryable_of_isLostConversion {program : String} {args : List String} {timeout : Nat}
    {ran : Except Failure ProcessOutput} {f : Failure}
    (h : conversionFailure? settings.loader.program ran = some f)
    (hlost : Exchange.isLostConversion ⟨.call (.run program args timeout), ran⟩ = true) :
    f.isRetryable = false := by
  cases ran with
  | error g =>
    cases h
    cases g with
    | io | importTimeout => rfl
    | _ => cases hlost
  | ok output =>
    simp only [conversionFailure?] at h
    split at h
    · cases h
    · cases h
      rfl

/-- Loading shows its calls up to the first that fails. -/
theorem LoadEnd.outward_isPrefix {result : LoadResult} (h : LoadEnd settings source table result log) :
    outward log <+: [.call (settings.conversionOf source table), .call (.count table),
      .call (.geometryType table)] := by
  cases h with
  | unconverted => exact ⟨[_, _], rfl⟩
  | uncounted => exact ⟨[_], rfl⟩
  | unsampled | measured => exact ⟨[], rfl⟩

/-- Loading that succeeds shows all its calls and loses no conversion. -/
theorem LoadEnd.of_loaded {features : Int} {type : String}
    (h : LoadEnd settings source table (.loaded features type) log) :
    outward log = [.call (settings.conversionOf source table), .call (.count table),
      .call (.geometryType table)] ∧ ∀ e ∈ log, e.isLostConversion = false := by
  cases h with
  | measured houtput =>
    refine ⟨rfl, ?_⟩
    simp [Exchange.isLostConversion, ImportSettings.conversionOf, houtput]

/-- When loading loses the conversion, its failure is not worth another attempt. -/
theorem LoadEnd.isRetryable_of_lost {f : Failure}
    (h : LoadEnd settings source table (.failed f) log) :
    ∀ e ∈ log, e.isLostConversion = true → f.isRetryable = false := by
  cases h with
  | unconverted hfailure =>
    intro e he hlost
    obtain rfl := List.mem_singleton.mp he
    exact isRetryable_of_isLostConversion hfailure hlost
  | uncounted houtput | unsampled houtput =>
    simp [Exchange.isLostConversion, ImportSettings.conversionOf, houtput]

/-- A survey that ends with a report has shown its itinerary and lost no conversion. -/
theorem SurveyEnd.of_ok {t : TableReport} (h : SurveyEnd settings layer (.ok t) log) :
    (∃ source, outward log = surveyItinerary settings (Naming.tableName layer.slug) source) ∧
      ∀ e ∈ log, e.isLostConversion = false := by
  cases h with
  | @reported path source features type loading _ hload extent columns =>
    obtain ⟨hshown, hkept⟩ := hload.of_loaded
    refine ⟨⟨source.path, ?_⟩, ?_⟩
    · rw [outward_append, outward_append, hshown]
      rfl
    · have hbefore : ∀ e ∈ [⟨.isFile path, true⟩, ⟨.note .resolving, ()⟩,
          ⟨.resolve path, .ok source⟩, (⟨.note .loading, ()⟩ : Exchange siteActions)],
          e.isLostConversion = false := by
        simp [Exchange.isLostConversion]
      have hafter : ∀ e ∈ [⟨.release source, ()⟩, ⟨.note .extracting, ()⟩,
          ⟨.call (.extent (Naming.tableName layer.slug)), extent⟩,
          (⟨.call (.columns (Naming.tableName layer.slug)), columns⟩ : Exchange siteActions)],
          e.isLostConversion = false := by
        simp [Exchange.isLostConversion]
      exact List.forall_mem_append.mpr ⟨List.forall_mem_append.mpr ⟨hbefore, hkept⟩, hafter⟩

/-- A survey that fails has shown a beginning of its itinerary, and when it has lost the
conversion its failure is not worth another attempt. -/
theorem SurveyEnd.of_error {f : Failure} (h : SurveyEnd settings layer (.error f) log) :
    (∃ source, outward log <+: surveyItinerary settings (Naming.tableName layer.slug) source) ∧
      ∀ e ∈ log, e.isLostConversion = true → f.isRetryable = false := by
  cases h with
  | nameless => exact ⟨⟨⟨[]⟩, List.nil_prefix⟩, by simp⟩
  | missing => exact ⟨⟨⟨[]⟩, List.nil_prefix⟩, by simp [Exchange.isLostConversion]⟩
  | unresolved => exact ⟨⟨⟨[]⟩, [_, _, _, _, _, _, _], rfl⟩, by simp [Exchange.isLostConversion]⟩
  | @unloaded path source f loading _ hload =>
    refine ⟨⟨source.path, ?_⟩, ?_⟩
    · obtain ⟨rest, hrest⟩ := hload.outward_isPrefix
      refine ⟨rest ++ [.note .extracting, .call (.extent (Naming.tableName layer.slug)),
        .call (.columns (Naming.tableName layer.slug))], ?_⟩
      have hshown : outward ([⟨.isFile path, true⟩, ⟨.note .resolving, ()⟩,
          ⟨.resolve path, .ok source⟩, ⟨.note .loading, ()⟩] ++ loading ++
            [⟨.release source, ()⟩]) = [.note .resolving, .note .loading] ++ outward loading := by
        rw [outward_append, outward_append]
        exact List.append_nil _
      rw [hshown, List.append_assoc, ← List.append_assoc (outward loading), hrest]
      rfl
    · intro e he hlost
      rcases List.mem_append.mp he with he | he
      · rcases List.mem_append.mp he with he | he
        · simp only [List.mem_cons, List.not_mem_nil, or_false] at he
          rcases he with rfl | rfl | rfl | rfl <;> cases hlost
        · exact hload.isRetryable_of_lost e he hlost
      · obtain rfl := List.mem_singleton.mp he
        cases hlost

end

/-! ## What recording and publishing show -/

/-- An attempt has shown all of a list if it succeeded, and a beginning of it if it failed. -/
def Reaches {α : Type} (marks : List SiteAction) (answer : Except Failure α)
    (log : List (Exchange siteActions)) : Prop :=
  match answer with
  | .ok _ => outward log = marks
  | .error _ => outward log <+: marks

/-- Whatever it is answered, an attempt shows a list, or the beginning up to where it fails. -/
def Follows {α : Type} (marks : List SiteAction) (p : Attempt α) : Prop :=
  ∀ r, Procedure.Ensures Register.Does (fun answer _ log => Reaches marks answer log) r p.run

namespace Follows

variable {α β : Type} {marks more : List SiteAction}

/-- An attempt that ends at once shows nothing. -/
theorem pure (a : α) : Follows [] (pure a : Attempt α) := fun _ => rfl

/-- Attempts in sequence show one list after the other. -/
theorem bind {p : Attempt α} {k : α → Attempt β} (h : Follows marks p)
    (hk : ∀ a, Follows more (k a)) : Follows (marks ++ more) (p >>= k) := by
  intro r
  apply (h r).bindExcept
  · intro a last log hlog
    change outward log = marks at hlog
    apply (hk a last).mono
    intro answer final rest hrest
    cases answer with
    | ok b =>
      change outward rest = more at hrest
      change outward (log ++ rest) = marks ++ more
      rw [outward_append, hlog, hrest]
    | error f =>
      change outward rest <+: more at hrest
      change outward (log ++ rest) <+: marks ++ more
      rw [outward_append, hlog, List.prefix_append_right_inj]
      exact hrest
  · intro f last log hlog
    exact List.IsPrefix.trans hlog (List.prefix_append marks more)

/-- A record action shows nothing. -/
theorem records (a : RecordAction) : Follows [] (Work.records a) := by
  intro r x r' _
  cases x with
  | ok => exact rfl
  | error => exact List.nil_prefix

/-- A stage is shown. -/
theorem note (stage : ImportStage) :
    Follows [.note stage] (liftM (m := Work) (Work.note stage)) :=
  fun _ _ _ _ => rfl

/-- Reading the clock shows nothing. -/
theorem now : Follows [] (liftM (m := Work) Work.now : Attempt Timestamp) := fun _ _ _ _ => rfl

end Follows

namespace Work

variable {settings : ImportSettings} {id : Uuid} {r : Register}

/-- Showing one column is not seen from outside. -/
theorem follows_upsertAttribute (layer : Uuid) (column : Column) (place : Nat) :
    Follows [] (upsertAttribute layer column place) := by
  have hfind : Follows [] (execute (.findAttribute layer column.name)) := .records _
  apply hfind.bind
  intro found
  cases found with
  | some a => exact .records _
  | none => exact .records _

/-- Showing columns is not seen from outside. -/
theorem follows_upsertAttributes (layer : Uuid) (columns : List Column) (place : Nat) :
    Follows [] (upsertAttributes layer place columns) := by
  induction columns generalizing place with
  | nil => exact .pure ()
  | cons column rest ih =>
    exact (follows_upsertAttribute layer column place).bind fun _ => ih (place + 1)

/-- A transaction shows what its body does. -/
theorem follows_inTransaction {α : Type} {marks : List SiteAction} {body : Attempt α}
    (h : Follows marks body) : Follows marks (inTransaction body) := by
  have hbegin : Follows [] (records .begin) := .records _
  apply hbegin.bind
  intro _ r
  have hcommit : Follows (marks ++ []) (body >>= fun a => do records .commit; return a) := by
    apply h.bind
    intro a
    have hlast : Follows ([] ++ []) (do records .commit; return a) :=
      Follows.bind (.records _) fun _ => .pure a
    exact hlast
  rw [List.append_nil] at hcommit
  apply (hcommit r).liftBind
  intro answer last log hlog
  cases answer with
  | ok a =>
    change outward (log ++ []) = marks
    rw [List.append_nil]
    exact hlog
  | error f =>
    intro _ r' _
    change outward (log ++ [⟨.rollback, ()⟩]) <+: marks
    rw [outward_append, show outward [⟨.rollback, ()⟩] = [] from rfl, List.append_nil]
    exact hlog

/-- Recording a load shows that attributes are created. -/
theorem follows_recordLoad (table : String) (features : Int) (kind : Naming.GeometryKind)
    (extent : Option BoundingBox) (columns : List Column) :
    Follows [.note .creatingAttributes] (recordLoad id table features kind extent columns) := by
  apply follows_inTransaction
  have hchange (moment : Timestamp) :
      Follows [] (execute (.changeLayer id (.loaded table features kind extent moment))) :=
    .records _
  apply Follows.now.bind
  intro moment
  apply (hchange moment).bind
  intro layer
  apply (Follows.note .creatingAttributes).bind
  intro _
  apply (follows_upsertAttributes layer.id columns 0).bind
  intro _
  exact .pure layer

/-- Publishing shows its call. -/
theorem follows_publish (layer : Layer) (table : String) :
    Follows [.call (.publish table layer.title settings.workspace settings.datastore)]
      (publish settings layer table) := by
  intro r published r' _
  cases published with
  | error f => exact rfl
  | ok action =>
    intro moment r'' _ changed r''' _
    cases changed with
    | error f => exact List.prefix_refl _
    | ok row => exact rfl

/-- From the report of its table on, an attempt shows that it records, and then publishes. -/
theorem ensures_finish_trace (table : String) (t : TableReport) :
    Procedure.Ensures Register.Does (fun answer _ log =>
      (∃ title, Concludes (finishing settings table title) answer log) ∧
        ∀ o, answer = .ok o → o.success = true) r (do
      liftM (m := Work) (note .updatingRecord)
      let row ← recordLoad id table t.features t.kind t.extent t.columns
      liftM (m := Work) (note .publishing)
      let entry ← publish settings row table
      liftM (m := Work) (note .done)
      return .loaded table t.features t.kind entry : Attempt ImportOutcome).run := by
  intro _ r₁ _
  apply (follows_recordLoad table t.features t.kind t.extent t.columns r₁).bindExcept
  · intro row r₂ recording hrecording
    change outward recording = [.note .creatingAttributes] at hrecording
    intro _ r₃ _
    apply (follows_publish row table r₃).bindExcept
    · intro entry r₄ publishing hpublishing
      change outward publishing = _ at hpublishing
      intro _ r₅ _
      refine ⟨⟨row.title, ?_⟩, by simp [ImportOutcome.success]⟩
      simp [Concludes, hrecording, hpublishing, finishing]
    · intro f r₄ publishing hpublishing
      change outward publishing <+: _ at hpublishing
      refine ⟨⟨row.title, ?_⟩, nofun⟩
      simpa [Concludes, hrecording, finishing] using hpublishing
  · intro f r₂ recording hrecording
    change outward recording <+: [.note .creatingAttributes] at hrecording
    refine ⟨⟨"", ?_⟩, nofun⟩
    simpa [Concludes, finishing] using hrecording.trans (List.prefix_append _ _)

end Work

section
variable {settings : ImportSettings} {layer : Layer} {table title : String}
  {surveyed log : List (Exchange siteActions)} {answer : Except Failure ImportOutcome}

/-- Recording and publishing loses no conversion. -/
theorem Concludes.isLostConversion (h : Concludes (finishing settings table title) answer log) :
    ∀ e ∈ log, e.isLostConversion = false := by
  apply isLostConversion_of_outward
  intro program args timeout hrun
  cases answer with
  | ok o =>
    rw [show outward log = _ from h] at hrun
    simp [finishing] at hrun
  | error f =>
    have hmem := List.IsPrefix.subset h hrun
    simp [finishing] at hmem

/-- A survey that reported and what concludes after it trace one attempt. -/
theorem SurveyEnd.trace_of_ok {t : TableReport} (h : SurveyEnd settings layer (.ok t) surveyed)
    (hlog : Concludes (finishing settings (Naming.tableName layer.slug) title) answer log)
    (hsuccess : ∀ o, answer = .ok o → o.success = true) :
    AttemptTrace settings (Naming.tableName layer.slug) answer (surveyed ++ log) := by
  obtain ⟨⟨source, hsource⟩, hkept⟩ := h.of_ok
  have hwhole : outward (surveyed ++ log) =
      surveyItinerary settings (Naming.tableName layer.slug) source ++ outward log := by
    rw [outward_append, hsource]
  refine ⟨⟨title, source, ?_⟩, hsuccess, ?_⟩
  · cases answer with
    | ok o =>
      change outward _ = _
      rw [hwhole, show outward log = _ from hlog, itinerary, List.append_assoc]
    | error f =>
      change outward _ <+: _
      rw [hwhole, itinerary, List.prefix_append_right_inj]
      exact hlog
  · intro e he hlost
    have hnone := List.forall_mem_append.mpr ⟨hkept, hlog.isLostConversion⟩ e he
    rw [hlost] at hnone
    cases hnone

/-- A survey that failed traces an attempt that has failed with it. -/
theorem SurveyEnd.trace_of_error {f : Failure} (h : SurveyEnd settings layer (.error f) surveyed) :
    AttemptTrace settings (Naming.tableName layer.slug) (.error f) surveyed := by
  obtain ⟨⟨source, hsource⟩, hlost⟩ := h.of_error
  refine ⟨⟨"", source, ?_⟩, nofun, ?_⟩
  · exact hsource.trans (List.prefix_append _ _)
  · intro e he hisLost
    exact ⟨f, rfl, hlost e he hisLost⟩

/-- What is not seen from outside does not count before an attempt. -/
theorem AttemptTrace.cons {e : Exchange siteActions} (he : e.outward? = none)
    (h : AttemptTrace settings table answer log) :
    AttemptTrace settings table answer (e :: log) := by
  obtain ⟨⟨title, source, hcourse⟩, hsuccess, hlost⟩ := h
  have hseen : outward (e :: log) = outward log := by
    rw [outward_cons, he]
    rfl
  refine ⟨⟨title, source, ?_⟩, hsuccess, ?_⟩
  · unfold Concludes at *
    rw [hseen]
    exact hcourse
  · intro e' he' hisLost
    rcases List.mem_cons.mp he' with rfl | hlater
    · obtain ⟨_, _, _, hrun⟩ := Exchange.exists_run_of_isLostConversion hisLost
      rw [he] at hrun
      cases hrun
    · exact hlost e' hlater hisLost

end

namespace Work

variable {settings : ImportSettings} {id : Uuid} {r : Register}

/-- Whatever it is answered, an attempt shows the beginning of the itinerary of its layer's table,
and that it is done exactly if it succeeds. -/
theorem ensures_importLayer_trace {table : String}
    (htable : ∀ layer, r.visible.layer? id = some layer → table = Naming.tableName layer.slug) :
    Procedure.Ensures Register.Does (fun answer _ log => AttemptTrace settings table answer log) r
      (importLayer settings id).run := by
  have hnothing (f : Failure) : AttemptTrace settings table (.error f) [] :=
    ⟨⟨"", ⟨[]⟩, List.nil_prefix⟩, nofun, by simp⟩
  rw [importLayer_eq]
  apply ensures_execute
  · intro f
    exact (hnothing _).cons rfl
  · intro found tables hfind
    obtain ⟨hfound, rfl⟩ : r.visible.layer? id = found ∧ r.visible = tables := by
      cases hfind
      exact ⟨rfl, rfl⟩
    cases found with
    | none => exact (hnothing _).cons rfl
    | some layer =>
      obtain rfl := htable layer hfound
      apply (ensures_survey settings layer).bindExcept
      · intro t _ surveyed hsurvey
        apply (ensures_finish_trace (Naming.tableName layer.slug) t).mono
        intro answer _ log hlog
        obtain ⟨⟨title, hcourse⟩, hsuccess⟩ := hlog
        exact (hsurvey.2.trace_of_ok hcourse hsuccess).cons rfl
      · intro f _ surveyed hsurvey
        exact hsurvey.2.trace_of_error.cons rfl

end Work

end LayerPress
