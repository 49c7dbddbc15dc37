import LayerPress.Proofs.ImportTrace

/-!
# Reports of loading

Loading a source asks up to three questions: it has the source converted, counts the features, and
samples a geometry. It goes on exactly while it is answered well, the program's exit code
included. Its result, written out field by field, is whole either way: with the count and the
sampled type, or with nothing but the failure and its text.

An attempt to import a layer that reads such a report would need something to go by when the
report says that it failed and does not say how. No report does, so what the attempt would go by
then makes no difference. A conversion that is lost is never worth another attempt.
-/

namespace LayerPress

/-! ## Reports -/

/-- What loading a table gave, field by field. -/
structure LoadReport where
  success : Bool
  message : String
  featureCount : Int
  geometryType? : Option String
  extent? : Option BoundingBox
  columns : List Column
  failure? : Option Failure

/-- The report of a result; the extent and the columns of the table are asked for later. -/
def LoadResult.report (r : LoadResult) : LoadReport where
  success := r.success
  message := r.message
  featureCount := r.featureCount
  geometryType? := r.geometryType?
  extent? := none
  columns := []
  failure? := r.failure?

/-- The call was answered well; a program has to end well, too. -/
def Exchange.hasSucceeded : Exchange siteActions → Bool
  | ⟨.call (.run ..), .ok output⟩ => output.success
  | ⟨.call _, .ok _⟩ => true
  | _ => false

/-- What loading was answered: by the program, and to the count and the sample if it asked for
them. -/
structure LoadAnswers where
  ran : Except Failure ProcessOutput
  counted : Option (Except Failure Int)
  sampled : Option (Except Failure (Option String))

namespace LoadAnswers

/-- The exchanges in which loading was answered. -/
def log (a : LoadAnswers) (settings : ImportSettings) (source : Path) (table : String) :
    List (Exchange siteActions) :=
  ⟨.call (settings.conversionOf source table), a.ran⟩ ::
    ((a.counted.map fun x => ⟨.call (.count table), x⟩).toList ++
      (a.sampled.map fun x => ⟨.call (.geometryType table), x⟩).toList)

/-- The failure that some answers tell of. A program that could not be run, or did not end well, is
a failed conversion; any other failure is the one that was answered. -/
inductive Blames (program : String) : LoadAnswers → Failure → Prop
  | unstarted (fault : Fault) :
      Blames program ⟨.error (.io fault), none, none⟩
        (.conversionFailed s!"could not run {program}: {fault.message}")
  | unfinished {f : Failure} (h : ∀ fault, f ≠ .io fault) :
      Blames program ⟨.error f, none, none⟩ f
  | unsuccessful {output : ProcessOutput} (h : output.exitCode ≠ some 0)
      (hsaid : Text.trim output.stderr ≠ "") :
      Blames program ⟨.ok output, none, none⟩ (.conversionFailed (Text.trim output.stderr))
  | silent {output : ProcessOutput} (h : output.exitCode ≠ some 0)
      (hsaid : Text.trim output.stderr = "") :
      Blames program ⟨.ok output, none, none⟩
        (.conversionFailed ("exited with status " ++ Work.exitText output.exitCode))
  | uncounted {output : ProcessOutput} (h : output.exitCode = some 0) (f : Failure) :
      Blames program ⟨.ok output, some (.error f), none⟩ f
  | unsampled {output : ProcessOutput} (h : output.exitCode = some 0) (features : Int)
      (f : Failure) :
      Blames program ⟨.ok output, some (.ok features), some (.error f)⟩ f

end LoadAnswers

/-- A report of loading a source into a table tells what was answered. -/
structure LoadReport.Tells (settings : ImportSettings) (source : Path) (table : String)
    (r : LoadReport) (a : LoadAnswers) (log : List (Exchange siteActions)) : Prop where
  log_eq : log = a.log settings source table
  counted_iff : a.counted.isSome = true ↔ ∃ output, a.ran = .ok output ∧ output.exitCode = some 0
  sampled_iff : a.sampled.isSome = true ↔ ∃ features, a.counted = some (.ok features)
  success_iff : r.success = true ↔ ∀ e ∈ log, e.hasSucceeded = true
  of_success : r.success = true → r.failure? = none ∧
    ∃ features sampled, a.counted = some (.ok features) ∧ a.sampled = some (.ok sampled) ∧
      r.featureCount = features ∧ r.geometryType? = some (sampled.getD "UNKNOWN")
  of_failure : r.success = false → r.featureCount = 0 ∧ r.geometryType? = none ∧
    r.extent? = none ∧ r.columns = [] ∧
      ∃ f, r.failure? = some f ∧ r.message = f.message ∧ a.Blames settings.loader.program f

section
variable {settings : ImportSettings} {source : Path} {table : String}

/-- A program has ended well exactly if its exit code is zero. -/
theorem ProcessOutput.success_iff (o : ProcessOutput) :
    o.success = true ↔ o.exitCode = some 0 := by
  rw [success, beq_iff_eq]

/-- A failed conversion blames the program. -/
theorem LoadAnswers.blames_of_conversionFailure {program : String}
    {ran : Except Failure ProcessOutput} {f : Failure}
    (h : conversionFailure? program ran = some f) : Blames program ⟨ran, none, none⟩ f := by
  cases ran with
  | error g =>
    cases h
    cases g with
    | io fault => exact .unstarted fault
    | _ => exact .unfinished (by simp)
  | ok output =>
    simp only [conversionFailure?, output.success_iff] at h
    split at h
    · cases h
    · next hcode =>
      cases h
      rw [Work.diagnostic]
      by_cases hsaid : Text.trim output.stderr = ""
      · rw [if_pos (by simpa using hsaid)]
        exact .silent hcode hsaid
      · rw [if_neg (by simpa using hsaid)]
        exact .unsuccessful hcode hsaid

namespace LoadAnswers.Blames

variable {program : String} {a : LoadAnswers} {f : Failure}

/-- Whatever is blamed, the count was asked for exactly after a conversion that ended well. -/
theorem counted_iff (h : a.Blames program f) :
    a.counted.isSome = true ↔ ∃ output, a.ran = .ok output ∧ output.exitCode = some 0 := by
  cases h with
  | unstarted | unfinished => simp
  | unsuccessful h | silent h => simp [h]
  | uncounted h | unsampled h => simp [h]

/-- Whatever is blamed, the sample was asked for exactly after a count. -/
theorem sampled_iff (h : a.Blames program f) :
    a.sampled.isSome = true ↔ ∃ features, a.counted = some (.ok features) := by
  cases h <;> simp

/-- Whatever is blamed, some call has not succeeded. -/
theorem exists_hasSucceeded (h : a.Blames program f) (settings : ImportSettings) (source : Path)
    (table : String) : ∃ e ∈ a.log settings source table, e.hasSucceeded = false := by
  cases h with
  | unstarted | unfinished => exact ⟨_, List.mem_cons_self, rfl⟩
  | unsuccessful h | silent h =>
    exact ⟨_, List.mem_cons_self, eq_false_of_ne_true ((ProcessOutput.success_iff _).not.mpr h)⟩
  | uncounted h f => exact ⟨⟨.call (.count table), .error f⟩, by simp [log], rfl⟩
  | unsampled h features f => exact ⟨⟨.call (.geometryType table), .error f⟩, by simp [log], rfl⟩

/-- The report of a failure tells of the answers that it is blamed on. -/
theorem tells (h : a.Blames settings.loader.program f) :
    (LoadResult.failed f).report.Tells settings source table a (a.log settings source table) where
  log_eq := rfl
  counted_iff := h.counted_iff
  sampled_iff := h.sampled_iff
  success_iff := by
    obtain ⟨e, he, hfailed⟩ := h.exists_hasSucceeded settings source table
    constructor
    · intro hsuccess
      cases hsuccess
    · intro hall
      rw [hall e he] at hfailed
      cases hfailed
  of_success hsuccess := by cases hsuccess
  of_failure _ := ⟨rfl, rfl, rfl, rfl, f, rfl, rfl, h⟩

end LoadAnswers.Blames

/-- The report of a loaded table tells of the three answers that it was given. -/
theorem LoadReport.Tells.of_loaded {output : ProcessOutput} (h : output.success = true)
    (features : Int) (sampled : Option String) :
    (LoadResult.loaded features (sampled.getD unknownGeometry)).report.Tells settings source table
      ⟨.ok output, some (.ok features), some (.ok sampled)⟩
      (LoadAnswers.log ⟨.ok output, some (.ok features), some (.ok sampled)⟩ settings source
        table) where
  log_eq := rfl
  counted_iff := by simpa using output.success_iff.mp h
  sampled_iff := by simp
  success_iff := by
    simp [LoadResult.report, LoadResult.success, LoadAnswers.log, Exchange.hasSucceeded,
      ImportSettings.conversionOf, h]
  of_success _ := ⟨rfl, features, sampled, rfl, rfl, rfl, rfl⟩
  of_failure hfailure := by cases hfailure

/-- However loading ends, its report tells what it was answered. -/
theorem LoadEnd.tells {result : LoadResult} {log : List (Exchange siteActions)}
    (h : LoadEnd settings source table result log) :
    ∃ a, result.report.Tells settings source table a log := by
  cases h with
  | unconverted hfailure => exact ⟨_, (LoadAnswers.blames_of_conversionFailure hfailure).tells⟩
  | @uncounted output houtput f =>
    exact ⟨_, (LoadAnswers.Blames.uncounted (output.success_iff.mp houtput) f).tells⟩
  | @unsampled output houtput features f =>
    exact ⟨_, (LoadAnswers.Blames.unsampled (output.success_iff.mp houtput) features f).tells⟩
  | measured houtput features sampled => exact ⟨_, .of_loaded houtput features sampled⟩

end

/-! ## Attempts that read a report -/

namespace Work

/-- An attempt to import a layer that reads the report of loading. When the report says that
loading failed and does not say how, the attempt takes a failure of its own. -/
def importReported (fallback : LoadReport → Failure) (settings : ImportSettings) (id : Uuid) :
    Attempt ImportOutcome := do
  match ← execute (.findLayer id) with
  | none => throw (.layerNotFound id)
  | some layer =>
    let path ← sourcePath settings layer
    let table := Naming.tableName layer.slug
    liftM (m := Work) (note .resolving)
    let source ← resolve path
    liftM (m := Work) (note .loading)
    let result ← liftM (m := Work) (load settings.spatial settings.loader source.path table)
    liftM (m := Work) (release source)
    let report := result.report
    if !report.success then throw (report.failure?.getD (fallback report))
    liftM (m := Work) (note .extracting)
    let extent ← liftM (m := Work) (tableExtent table)
    let columns ← liftM (m := Work) (tableColumns table)
    let kind := Naming.GeometryKind.ofType (report.geometryType?.getD "")
    liftM (m := Work) (note .updatingRecord)
    let updated ← recordLoad id table report.featureCount kind extent columns
    liftM (m := Work) (note .publishing)
    let entry ← publish settings updated table
    liftM (m := Work) (note .done)
    return .loaded table report.featureCount kind entry

/-- An attempt that reads the report never takes a failure of its own. -/
theorem importReported_eq (fallback : LoadReport → Failure) (settings : ImportSettings)
    (id : Uuid) : importReported fallback settings id = importLayer settings id := by
  unfold importReported importLayer
  apply bind_congr
  intro found
  cases found with
  | none => rfl
  | some layer =>
    apply bind_congr
    intro path
    apply bind_congr
    intro _
    apply bind_congr
    intro source
    apply bind_congr
    intro _
    apply bind_congr
    intro result
    apply bind_congr
    intro _
    cases result with
    | failed f => rfl
    | loaded features type => rfl

end Work

/-- Loading on a site ends as its exchanges tell. -/
theorem Site.loadEnd {σ : Type} (env : Surroundings σ) (settings : ImportSettings) (source : Path)
    (table : String) (s : Site σ) :
    LoadEnd settings source table
      (s.run env (Work.load settings.spatial settings.loader source table)).1
      (s.transcript env (Work.load settings.spatial settings.loader source table)) := by
  have hend : (s.run env (Work.load settings.spatial settings.loader source table)).2.register =
      s.register ∧ LoadEnd settings source table
        (s.run env (Work.load settings.spatial settings.loader source table)).1
        (s.transcript env (Work.load settings.spatial settings.loader source table)) :=
    run_ensures (Work.ensures_load_end settings source table)
  exact hend.2

/-- Loading calls for the conversion, the count and the sample as far as it is answered well, and
its report tells what it was answered. An attempt that reads the report never needs a failure of
its own. Where the conversion was lost, neither the failure of the report nor that of the attempt
is worth another attempt. -/
theorem load_reports (settings : ImportSettings) :
    (∀ {σ : Type} (env : Surroundings σ) (s : Site σ) (source : Path) (table : String),
      ∃ a, (s.run env (Work.load settings.spatial settings.loader source table)).1.report.Tells
        settings source table a
        (s.transcript env (Work.load settings.spatial settings.loader source table))) ∧
    (∀ (fallback : LoadReport → Failure) (id : Uuid),
      Work.importReported fallback settings id = Work.importLayer settings id) ∧
    (∀ {σ : Type} (env : Surroundings σ) (s : Site σ) (source : Path) (table : String),
      ∀ e ∈ s.transcript env (Work.load settings.spatial settings.loader source table),
        e.isLostConversion = true →
          ∃ f, (s.run env (Work.load settings.spatial settings.loader source
            table)).1.report.failure? = some f ∧ f.isRetryable = false) ∧
    (∀ {σ : Type} (env : Surroundings σ) (s : Site σ) (id : Uuid),
      ∀ e ∈ s.transcript env (Work.importLayer settings id).run, e.isLostConversion = true →
        ∃ f, (s.run env (Work.importLayer settings id).run).1 = .error f ∧
          f.isRetryable = false) := by
  refine ⟨?_, fun fallback id => Work.importReported_eq fallback settings id, ?_, ?_⟩
  · intro σ env s source table
    exact (s.loadEnd env settings source table).tells
  · intro σ env s source table e he hlost
    have hend := s.loadEnd env settings source table
    generalize (s.run env (Work.load settings.spatial settings.loader source table)).1 = result
      at hend
    cases result with
    | failed f => exact ⟨f, rfl, hend.isRetryable_of_lost e he hlost⟩
    | loaded features type =>
      rw [hend.of_loaded.2 e he] at hlost
      cases hlost
  · intro σ env s id
    obtain ⟨table, htrace⟩ := Site.exists_attemptTrace env settings id s
    exact htrace.lost

end LayerPress
