import LayerPress.Proofs.ImportAttempt

/-!
# What an attempt finds out before it records

An attempt to import a layer surveys the source, records what it found, and publishes the table.
The survey looks for the source file, resolves it, has it converted into the layer's table, and
asks for the features, the geometry, the extent and the columns of that table. It leaves the
records alone.

How a survey ends can be read off its exchanges. Two surveys of one source whose questions were
answered alike therefore end alike, whatever became of the layer's row between them.
-/

namespace LayerPress

/-! ## An attempt in parts -/

/-- The call that converts a source into a table. -/
def ImportSettings.conversionOf (settings : ImportSettings) (source : Path) (table : String) :
    ServiceCall :=
  .run settings.loader.program
    (Work.conversionArgs settings.spatial settings.loader source table)
    settings.loader.timeoutMilliseconds

/-- Where the source file of a layer is looked for, if the layer names one. -/
def ImportSettings.sourceOf? (settings : ImportSettings) (l : Layer) : Option Path :=
  l.sourceFile.bind fun raw =>
    if raw.isEmpty then none else some (settings.mediaRoot.join (Path.ofText raw))

namespace Work

/-- Finds out about the source of a layer and about the table that it is converted into. -/
def survey (settings : ImportSettings) (layer : Layer) : Attempt TableReport := do
  let path ← sourcePath settings layer
  liftM (m := Work) (note .resolving)
  let source ← resolve path
  liftM (m := Work) (note .loading)
  let table := Naming.tableName layer.slug
  let result ← liftM (m := Work) (load settings.spatial settings.loader source.path table)
  liftM (m := Work) (release source)
  match result with
  | .failed f => throw f
  | .loaded features type =>
    liftM (m := Work) (note .extracting)
    let extent ← liftM (m := Work) (tableExtent table)
    let columns ← liftM (m := Work) (tableColumns table)
    return ⟨features, some type, extent, columns⟩

/-- An attempt is a survey of the layer that it finds, after which it records and publishes. -/
theorem importLayer_eq (settings : ImportSettings) (id : Uuid) :
    importLayer settings id = (do
      match ← execute (.findLayer id) with
      | none => throw (.layerNotFound id)
      | some layer =>
        let t ← survey settings layer
        let table := Naming.tableName layer.slug
        liftM (m := Work) (note .updatingRecord)
        let row ← recordLoad id table t.features t.kind t.extent t.columns
        liftM (m := Work) (note .publishing)
        let entry ← publish settings row table
        liftM (m := Work) (note .done)
        return .loaded table t.features t.kind entry) := by
  unfold importLayer
  apply bind_congr
  intro found
  cases found with
  | none => rfl
  | some layer =>
    simp only [survey, bind_assoc]
    apply bind_congr
    intro path
    apply bind_congr
    intro _
    apply bind_congr
    intro source
    apply bind_congr
    intro _
    apply bind_congr
    intro result
    apply bind_congr
    intro _
    cases result with
    | failed f => rfl
    | loaded features type =>
      simp only [bind_assoc, pure_bind]
      rfl

/-- The source file is looked for where the layer says. -/
theorem sourcePath_eq (settings : ImportSettings) (l : Layer) :
    sourcePath settings l = (do
      match settings.sourceOf? l with
      | none => throw (.sourceFileMissing ("layer '" ++ l.slug ++ "' has no source file"))
      | some path =>
        if ← liftM (m := Work) (isFile path) then return path
        else throw (.sourceFileMissing path.display)) := by
  unfold sourcePath ImportSettings.sourceOf?
  cases l.sourceFile with
  | none => rfl
  | some raw =>
    cases hraw : raw.isEmpty with
    | true =>
      simp only [Option.bind_some, hraw, if_true]
      rfl
    | false =>
      simp only [Option.bind_some, hraw, Bool.false_eq_true, if_false]

end Work

/-! ## How a survey ends -/

/-- The failure of a conversion, if the answer of the program tells of one. -/
def conversionFailure? (program : String) : Except Failure ProcessOutput → Option Failure
  | .error f => some (Work.runFailure program f)
  | .ok output =>
    if output.success then none else some (.conversionFailed (Work.diagnostic output))

/-- How loading ends: with the first call that fails, or with all three answered. -/
inductive LoadEnd (settings : ImportSettings) (source : Path) (table : String) :
    LoadResult → List (Exchange siteActions) → Prop
  | unconverted {ran : Except Failure ProcessOutput} {f : Failure}
      (h : conversionFailure? settings.loader.program ran = some f) :
      LoadEnd settings source table (.failed f) [⟨.call (settings.conversionOf source table), ran⟩]
  | uncounted {output : ProcessOutput} (h : output.success = true) (f : Failure) :
      LoadEnd settings source table (.failed f)
        [⟨.call (settings.conversionOf source table), .ok output⟩,
          ⟨.call (.count table), .error f⟩]
  | unsampled {output : ProcessOutput} (h : output.success = true) (features : Int) (f : Failure) :
      LoadEnd settings source table (.failed f)
        [⟨.call (settings.conversionOf source table), .ok output⟩,
          ⟨.call (.count table), .ok features⟩, ⟨.call (.geometryType table), .error f⟩]
  | measured {output : ProcessOutput} (h : output.success = true) (features : Int)
      (sampled : Option String) :
      LoadEnd settings source table (.loaded features (sampled.getD unknownGeometry))
        [⟨.call (settings.conversionOf source table), .ok output⟩,
          ⟨.call (.count table), .ok features⟩, ⟨.call (.geometryType table), .ok sampled⟩]

/-- How a survey ends: without a source file, with a source that cannot be resolved or loaded, or
with a report. An extent and columns that were asked for in vain count as none. -/
inductive SurveyEnd (settings : ImportSettings) (layer : Layer) :
    Except Failure TableReport → List (Exchange siteActions) → Prop
  | nameless (h : settings.sourceOf? layer = none) (text : String) :
      SurveyEnd settings layer (.error (.sourceFileMissing text)) []
  | missing {path : Path} (h : settings.sourceOf? layer = some path) :
      SurveyEnd settings layer (.error (.sourceFileMissing path.display)) [⟨.isFile path, false⟩]
  | unresolved {path : Path} (h : settings.sourceOf? layer = some path) (f : Failure) :
      SurveyEnd settings layer (.error f)
        [⟨.isFile path, true⟩, ⟨.note .resolving, ()⟩, ⟨.resolve path, .error f⟩]
  | unloaded {path : Path} {source : ResolvedSource} {f : Failure}
      {log : List (Exchange siteActions)} (h : settings.sourceOf? layer = some path)
      (hload : LoadEnd settings source.path (Naming.tableName layer.slug) (.failed f) log) :
      SurveyEnd settings layer (.error f)
        ([⟨.isFile path, true⟩, ⟨.note .resolving, ()⟩, ⟨.resolve path, .ok source⟩,
          ⟨.note .loading, ()⟩] ++ log ++ [⟨.release source, ()⟩])
  | reported {path : Path} {source : ResolvedSource} {features : Int} {type : String}
      {log : List (Exchange siteActions)} (h : settings.sourceOf? layer = some path)
      (hload : LoadEnd settings source.path (Naming.tableName layer.slug) (.loaded features type)
        log)
      (extent : Except Failure (Option BoundingBox)) (columns : Except Failure (List Column)) :
      SurveyEnd settings layer
        (.ok ⟨features, some type, extent.toOption.join, columns.toOption.getD []⟩)
        ([⟨.isFile path, true⟩, ⟨.note .resolving, ()⟩, ⟨.resolve path, .ok source⟩,
          ⟨.note .loading, ()⟩] ++ log ++
          [⟨.release source, ()⟩, ⟨.note .extracting, ()⟩,
            ⟨.call (.extent (Naming.tableName layer.slug)), extent⟩,
            ⟨.call (.columns (Naming.tableName layer.slug)), columns⟩])

namespace Work

variable {r : Register}

/-- Loading ends with its first failure or with all answers, and leaves the register. -/
theorem ensures_load_end (settings : ImportSettings) (source : Path) (table : String) :
    Procedure.Ensures Register.Does (fun result last log => last = r ∧
      LoadEnd settings source table result log) r
      (load settings.spatial settings.loader source table) := by
  intro ran r₁ hran
  obtain rfl : r₁ = r := hran
  cases ran with
  | error f => exact ⟨rfl, .unconverted rfl⟩
  | ok output =>
    change Procedure.Ensures Register.Does _ r₁ (if output.success then measure table else _)
    cases houtput : output.success with
    | false =>
      have hfailure : conversionFailure? settings.loader.program (.ok output) =
          some (.conversionFailed (diagnostic output)) := by
        simp [conversionFailure?, houtput]
      exact ⟨rfl, .unconverted hfailure⟩
    | true =>
      intro features r₂ hfeatures
      obtain rfl : r₂ = r₁ := hfeatures
      cases features with
      | error f => exact ⟨rfl, .uncounted houtput f⟩
      | ok features =>
        intro sampled r₃ hsampled
        obtain rfl : r₃ = r₂ := hsampled
        cases sampled with
        | error f => exact ⟨rfl, .unsampled houtput features f⟩
        | ok sampled => exact ⟨rfl, .measured houtput features sampled⟩

/-- A survey ends as its exchanges tell, and leaves the register. -/
theorem ensures_survey (settings : ImportSettings) (layer : Layer) :
    Procedure.Ensures Register.Does (fun answer last log => last = r ∧
      SurveyEnd settings layer answer log) r (survey settings layer).run := by
  unfold survey
  rw [sourcePath_eq]
  cases hsource : settings.sourceOf? layer with
  | none => exact ⟨rfl, .nameless hsource _⟩
  | some path =>
    intro isFile r₁ hisFile
    obtain rfl : r₁ = r := hisFile
    cases isFile with
    | false => exact ⟨rfl, .missing hsource⟩
    | true =>
      intro _ r₂ hnote
      obtain rfl : r₂ = r₁ := hnote
      intro resolved r₃ hresolved
      obtain rfl : r₃ = r₂ := hresolved
      cases resolved with
      | error f => exact ⟨rfl, .unresolved hsource f⟩
      | ok source =>
        intro _ r₄ hnote
        obtain rfl : r₄ = r₃ := hnote
        apply (ensures_load_end settings source.path (Naming.tableName layer.slug)).liftBind
        intro result r₅ log hload
        obtain ⟨rfl, hload⟩ := hload
        intro _ r₆ hrelease
        obtain rfl : r₆ = r₅ := hrelease
        cases result with
        | failed f =>
          have hend := SurveyEnd.unloaded hsource hload
          simp only [List.cons_append, List.nil_append] at hend
          exact ⟨rfl, hend⟩
        | loaded features type =>
          intro _ r₇ hnote
          obtain rfl : r₇ = r₆ := hnote
          apply (ensures_tableExtent (Naming.tableName layer.slug)).liftBind
          intro _ r₈ _ hextent
          obtain ⟨rfl, extent, rfl, rfl⟩ := hextent
          apply (ensures_tableColumns (Naming.tableName layer.slug)).liftBind
          intro _ r₉ _ hcolumns
          obtain ⟨rfl, columns, rfl, rfl⟩ := hcolumns
          have hend := SurveyEnd.reported hsource hload extent columns
          simp only [List.cons_append, List.nil_append] at hend
          exact ⟨rfl, hend⟩

end Work

end LayerPress
