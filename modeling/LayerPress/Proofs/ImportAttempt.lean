import LayerPress.Proofs.ColumnRows
import LayerPress.Proofs.ImportProtocol
import LayerPress.Proofs.KeptEdges
import LayerPress.Proofs.Rows

/-!
# What an attempt to import a layer leaves

An attempt is withdrawn without a trace in the tables, or it has recorded all of its load. In the
second case its transcript has one commit, everything it was told of the table stands before that
commit, and publishing follows it. Publishing ends with a refusal of the catalog, with an entry
that could not be recorded, or with a recorded entry; only the second is a failure.

Nothing is assumed of what files, services and the clock answer, nor of which record actions
fail.
-/

namespace LayerPress

/-! ## What an attempt is told -/

/-- What an attempt is told of the table that it loaded. An extent and columns that were asked
for in vain count as none. -/
structure TableReport where
  features : Int
  type : Option String
  extent : Option BoundingBox
  columns : List Column
  deriving DecidableEq, Repr

namespace TableReport

/-- The kind of geometry in the table. -/
def kind (t : TableReport) : Naming.GeometryKind :=
  .ofType (t.type.getD unknownGeometry)

/-- The report is what the four queries of a table were answered, each of them asked once. -/
structure Answered (t : TableReport) (table : String) (log : List (Exchange siteActions)) :
    Prop where
  features : answersTo (.count table) log = [.ok t.features]
  type : answersTo (.geometryType table) log = [.ok t.type]
  extent : ∃ x, answersTo (.extent table) log = [x] ∧ t.extent = x.toOption.join
  columns : ∃ x, answersTo (.columns table) log = [x] ∧ t.columns = x.toOption.getD []

end TableReport

/-- The change of a layer's row that records its load. -/
def TableReport.change (t : TableReport) (layer : Layer) (now : Timestamp) : LayerChange :=
  .loaded (Naming.tableName layer.slug) t.features t.kind t.extent now

/-- The tables are those from before with a load of a layer recorded in them. -/
structure Records.Loaded (id : Uuid) (layer : Layer) (t : TableReport) (now : Timestamp)
    (before after : Records) : Prop where
  found : before.layer? id = some layer
  layers : after.layers = before.layers.map fun row =>
    if row.id == id then (t.change layer now).apply row else row
  attributes : Attribute.Keyed before.attributes →
    after.attributes = upserted id 0 t.columns before.attributes

/-- The tables show a load of a layer: its row has what was reported, as the store keeps it, with
an entry and with all else that it had; its attributes are those of the reported columns; the rows
of other layers are those from before. -/
structure Records.HoldsLoad (id : Uuid) (layer : Layer) (t : TableReport) (entry : Option String)
    (before after : Records) : Prop where
  row : ∃ now, after.layer? id = some
    { layer with
      tableName := some (Naming.tableName layer.slug)
      featureCount := t.features
      geometryKind := t.kind.text
      west := t.extent.bind (·.west.stored)
      south := t.extent.bind (·.south.stored)
      east := t.extent.bind (·.east.stored)
      north := t.extent.bind (·.north.stored)
      catalogEntry := entry
      updatedAt := now }
  attributes : after.attributes = upserted id 0 t.columns before.attributes
  otherLayers : after.layers.filter (·.id != id) = before.layers.filter (·.id != id)
  otherAttributes :
    after.attributes.filter (·.layer != id) = before.attributes.filter (·.layer != id)

section
variable {id : Uuid} {layer : Layer} {t : TableReport} {now : Timestamp} {before after : Records}

/-- Tables that show a load have its extent unless an edge of that is not a number. -/
theorem Records.HoldsLoad.hasExtent_iff {entry : Option String}
    (h : Records.HoldsLoad id layer t entry before after) :
    (∃ row, after.layer? id = some row ∧ row.HasExtent t.extent) ↔
      ∀ box, t.extent = some box → box.IsNumeric := by
  obtain ⟨moment, hrow⟩ := h.row
  simp only [hrow, Option.some.injEq, exists_eq_left']
  exact Layer.ShowsExtent.hasExtent_iff ⟨rfl, rfl, rfl, rfl⟩

/-- A layer that is changed has the changed row. -/
theorem Records.layer?_changed {tables : Records} (h : tables.layer? id = some layer)
    (change : LayerChange) :
    ({ tables with
      layers := tables.layers.map fun row =>
        if row.id == id then change.apply row else row } : Records).layer? id =
      some (change.apply layer) := by
  have hid : layer.id = id := id_of_row? h
  change row? id (tables.layers.map _) = _
  rw [row?_changed, show row? id tables.layers = some layer from h, Option.map_some,
    if_pos (beq_iff_eq.mpr hid)]

/-- The layer whose load is recorded has the changed row. -/
theorem Records.Loaded.layer? (h : Records.Loaded id layer t now before after) :
    after.layer? id = some ((t.change layer now).apply layer) := by
  have hrow := Records.layer?_changed h.found (t.change layer now)
  rw [← h.layers] at hrow
  exact hrow

/-- A recorded load is shown, with the entry of the layer from before. -/
theorem Records.Loaded.holdsLoad (h : Records.Loaded id layer t now before after)
    (hkeyed : Attribute.Keyed before.attributes) :
    Records.HoldsLoad id layer t layer.catalogEntry before after where
  row := ⟨now, h.layer?⟩
  attributes := h.attributes hkeyed
  otherLayers := by rw [h.layers, filter_ne_changed]
  otherAttributes := by rw [h.attributes hkeyed, filter_ne_upserted]

end

/-! ## Transactions -/

namespace Work

/-- A transaction commits what its body has made of the tables, or leaves them as they were. -/
theorem ensures_inTransaction {α : Type} {before : Records} {body : Attempt α}
    {P : α → Records → List (Exchange siteActions) → Prop}
    (hbody : Procedure.Ensures Register.Does (fun answer last log =>
      (∀ e ∈ log, e.IsEarly) ∧ ∃ draft, last = ⟨before, some draft⟩ ∧
        ∀ a, answer = .ok a → P a draft log) ⟨before, some before⟩ body.run) :
    Procedure.Ensures Register.Does (fun answer last log =>
      match answer with
      | .ok a => ∃ after done, last = ⟨after, none⟩ ∧
          log = ⟨.records .begin, .ok ()⟩ :: (done ++ [⟨.records .commit, .ok ()⟩]) ∧
          (∀ e ∈ done, e.IsEarly) ∧ P a after done
      | .error _ => last = ⟨before, none⟩ ∧ ∀ e ∈ log, e.IsEarly) ⟨before, none⟩
      (inTransaction body).run := by
  refine ensures_records (fun f => ⟨rfl, ?_⟩) ?_
  · exact List.forall_mem_singleton.mpr (Exchange.isEarly_fault _ f)
  rintro _ _ ⟨⟩
  -- The body and the commit together, whose failure is followed by the rollback.
  have hcommitted : Procedure.Ensures Register.Does (fun answer last log =>
      match answer with
      | .ok a => ∃ after done, last = ⟨after, none⟩ ∧
          log = done ++ [⟨.records .commit, .ok ()⟩] ∧ (∀ e ∈ done, e.IsEarly) ∧ P a after done
      | .error _ => last.stored = before ∧ ∀ e ∈ log, e.IsEarly) ⟨before, some before⟩
      (body >>= fun a => do records .commit; return a).run := by
    refine hbody.bindExcept ?_ ?_
    · rintro value _ done ⟨hdone, draft, rfl, hP⟩
      refine ensures_records (fun f => ⟨rfl, ?_⟩) ?_
      · exact List.forall_mem_append.mpr
          ⟨hdone, List.forall_mem_singleton.mpr (Exchange.isEarly_fault _ f)⟩
      · rintro _ _ ⟨⟩
        exact ⟨draft, done, rfl, rfl, hdone, hP value rfl⟩
    · rintro f _ log ⟨hlog, draft, rfl, -⟩
      exact ⟨rfl, hlog⟩
  refine Procedure.Ensures.liftBind hcommitted fun answer last log hanswer => ?_
  cases answer with
  | ok a =>
    obtain ⟨after, done, rfl, rfl, hdone, hP⟩ := hanswer
    exact ⟨after, done, rfl, by simp, hdone, hP⟩
  | error f =>
    obtain ⟨hstored, hlog⟩ := hanswer
    rintro _ _ ⟨⟩
    refine ⟨by rw [hstored], List.forall_mem_cons.mpr ⟨⟨rfl, rfl⟩, ?_⟩⟩
    exact List.forall_mem_append.mpr ⟨hlog, List.forall_mem_singleton.mpr ⟨rfl, rfl⟩⟩

/-! ## The steps of an attempt -/

variable {settings : ImportSettings} {id : Uuid} {r : Register}

/-- Looking for the source file leaves the register, and looks once when there is one. -/
theorem ensures_sourcePath (l : Layer) :
    Procedure.Ensures Register.Does (fun answer last log => last = r ∧ (∀ e ∈ log, e.IsEarly) ∧
      ∀ path, answer = .ok path → log = [⟨.isFile path, true⟩]) r (sourcePath settings l).run := by
  unfold sourcePath
  cases l.sourceFile with
  | none => exact ⟨rfl, by simp, nofun⟩
  | some raw =>
    dsimp only
    split
    · exact ⟨rfl, by simp, nofun⟩
    · rintro isFile _ ⟨⟩
      cases isFile with
      | true =>
        refine ⟨rfl, List.forall_mem_singleton.mpr ⟨rfl, rfl⟩, ?_⟩
        rintro _ ⟨⟩
        rfl
      | false => exact ⟨rfl, List.forall_mem_singleton.mpr ⟨rfl, rfl⟩, nofun⟩

/-- Measuring leaves the register. A measured table was counted and sampled. -/
theorem ensures_measure (table : String) :
    Procedure.Ensures Register.Does (fun result last log => last = r ∧ (∀ e ∈ log, e.IsEarly) ∧
      ∀ features type, result = .loaded features type → ∃ sampled,
        type = sampled.getD unknownGeometry ∧
        log = [⟨.call (.count table), .ok features⟩, ⟨.call (.geometryType table), .ok sampled⟩]) r
      (measure table) := by
  rintro features _ ⟨⟩
  cases features with
  | error f => exact ⟨rfl, List.forall_mem_singleton.mpr ⟨rfl, rfl⟩, nofun⟩
  | ok features =>
    rintro sampled _ ⟨⟩
    have hearly : ∀ e ∈ [⟨.call (.count table), .ok features⟩,
        (⟨.call (.geometryType table), sampled⟩ : Exchange siteActions)], e.IsEarly :=
      List.forall_mem_cons.mpr ⟨⟨rfl, rfl⟩, List.forall_mem_singleton.mpr ⟨rfl, rfl⟩⟩
    cases sampled with
    | error f => exact ⟨rfl, hearly, nofun⟩
    | ok sampled =>
      refine ⟨rfl, hearly, ?_⟩
      rintro _ _ ⟨⟩
      exact ⟨sampled, rfl, rfl⟩

/-- Loading leaves the register. A loaded table was converted, counted and sampled. -/
theorem ensures_load (spatial : SpatialSettings) (loader : LoaderSettings) (source : Path)
    (table : String) :
    Procedure.Ensures Register.Does (fun result last log => last = r ∧ (∀ e ∈ log, e.IsEarly) ∧
      ∀ features type, result = .loaded features type → ∃ program args timeout output sampled,
        type = sampled.getD unknownGeometry ∧
        log = [⟨.call (.run program args timeout), .ok output⟩,
          ⟨.call (.count table), .ok features⟩, ⟨.call (.geometryType table), .ok sampled⟩]) r
      (load spatial loader source table) := by
  rintro ran _ ⟨⟩
  cases ran with
  | error f => exact ⟨rfl, List.forall_mem_singleton.mpr ⟨rfl, rfl⟩, nofun⟩
  | ok output =>
    change Procedure.Ensures Register.Does _ r (if output.success then measure table else _)
    cases output.success with
    | false => exact ⟨rfl, List.forall_mem_singleton.mpr ⟨rfl, rfl⟩, nofun⟩
    | true =>
      refine (ensures_measure table).mono ?_
      rintro result _ log ⟨rfl, hlog, hmeasured⟩
      refine ⟨rfl, List.forall_mem_cons.mpr ⟨⟨rfl, rfl⟩, hlog⟩, fun features type hresult => ?_⟩
      obtain ⟨sampled, htype, rfl⟩ := hmeasured features type hresult
      exact ⟨_, _, _, output, sampled, htype, rfl⟩

/-- The extent of a table is asked for once, and the register is left. -/
theorem ensures_tableExtent (table : String) :
    Procedure.Ensures Register.Does (fun extent last (log : List (Exchange siteActions)) =>
      last = r ∧ ∃ x, extent = x.toOption.join ∧ log = [⟨.call (.extent table), x⟩]) r
      (tableExtent table) := by
  rintro x _ ⟨⟩
  cases x <;> exact ⟨rfl, _, rfl, rfl⟩

/-- The columns of a table are asked for once, and the register is left. -/
theorem ensures_tableColumns (table : String) :
    Procedure.Ensures Register.Does (fun columns last (log : List (Exchange siteActions)) =>
      last = r ∧ ∃ x, columns = x.toOption.getD [] ∧ log = [⟨.call (.columns table), x⟩]) r
      (tableColumns table) := by
  rintro x _ ⟨⟩
  cases x <;> exact ⟨rfl, _, rfl, rfl⟩

/-- Recording a load commits it as a whole, or leaves the tables as they were. -/
theorem ensures_recordLoad {before : Records} {layer : Layer}
    (hfound : before.layer? id = some layer) (t : TableReport) :
    Procedure.Ensures Register.Does (fun answer last log =>
      match answer with
      | .ok row => ∃ after done now, last = ⟨after, none⟩ ∧
          log = ⟨.records .begin, .ok ()⟩ :: (done ++ [⟨.records .commit, .ok ()⟩]) ∧
          Records.Loaded id layer t now before after ∧ row = (t.change layer now).apply layer ∧
          ∀ e ∈ done, e.IsQuiet
      | .error _ => last = ⟨before, none⟩ ∧ ∀ e ∈ log, e.IsEarly) ⟨before, none⟩
      (recordLoad id (Naming.tableName layer.slug) t.features t.kind t.extent t.columns).run := by
  obtain rfl : layer.id = id := by simpa using List.find?_some hfound
  refine (ensures_inTransaction (P := fun row draft done => ∃ now,
    Records.Loaded layer.id layer t now before draft ∧ row = (t.change layer now).apply layer ∧
      ∀ e ∈ done, e.IsQuiet) ?_).mono ?_
  · rintro now _ ⟨⟩
    refine ensures_execute (fun f => ?_) fun row draft hchange => ?_
    · refine ⟨List.forall_mem_cons.mpr ⟨⟨rfl, rfl⟩, ?_⟩, before, rfl, fun _ hok => by cases hok⟩
      exact List.forall_mem_singleton.mpr (Exchange.isEarly_fault _ f)
    · have hdraft : row = (t.change layer now).apply layer ∧ draft = { before with
          layers := before.layers.map fun row =>
            if row.id == layer.id then (t.change layer now).apply row else row } := by
        change before.changeLayer layer.id (t.change layer now) = _ at hchange
        rw [Records.changeLayer, hfound] at hchange
        cases hchange
        exact ⟨rfl, rfl⟩
      obtain ⟨rfl, rfl⟩ := hdraft
      rintro _ _ ⟨⟩
      refine (ensures_upsertAttributes layer.id t.columns 0 before _).bindExcept ?_ ?_
      · intro _ _ log hshown
        cases hshown with
        | shown hrows hlog =>
          have hquiet : ∀ e ∈ log ++ [], e.IsQuiet := by
            rw [List.append_nil]
            exact fun e he => Exchange.isQuiet_of_isStatement (hlog e he).1 (hlog e he).2
          have hdone : ∀ e ∈ (⟨.now, now⟩ : Exchange siteActions) ::
              ⟨.records (.statement (.changeLayer layer.id (t.change layer now))),
                .ok ((t.change layer now).apply layer)⟩ ::
              ⟨.note .creatingAttributes, ()⟩ :: (log ++ []), e.IsQuiet :=
            List.forall_mem_cons.mpr ⟨⟨⟨rfl, rfl⟩, rfl, fun _ => rfl⟩,
              List.forall_mem_cons.mpr ⟨⟨⟨rfl, rfl⟩, rfl, fun _ => rfl⟩,
                List.forall_mem_cons.mpr ⟨⟨⟨rfl, rfl⟩, rfl, fun _ => rfl⟩, hquiet⟩⟩⟩
          refine ⟨fun e he => (hdone e he).isEarly, _, rfl, ?_⟩
          rintro _ ⟨⟩
          exact ⟨now, ⟨hfound, rfl, hrows⟩, rfl, hdone⟩
      · intro f _ log hshown
        cases hshown with
        | failed _ draft hlog =>
          refine ⟨?_, draft, rfl, fun _ hok => by cases hok⟩
          refine List.forall_mem_cons.mpr ⟨⟨rfl, rfl⟩, List.forall_mem_cons.mpr ⟨⟨rfl, rfl⟩, ?_⟩⟩
          exact List.forall_mem_cons.mpr
            ⟨⟨rfl, rfl⟩, fun e he => Exchange.isEarly_of_isStatement (hlog e he)⟩
  · intro answer last log hanswer
    cases answer with
    | error f => exact hanswer
    | ok row =>
      obtain ⟨after, done, hlast, hlog, -, now, hloaded, hrow, hquiet⟩ := hanswer
      exact ⟨after, done, now, hlast, hlog, hloaded, hrow, hquiet⟩

end Work

/-! ## Publishing -/

/-- The call that publishes the table of a layer. -/
def ImportSettings.publicationOf (settings : ImportSettings) (l : Layer) : ServiceCall :=
  .publish (Naming.tableName l.slug) l.title settings.workspace settings.datastore

/-- The tables with the entry of a layer recorded in its row. -/
def Records.withEntry (tables : Records) (id : Uuid) (entry : String) (now : Timestamp) : Records :=
  { tables with layers := tables.layers.map fun row =>
      if row.id == id then (LayerChange.published entry now).apply row else row }

section
variable {id : Uuid} {layer : Layer} {t : TableReport} {former : Option String}
  {before after : Records}

/-- The row in which an entry is recorded. -/
theorem Records.layer?_withEntry (h : after.layer? id = some layer) (entry : String)
    (now : Timestamp) : (after.withEntry id entry now).layer? id =
      some ((LayerChange.published entry now).apply layer) :=
  Records.layer?_changed h (.published entry now)

/-- Recording an entry leaves the load shown. -/
theorem Records.HoldsLoad.withEntry (h : Records.HoldsLoad id layer t former before after)
    (entry : String) (now : Timestamp) :
    Records.HoldsLoad id layer t (some entry) before (after.withEntry id entry now) where
  row := by
    obtain ⟨_, hrow⟩ := h.row
    exact ⟨now, Records.layer?_withEntry hrow entry now⟩
  attributes := h.attributes
  otherLayers := (filter_ne_changed id (.published entry now) after.layers).trans h.otherLayers
  otherAttributes := h.otherAttributes

end

/-- How publishing a recorded load ends: the catalog refuses the table, or the entry could not be
recorded, or it is recorded. -/
inductive PublishEnd (settings : ImportSettings) (id : Uuid) (layer : Layer) (tables : Records) :
    Except Failure (Option String) → Register → List (Exchange siteActions) → Prop
  | refused (f : Failure) :
      PublishEnd settings id layer tables (.ok none) ⟨tables, none⟩
        [⟨.call (settings.publicationOf layer), .error f⟩]
  | unrecorded (action : PublishAction) (now : Timestamp) (f : RecordFault) :
      PublishEnd settings id layer tables (.error (.records f)) ⟨tables, none⟩
        [⟨.call (settings.publicationOf layer), .ok action⟩, ⟨.now, now⟩,
          ⟨.records (.statement (.changeLayer id (.published (settings.entryOf layer) now))),
            .error f⟩]
  | recorded (action : PublishAction) (now : Timestamp) (row : Layer) :
      PublishEnd settings id layer tables (.ok (some (settings.entryOf layer)))
        ⟨tables.withEntry id (settings.entryOf layer) now, none⟩
        [⟨.call (settings.publicationOf layer), .ok action⟩, ⟨.now, now⟩,
          ⟨.records (.statement (.changeLayer id (.published (settings.entryOf layer) now))),
            .ok row⟩]

/-- Publishing asks nothing more of the table, whose queries keep their answers. -/
theorem PublishEnd.answered {settings : ImportSettings} {id : Uuid} {layer : Layer}
    {tables : Records} {t : TableReport} {entry : Except Failure (Option String)} {last : Register}
    {log publishing closing : List (Exchange siteActions)}
    (h : PublishEnd settings id layer tables entry last publishing)
    (hanswered : t.Answered (Naming.tableName layer.slug) log)
    (hclosing : ∀ e ∈ closing, e.IsQuiet) :
    t.Answered (Naming.tableName layer.slug) (log ++ ⟨.records .commit, .ok ()⟩ ::
      ⟨.note .publishing, ()⟩ :: (publishing ++ closing)) := by
  have hsame (c : ServiceCall) (hc : c ≠ settings.publicationOf layer) :
      answersTo c (log ++ ⟨.records .commit, .ok ()⟩ :: ⟨.note .publishing, ()⟩ ::
        (publishing ++ closing)) = answersTo c log := by
    have hpublishing : answersTo c publishing = [] := by
      cases h <;> simp [answersTo, Exchange.answerTo?, hc.symm]
    have hrest : answersTo c (⟨.records .commit, .ok ()⟩ :: ⟨.note .publishing, ()⟩ ::
        (publishing ++ closing)) = answersTo c (publishing ++ closing) := rfl
    rw [answersTo_append, hrest, answersTo_append, hpublishing, answersTo_of_isQuiet hclosing,
      List.append_nil, List.append_nil]
  constructor
  · rw [hsame (.count _) nofun]
    exact hanswered.features
  · rw [hsame (.geometryType _) nofun]
    exact hanswered.type
  · rw [hsame (.extent _) nofun]
    exact hanswered.extent
  · rw [hsame (.columns _) nofun]
    exact hanswered.columns

/-- How an attempt ends: withdrawn before any commit, with the tables as they were, or with its
load recorded by the one commit and publishing after it. -/
inductive AttemptEnd (settings : ImportSettings) (id : Uuid) (before : Records) :
    Except Failure ImportOutcome → Register → List (Exchange siteActions) → Prop
  | withdrawn {log : List (Exchange siteActions)} (f : Failure) (hlog : ∀ e ∈ log, e.IsEarly) :
      AttemptEnd settings id before (.error f) ⟨before, none⟩ log
  | recorded {layer : Layer} {t : TableReport} {now : Timestamp} {tables : Records}
      {log publishing closing : List (Exchange siteActions)}
      {entry : Except Failure (Option String)} {last : Register}
      (hloaded : Records.Loaded id layer t now before tables)
      (hanswered : t.Answered (Naming.tableName layer.slug) log)
      (hlog : ∀ e ∈ log, e.IsEarly ∧ e.hasFault = false)
      (hpublished : PublishEnd settings id layer tables entry last publishing)
      (hclosing : ∀ e ∈ closing, e.IsQuiet) :
      AttemptEnd settings id before
        (entry.map (.loaded (Naming.tableName layer.slug) t.features t.kind)) last
        (log ++ ⟨.records .commit, .ok ()⟩ :: ⟨.note .publishing, ()⟩ :: (publishing ++ closing))

namespace Work

variable {settings : ImportSettings} {id : Uuid} {before tables : Records} {layer : Layer}

/-- Publishing asks the catalog once and records the entry if there is one. -/
theorem ensures_publish {row : Layer} (hid : row.id = id) (htitle : row.title = layer.title) :
    Procedure.Ensures Register.Does (PublishEnd settings id layer tables) ⟨tables, none⟩
      (publish settings row (Naming.tableName layer.slug)).run := by
  subst hid
  unfold publish
  rw [htitle]
  rintro published _ ⟨⟩
  cases published with
  | error f => exact .refused f
  | ok action =>
    rintro now _ ⟨⟩
    refine ensures_execute (fun f => .unrecorded action now f) fun changed after hchange => ?_
    change tables.changeLayer row.id _ = _ at hchange
    unfold Records.changeLayer at hchange
    split at hchange
    · cases hchange
    · cases hchange
      exact .recorded action now _

/-- The transcript of an attempt whose table has been counted and sampled. -/
structure Measured (table : String) (features : Int) (sampled : Option String)
    (log : List (Exchange siteActions)) : Prop where
  early : ∀ e ∈ log, e.IsEarly ∧ e.hasFault = false
  features : answersTo (.count table) log = [.ok features]
  type : answersTo (.geometryType table) log = [.ok sampled]
  extent : answersTo (.extent table) log = []
  columns : answersTo (.columns table) log = []

/-- The exchanges that lead from a measured table to the commit of its load: two more queries,
and the statements of the transaction. -/
def described (table : String) (extent : Except Failure (Option BoundingBox))
    (columns : Except Failure (List Column)) (done : List (Exchange siteActions)) :
    List (Exchange siteActions) :=
  ⟨.note .extracting, ()⟩ :: ⟨.call (.extent table), extent⟩ :: ⟨.call (.columns table), columns⟩ ::
    ⟨.note .updatingRecord, ()⟩ :: ⟨.records .begin, .ok ()⟩ :: done

/-- With the extent and the columns, a measured table's queries are all answered. -/
theorem Measured.described {table : String} {features : Int} {sampled : Option String}
    {log done : List (Exchange siteActions)} (h : Measured table features sampled log)
    (hdone : ∀ e ∈ done, e.IsQuiet) (extent : Except Failure (Option BoundingBox))
    (columns : Except Failure (List Column)) :
    let told := log ++ Work.described table extent columns done
    (⟨features, sampled, extent.toOption.join, columns.toOption.getD []⟩ :
        TableReport).Answered table told ∧
      ∀ e ∈ told, e.IsEarly ∧ e.hasFault = false := by
  intro told
  have hquiet (c : ServiceCall) : answersTo c done = [] := answersTo_of_isQuiet hdone c
  -- Of the exchanges after the log, only the two queries answer a call.
  have hanswers (c : ServiceCall) : answersTo c told = answersTo c log ++
      answersTo c [⟨.call (.extent table), extent⟩, ⟨.call (.columns table), columns⟩] := by
    have hrest : answersTo c (Work.described table extent columns done) = answersTo c
        ([⟨.call (.extent table), extent⟩, ⟨.call (.columns table), columns⟩] ++ done) := rfl
    rw [answersTo_append, hrest, answersTo_append, hquiet, List.append_nil]
  refine ⟨⟨?_, ?_, ⟨extent, ?_, rfl⟩, ⟨columns, ?_, rfl⟩⟩, ?_⟩
  · rw [hanswers, h.features]; simp [answersTo, Exchange.answerTo?]
  · rw [hanswers, h.type]; simp [answersTo, Exchange.answerTo?]
  · rw [hanswers, h.extent]; simp [answersTo, Exchange.answerTo?]
  · rw [hanswers, h.columns]; simp [answersTo, Exchange.answerTo?]
  · refine List.forall_mem_append.mpr ⟨h.early, ?_⟩
    simp only [Work.described, List.forall_mem_cons]
    refine ⟨⟨⟨rfl, rfl⟩, rfl⟩, ⟨⟨rfl, rfl⟩, rfl⟩, ⟨⟨rfl, rfl⟩, rfl⟩, ⟨⟨rfl, rfl⟩, rfl⟩,
      ⟨⟨rfl, rfl⟩, rfl⟩, fun e he => ⟨(hdone e he).isEarly, (hdone e he).hasFault⟩⟩

/-- From a measured table on, an attempt is withdrawn or has its load recorded. -/
theorem ensures_finish (hfound : before.layer? id = some layer) {features : Int}
    {sampled : Option String} {log : List (Exchange siteActions)}
    (hmeasured : Measured (Naming.tableName layer.slug) features sampled log) :
    Procedure.Ensures Register.Does
      (fun answer last more => AttemptEnd settings id before answer last (log ++ more))
      ⟨before, none⟩ (do
      liftM (m := Work) (note .extracting)
      let extent ← liftM (m := Work) (tableExtent (Naming.tableName layer.slug))
      let columns ← liftM (m := Work) (tableColumns (Naming.tableName layer.slug))
      let kind := Naming.GeometryKind.ofType (sampled.getD unknownGeometry)
      liftM (m := Work) (note .updatingRecord)
      let updated ← recordLoad id (Naming.tableName layer.slug) features kind extent columns
      liftM (m := Work) (note .publishing)
      let entry ← publish settings updated (Naming.tableName layer.slug)
      liftM (m := Work) (note .done)
      return .loaded (Naming.tableName layer.slug) features kind entry :
        Attempt ImportOutcome).run := by
  rintro ⟨⟩ _ ⟨⟩
  refine (ensures_tableExtent _).liftBind ?_
  rintro _ _ _ ⟨rfl, extent, rfl, rfl⟩
  refine (ensures_tableColumns _).liftBind ?_
  rintro _ _ _ ⟨rfl, columns, rfl, rfl⟩
  rintro ⟨⟩ _ ⟨⟩
  let t : TableReport := ⟨features, sampled, extent.toOption.join, columns.toOption.getD []⟩
  refine (ensures_recordLoad hfound t).bindExcept ?_ ?_
  · rintro row _ _ ⟨tables, done, now, rfl, rfl, hloaded, rfl, hdone⟩
    rintro ⟨⟩ _ ⟨⟩
    obtain ⟨hanswered, htold⟩ := hmeasured.described hdone extent columns
    have hid : ((t.change layer now).apply layer).id = id :=
      (LayerChange.apply_id _ layer).trans (id_of_row? hfound)
    have hpublish : Procedure.Ensures Register.Does (PublishEnd settings id layer tables)
        ⟨tables, none⟩ (publish settings ((t.change layer now).apply layer)
          (Naming.tableName layer.slug)).run :=
      ensures_publish hid rfl
    refine hpublish.bindExcept ?_ ?_
    · rintro entry last publishing hpublished
      rintro ⟨⟩ _ ⟨⟩
      have hquiet : ∀ e ∈ [(⟨.note .done, ()⟩ : Exchange siteActions)], e.IsQuiet :=
        List.forall_mem_singleton.mpr ⟨⟨rfl, rfl⟩, rfl, fun _ => rfl⟩
      have hend := AttemptEnd.recorded hloaded hanswered htold hpublished hquiet
      change AttemptEnd settings id before (.ok _) last _
      simp only [described, List.append_assoc, List.cons_append, List.nil_append] at hend ⊢
      exact hend
    · intro f last publishing hpublished
      have hend := AttemptEnd.recorded hloaded hanswered htold hpublished
        (List.forall_mem_nil Exchange.IsQuiet)
      simp only [described, List.append_assoc, List.cons_append, List.nil_append,
        List.append_nil] at hend ⊢
      exact hend
  · rintro f _ more ⟨rfl, hmore⟩
    refine .withdrawn f (List.forall_mem_append.mpr ⟨fun e he => (hmeasured.early e he).1, ?_⟩)
    simp only [List.singleton_append, List.forall_mem_cons]
    exact ⟨⟨rfl, rfl⟩, ⟨rfl, rfl⟩, ⟨rfl, rfl⟩, ⟨rfl, rfl⟩, hmore⟩

/-- An attempt ends withdrawn or with its load recorded. -/
theorem ensures_importLayer (settings : ImportSettings) (id : Uuid) (before : Records) :
    Procedure.Ensures Register.Does (AttemptEnd settings id before) ⟨before, none⟩
      (importLayer settings id).run := by
  refine ensures_execute (fun f => ?_) fun found tables hfind => ?_
  · exact .withdrawn _ (List.forall_mem_singleton.mpr (Exchange.isEarly_fault _ f))
  obtain ⟨hfound, rfl⟩ : before.layer? id = found ∧ before = tables := by
    cases hfind
    exact ⟨rfl, rfl⟩
  cases found with
  | none => exact .withdrawn _ (List.forall_mem_singleton.mpr ⟨rfl, rfl⟩)
  | some layer =>
    refine (ensures_sourcePath layer).bindExcept ?_ ?_
    · rintro path _ _ ⟨rfl, -, hlooked⟩
      obtain rfl := hlooked path rfl
      rintro ⟨⟩ _ ⟨⟩
      rintro resolved _ ⟨⟩
      cases resolved with
      | error f =>
        refine .withdrawn f ?_
        simp only [List.singleton_append, List.forall_mem_cons]
        exact ⟨⟨rfl, rfl⟩, ⟨rfl, rfl⟩, ⟨rfl, rfl⟩, ⟨rfl, rfl⟩, List.forall_mem_nil Exchange.IsEarly⟩
      | ok source =>
        rintro ⟨⟩ _ ⟨⟩
        refine (ensures_load _ _ _ _).liftBind ?_
        rintro result _ more ⟨rfl, hmore, hloaded⟩
        rintro ⟨⟩ _ ⟨⟩
        cases result with
        | failed f =>
          refine .withdrawn f ?_
          simp only [List.singleton_append, List.forall_mem_cons, List.forall_mem_append]
          exact ⟨⟨rfl, rfl⟩, ⟨rfl, rfl⟩, ⟨rfl, rfl⟩, ⟨rfl, rfl⟩, ⟨rfl, rfl⟩, hmore,
            ⟨rfl, rfl⟩, List.forall_mem_nil Exchange.IsEarly⟩
        | loaded features type =>
          obtain ⟨program, args, timeout, output, sampled, rfl, rfl⟩ := hloaded features type rfl
          have hmeasured : Measured (Naming.tableName layer.slug) features sampled
              [⟨.records (.statement (.findLayer id)), .ok (some layer)⟩, ⟨.isFile path, true⟩,
                ⟨.note .resolving, ()⟩, ⟨.resolve path, .ok source⟩, ⟨.note .loading, ()⟩,
                ⟨.call (.run program args timeout), .ok output⟩,
                ⟨.call (.count (Naming.tableName layer.slug)), .ok features⟩,
                ⟨.call (.geometryType (Naming.tableName layer.slug)), .ok sampled⟩,
                ⟨.release source, ()⟩] :=
            { early := by
                simp [Exchange.IsEarly, Exchange.isCommit, Exchange.isPublication,
                  Exchange.hasFault]
              features := by simp [answersTo, Exchange.answerTo?]
              type := by simp [answersTo, Exchange.answerTo?]
              extent := by simp [answersTo, Exchange.answerTo?]
              columns := by simp [answersTo, Exchange.answerTo?] }
          exact ensures_finish hfound hmeasured
    · rintro f _ log ⟨rfl, hlog, -⟩
      exact .withdrawn f (List.forall_mem_cons.mpr ⟨⟨rfl, rfl⟩, hlog⟩)

end Work

/-- On a site without an open transaction, an attempt ends withdrawn or with its load recorded. -/
theorem Site.attemptEnd_importLayer {σ : Type} (env : Surroundings σ) (settings : ImportSettings)
    (id : Uuid) (s : Site σ) (hclosed : s.working = none) :
    AttemptEnd settings id s.records (s.run env (Work.importLayer settings id).run).1
      (s.run env (Work.importLayer settings id).run).2.register
      (s.transcript env (Work.importLayer settings id).run) := by
  have hregister : s.register = ⟨s.records, none⟩ := by rw [Site.register, hclosed]
  refine Site.run_ensures ?_
  rw [hregister]
  exact Work.ensures_importLayer settings id s.records

end LayerPress
