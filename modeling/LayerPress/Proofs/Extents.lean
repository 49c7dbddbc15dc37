import LayerPress.Proofs.KeptEdges
import LayerPress.Proofs.OutcomeRecord

/-!
# The extent in a record

The extent of a record is the one that the table was found to have when a load was last recorded.
It can be read off the exchanges of an import: an answer to the question for the extent is noted,
and a commit makes what was noted last the extent of the record. An import that reports success has
recorded what it was told last.
-/

namespace LayerPress

/-- The extent that a record shows after a change. -/
def LayerChange.extentAfter : LayerChange → Option BoundingBox → Option BoundingBox
  | loaded _ _ _ told _, _ => told
  | published .., extent => extent
  | cleared _, _ => none

/-- A changed record shows the extent of the change and has its slug. -/
theorem Layer.ShowsExtent.apply {l : Layer} {extent : Option BoundingBox} (h : l.ShowsExtent extent)
    (change : LayerChange) :
    (change.apply l).ShowsExtent (change.extentAfter extent) ∧ (change.apply l).slug = l.slug := by
  cases change with
  | loaded => exact ⟨⟨rfl, rfl, rfl, rfl⟩, rfl⟩
  | published => exact ⟨⟨h.west, h.south, h.east, h.north⟩, rfl⟩
  | cleared => exact ⟨⟨rfl, rfl, rfl, rfl⟩, rfl⟩

/-- The records of an id have the slug of a table and show an extent. -/
def LayersShow (id : Uuid) (table : String) (extent : Option BoundingBox) (layers : List Layer) :
    Prop :=
  ∀ l ∈ layers, l.id = id → Naming.tableName l.slug = table ∧ l.ShowsExtent extent

/-- Changing a layer changes the extent that its records show, and no other. -/
theorem LayersShow.changed {id : Uuid} {table : String} {extent : Option BoundingBox}
    {layers : List Layer} (h : LayersShow id table extent layers) (layer : Uuid)
    (change : LayerChange) :
    LayersShow id table (if layer == id then change.extentAfter extent else extent)
      (layers.map fun row => if row.id == layer then change.apply row else row) := by
  refine List.forall_mem_map.mpr fun row hrow hid => ?_
  by_cases hsame : row.id = layer
  · rw [if_pos (beq_iff_eq.mpr hsame)] at hid ⊢
    rw [LayerChange.apply_id] at hid
    obtain ⟨htable, hshows⟩ := h row hrow hid
    obtain ⟨hchanged, hslug⟩ := hshows.apply change
    rw [hslug, if_pos (beq_iff_eq.mpr (hsame.symm.trans hid))]
    exact ⟨htable, hchanged⟩
  · rw [if_neg (by simpa using hsame)] at hid ⊢
    rw [if_neg (by simpa using fun heq => hsame (hid.trans heq.symm))]
    exact h row hrow hid

/-! ## What an import notes -/

/-- What is noted of the exchanges of an import: the extent that the table was last told to have,
and the extent of the load that was recorded last. -/
structure ExtentNotes where
  told : Option BoundingBox
  recorded : Option BoundingBox
  deriving DecidableEq, Repr

namespace ExtentNotes

/-- The notes after one more exchange. An extent that was asked for in vain counts as none. -/
def note (table : String) (n : ExtentNotes) (e : Exchange siteActions) : ExtentNotes :=
  match e.answerTo? (.extent table) with
  | some x => { n with told := x.toOption.join }
  | none => if e.isCommit then { n with recorded := n.told } else n

variable {table : String} {log : List (Exchange siteActions)}

/-- Without a commit only what was told changes, to the last answer. -/
theorem foldl_note (hlog : ∀ e ∈ log, e.isCommit = false) (n : ExtentNotes) :
    log.foldl (note table) n =
      { n with
        told := (answersTo (.extent table) log).foldl (fun _ x => x.toOption.join) n.told } := by
  induction log generalizing n with
  | nil => rfl
  | cons e rest ih =>
    obtain ⟨he, hrest⟩ := List.forall_mem_cons.mp hlog
    rw [List.foldl_cons, ih hrest]
    cases hanswer : e.answerTo? (.extent table) with
    | none => simp [note, answersTo, hanswer, he]
    | some x => simp [note, answersTo, hanswer]

/-- Without a commit and an answer nothing is noted. -/
theorem foldl_note_of_answersTo (hlog : ∀ e ∈ log, e.isCommit = false)
    (hanswers : answersTo (.extent table) log = []) (n : ExtentNotes) :
    log.foldl (note table) n = n := by
  rw [foldl_note hlog, hanswers]
  rfl

end ExtentNotes

section
variable {settings : ImportSettings} {id : Uuid} {table : String} {before : Records}
  {last : Register} {log : List (Exchange siteActions)} {answer : Except Failure ImportOutcome}

/-- Publishing neither commits nor asks for an extent. -/
theorem PublishEnd.notes {layer : Layer} {tables : Records}
    {entry : Except Failure (Option String)}
    (h : PublishEnd settings id layer tables entry last log) (table : String) :
    (∀ e ∈ log, e.isCommit = false) ∧ answersTo (.extent table) log = [] := by
  cases h <;> simp [Exchange.isCommit, answersTo, Exchange.answerTo?, ImportSettings.publicationOf]

/-- After publishing the records show the extent from before. -/
theorem PublishEnd.layersShow {layer : Layer} {tables : Records} {extent : Option BoundingBox}
    {entry : Except Failure (Option String)} {i : Uuid}
    (h : PublishEnd settings i layer tables entry last log)
    (htables : LayersShow id table extent tables.layers) :
    last.draft = none ∧ LayersShow id table extent last.stored.layers := by
  cases h with
  | refused | unrecorded => exact ⟨rfl, htables⟩
  | recorded action now row =>
    have hchanged := htables.changed i (.published (settings.entryOf layer) now)
    rw [LayerChange.extentAfter, ite_self] at hchanged
    exact ⟨rfl, hchanged⟩

/-- A recorded load notes the extent that was reported of its table. -/
theorem TableReport.Answered.notes {t : TableReport} {layer : Layer} {tables : Records}
    {publishing closing : List (Exchange siteActions)} {entry : Except Failure (Option String)}
    (hanswered : t.Answered table log) (hlog : ∀ e ∈ log, e.IsEarly ∧ e.hasFault = false)
    (hpublished : PublishEnd settings id layer tables entry last publishing)
    (hclosing : ∀ e ∈ closing, e.IsQuiet) (n : ExtentNotes) :
    (log ++ ⟨.records .commit, .ok ()⟩ :: ⟨.note .publishing, ()⟩ :: (publishing ++ closing)).foldl
      (ExtentNotes.note table) n = ⟨t.extent, t.extent⟩ := by
  obtain ⟨hcommit, hasked⟩ := hpublished.notes table
  obtain ⟨x, hx, hextent⟩ := hanswered.extent
  have htold : log.foldl (ExtentNotes.note table) n = ⟨t.extent, n.recorded⟩ := by
    rw [ExtentNotes.foldl_note fun e he => (hlog e he).1.1, hx, hextent]
    rfl
  have hrest : (publishing ++ closing).foldl (ExtentNotes.note table) ⟨t.extent, t.extent⟩ =
      ⟨t.extent, t.extent⟩ := by
    refine ExtentNotes.foldl_note_of_answersTo ?_ ?_ _
    · exact List.forall_mem_append.mpr ⟨hcommit, fun e he => (hclosing e he).isEarly.1⟩
    · rw [answersTo_append, hasked, answersTo_of_isQuiet hclosing, List.append_nil]
  rw [List.foldl_append, htold, List.foldl_cons, List.foldl_cons]
  exact hrest

/-- After an attempt the records of the layer show the extent that was recorded last, which is the
one that was told last if the attempt has ended with an outcome. -/
theorem AttemptEnd.layersShow (h : AttemptEnd settings id before answer last log) (n : ExtentNotes)
    (hbefore : LayersShow id table n.recorded before.layers) :
    last.draft = none ∧
      LayersShow id table (log.foldl (ExtentNotes.note table) n).recorded last.stored.layers ∧
      (answer.isOk = true → (log.foldl (ExtentNotes.note table) n).recorded =
        (log.foldl (ExtentNotes.note table) n).told) := by
  cases h with
  | withdrawn f hlog =>
    rw [ExtentNotes.foldl_note fun e he => (hlog e he).1]
    exact ⟨rfl, hbefore, nofun⟩
  | @recorded layer t now tables told publishing closing entry last hloaded hanswered hlog
      hpublished hclosing =>
    have hmem : layer ∈ before.layers := List.mem_of_find?_eq_some hloaded.found
    have htable : Naming.tableName layer.slug = table :=
      (hbefore layer hmem (id_of_row? hloaded.found)).1
    rw [htable] at hanswered
    rw [hanswered.notes hlog hpublished hclosing]
    have hloadedShow := hbefore.changed id (t.change layer now)
    rw [← hloaded.layers, beq_self_eq_true, if_pos rfl] at hloadedShow
    obtain ⟨hdraft, hlast⟩ := hpublished.layersShow hloadedShow
    exact ⟨hdraft, hlast, fun _ => rfl⟩

/-- An attempt to import another layer leaves the extent of the records. -/
theorem AttemptEnd.layersShow_of_ne {extent : Option BoundingBox} {layer : Uuid}
    (h : AttemptEnd settings layer before answer last log) (hne : layer ≠ id)
    (hbefore : LayersShow id table extent before.layers) :
    last.draft = none ∧ LayersShow id table extent last.stored.layers := by
  cases h with
  | withdrawn f hlog => exact ⟨rfl, hbefore⟩
  | @recorded found t now tables told publishing closing entry last hloaded hanswered hlog
      hpublished hclosing =>
    have hloadedShow := hbefore.changed layer (t.change found now)
    rw [← hloaded.layers, if_neg (by simpa using hne)] at hloadedShow
    exact hpublished.layersShow hloadedShow

/-! ## What an import leaves -/

/-- After an import the records of the layer show the extent that was recorded last, which is the
one that was told last if the import has succeeded. -/
theorem Work.ensures_runImport_layersShow (settings : ImportSettings) (before : Records)
    {extent : Option BoundingBox} (hbefore : LayersShow id table extent before.layers) :
    Procedure.Ensures Register.Does (fun o last log =>
      let notes := log.foldl (ExtentNotes.note table) ⟨none, extent⟩
      last.draft = none ∧ LayersShow id table notes.recorded last.stored.layers ∧
        (o.success = true → notes.recorded = notes.told)) ⟨before, none⟩
      (runImport settings id) := by
  rintro ⟨⟩ _ ⟨⟩
  refine (ensures_retrying_noting (ExtentNotes.note table) (fun _ _ => rfl)
    (I := fun r n => r.draft = none ∧ LayersShow id table n.recorded r.stored.layers)
    (Q := fun _ last n => last.draft = none ∧ LayersShow id table n.recorded last.stored.layers ∧
      n.recorded = n.told) ?_ settings.maxRetries 0 (n := ⟨none, extent⟩) ⟨rfl, hbefore⟩).bind ?_
  · rintro ⟨stored, _⟩ n ⟨rfl, hstored⟩
    refine (ensures_importLayer settings id stored).mono fun answer last log hend => ?_
    obtain ⟨hdraft, hlast, htold⟩ := hend.layersShow n hstored
    cases answer with
    | ok o => exact ⟨hdraft, hlast, htold rfl⟩
    | error f => exact ⟨hdraft, hlast⟩
  · intro answer last log hanswer
    rw [← List.append_nil log] at hanswer
    cases answer with
    | ok o =>
      obtain ⟨hdraft, hlast, htold⟩ := hanswer
      exact ⟨hdraft, hlast, fun _ => htold⟩
    | error f =>
      obtain ⟨hdraft, hlast⟩ := hanswer
      exact ⟨hdraft, hlast, nofun⟩

/-- An import of another layer leaves the extent of the records. -/
theorem Work.ensures_runImport_of_ne (settings : ImportSettings) (before : Records)
    {extent : Option BoundingBox} {layer : Uuid} (hne : layer ≠ id)
    (hbefore : LayersShow id table extent before.layers) :
    Procedure.Ensures Register.Does (fun _ last _ =>
      last.draft = none ∧ LayersShow id table extent last.stored.layers) ⟨before, none⟩
      (runImport settings layer) := by
  rintro ⟨⟩ _ ⟨⟩
  refine (ensures_retrying (r := ⟨before, none⟩)
    (I := fun r => r.draft = none ∧ LayersShow id table extent r.stored.layers)
    (Q := fun _ r => r.draft = none ∧ LayersShow id table extent r.stored.layers) ?_
    settings.maxRetries 0 ⟨rfl, hbefore⟩).bind ?_
  · rintro ⟨stored, _⟩ ⟨rfl, hstored⟩
    refine (ensures_importLayer settings layer stored).mono fun answer last log hend => ?_
    have hlast := hend.layersShow_of_ne hne hstored
    cases answer <;> exact hlast
  · intro answer last log hanswer
    cases answer <;> exact hanswer

end

end LayerPress
