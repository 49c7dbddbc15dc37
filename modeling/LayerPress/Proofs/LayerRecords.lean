import LayerPress.Proofs.CanonicalNames
import LayerPress.Proofs.ImportProtocol
import LayerPress.Proofs.Requests
import LayerPress.Proofs.Shelf

/-!
# The records of layers

A sound record has the table of its slug or none, the entry of that table or none, an entry only
with a table, and what it was created with. Its status tells which of the two names it has. The
changes that imports and requests make keep lists of sound records sound.
-/

namespace LayerPress

/-- A record as operations may leave it, beside the one it was created as. -/
structure Layer.Sound (settings : ImportSettings) (l created : Layer) : Prop where
  id : l.id = created.id
  slug : l.slug = created.slug
  title : l.title = created.title
  sourceFile : l.sourceFile = created.sourceFile
  layerKind : l.layerKind = created.layerKind
  isPublished : l.isPublished = created.isPublished
  createdAt : l.createdAt = created.createdAt
  table : l.tableName = none ∨ l.tableName = some (Naming.tableName l.slug)
  entry : l.catalogEntry = none ∨ l.catalogEntry = some (settings.entryOf l)
  loaded : l.catalogEntry.isSome → l.tableName.isSome

/-- The status of a layer tells which of its two names it has. -/
structure Layer.ShowsNames (l : Layer) : Prop where
  imported : l.importStatus = .imported ↔ l.catalogEntry.isSome
  loaded : l.importStatus = .loaded ↔ l.tableName.isSome ∧ l.catalogEntry = none
  pending : l.importStatus = .pending ↔
    l.tableName = none ∧ l.catalogEntry = none ∧ hasText l.sourceFile
  noFile : l.importStatus = .noFile ↔
    l.tableName = none ∧ l.catalogEntry = none ∧ ¬ hasText l.sourceFile

namespace Layer.Sound

variable {settings : ImportSettings} {created l : Layer}

/-- A declared layer is sound beside itself. -/
theorem declared (h : l.tableName = none) (hentry : l.catalogEntry = none) : l.Sound settings l where
  id := rfl
  slug := rfl
  title := rfl
  sourceFile := rfl
  layerKind := rfl
  isPublished := rfl
  createdAt := rfl
  table := .inl h
  entry := .inl hentry
  loaded := fun hsome => by rw [hentry] at hsome; cases hsome

/-- Recording the table of the slug keeps a record sound. -/
theorem apply_loaded (h : l.Sound settings created) (features : Int) (kind : Naming.GeometryKind)
    (extent : Option BoundingBox) (now : Timestamp) :
    ((LayerChange.loaded (Naming.tableName l.slug) features kind extent now).apply l).Sound
      settings created :=
  { h with table := .inr rfl, loaded := fun _ => rfl }

/-- Recording the entry of the table keeps a record with a table sound. -/
theorem apply_published (h : l.Sound settings created) (htable : l.tableName.isSome)
    (now : Timestamp) :
    ((LayerChange.published (settings.entryOf l) now).apply l).Sound settings created :=
  { h with entry := .inr rfl, loaded := fun _ => htable }

/-- Clearing keeps a record sound. -/
theorem apply_cleared (h : l.Sound settings created) (now : Timestamp) :
    ((LayerChange.cleared now).apply l).Sound settings created :=
  { h with table := .inl rfl, entry := .inl rfl, loaded := fun hsome => by cases hsome }

/-- The status of a sound record with a slug shows its names. -/
theorem showsNames (h : l.Sound settings created) (hslug : l.slug ≠ "") : l.ShowsNames := by
  have htable : hasText l.tableName = l.tableName.isSome := by
    rcases h.table with hnone | hsome
    · rw [hnone]; rfl
    · rw [hsome]
      have := Naming.tableName_ne_empty hslug
      simpa [hasText] using this
  have hentry : hasText l.catalogEntry = l.catalogEntry.isSome := by
    rcases h.entry with hnone | hsome
    · rw [hnone]; rfl
    · rw [hsome]
      have := Naming.tableName_ne_empty hslug
      simp [hasText, ImportSettings.entryOf]
  have hstatus : l.importStatus =
      if l.tableName.isSome then (if l.catalogEntry.isSome then .imported else .loaded)
      else if hasText l.sourceFile then .pending else .noFile := by
    rw [importStatus, htable, hentry]
  have hpublished := h.loaded
  constructor <;> rw [hstatus]
  all_goals
    cases htab : l.tableName with
    | none =>
      have hnone : l.catalogEntry = none := by
        rw [htab] at hpublished
        simpa using hpublished
      rw [hnone]
      cases hasText l.sourceFile <;> decide
    | some table => cases l.catalogEntry <;> simp

end Layer.Sound

/-! ## Lists of records -/

/-- Every record is sound beside one that was created. -/
def SoundLayers (settings : ImportSettings) (initial layers : List Layer) : Prop :=
  ∀ l ∈ layers, ∃ created ∈ initial, l.Sound settings created

/-- Every record of an id has a table. -/
def HaveTable (id : Uuid) (layers : List Layer) : Prop :=
  ∀ l ∈ layers, l.id = id → l.tableName.isSome

/-- The layer was found under an id among sound records. -/
def IsKnown (settings : ImportSettings) (initial : List Layer) (id : Uuid) (l : Layer) : Prop :=
  l.id = id ∧ ∃ created ∈ initial, l.Sound settings created

section
variable {settings : ImportSettings} {initial layers : List Layer} {id : Uuid} {l : Layer}

/-- A found layer is known. -/
theorem SoundLayers.isKnown (h : SoundLayers settings initial layers)
    (hl : layers.find? (·.id == id) = some l) : IsKnown settings initial id l :=
  ⟨by simpa using List.find?_some hl, h l (List.mem_of_find?_eq_some hl)⟩

/-- All records of a known layer's id have its slug. -/
theorem IsKnown.slug_eq (hids : (initial.map (·.id)).Nodup) (hl : IsKnown settings initial id l)
    {row created : Layer} (hcreated : created ∈ initial) (hrow : row.Sound settings created)
    (hid : row.id = id) : row.slug = l.slug := by
  obtain ⟨hlid, other, hother, hsound⟩ := hl
  have heq : created = other := List.inj_on_of_nodup_map hids hcreated hother
    (hrow.id.symm.trans (hid.trans (hlid.symm.trans hsound.id)))
  rw [hrow.slug, hsound.slug, heq]

/-- A change that keeps the records of its id sound keeps all records sound. -/
theorem SoundLayers.map (h : SoundLayers settings initial layers) (change : LayerChange)
    (hchange : ∀ row ∈ layers, row.id = id → ∀ created ∈ initial, row.Sound settings created →
      (change.apply row).Sound settings created) :
    SoundLayers settings initial
      (layers.map fun row => if row.id == id then change.apply row else row) := by
  intro l hl
  obtain ⟨row, hrow, rfl⟩ := List.mem_map.mp hl
  obtain ⟨created, hcreated, hsound⟩ := h row hrow
  refine ⟨created, hcreated, ?_⟩
  split
  · next hid => exact hchange row hrow (beq_iff_eq.mp hid) created hcreated hsound
  · exact hsound

/-- Recording the table of a known layer keeps records sound, and all of its id have one. -/
theorem SoundLayers.map_loaded (h : SoundLayers settings initial layers)
    (hids : (initial.map (·.id)).Nodup) (hl : IsKnown settings initial id l) (features : Int)
    (kind : Naming.GeometryKind) (extent : Option BoundingBox) (now : Timestamp) :
    let change := LayerChange.loaded (Naming.tableName l.slug) features kind extent now
    let after := layers.map fun row => if row.id == id then change.apply row else row
    SoundLayers settings initial after ∧ HaveTable id after := by
  intro change after
  constructor
  · refine h.map change fun row _ hid created hcreated hsound => ?_
    have hslug := hl.slug_eq hids hcreated hsound hid
    have happlied := hsound.apply_loaded features kind extent now
    rwa [hslug] at happlied
  · intro r hr hid
    obtain ⟨row, -, rfl⟩ := List.mem_map.mp hr
    by_cases hrow : row.id = id
    · simp [hrow, change, LayerChange.apply]
    · simp [hrow] at hid

/-- Recording the entry of a known layer with a table keeps records sound and their tables. -/
theorem SoundLayers.map_published (h : SoundLayers settings initial layers)
    (hids : (initial.map (·.id)).Nodup) (hl : IsKnown settings initial id l)
    (htable : HaveTable id layers) (now : Timestamp) :
    let change := LayerChange.published (settings.entryOf l) now
    let after := layers.map fun row => if row.id == id then change.apply row else row
    SoundLayers settings initial after ∧ HaveTable id after := by
  intro change after
  constructor
  · refine h.map change fun row hrow hid created hcreated hsound => ?_
    have hentry : settings.entryOf row = settings.entryOf l := by
      unfold ImportSettings.entryOf
      rw [hl.slug_eq hids hcreated hsound hid]
    have happlied := hsound.apply_published (htable row hrow hid) now
    rwa [hentry] at happlied
  · intro r hr hid
    obtain ⟨row, hrow, rfl⟩ := List.mem_map.mp hr
    by_cases hrowid : row.id = id
    · simpa [hrowid, change, LayerChange.apply] using htable row hrow hrowid
    · simp [hrowid] at hid

/-- A statement that is open to requests keeps records sound. -/
theorem SoundLayers.of_request (h : SoundLayers settings initial layers) {st : Statement}
    {v : st.Value} {after : List Layer} (hopen : st.isOpenToRequests)
    (heffect : st.Effect v layers after) : SoundLayers settings initial after := by
  cases heffect with
  | @changed i change _ _ _ =>
    cases change with
    | cleared now =>
      exact h.map (.cleared now) fun _ _ _ _ _ hsound => hsound.apply_cleared now
    | loaded | published => exact hopen.elim
  | deleted => exact fun l hl => h l (List.mem_of_mem_filter hl)
  | inserted => exact hopen.elim
  | _ => exact h

end

end LayerPress
