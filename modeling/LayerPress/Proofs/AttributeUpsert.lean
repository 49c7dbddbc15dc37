import LayerPress.Proofs.AttributeIds
import LayerPress.Proofs.SoundStore

/-!
# Showing columns

In a sound record store, and as long as different fields have different ids, showing columns
succeeds whatever the columns are called and however often one of them is repeated. Every name has
then exactly one row, shown at the last place of the name; an old row keeps its id, all other rows
stay as they are, and showing the same columns again changes nothing.
-/

namespace LayerPress

/-- Different fields have different ids. -/
def FieldIdsDiffer (fields : List (Uuid × String)) : Prop :=
  ∀ a ∈ fields, ∀ b ∈ fields, attributeId a.1 a.2 = attributeId b.1 b.2 → a = b

instance (fields : List (Uuid × String)) : Decidable (FieldIdsDiffer fields) :=
  inferInstanceAs (Decidable (∀ a ∈ fields, ∀ b ∈ fields, _ → a = b))

/-- The layer and the field of a row, which belong to no other row. -/
def Attribute.key (a : Attribute) : Uuid × String := (a.layer, a.field)

/-- The row is that of one of the columns of a layer. -/
def Attribute.isNamed (layer : Uuid) (columns : List Column) (a : Attribute) : Bool :=
  a.layer == layer && (columns.map (·.name)).contains a.field

/-- The rows after the columns of a layer were shown, beside those before. -/
structure Attribute.ShownBy (layer : Uuid) (columns : List Column)
    (before after : List Attribute) : Prop where
  /-- Neither an id nor a field of a layer is there twice. -/
  keyed : Attribute.Keyed after
  /-- Every name has one row, which is shown at the last place of the name, as an order keeps it:
  the place itself if thirty-two bits can hold it. -/
  named : ∀ name ∈ columns.map (·.name), ∃ a, after.filter (isFor layer name) = [a] ∧
    a.displayName = Naming.displayLabel name ∧ a.showInPopup = true ∧
      ∃ i : Nat, a.sortOrder = orderAt i ∧ (i ≤ Int32.maxValue.toInt → a.sortOrder = i) ∧
        (columns.map (·.name))[i]? = some name ∧
        ∀ j, i < j → (columns.map (·.name))[j]? ≠ some name
  /-- A row that was there keeps its id. -/
  ids : ∀ b ∈ before, ∃ a ∈ after, a.id = b.id ∧ a.key = b.key
  /-- Rows of other names and of other layers stay as they are. -/
  others : after.filter (!isNamed layer columns ·) = before.filter (!isNamed layer columns ·)

/-- A place that a number of thirty-two bits can hold is kept as it is. -/
theorem Attribute.orderAt_of_le {place : Nat} (h : place ≤ Int32.maxValue.toInt) :
    orderAt place = place := by
  rw [Int32.toInt_maxValue] at h
  exact Int32.toInt_ofNat_of_lt (by omega)

section
variable {layer : Uuid} {place : Nat} {columns : List Column} {rows : List Attribute}

/-- A field has a place exactly if a column has its name. -/
theorem Column.isSome_placeOf? (field : String) (place : Nat) (columns : List Column) :
    (placeOf? field place columns).isSome = (columns.map (·.name)).contains field := by
  induction columns generalizing place with
  | nil => rfl
  | cons column rest ih =>
    rw [placeOf?, Option.isSome_or, ih, List.map_cons, List.contains_cons, Bool.or_comm]
    congr 1
    by_cases h : column.name = field
    · simp [h]
    · simp [h, Ne.symm h]

/-- The place of a field is that of the last column with its name. -/
theorem Column.of_placeOf? {field : String} {place i : Nat}
    (h : placeOf? field place columns = some i) :
    ∃ k, i = place + k ∧ (columns.map (·.name))[k]? = some field ∧
      ∀ j, k < j → (columns.map (·.name))[j]? ≠ some field := by
  induction columns generalizing place with
  | nil => cases h
  | cons column rest ih =>
    rw [placeOf?] at h
    cases hrest : placeOf? field (place + 1) rest with
    | some later =>
      rw [hrest] at h
      cases h
      obtain ⟨k, rfl, hk, hlast⟩ := ih hrest
      refine ⟨k + 1, by omega, hk, fun j hj => ?_⟩
      cases j with
      | zero => omega
      | succ j => exact hlast j (by omega)
    | none =>
      have habsent : (rest.map (·.name)).contains field = false := by
        rw [← isSome_placeOf? field (place + 1) rest, hrest]
        rfl
      rw [hrest, Option.none_or] at h
      split at h
      · next hname =>
        cases h
        refine ⟨0, rfl, congrArg some hname, fun j hj hfound => ?_⟩
        cases j with
        | zero => omega
        | succ j =>
          have hmem : field ∈ rest.map (·.name) := List.mem_of_getElem? hfound
          rw [List.contains_iff_mem.mpr hmem] at habsent
          cases habsent
      · cases h

/-! ## The rows -/

/-- A row that belongs to no column is not shown. -/
theorem Attribute.reported_of_not_isNamed (a : Attribute)
    (h : a.isNamed layer columns = false) : a.reported layer place columns = a := by
  unfold reported
  split
  · next hlayer =>
    have hplace : Column.placeOf? a.field place columns = none := by
      rw [isNamed, ← Column.isSome_placeOf? a.field place columns] at h
      simpa [hlayer] using h
    rw [hplace]
  · rfl

/-- A row of a column is shown at a place that its field has. -/
theorem Attribute.exists_reported (place : Nat) {a : Attribute} {name : String}
    (h : a.isFor layer name = true) (hname : name ∈ columns.map (·.name)) :
    ∃ i, Column.placeOf? name place columns = some i ∧
      a.reported layer place columns = a.shownAt i := by
  obtain ⟨hlayer, hfield⟩ : a.layer = layer ∧ a.field = name := by simpa [isFor] using h
  have hplace : (Column.placeOf? name place columns).isSome = true := by
    rw [Column.isSome_placeOf?]
    exact List.contains_iff_mem.mpr hname
  obtain ⟨i, hi⟩ := Option.isSome_iff_exists.mp hplace
  refine ⟨i, hi, ?_⟩
  rw [reported, if_pos hlayer, hfield, hi]

/-- Rows that belong to no column stay as they are. -/
theorem filter_not_isNamed_upserted :
    (upserted layer place columns rows).filter (!Attribute.isNamed layer columns ·) =
      rows.filter (!Attribute.isNamed layer columns ·) := by
  have hnamed (a : Attribute) :
      (a.reported layer place columns).isNamed layer columns = a.isNamed layer columns := by
    simp [Attribute.isNamed]
  have hother : ∀ a ∈ rows.filter (!Attribute.isNamed layer columns ·),
      a.reported layer place columns = a := fun a ha =>
    a.reported_of_not_isNamed (by simpa using (List.mem_filter.mp ha).2)
  have hnew : ((newFields layer columns rows).map (Attribute.blank layer)).filter
      (!Attribute.isNamed layer columns ·) = [] := by
    refine List.filter_eq_nil_iff.mpr fun a ha => ?_
    obtain ⟨field, hfield, rfl⟩ := List.mem_map.mp ha
    have hcolumn : field ∈ columns.map (·.name) :=
      (List.mem_filter.mp (List.mem_eraseDups.mp hfield)).1
    simpa [Attribute.isNamed, Attribute.blank] using hcolumn
  unfold upserted
  rw [List.filter_map, List.filter_append]
  simp only [Function.comp_def, hnamed, hnew, List.append_nil]
  exact (List.map_congr_left hother).trans (List.map_id _)

/-- The keys of shown columns are those from before and those of the new fields. -/
theorem keys_upserted : (upserted layer place columns rows).map (·.key) =
    rows.map (·.key) ++ (newFields layer columns rows).map (layer, ·) := by
  have hkey : Attribute.key ∘ Attribute.reported layer place columns = Attribute.key := by
    funext a
    simp [Attribute.key]
  rw [upserted, List.map_map, hkey, List.map_append, List.map_map]
  rfl

/-- No row has the key of a new field. -/
theorem ne_key_of_mem_newFields {field : String} (h : field ∈ newFields layer columns rows)
    {a : Attribute} (ha : a ∈ rows) : a.key ≠ (layer, field) := by
  intro hkey
  obtain ⟨hlayer, hfield⟩ := Prod.mk.inj hkey
  exact List.any_eq_false.mp (any_isFor_of_mem_newFields h) a ha
    (by simp [Attribute.isFor, hlayer, hfield])

/-- No entry is left twice when repeated ones are dropped. -/
theorem nodup_eraseDups {α : Type} [BEq α] [LawfulBEq α] (as : List α) : as.eraseDups.Nodup := by
  induction hlength : as.length using Nat.strongRecOn generalizing as with
  | _ n ih =>
    cases as with
    | nil => exact List.nodup_nil
    | cons a rest =>
      rw [List.eraseDups_cons, List.nodup_cons]
      have hshorter : (rest.filter fun b => !b == a).length < n := by
        rw [← hlength, List.length_cons]
        exact Nat.lt_succ_of_le (List.length_filter_le _ _)
      refine ⟨fun ha => ?_, ih _ hshorter _ rfl⟩
      simpa using (List.mem_filter.mp (List.mem_eraseDups.mp ha)).2

/-- With different ids for different fields, columns are shown under ids of their own. -/
theorem Attribute.Keyed.upserted (hkeyed : Attribute.Keyed rows)
    (hderived : ∀ a ∈ rows, a.id = attributeId a.layer a.field)
    (hids : FieldIdsDiffer (rows.map (·.key) ++ columns.map (layer, ·.name))) :
    Attribute.Keyed (upserted layer place columns rows) := by
  have hnew : (newFields layer columns rows).Nodup := nodup_eraseDups _
  have hcolumn : ∀ field ∈ newFields layer columns rows,
      (layer, field) ∈ rows.map (·.key) ++ columns.map (layer, ·.name) := by
    intro field hfield
    obtain ⟨column, hmem, rfl⟩ :=
      List.mem_map.mp (List.mem_filter.mp (List.mem_eraseDups.mp hfield)).1
    exact List.mem_append_right _ (List.mem_map.mpr ⟨column, hmem, rfl⟩)
  constructor
  · rw [ids_upserted, List.nodup_append]
    refine ⟨hkeyed.ids, hnew.map_on fun field hfield other hother hid => ?_, ?_⟩
    · exact (Prod.mk.inj (hids _ (hcolumn field hfield) _ (hcolumn other hother) hid)).2
    · intro id hold id' hadded hsame
      obtain ⟨a, ha, rfl⟩ := List.mem_map.mp hold
      obtain ⟨field, hfield, rfl⟩ := List.mem_map.mp hadded
      rw [hderived a ha] at hsame
      have hkey : a.key ∈ rows.map (·.key) ++ columns.map (layer, ·.name) :=
        List.mem_append_left _ (List.mem_map.mpr ⟨a, ha, rfl⟩)
      exact ne_key_of_mem_newFields hfield ha (hids _ hkey _ (hcolumn field hfield) hsame)
  · change ((LayerPress.upserted layer place columns rows).map (·.key)).Nodup
    rw [keys_upserted, List.nodup_append]
    refine ⟨hkeyed.fields, hnew.map_on fun _ _ _ _ hkey => (Prod.mk.inj hkey).2, ?_⟩
    intro key hold key' hadded hsame
    obtain ⟨a, ha, rfl⟩ := List.mem_map.mp hold
    obtain ⟨field, hfield, rfl⟩ := List.mem_map.mp hadded
    exact ne_key_of_mem_newFields hfield ha hsame

/-- A field of a layer has no second row. -/
theorem Attribute.Keyed.filter_isFor (hkeyed : Attribute.Keyed rows) {a : Attribute} {name : String}
    (ha : a ∈ rows) (hfor : a.isFor layer name = true) : rows.filter (isFor layer name) = [a] := by
  have hsame : ∀ b ∈ rows.filter (isFor layer name), b = a := by
    intro b hb
    obtain ⟨hmem, hbfor⟩ := List.mem_filter.mp hb
    simp only [isFor, Bool.and_eq_true, beq_iff_eq] at hbfor hfor
    apply List.inj_on_of_nodup_map hkeyed.fields hmem ha
    rw [hbfor.1, hbfor.2, hfor.1, hfor.2]
  have hnodup : (rows.filter (isFor layer name)).Nodup := (List.Nodup.of_map _ hkeyed.ids).filter _
  have hmem : a ∈ rows.filter (isFor layer name) := List.mem_filter.mpr ⟨ha, hfor⟩
  rw [List.eq_replicate_of_mem hsame] at hnodup
  have hone : (rows.filter (isFor layer name)).length = 1 :=
    Nat.le_antisymm (List.nodup_replicate.mp hnodup) (List.length_pos_of_mem hmem)
  rw [List.eq_replicate_of_mem hsame, hone]
  rfl

/-- A column that is shown has a row. -/
theorem any_isFor_upserted {name : String} (hname : name ∈ columns.map (·.name)) :
    (upserted layer place columns rows).any (Attribute.isFor layer name) = true := by
  cases hrow : (upserted layer place columns rows).any (Attribute.isFor layer name) with
  | true => rfl
  | false =>
    have hnew : name ∈ newFields layer columns (upserted layer place columns rows) :=
      List.mem_eraseDups.mpr (List.mem_filter.mpr ⟨hname, by rw [hrow]; rfl⟩)
    rw [newFields_upserted] at hnew
    cases hnew

/-- With different ids for different fields, columns are shown one row a name. -/
theorem shownBy_upserted (hkeyed : Attribute.Keyed rows)
    (hderived : ∀ a ∈ rows, a.id = attributeId a.layer a.field)
    (hids : FieldIdsDiffer (rows.map (·.key) ++ columns.map (layer, ·.name))) :
    Attribute.ShownBy layer columns rows (upserted layer 0 columns rows) where
  keyed := hkeyed.upserted hderived hids
  named := by
    intro name hname
    obtain ⟨b, hb, hfor⟩ := List.any_eq_true.mp (any_isFor_upserted hname)
    refine ⟨b, (hkeyed.upserted hderived hids).filter_isFor hb hfor, ?_⟩
    obtain ⟨a, -, rfl⟩ := List.mem_map.mp hb
    rw [Attribute.isFor_reported] at hfor
    have hfield : a.field = name := by
      simp only [Attribute.isFor, Bool.and_eq_true, beq_iff_eq] at hfor
      exact hfor.2
    obtain ⟨i, hplace, hshown⟩ := Attribute.exists_reported 0 hfor hname
    obtain ⟨k, rfl, hk, hlast⟩ := Column.of_placeOf? hplace
    rw [hshown, ← hfield]
    have horder : (a.shownAt (0 + k)).sortOrder = Attribute.orderAt k := by
      rw [Attribute.shownAt, Nat.zero_add]
    exact ⟨rfl, rfl, k, horder, fun hk => horder.trans (Attribute.orderAt_of_le hk), hfield ▸ hk,
      hfield ▸ hlast⟩
  ids := by
    intro b hb
    refine ⟨b.reported layer 0 columns, ?_, by simp, by simp [Attribute.key]⟩
    exact List.mem_map.mpr ⟨b, List.mem_append_left _ hb, rfl⟩
  others := filter_not_isNamed_upserted

end

/-! ## The upsert -/

section
variable {σ : Type} {env : Surroundings σ}

/-- Showing columns on a site succeeds, and leaves these tables in its open transaction and the
stored ones as they are. -/
structure Site.ShowsInto (env : Surroundings σ) (layer : Uuid) (columns : List Column) (s : Site σ)
    (tables : Records) : Prop where
  ok : (s.run env (Work.upsertAttributes layer 0 columns).run).1 = .ok ()
  draft : (s.run env (Work.upsertAttributes layer 0 columns).run).2.working = some tables
  stored : (s.run env (Work.upsertAttributes layer 0 columns).run).2.records = s.records

/-- In a sound record store columns are shown in a transaction if that leaves different ids. -/
theorem Site.showsInto_upserted (hsound : env.IsSound) {tables : Records} {layer : Uuid}
    {columns : List Column} (hlayer : (tables.layer? layer).isSome = true)
    (hkeyed : Attribute.Keyed tables.attributes)
    (hafter : Attribute.Keyed (upserted layer 0 columns tables.attributes)) {s : Site σ}
    (hs : s.working = some tables) :
    s.ShowsInto env layer columns
      ⟨tables.layers, upserted layer 0 columns tables.attributes⟩ := by
  have hensured :=
    (Work.ensures_upsertAttributes layer columns 0 s.records tables).serves.and
      (Work.ensures_upsertAttributes_sound layer columns 0 s.records tables hlayer hkeyed)
  have hregister : s.register = ⟨s.records, some tables⟩ := by rw [Site.register, hs]
  rw [← hregister] at hensured
  obtain ⟨hshown, hfault⟩ := Site.run_serves hsound hensured
  have hends : ∀ answer r log, Work.ShowsColumns s.records tables (fun rows =>
        Attribute.Keyed tables.attributes → rows = upserted layer 0 columns tables.attributes)
      answer r log →
      (∀ f, answer = .error f → f = .records attributeClash ∧
        ¬((upserted layer 0 columns tables.attributes).map (·.id)).Nodup) →
      answer = .ok () ∧
        r = ⟨s.records, some ⟨tables.layers, upserted layer 0 columns tables.attributes⟩⟩ := by
    intro answer r log hshown hfault
    cases hshown with
    | failed f draft hlog => exact absurd hafter.ids (hfault f rfl).2
    | shown hrows hlog => exact ⟨rfl, by rw [hrows hkeyed]⟩
  obtain ⟨hok, hlast⟩ := hends _ _ _ hshown hfault
  exact ⟨hok, congrArg Register.draft hlast, congrArg Register.stored hlast⟩

end

/-- Showing columns of a stored layer, on any tables to which requests and jobs may have come from
created records: it succeeds in a sound record store if different fields have different ids, shows
one row a name, and shown again they stay as they are. -/
theorem upsertAttributes_shows {σ τ : Type} (office : Office σ) (site : Site σ)
    (hcreated : site.records.Created) (hclosed : site.working = none) (workers : Nat)
    (requests : List JobRequest) (turns : List Turn) {tables : Records}
    (htables :
      let m := ((Course.start (Scene.opening site workers requests)).run office turns).scene.machine
      m.site.records = tables ∨ m.site.working = some tables)
    {layer : Layer} (hlayer : layer ∈ tables.layers) (columns : List Column)
    (hids : FieldIdsDiffer
      (tables.attributes.map (·.key) ++ columns.map (layer.id, ·.name)))
    {env : Surroundings τ} (hsound : env.IsSound) (s : Site τ) (hs : s.working = some tables) :
    ∃ rows, s.ShowsInto env layer.id columns ⟨tables.layers, rows⟩ ∧
      Attribute.ShownBy layer.id columns tables.attributes rows ∧
      ∀ again : Site τ, again.working = some ⟨tables.layers, rows⟩ →
        again.ShowsInto env layer.id columns ⟨tables.layers, rows⟩ := by
  have hmeets := hasFieldIds_of_created office site hcreated hclosed workers requests turns
  have hfields : tables.HasFieldIds := by
    rcases htables with hstored | hdraft
    · rw [← hstored]
      exact hmeets.stored
    · exact hmeets.draft tables hdraft
  have hparent : (tables.layer? layer.id).isSome = true :=
    List.find?_isSome.mpr ⟨layer, hlayer, beq_self_eq_true _⟩
  have hshown := shownBy_upserted hfields.keyed hfields.derived hids
  refine ⟨upserted layer.id 0 columns tables.attributes, ?_, hshown, fun again hagain => ?_⟩
  · exact Site.showsInto_upserted hsound hparent hfields.keyed hshown.keyed hs
  · have hsame := upserted_upserted layer.id 0 columns tables.attributes
    have hafter : Attribute.Keyed (upserted layer.id 0 columns
        (upserted layer.id 0 columns tables.attributes)) := by
      rw [hsame]
      exact hshown.keyed
    have hparent' : (Records.layer? ⟨tables.layers,
        upserted layer.id 0 columns tables.attributes⟩ layer.id).isSome = true := hparent
    have hinto := Site.showsInto_upserted hsound hparent' hshown.keyed hafter hagain
    rw [hsame] at hinto
    exact hinto

/-- Plain surroundings that report columns for every table. -/
def Surroundings.reporting (columns : List Column) : Surroundings Unit :=
  { Surroundings.plain with
    answer := fun c s =>
      (({ Rehearsal.Scripts.plain with columns := [.ok columns] }.answer c).1, s) }

/-- The plain office with columns that are reported. -/
def Office.reporting (columns : List Column) : Office Unit :=
  { Office.plain with surroundings := .reporting columns }

/-- The turns in which an import is queued and comes to its end. -/
def importTurns : List Turn :=
  List.replicate 2 (.act (.client 0)) ++ List.replicate 32 (.act (.job 0))

/-- A machine on which the plain layer was imported with columns that were reported. -/
def Machine.reported (columns : List Column) : Machine Unit :=
  ((Course.start (Scene.opening (Site.plain [.plain "roads"]) 1 [.submitImport ⟨1⟩])).run
    (.reporting columns) importTurns).scene.machine

/-- A column is shown again, between two of a name that is new. -/
theorem upsertAttributes_shows_reported :
    let tables := (Machine.reported [⟨"name", "text"⟩]).site.records
    let columns : List Column := [⟨"lanes", "text"⟩, ⟨"name", "text"⟩, ⟨"lanes", "integer"⟩]
    tables.attributes.map (·.key) = [(⟨1⟩, "name")] ∧ Surroundings.plain.IsSound ∧
      ∃ layer ∈ tables.layers,
        FieldIdsDiffer (tables.attributes.map (·.key) ++ columns.map (layer.id, ·.name)) ∧
        ∃ rows, Site.ShowsInto .plain layer.id columns { Site.plain [] with working := some tables }
            ⟨tables.layers, rows⟩ ∧
          Attribute.ShownBy layer.id columns tables.attributes rows := by
  intro tables columns
  have hsound : Surroundings.plain.IsSound := fun _ _ => rfl
  have hkeys : tables.attributes.map (·.key) = [(⟨1⟩, "name")] := by decide +kernel
  have hlayer : ∃ layer ∈ tables.layers, layer.id = ⟨1⟩ := by decide +kernel
  have hdiffer : FieldIdsDiffer [(⟨1⟩, "name"), (⟨1⟩, "lanes"), (⟨1⟩, "name"), (⟨1⟩, "lanes")] := by
    decide +kernel
  have htables : (Machine.reported [⟨"name", "text"⟩]).site.records = tables := rfl
  clear_value tables
  obtain ⟨layer, hmem, hid⟩ := hlayer
  have hids : FieldIdsDiffer (tables.attributes.map (·.key) ++ columns.map (layer.id, ·.name)) := by
    rw [hkeys, hid]
    exact hdiffer
  rw [Machine.reported] at htables
  obtain ⟨rows, hinto, hshown, -⟩ := upsertAttributes_shows _ _ (Site.plain_created "roads") rfl 1
    [.submitImport ⟨1⟩] importTurns (.inl htables) hmem columns hids hsound
    { Site.plain [] with working := some tables } rfl
  exact ⟨hkeys, hsound, layer, hmem, hids, rows, hinto, hshown⟩

end LayerPress
