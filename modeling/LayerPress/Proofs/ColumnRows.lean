import LayerPress.Proofs.Register
import LayerPress.Work.Import
import Mathlib.Data.List.Nodup

/-!
# The attributes of reported columns

An import shows the reported columns one after another, each under the attribute that its field
has or under a new one. All together this adds an attribute for every field that had none, and
then shows every attribute whose field was reported at the place of its column. Of columns with
the same name the last counts. Attributes of other fields and of other layers stay as they are.

The rows are taken to have the keys of their table: no two have one id, and no two of a layer have
one field. Whatever work is done on a site keeps them.
-/

namespace LayerPress

namespace Attribute

/-- No two rows agree in their id, nor in their layer and field. -/
structure Keyed (rows : List Attribute) : Prop where
  ids : (rows.map (·.id)).Nodup
  fields : (rows.map fun a => (a.layer, a.field)).Nodup

/-- The row is that of a layer's field. -/
def isFor (layer : Uuid) (field : String) (a : Attribute) : Bool :=
  a.layer == layer && a.field == field

/-- The row of an attribute that is shown at a place, under the label of its field. -/
def shownAt (place : Nat) (a : Attribute) : Attribute :=
  { a with
    displayName := Naming.displayLabel a.field, showInPopup := true, sortOrder := orderAt place }

/-- The row of a new attribute before it is shown. -/
def blank (layer : Uuid) (field : String) : Attribute where
  id := attributeId layer field
  layer := layer
  field := field
  displayName := ""
  showInPopup := false
  sortOrder := 0

end Attribute

/-- The place of a field among columns, the first of which has the given place. -/
def Column.placeOf? (field : String) : Nat → List Column → Option Nat
  | _, [] => none
  | place, column :: rest =>
    (placeOf? field (place + 1) rest).or (if column.name = field then some place else none)

/-- The row after the columns of a layer were reported. -/
def Attribute.reported (layer : Uuid) (place : Nat) (columns : List Column) (a : Attribute) :
    Attribute :=
  if a.layer = layer then
    match Column.placeOf? a.field place columns with
    | some i => a.shownAt i
    | none => a
  else a

/-- The reported fields for which a layer has no row, in order and each once. -/
def newFields (layer : Uuid) (columns : List Column) (rows : List Attribute) : List String :=
  ((columns.map (·.name)).filter fun field => !rows.any (Attribute.isFor layer field)).eraseDups

/-- The rows after the columns of a layer were reported, the first of them at the given place. -/
def upserted (layer : Uuid) (place : Nat) (columns : List Column) (rows : List Attribute) :
    List Attribute :=
  (rows ++ (newFields layer columns rows).map (Attribute.blank layer)).map
    (Attribute.reported layer place columns)

/-! ## Reported rows -/

section
variable (layer : Uuid) (place : Nat) (columns : List Column) (a : Attribute)

/-- A reported row keeps its id. -/
@[simp] theorem Attribute.reported_id : (a.reported layer place columns).id = a.id := by
  unfold reported
  split
  · split <;> rfl
  · rfl

/-- A reported row keeps its layer. -/
@[simp] theorem Attribute.reported_layer : (a.reported layer place columns).layer = a.layer := by
  unfold reported
  split
  · split <;> rfl
  · rfl

/-- A reported row keeps its field. -/
@[simp] theorem Attribute.reported_field : (a.reported layer place columns).field = a.field := by
  unfold reported
  split
  · split <;> rfl
  · rfl

/-- A reported row is still that of its layer's field. -/
theorem Attribute.isFor_reported (field : String) :
    (a.reported layer place columns).isFor layer field = a.isFor layer field := by
  simp [isFor]

end

/-! ## One column after another -/

section
variable {layer : Uuid} {place : Nat} {column : Column} {rest : List Column}
  {rows : List Attribute} {a : Attribute}

/-- A row of another field does not see the first column. -/
theorem reported_cons_of_ne (h : a.isFor layer column.name = false) :
    a.reported layer place (column :: rest) = a.reported layer (place + 1) rest := by
  unfold Attribute.reported
  split
  · next hlayer =>
    have hfield : column.name ≠ a.field := by
      intro heq
      simp [Attribute.isFor, hlayer, heq] at h
    rw [Column.placeOf?, if_neg hfield, Option.or_none]
  · rfl

/-- A row of the first column's field is shown there, if no later column shows it elsewhere. -/
theorem reported_cons_of_isFor (h : a.isFor layer column.name = true) :
    a.reported layer place (column :: rest) =
      (a.shownAt place).reported layer (place + 1) rest := by
  obtain ⟨hlayer, hfield⟩ : a.layer = layer ∧ a.field = column.name := by
    simpa [Attribute.isFor] using h
  have hplace : Column.placeOf? a.field place (column :: rest) =
      (Column.placeOf? a.field (place + 1) rest).or (some place) := by
    rw [Column.placeOf?, if_pos hfield.symm]
  simp only [Attribute.reported, hplace]
  rw [if_pos hlayer, if_pos (show (a.shownAt place).layer = layer from hlayer),
    show (a.shownAt place).field = a.field from rfl]
  cases Column.placeOf? a.field (place + 1) rest <;> rfl

/-- A new field has no row yet. -/
theorem any_isFor_of_mem_newFields {columns : List Column} {field : String}
    (h : field ∈ newFields layer columns rows) :
    rows.any (Attribute.isFor layer field) = false := by
  simpa using (List.mem_filter.mp (List.mem_eraseDups.mp h)).2

/-- A column whose field has a row shows that row. -/
theorem upserted_cons_of_any (h : rows.any (Attribute.isFor layer column.name) = true) :
    upserted layer place (column :: rest) rows =
      upserted layer (place + 1) rest
        (rows.map fun a => if a.isFor layer column.name then a.shownAt place else a) := by
  have hkeeps (field : String) :
      (rows.map fun a => if a.isFor layer column.name then a.shownAt place else a).any
        (Attribute.isFor layer field) = rows.any (Attribute.isFor layer field) := by
    rw [List.any_map]
    congr 1
    funext a
    simp only [Function.comp_apply]
    split <;> rfl
  have hnew : newFields layer (column :: rest) rows = newFields layer rest
      (rows.map fun a => if a.isFor layer column.name then a.shownAt place else a) := by
    unfold newFields
    rw [List.map_cons, List.filter_cons_of_neg (by simp [h])]
    simp only [hkeeps]
  unfold upserted
  rw [← hnew, List.map_append, List.map_append]
  congr 1
  · rw [List.map_map]
    refine List.map_congr_left fun a _ => ?_
    simp only [Function.comp_apply]
    split
    · next hfor => exact reported_cons_of_isFor hfor
    · next hfor => exact reported_cons_of_ne (by simpa using hfor)
  · -- No new field is that of the column, which has a row.
    refine List.map_congr_left fun a ha => reported_cons_of_ne ?_
    obtain ⟨field, hfield, rfl⟩ := List.mem_map.mp ha
    cases hfor : (Attribute.blank layer field).isFor layer column.name with
    | false => rfl
    | true =>
      have heq : field = column.name := by simpa [Attribute.isFor, Attribute.blank] using hfor
      have hnone := any_isFor_of_mem_newFields hfield
      rw [heq, h] at hnone
      cases hnone

/-- A column whose field has no row adds one and shows it. -/
theorem upserted_cons_of_not_any (h : rows.any (Attribute.isFor layer column.name) = false) :
    upserted layer place (column :: rest) rows =
      upserted layer (place + 1) rest
        (rows ++ [(Attribute.blank layer column.name).shownAt place]) := by
  have hfor (field : String) :
      ((Attribute.blank layer column.name).shownAt place).isFor layer field =
        (column.name == field) := by
    simp [Attribute.isFor, Attribute.blank, Attribute.shownAt]
  have hnew : newFields layer (column :: rest) rows = column.name :: newFields layer rest
      (rows ++ [(Attribute.blank layer column.name).shownAt place]) := by
    unfold newFields
    rw [List.map_cons, List.filter_cons_of_pos (by simp [h]), List.eraseDups_cons,
      List.filter_filter]
    congr 2
    refine List.filter_congr fun field _ => ?_
    rw [List.any_append, List.any_cons, List.any_nil, Bool.or_false, hfor, Bool.not_or,
      Bool.and_comm, Bool.beq_comm]
  unfold upserted
  rw [hnew, List.map_cons, List.append_assoc, List.singleton_append, List.map_append,
    List.map_append, List.map_cons, List.map_cons]
  congr 1
  · refine List.map_congr_left fun a ha => reported_cons_of_ne ?_
    exact Bool.eq_false_iff.mpr (List.any_eq_false.mp h a ha)
  · congr 1
    · exact reported_cons_of_isFor (by simp [Attribute.isFor, Attribute.blank])
    · refine List.map_congr_left fun a ha => reported_cons_of_ne ?_
      obtain ⟨field, hfield, rfl⟩ := List.mem_map.mp ha
      have hnone := any_isFor_of_mem_newFields hfield
      rw [List.any_append, Bool.or_eq_false_iff, List.any_cons, List.any_nil, Bool.or_false,
        hfor] at hnone
      have hne : column.name ≠ field := by simpa using hnone.2
      simp [Attribute.isFor, Attribute.blank, hne.symm]

/-- Rows of other layers stay as they are. -/
theorem filter_ne_upserted (layer : Uuid) (place : Nat) (columns : List Column)
    (rows : List Attribute) :
    (upserted layer place columns rows).filter (·.layer != layer) =
      rows.filter (·.layer != layer) := by
  have hother : ∀ a ∈ rows.filter (·.layer != layer), a.reported layer place columns = a := by
    intro a ha
    have hne : a.layer ≠ layer := by simpa using (List.mem_filter.mp ha).2
    rw [Attribute.reported, if_neg hne]
  have hnew : ((newFields layer columns rows).map (Attribute.blank layer)).filter
      (·.layer != layer) = [] := by
    refine List.filter_eq_nil_iff.mpr fun a ha => ?_
    obtain ⟨field, -, rfl⟩ := List.mem_map.mp ha
    simp [Attribute.blank]
  unfold upserted
  rw [List.filter_map, List.filter_append]
  simp only [Function.comp_def, Attribute.reported_layer, hnew, List.append_nil]
  exact (List.map_congr_left hother).trans (List.map_id _)

/-- Without columns nothing changes. -/
theorem upserted_nil (layer : Uuid) (place : Nat) (rows : List Attribute) :
    upserted layer place [] rows = rows := by
  have hsame : Attribute.reported layer place [] = id := by
    funext a
    simp [Attribute.reported, Column.placeOf?]
  simp [upserted, newFields, hsame]

/-- A reported row is reported as it is. -/
theorem reported_reported (layer : Uuid) (place : Nat) (columns : List Column) (a : Attribute) :
    (a.reported layer place columns).reported layer place columns =
      a.reported layer place columns := by
  by_cases hlayer : a.layer = layer
  · cases hplace : Column.placeOf? a.field place columns with
    | none => simp [Attribute.reported, hlayer, hplace]
    | some i => simp [Attribute.reported, Attribute.shownAt, hlayer, hplace]
  · simp [Attribute.reported, hlayer]

/-- When columns have been shown, all their fields have a row. -/
theorem newFields_upserted (layer : Uuid) (place : Nat) (columns : List Column)
    (rows : List Attribute) : newFields layer columns (upserted layer place columns rows) = [] := by
  apply List.eq_nil_iff_forall_not_mem.mpr
  intro field hnew
  have hnone := any_isFor_of_mem_newFields hnew
  have hcolumn : field ∈ columns.map (·.name) :=
    (List.mem_filter.mp (List.mem_eraseDups.mp hnew)).1
  rw [upserted, List.any_map] at hnone
  simp only [Function.comp_def, Attribute.isFor_reported, List.any_append,
    Bool.or_eq_false_iff] at hnone
  have hadded : field ∈ newFields layer columns rows := by
    apply List.mem_eraseDups.mpr
    apply List.mem_filter.mpr
    exact ⟨hcolumn, by simp [hnone.1]⟩
  have hblank := List.any_eq_false.mp hnone.2 _ (List.mem_map.mpr ⟨field, hadded, rfl⟩)
  simp [Attribute.isFor, Attribute.blank] at hblank

/-- Showing the same columns again changes nothing. -/
theorem upserted_upserted (layer : Uuid) (place : Nat) (columns : List Column)
    (rows : List Attribute) :
    upserted layer place columns (upserted layer place columns rows) =
      upserted layer place columns rows := by
  conv_lhs => rw [upserted, newFields_upserted, List.map_nil, List.append_nil]
  rw [upserted, List.map_map]
  apply List.map_congr_left
  intro a _
  exact reported_reported layer place columns a

end

/-! ## Keys -/

namespace Attribute.Keyed

variable {rows : List Attribute} {layer : Uuid} {field : String} {a : Attribute}

/-- The row with the id of a field's row is that row. -/
theorem isFor_iff_id_eq (h : Keyed rows) (ha : rows.find? (isFor layer field) = some a)
    {b : Attribute} (hb : b ∈ rows) : b.isFor layer field = true ↔ b.id = a.id := by
  have hmem : a ∈ rows := List.mem_of_find?_eq_some ha
  have hfor : a.isFor layer field = true := List.find?_some ha
  constructor
  · intro hbfor
    have hkey : (b.layer, b.field) = (a.layer, a.field) := by
      simp only [isFor, Bool.and_eq_true, beq_iff_eq] at hbfor hfor
      rw [hbfor.1, hbfor.2, hfor.1, hfor.2]
    exact congrArg Attribute.id (List.inj_on_of_nodup_map h.fields hb hmem hkey)
  · intro hid
    rw [List.inj_on_of_nodup_map h.ids hb hmem hid]
    exact hfor

/-- Showing a field's row by its id shows the row of the field. -/
theorem map_id_eq (h : Keyed rows) (ha : rows.find? (isFor layer field) = some a) (place : Nat) :
    (rows.map fun b => if b.id == a.id then
      { b with
        displayName := Naming.displayLabel field, showInPopup := true, sortOrder := orderAt place }
      else b) = rows.map fun b => if b.isFor layer field then b.shownAt place else b := by
  refine List.map_congr_left fun b hb => ?_
  by_cases hfor : b.isFor layer field = true
  · have hfield : b.field = field := by
      simp only [isFor, Bool.and_eq_true, beq_iff_eq] at hfor
      exact hfor.2
    rw [if_pos hfor, if_pos (beq_iff_eq.mpr ((h.isFor_iff_id_eq ha hb).mp hfor)), shownAt, hfield]
  · rw [if_neg hfor, if_neg fun hid => hfor ((h.isFor_iff_id_eq ha hb).mpr (beq_iff_eq.mp hid))]

/-- Rows that stay keep the keys. -/
theorem filter (h : Keyed rows) (p : Attribute → Bool) : Keyed (rows.filter p) where
  ids := h.ids.sublist (List.filter_sublist.map _)
  fields := h.fields.sublist (List.filter_sublist.map _)

/-- Rows that change neither their id nor their layer and field keep the keys. -/
theorem map (h : Keyed rows) {f : Attribute → Attribute} (hid : ∀ b, (f b).id = b.id)
    (hfield : ∀ b, ((f b).layer, (f b).field) = (b.layer, b.field)) : Keyed (rows.map f) where
  ids := by
    rw [List.map_map, show Attribute.id ∘ f = Attribute.id from funext hid]
    exact h.ids
  fields := by
    rw [List.map_map, show (fun b => (Attribute.layer b, Attribute.field b)) ∘ f = _ from
      funext hfield]
    exact h.fields

/-- Showing rows keeps the keys. -/
theorem shown (h : Keyed rows) (place : Nat) :
    Keyed (rows.map fun b => if b.isFor layer field then b.shownAt place else b) :=
  h.map (fun b => by split <;> rfl) (fun b => by split <;> rfl)

/-- A row with an id and a field of its own may be added. -/
theorem concat (h : Keyed rows) (hid : ∀ b ∈ rows, b.id ≠ a.id)
    (hfield : rows.any (isFor a.layer a.field) = false) : Keyed (rows ++ [a]) := by
  constructor
  · rw [List.map_append]
    refine List.nodup_append'.mpr ⟨h.ids, List.nodup_singleton _, ?_⟩
    intro i hi hi'
    obtain ⟨b, hb, rfl⟩ := List.mem_map.mp hi
    exact hid b hb (List.mem_singleton.mp hi')
  · rw [List.map_append]
    refine List.nodup_append'.mpr ⟨h.fields, List.nodup_singleton _, ?_⟩
    intro key hkey hkey'
    obtain ⟨b, hb, rfl⟩ := List.mem_map.mp hkey
    have heq : b.layer = a.layer ∧ b.field = a.field := by simpa using List.mem_singleton.mp hkey'
    exact List.any_eq_false.mp hfield b hb (by simp [isFor, heq.1, heq.2])

end Attribute.Keyed

/-- A result under a function is that of a result. -/
theorem exists_of_map_eq_ok {ε α β : Type} {f : α → β} {x : Except ε α} {b : β}
    (h : x.map f = .ok b) : ∃ a, x = .ok a ∧ f a = b := by
  cases x with
  | error e => cases h
  | ok a =>
    cases h
    exact ⟨a, rfl, rfl⟩

/-- An attribute that is inserted has an id and a field of its own. -/
theorem Records.insertAttribute_eq_ok {r after : Records} {a : Attribute}
    (h : r.insertAttribute a = .ok after) :
    (∀ b ∈ r.attributes, b.id ≠ a.id) ∧ r.attributes.any (Attribute.isFor a.layer a.field) = false ∧
      after = { r with attributes := r.attributes ++ [a] } := by
  unfold Records.insertAttribute at h
  split at h
  · cases h
  · next hid =>
    split at h
    · cases h
    · next hfield =>
      split at h
      · cases h
      · cases h
        refine ⟨by simpa using hid, ?_, rfl⟩
        refine List.any_eq_false.mpr fun b hb hfor => hfield ?_
        exact List.find?_isSome.mpr ⟨b, hb, hfor⟩

/-- What a statement makes of the attributes: they stay, some of them go, the one that it inserts is
added, or they change in other fields than their keys. -/
inductive Attribute.Step (st : Statement) (rows : List Attribute) : List Attribute → Prop
  | kept : Step st rows rows
  | filtered (p : Attribute → Bool) : Step st rows (rows.filter p)
  | inserted {a : Attribute} (hst : st = .insertAttribute a) (hid : ∀ b ∈ rows, b.id ≠ a.id)
      (hfield : rows.any (isFor a.layer a.field) = false) : Step st rows (rows ++ [a])
  | changed {f : Attribute → Attribute} (hid : ∀ b, (f b).id = b.id)
      (hfield : ∀ b, ((f b).layer, (f b).field) = (b.layer, b.field)) : Step st rows (rows.map f)

/-- Every statement that is executed makes a step of the attributes. -/
theorem Records.attributeStep_of_execute {r after : Records} {st : Statement} {v : st.Value}
    (hexecute : r.execute st = .ok (v, after)) :
    Attribute.Step st r.attributes after.attributes := by
  cases st with
  | findLayer | listLayers | findAttribute | listAttributes =>
    cases hexecute
    exact .kept
  | insertLayer l =>
    obtain ⟨_, hinserted, hafter⟩ := exists_of_map_eq_ok hexecute
    unfold Records.insertLayer at hinserted
    split at hinserted
    · cases hinserted
    · split at hinserted
      · cases hinserted
      · cases hinserted
        cases hafter
        exact .kept
  | changeLayer id change =>
    change r.changeLayer id change = _ at hexecute
    unfold Records.changeLayer at hexecute
    split at hexecute
    · cases hexecute
    · cases hexecute
      exact .kept
  | deleteLayer | deleteAttributes =>
    cases hexecute
    exact .filtered _
  | insertAttribute a =>
    obtain ⟨_, hinserted, hafter⟩ := exists_of_map_eq_ok hexecute
    obtain ⟨hid, hfield, rfl⟩ := Records.insertAttribute_eq_ok hinserted
    cases hafter
    exact .inserted rfl hid hfield
  | showAttribute id displayName sortOrder =>
    obtain ⟨_, hshown, hafter⟩ := exists_of_map_eq_ok hexecute
    unfold Records.showAttribute at hshown
    split at hshown
    · cases hshown
      cases hafter
      exact .changed (fun b => by split <;> rfl) (fun b => by split <;> rfl)
    · cases hshown

/-- Every statement keeps the keys. -/
theorem Attribute.Keyed.execute {r after : Records} {st : Statement} {v : st.Value}
    (h : Keyed r.attributes) (hexecute : r.execute st = .ok (v, after)) :
    Keyed after.attributes := by
  have hstep := Records.attributeStep_of_execute hexecute
  generalize after.attributes = rows at hstep ⊢
  cases hstep with
  | kept => exact h
  | filtered p => exact h.filter p
  | inserted _ hid hfield => exact h.concat hid hfield
  | changed hid hfield => exact h.map hid hfield

/-- The stored attributes and those of the draft have their keys. -/
structure Register.Keyed (r : Register) : Prop where
  stored : Attribute.Keyed r.stored.attributes
  visible : Attribute.Keyed r.visible.attributes

/-- Whatever an action answers, it keeps the keys. -/
theorem Register.Keyed.does {r r' : Register} {a : SiteAction} {x : a.Answer} (h : r.Keyed)
    (hdoes : Register.Does a x r r') : r'.Keyed := by
  cases a with
  | records a =>
    cases hdoes with
    | faulted => exact h
    | executed hexecute =>
      have hafter := h.visible.execute hexecute
      obtain ⟨stored, draft⟩ := r
      cases draft with
      | some draft => exact ⟨h.stored, hafter⟩
      | none => exact ⟨hafter, hafter⟩
    | began => exact ⟨h.stored, h.stored⟩
    | committed => exact ⟨h.visible, h.visible⟩
  | rollback =>
    cases hdoes
    exact ⟨h.stored, h.stored⟩
  | _ =>
    cases hdoes
    exact h

/-- Whatever work is done on a site keeps the keys. -/
theorem Site.run_keyed {σ α : Type} {env : Surroundings σ} {w : Work α} {s : Site σ}
    (h : s.register.Keyed) : (s.run env w).2.register.Keyed :=
  Site.run_ensures (Procedure.Ensures.invariant (fun _ _ _ _ hr hdoes => hr.does hdoes) w h)

/-! ## The statements -/

namespace Work

/-- What showing columns does in a transaction that began with some stored tables and has a draft:
only statements, on the draft. When all are executed the layers stay and the attributes become
others. -/
inductive ShowsColumns (stored tables : Records) (becomes : List Attribute → Prop) :
    Except Failure Unit → Register → List (Exchange siteActions) → Prop
  | failed {log : List (Exchange siteActions)} (f : Failure) (draft : Records)
      (hlog : ∀ e ∈ log, e.isStatement = true) :
      ShowsColumns stored tables becomes (.error f) ⟨stored, some draft⟩ log
  | shown {log : List (Exchange siteActions)} {rows : List Attribute} (hrows : becomes rows)
      (hlog : ∀ e ∈ log, e.isStatement = true ∧ e.hasFault = false) :
      ShowsColumns stored tables becomes (.ok ()) ⟨stored, some ⟨tables.layers, rows⟩⟩ log

/-- Showing one column leaves the rest of the columns to be shown after it. -/
theorem ensures_upsertAttribute (layer : Uuid) (column : Column) (place : Nat)
    (stored tables : Records) :
    Procedure.Ensures Register.Does (ShowsColumns stored tables fun rows =>
      Attribute.Keyed tables.attributes → Attribute.Keyed rows ∧ ∀ rest,
        upserted layer place (column :: rest) tables.attributes =
          upserted layer (place + 1) rest rows) ⟨stored, some tables⟩
      (upsertAttribute layer column place).run := by
  refine ensures_execute (fun f => .failed _ tables (by simp [Exchange.isStatement])) ?_
  intro found after hfound
  obtain ⟨hrow, rfl⟩ : tables.attributes.find? (Attribute.isFor layer column.name) = found ∧
      tables = after := by
    cases hfound
    exact ⟨rfl, rfl⟩
  cases found with
  | some a =>
    intro shown r' hshow
    cases hshow with
    | faulted f => exact .failed _ tables (by simp [Exchange.isStatement])
    | @executed _ _ _ after hshown =>
      -- The row that was found is there to be shown.
      have hmem : a ∈ tables.attributes := List.mem_of_find?_eq_some hrow
      have hfor : tables.attributes.any (Attribute.isFor layer column.name) = true :=
        List.any_eq_true.mpr ⟨a, hmem, List.find?_some hrow⟩
      have hany : tables.attributes.any (·.id == a.id) = true :=
        List.any_eq_true.mpr ⟨a, hmem, beq_self_eq_true _⟩
      change (tables.showAttribute a.id _ (Attribute.orderAt place)).map _ = _ at hshown
      rw [Records.showAttribute, if_pos hany] at hshown
      cases hshown
      refine .shown (fun hkeyed => ?_) (by simp [Exchange.isStatement, Exchange.hasFault])
      rw [hkeyed.map_id_eq hrow]
      exact ⟨hkeyed.shown place, fun rest => upserted_cons_of_any hfor⟩
  | none =>
    have hnone : tables.attributes.any (Attribute.isFor layer column.name) = false :=
      List.any_eq_false.mpr fun b hb => List.find?_eq_none.mp hrow b hb
    intro inserted r' hinsert
    cases hinsert with
    | faulted f => exact .failed _ tables (by simp [Exchange.isStatement])
    | @executed _ _ _ after hinserted =>
      obtain ⟨_, hrow, hafter⟩ := exists_of_map_eq_ok hinserted
      obtain ⟨hid, -, rfl⟩ := Records.insertAttribute_eq_ok hrow
      cases hafter
      refine .shown (fun hkeyed => ?_) (by simp [Exchange.isStatement, Exchange.hasFault])
      exact ⟨hkeyed.concat hid hnone, fun rest => upserted_cons_of_not_any hnone⟩

/-- Showing columns one after another ends with the attributes of all of them. -/
theorem ensures_upsertAttributes (layer : Uuid) (columns : List Column) (place : Nat)
    (stored tables : Records) :
    Procedure.Ensures Register.Does (ShowsColumns stored tables fun rows =>
      Attribute.Keyed tables.attributes →
        rows = upserted layer place columns tables.attributes) ⟨stored, some tables⟩
      (upsertAttributes layer place columns).run := by
  induction columns generalizing place tables with
  | nil => exact .shown (fun _ => (upserted_nil layer place _).symm) (by simp)
  | cons column rest ih =>
    refine (ensures_upsertAttribute layer column place stored tables).bindExcept ?_ ?_
    · intro _ last log hone
      cases hone with
      | shown hrows hlog =>
        refine (ih (place + 1) _).mono fun answer final more hmore => ?_
        cases hmore with
        | failed f draft hmorelog =>
          refine .failed f draft fun e he => ?_
          rcases List.mem_append.mp he with he | he
          · exact (hlog e he).1
          · exact hmorelog e he
        | shown hfinal hmorelog =>
          refine .shown (fun hkeyed => ?_) fun e he => ?_
          · obtain ⟨hafter, hrest⟩ := hrows hkeyed
            rw [hfinal hafter, hrest]
          · rcases List.mem_append.mp he with he | he
            · exact hlog e he
            · exact hmorelog e he
    · intro f last log hone
      cases hone with
      | failed _ draft hlog => exact .failed f draft hlog

end Work

end LayerPress
