import LayerPress.Proofs.Shelf

/-!
# The row of one layer

Whatever a task does, each list of layers that is then on the shelf, stored or drafted, was on it
before or comes from one that was by the effect of a statement. Facts about the row of one layer
in all these lists are therefore kept when statements keep them, whichever list they act on.
-/

namespace LayerPress

/-- The row of a layer. -/
def row? (layer : Uuid) (layers : List Layer) : Option Layer :=
  layers.find? (·.id == layer)

/-- The row of a layer has its id. -/
theorem id_of_row? {layer : Uuid} {layers : List Layer} {l : Layer}
    (h : row? layer layers = some l) : l.id = layer :=
  beq_iff_eq.mp (List.find?_some (p := fun row : Layer => row.id == layer) h)

/-- No change gives a layer another id. -/
theorem LayerChange.apply_id (change : LayerChange) (l : Layer) : (change.apply l).id = l.id := by
  cases change <;> rfl

/-- The row of a layer is changed when the change is of that layer. -/
theorem row?_changed (layer id : Uuid) (change : LayerChange) (layers : List Layer) :
    row? layer (layers.map fun row => if row.id == id then change.apply row else row) =
      (row? layer layers).map fun row => if row.id == id then change.apply row else row := by
  unfold row?
  rw [List.find?_map]
  congr 2
  funext row
  simp only [Function.comp_apply]
  split
  · rw [LayerChange.apply_id]
  · rfl

/-- Changing a layer leaves the rows of the others. -/
theorem filter_ne_changed (id : Uuid) (change : LayerChange) (layers : List Layer) :
    (layers.map fun row => if row.id == id then change.apply row else row).filter (·.id != id) =
      layers.filter (·.id != id) := by
  induction layers with
  | nil => rfl
  | cons row rest ih =>
    rw [List.map_cons, List.filter_cons, List.filter_cons, ih]
    by_cases hrow : row.id = id
    · simp [hrow, LayerChange.apply_id]
    · simp [hrow]

/-- Deleting a layer takes its row and no other. -/
theorem row?_deleted (layer id : Uuid) (layers : List Layer) :
    row? layer (layers.filter (·.id != id)) = if layer = id then none else row? layer layers := by
  unfold row?
  rw [List.find?_filter]
  split
  · next heq =>
    subst heq
    refine List.find?_eq_none.mpr fun l _ => ?_
    simp
  · next hne =>
    congr 1
    funext l
    by_cases hl : l.id = layer
    · simp [hl, hne]
    · simp [hl]

/-- What an action makes of a list of layers, if it is a statement that is executed. -/
def TaskAction.Effect : (a : TaskAction) → a.Answer → List Layer → List Layer → Prop
  | .site (.records (.statement st)), .ok v, before, after => st.Effect v before after
  | _, _, _, _ => False

namespace Shelf

/-- The list is stored or is a draft. -/
def Holds (s : Shelf) (layers : List Layer) : Prop :=
  layers = s.stored ∨ ∃ who, s.draft = some (who, layers)

/-- What a task sees is on the shelf. -/
theorem holds_seenBy (s : Shelf) (who : Actor) : s.Holds (s.seenBy who) := by
  unfold seenBy
  split
  · next holder layers hdraft =>
    split
    · exact .inr ⟨holder, hdraft⟩
    · exact .inl rfl
  · exact .inl rfl

/-- Without a draft only one list is on the shelf. -/
theorem Holds.eq_stored {s : Shelf} {layers : List Layer} (h : s.Holds layers)
    (hdraft : s.draft = none) : layers = s.stored := by
  rcases h with hstored | ⟨w, hw⟩
  · exact hstored
  · rw [hdraft] at hw
    cases hw

/-- The layer that a task finds is the row that it sees. -/
theorem Step.row?_of_found {who : Actor} {id : Uuid} {l : Layer} {s s' : Shelf}
    (h : Step who (.statement (.findLayer id)) (.ok (some l)) s s') :
    row? id (s.seenBy who) = some l := by
  cases h with
  | executed _ heffect =>
    generalize some l = found at heffect
    cases heffect
    rfl

/-- The row of a layer that a task has deleted is gone. -/
theorem Step.row?_of_deleted {who : Actor} {id : Uuid} {s s' : Shelf}
    (h : Step who (.statement (.deleteLayer id)) (.ok ()) s s')
    (hdraft : ∀ layers, s.draft ≠ some (who, layers)) {layers : List Layer}
    (hholds : s'.Holds layers) : row? id layers = none := by
  cases h with
  | executed hfree heffect =>
    have hnone : s.draft = none := by
      cases hheld : s.draft with
      | none => rfl
      | some draft =>
        obtain ⟨holder, held⟩ := draft
        cases hfree rfl holder held hheld
        exact absurd hheld (hdraft held)
    rw [Shelf.put_of_none hnone] at hholds
    rw [hholds.eq_stored hnone]
    cases heffect
    rw [row?_deleted, if_pos rfl]

/-- What is on the shelf after a task has written was there before or is what it has written. -/
theorem Holds.of_put {s : Shelf} {who : Actor} {written layers : List Layer}
    (h : (s.put who written).Holds layers) : s.Holds layers ∨ layers = written := by
  unfold put at h
  split at h
  · next holder held hdraft =>
    split at h
    · rcases h with rfl | ⟨w, hw⟩
      · exact .inl (.inl rfl)
      · cases hw
        exact .inr rfl
    · exact .inl h
  · next hdraft =>
    rcases h with rfl | ⟨w, hw⟩
    · exact .inr rfl
    · rw [show ({ s with stored := written } : Shelf).draft = s.draft from rfl, hdraft] at hw
      cases hw

/-- Every list on the shelf was there before, or a statement has made it of one that was. -/
theorem Does.of_holds {who : Actor} {a : TaskAction} {x : a.Answer} {s s' : Shelf}
    (h : Does who a x s s') {layers : List Layer} (hholds : s'.Holds layers) :
    ∃ before, s.Holds before ∧ (layers = before ∨ a.Effect x before layers) := by
  have hkept (hbefore : s.Holds layers) :
      ∃ before, s.Holds before ∧ (layers = before ∨ a.Effect x before layers) :=
    ⟨layers, hbefore, .inl rfl⟩
  cases a with
  | site a =>
    cases a with
    | records a =>
      cases h with
      | faulted => exact hkept hholds
      | @executed st v s written _ heffect =>
        rcases hholds.of_put with hbefore | rfl
        · exact hkept hbefore
        · exact ⟨_, s.holds_seenBy who, .inr heffect⟩
      | began =>
        rcases hholds with rfl | ⟨w, hw⟩
        · exact hkept (.inl rfl)
        · cases hw
          exact hkept (.inl rfl)
      | committed =>
        rcases hholds with rfl | ⟨w, hw⟩
        · exact hkept (s.holds_seenBy who)
        · cases hw
    | rollback =>
      cases h
      unfold forget at hholds
      split at hholds
      · next holder held hdraft =>
        split at hholds
        · rcases hholds with rfl | ⟨w, hw⟩
          · exact hkept (.inl rfl)
          · cases hw
        · exact hkept hholds
      · exact hkept hholds
    | _ => cases h; exact hkept hholds
  | _ => cases h; exact hkept hholds

end Shelf

namespace Machine

variable {σ : Type} {env : Surroundings σ} {m m' : Machine σ} {who : Actor}

/-- Without faults and without a transaction the change of a row that is there succeeds. -/
theorem exists_ok_of_changeLayer (hsound : ∀ a s, (env.recordFault a s).1 = none) (hm : m.IsHeld)
    (hclosed : m.shelf.draft = none) {id : Uuid} {change : LayerChange} {l : Layer}
    (hrow : row? id m.shelf.stored = some l) {x : Except RecordFault Layer}
    (h : m.records env who (.statement (.changeLayer id change)) = some (x, m')) :
    ∃ row, x = .ok row := by
  have hfree : m.shelf.IsFreeFor who := fun holder layers hdraft => by
    rw [hclosed] at hdraft
    cases hdraft
  have hheld := isHeldAgainst_of_isFreeFor hm hfree
  have hvisible : m.site.visible.layer? id = some l := by
    rw [Records.layer?, ← seenBy_shelfOf m.site who, ← shelf_eq_shelfOf hm hheld,
      Shelf.seenBy_of_none hclosed]
    exact hrow
  simp only [records, hheld, Bool.false_eq_true, if_false, Option.some.injEq, Prod.mk.injEq] at h
  rw [← h.1]
  simp only [Site.handle]
  have hnone := hsound (.statement (.changeLayer id change)) m.site.outside
  cases hfault : env.recordFault (.statement (.changeLayer id change)) m.site.outside with
  | mk fault outside =>
    rw [hfault] at hnone
    dsimp only at hnone
    subst hnone
    refine ⟨change.apply l, ?_⟩
    simp only [Site.perform]
    rw [show ({ m.site with outside := outside } : Site σ).visible = m.site.visible from rfl]
    simp only [Records.execute, Records.changeLayer, hvisible]

end Machine

end LayerPress
