import LayerPress.Proofs.Machine

/-!
# Stored layers and the draft of a transaction

Of the records, the proofs about layers use only the layers that are stored and, while a
transaction is open, the draft of them that belongs to its task. Every action of a task changes
this shelf in one of few ways. A task with a draft sees it, the others see what is stored and
may not write.
-/

namespace LayerPress

/-- What a statement answers and makes of a list of layers when it does not fail. -/
inductive Statement.Effect : (s : Statement) → s.Value → List Layer → List Layer → Prop
  | found (id : Uuid) (layers : List Layer) :
      Effect (.findLayer id) (layers.find? (·.id == id)) layers layers
  | changed {id : Uuid} {change : LayerChange} {l : Layer} {layers : List Layer}
      (hl : layers.find? (·.id == id) = some l) :
      Effect (.changeLayer id change) (change.apply l) layers
        (layers.map fun row => if row.id == id then change.apply row else row)
  | deleted (id : Uuid) (layers : List Layer) :
      Effect (.deleteLayer id) () layers (layers.filter (·.id != id))
  | inserted (l : Layer) (layers : List Layer) :
      Effect (.insertLayer l) (Records.stored l) layers (layers ++ [Records.stored l])
  | listed (layers sorted : List Layer) : Effect .listLayers sorted layers layers
  | foundAttribute (layer : Uuid) (field : String) (a : Option Attribute) (layers : List Layer) :
      Effect (.findAttribute layer field) a layers layers
  | listedAttributes (layer : Uuid) (rows : List Attribute) (layers : List Layer) :
      Effect (.listAttributes layer) rows layers layers
  | insertedAttribute (a : Attribute) (layers : List Layer) :
      Effect (.insertAttribute a) () layers layers
  | shownAttribute (id : Uuid) (name : String) (place : Int) (layers : List Layer) :
      Effect (.showAttribute id name place) () layers layers
  | deletedAttributes (layer : Uuid) (layers : List Layer) :
      Effect (.deleteAttributes layer) () layers layers

/-- Executing a statement has its effect on the layers. -/
theorem Records.effect_of_execute {r r' : Records} {s : Statement} {v : s.Value}
    (h : r.execute s = .ok (v, r')) : s.Effect v r.layers r'.layers := by
  cases s with
  | findLayer id => cases h; exact .found id _
  | listLayers => cases h; exact .listed _ _
  | insertLayer l =>
    simp only [execute, insertLayer] at h
    split at h
    · cases h
    · split at h
      · cases h
      · cases h; exact .inserted l _
  | changeLayer id change =>
    simp only [execute, changeLayer, layer?] at h
    split at h
    · cases h
    · next l hl => cases h; exact .changed hl
  | deleteLayer id => cases h; exact .deleted id _
  | findAttribute layer field => cases h; exact .foundAttribute _ _ _ _
  | listAttributes layer => cases h; exact .listedAttributes _ _ _
  | insertAttribute a =>
    simp only [execute, insertAttribute] at h
    split at h
    · cases h
    · split at h
      · cases h
      · split at h
        · cases h
        · cases h; exact .insertedAttribute a _
  | showAttribute id name place =>
    simp only [execute, showAttribute] at h
    split at h
    · cases h; exact .shownAttribute id name place _
    · cases h
  | deleteAttributes layer => cases h; exact .deletedAttributes layer _

/-- A statement that leaves layers as they are, though it may change attributes. -/
def Statement.keepsLayers : Statement → Bool
  | .changeLayer .. | .deleteLayer _ | .insertLayer _ => false
  | _ => true

/-- A statement that reads keeps layers. -/
theorem Statement.keepsLayers_of_not_isWrite {s : Statement} (h : s.isWrite = false) :
    s.keepsLayers = true := by
  cases s with
  | changeLayer | deleteLayer | insertLayer => cases h
  | _ => rfl

/-- A statement that keeps layers has no effect on them. -/
theorem Statement.Effect.eq_of_keepsLayers {s : Statement} {v : s.Value}
    {before after : List Layer} (h : s.Effect v before after) (hkeeps : s.keepsLayers = true) :
    after = before := by
  cases h with
  | changed | deleted | inserted => cases hkeeps
  | _ => rfl

/-- The stored layers, and the draft of an open transaction with the task it belongs to. -/
structure Shelf where
  stored : List Layer
  draft : Option (Actor × List Layer)

namespace Shelf

/-- No other task has a draft. -/
def IsFreeFor (s : Shelf) (who : Actor) : Prop :=
  ∀ holder layers, s.draft = some (holder, layers) → holder = who

/-- The layers that a task sees. -/
def seenBy (s : Shelf) (who : Actor) : List Layer :=
  match s.draft with
  | some (holder, layers) => if holder = who then layers else s.stored
  | none => s.stored

/-- The shelf after a task has written; who may not write changes nothing. -/
def put (s : Shelf) (who : Actor) (layers : List Layer) : Shelf :=
  match s.draft with
  | some (holder, _) => if holder = who then { s with draft := some (who, layers) } else s
  | none => { s with stored := layers }

/-- The shelf when a task has given up its draft. -/
def forget (s : Shelf) (who : Actor) : Shelf :=
  match s.draft with
  | some (holder, _) => if holder = who then { s with draft := none } else s
  | none => s

/-- Without a draft everyone sees what is stored. -/
theorem seenBy_of_none {s : Shelf} (h : s.draft = none) (who : Actor) : s.seenBy who = s.stored := by
  simp only [seenBy, h]

/-- A task sees its own draft. -/
theorem seenBy_of_some {s : Shelf} {who : Actor} {layers : List Layer}
    (h : s.draft = some (who, layers)) : s.seenBy who = layers := by
  simp only [seenBy, h, if_true]

/-- Without a draft a task writes what is stored. -/
theorem put_of_none {s : Shelf} (h : s.draft = none) (who : Actor) (layers : List Layer) :
    s.put who layers = { s with stored := layers } := by
  simp only [put, h]

/-- A task writes its own draft. -/
theorem put_of_some {s : Shelf} {who : Actor} {drafted : List Layer}
    (h : s.draft = some (who, drafted)) (layers : List Layer) :
    s.put who layers = { s with draft := some (who, layers) } := by
  simp only [put, h, if_true]

/-- Writing what one sees changes nothing. -/
theorem put_seenBy (s : Shelf) (who : Actor) : s.put who (s.seenBy who) = s := by
  obtain ⟨stored, draft⟩ := s
  cases draft with
  | none => rfl
  | some d =>
    obtain ⟨holder, layers⟩ := d
    simp only [put, seenBy]
    split
    · next heq => rw [heq]
    · rfl

/-- What a record action of a task answers and makes of the shelf. -/
inductive Step (who : Actor) : (a : RecordAction) → Except RecordFault a.Value → Shelf → Shelf → Prop
  | faulted {a : RecordAction} (f : RecordFault) (s : Shelf) : Step who a (.error f) s s
  | executed {st : Statement} {v : st.Value} {s : Shelf} {layers : List Layer}
      (hfree : st.isWrite → s.IsFreeFor who) (heffect : st.Effect v (s.seenBy who) layers) :
      Step who (.statement st) (.ok v) s (s.put who layers)
  | began {s : Shelf} (hfree : s.IsFreeFor who) :
      Step who .begin (.ok ()) s { s with draft := some (who, s.stored) }
  | committed {s : Shelf} (hfree : s.IsFreeFor who) :
      Step who .commit (.ok ()) s ⟨s.seenBy who, none⟩

/-- A statement that keeps layers leaves the shelf as it is. -/
theorem Step.eq_of_keepsLayers {who : Actor} {st : Statement} {x : Except RecordFault st.Value}
    {s s' : Shelf} (h : Step who (.statement st) x s s') (hkeeps : st.keepsLayers = true) :
    s' = s := by
  cases h with
  | faulted => rfl
  | executed _ heffect => rw [heffect.eq_of_keepsLayers hkeeps, put_seenBy]

/-- What an action of a task makes of the shelf: only record actions and rollbacks change it. -/
def Does (who : Actor) : (a : TaskAction) → a.Answer → Shelf → Shelf → Prop
  | .site (.records a), x, s, s' => Step who a x s s'
  | .site .rollback, _, s, s' => s' = s.forget who
  | _, _, s, s' => s' = s

/-- Writing gives no task a draft and takes none away. -/
theorem draft_put_iff {s : Shelf} {who w : Actor} {written : List Layer} :
    (∃ layers, (s.put who written).draft = some (w, layers)) ↔
      ∃ layers, s.draft = some (w, layers) := by
  unfold put
  cases hdraft : s.draft with
  | none => simp
  | some d =>
    obtain ⟨holder, layers⟩ := d
    dsimp only
    split
    · next heq => simp [heq]
    · simp [hdraft]

/-- The drafts of others are not written. -/
theorem draft_put_of_ne {s : Shelf} {who w : Actor} (hne : w ≠ who) {written layers : List Layer} :
    (s.put who written).draft = some (w, layers) ↔ s.draft = some (w, layers) := by
  unfold put
  cases hdraft : s.draft with
  | none => simp
  | some d =>
    obtain ⟨holder, held⟩ := d
    dsimp only
    split
    · next heq => simp [heq, hne.symm]
    · simp [hdraft]

/-- What a task does leaves the drafts of others as they are. -/
theorem Does.draft_of_ne {who w : Actor} {a : TaskAction} {x : a.Answer} {s s' : Shelf}
    (h : Does who a x s s') (hne : w ≠ who) {layers : List Layer} :
    s'.draft = some (w, layers) ↔ s.draft = some (w, layers) := by
  have hfree (hfree : s.IsFreeFor who) : s.draft ≠ some (w, layers) := fun hdraft =>
    hne (hfree w layers hdraft)
  cases a with
  | site a =>
    cases a with
    | records a =>
      cases h with
      | faulted => rfl
      | executed => exact draft_put_of_ne hne
      | began hwho => simp [hfree hwho, hne.symm]
      | committed hwho => simp [hfree hwho]
    | rollback =>
      cases h
      unfold forget
      cases hdraft : s.draft with
      | none => simp [hdraft]
      | some d =>
        obtain ⟨holder, held⟩ := d
        dsimp only
        split
        · next heq => simp [heq, hne.symm]
        · simp [hdraft]
    | _ => cases h; rfl
  | _ => cases h; rfl

end Shelf

namespace Machine

variable {σ : Type} {office : Office σ} {env : Surroundings σ} {m m' : Machine σ} {who : Actor}

/-- A transaction is open exactly when a task holds it. -/
def IsHeld (m : Machine σ) : Prop :=
  m.holder.isSome = m.site.working.isSome

/-- The layers of the machine. -/
def shelf (m : Machine σ) : Shelf where
  stored := m.site.records.layers
  draft := do return (← m.holder, (← m.site.working).layers)

/-- A statement fails and changes no records, or is executed on those that are visible. -/
theorem handle_statement (env : Surroundings σ) (st : Statement) (s : Site σ) :
    (∃ f outside, Site.handle env (.records (.statement st)) s =
        (.error f, { s with outside := outside })) ∨
      ∃ v r outside, s.visible.execute st = .ok (v, r) ∧
        Site.handle env (.records (.statement st)) s =
          (.ok v, ({ s with outside := outside } : Site σ).withVisible r) := by
  simp only [Site.handle]
  cases hfault : env.recordFault (.statement st) s.outside with
  | mk fault outside =>
    cases fault with
    | some f => exact .inl ⟨f, outside, rfl⟩
    | none =>
      simp only [Site.perform]
      cases hexecute : s.visible.execute st with
      | error f =>
        refine .inl ⟨f, outside, ?_⟩
        rw [show ({ s with outside := outside } : Site σ).visible = s.visible from rfl, hexecute]
      | ok answer =>
        refine .inr ⟨answer.1, answer.2, outside, rfl, ?_⟩
        rw [show ({ s with outside := outside } : Site σ).visible = s.visible from rfl, hexecute]

/-- The layers of a site whose transaction, if one is open, is that of a task. -/
def shelfOf (s : Site σ) (who : Actor) : Shelf where
  stored := s.records.layers
  draft := s.working.map fun w => (who, w.layers)

/-- The layers that are visible on a site are those its task sees. -/
theorem seenBy_shelfOf (s : Site σ) (who : Actor) :
    (shelfOf s who).seenBy who = s.visible.layers := by
  simp only [shelfOf, Shelf.seenBy, Site.visible]
  cases s.working with
  | none => rfl
  | some w => exact if_pos rfl

/-- What stands where statements act is what the task of the site has written. -/
theorem shelfOf_withVisible (s : Site σ) (who : Actor) (r : Records) :
    shelfOf (s.withVisible r) who = (shelfOf s who).put who r.layers := by
  simp only [shelfOf, Shelf.put, Site.withVisible]
  cases s.working with
  | none => rfl
  | some w => simp

/-- Nobody but its own task has a draft on a site. -/
theorem isFreeFor_shelfOf (s : Site σ) (who : Actor) : (shelfOf s who).IsFreeFor who := by
  intro holder layers h
  obtain ⟨w, -, hw⟩ := Option.map_eq_some_iff.mp h
  exact (congrArg Prod.fst hw).symm

/-- A record action of the task that may write. -/
theorem step_of_handle (env : Surroundings σ) (a : RecordAction) (s : Site σ) (who : Actor) :
    Shelf.Step who a (Site.handle env (.records a) s).1 (shelfOf s who)
      (shelfOf (Site.handle env (.records a) s).2 who) := by
  cases a with
  | statement st =>
    rcases handle_statement env st s with
      ⟨f, outside, hhandle⟩ | ⟨v, r, outside, hexecute, hhandle⟩
    · rw [hhandle]
      exact .faulted f _
    · rw [hhandle]
      have heffect := Records.effect_of_execute hexecute
      rw [← seenBy_shelfOf s who] at heffect
      have hshelf := shelfOf_withVisible { s with outside := outside } who r
      exact hshelf ▸ .executed (fun _ => isFreeFor_shelfOf s who) heffect
  | «begin» =>
    simp only [Site.handle]
    split
    · exact .faulted _ _
    · exact .began (isFreeFor_shelfOf s who)
  | commit =>
    simp only [Site.handle]
    split
    · exact .faulted _ _
    · have hstep := Shelf.Step.committed (isFreeFor_shelfOf s who)
      rw [seenBy_shelfOf] at hstep
      exact hstep

/-- A task that nothing is held against has the draft itself or there is none. -/
theorem holder_of_not_heldAgainst (h : m.isHeldAgainst who = false) :
    m.holder = none ∨ m.holder = some who := by
  unfold isHeldAgainst at h
  split at h
  · next other hholder => exact .inr (hholder.trans (congrArg some (by simpa using h)))
  · next hholder => exact .inl hholder

/-- A task that is kept out of the draft reads what is stored. -/
theorem shelf_of_heldAgainst {st : Statement} {x : Except RecordFault st.Value}
    (hheld : m.isHeldAgainst who = true)
    (h : m.records env who (.statement st) = some (x, m')) :
    m'.holder = m.holder ∧ m'.site.working.isSome = m.site.working.isSome ∧
      Shelf.Step who (.statement st) x m.shelf m'.shelf := by
  simp only [records, hheld, if_true] at h
  split at h
  · cases h
  · next hread =>
    have hreads : st.isWrite = false := by simpa using hread
    simp only [Option.some.injEq, Prod.mk.injEq] at h
    rcases handle_statement env st { m.site with working := none } with
      ⟨f, outside, hhandle⟩ | ⟨v, r, outside, hexecute, hhandle⟩
    · rw [hhandle] at h
      obtain ⟨rfl, rfl⟩ := h
      exact ⟨rfl, rfl, .faulted f _⟩
    · rw [hhandle] at h
      obtain ⟨rfl, rfl⟩ := h
      have heffect := Records.effect_of_execute hexecute
      have hlayers : r.layers = m.site.records.layers := 
        heffect.eq_of_keepsLayers (Statement.keepsLayers_of_not_isWrite hreads)
      have hseen : m.shelf.seenBy who = m.site.records.layers := by
        unfold isHeldAgainst at hheld
        split at hheld
        · next other hholder =>
          have hne : other ≠ who := by simpa using hheld
          simp only [shelf, hholder, Shelf.seenBy]
          cases m.site.working with
          | none => rfl
          | some w => exact if_neg hne
        · cases hheld
      refine ⟨rfl, rfl, ?_⟩
      have hstep : Shelf.Step who (.statement st) (.ok v) m.shelf
          (m.shelf.put who (m.shelf.seenBy who)) := by
        refine .executed (fun hwrite => by rw [hreads] at hwrite; cases hwrite) ?_
        rw [hseen]
        exact hlayers ▸ heffect
      rw [Shelf.put_seenBy] at hstep
      convert hstep using 1
      simp only [shelf, Site.withVisible, hlayers]

/-- The machine of a task that may write, with the site as its own. -/
theorem shelf_eq_shelfOf (hm : m.IsHeld) (hfree : m.isHeldAgainst who = false) :
    m.shelf = shelfOf m.site who := by
  unfold IsHeld at hm
  unfold shelf shelfOf
  rcases holder_of_not_heldAgainst hfree with hholder | hholder
  · rw [hholder] at hm ⊢
    cases hworking : m.site.working with
    | none => rfl
    | some w => rw [hworking] at hm; cases hm
  · rw [hholder]
    cases m.site.working <;> rfl

/-- The machine with a site of one task has that task's layers. -/
theorem shelf_withSite (m : Machine σ) (who : Actor) (s : Site σ) :
    (m.withSite who s).shelf = shelfOf s who := by
  unfold shelf shelfOf withSite
  cases s.working <;> rfl

/-- The machine with a site of one task is held if that site has a transaction. -/
theorem isHeld_withSite (m : Machine σ) (who : Actor) (s : Site σ) : (m.withSite who s).IsHeld := by
  unfold IsHeld withSite
  cases s.working <;> rfl

/-- A record action is a step of the shelf. -/
theorem shelf_of_records (hm : m.IsHeld) {a : RecordAction} {x : Except RecordFault a.Value}
    (h : m.records env who a = some (x, m')) :
    m'.IsHeld ∧ Shelf.Step who a x m.shelf m'.shelf := by
  cases hheld : m.isHeldAgainst who with
  | true =>
    cases a with
    | statement st =>
      obtain ⟨hholder, hworking, hstep⟩ := shelf_of_heldAgainst hheld h
      exact ⟨by rw [IsHeld, hholder, hworking]; exact hm, hstep⟩
    | «begin» | commit => simp [records, hheld] at h
  | false =>
    simp only [records, hheld, Bool.false_eq_true, if_false, Option.some.injEq, Prod.mk.injEq] at h
    obtain ⟨rfl, rfl⟩ := h
    refine ⟨isHeld_withSite m who _, ?_⟩
    rw [shelf_eq_shelfOf hm hheld, shelf_withSite]
    exact step_of_handle env a m.site who

/-- A rollback forgets the draft of its task. -/
theorem shelf_of_rollback (hm : m.IsHeld) {x : Unit}
    (h : m.onSite env who .rollback = some (x, m')) :
    m'.IsHeld ∧ m'.shelf = m.shelf.forget who := by
  simp only [onSite] at h
  split at h
  · next hheld =>
    cases h
    refine ⟨hm, ?_⟩
    unfold isHeldAgainst at hheld
    split at hheld
    · next other hholder =>
      have hne : other ≠ who := by simpa using hheld
      simp only [shelf, hholder, Shelf.forget]
      cases m.site.working with
      | none => rfl
      | some w => exact (if_neg hne).symm
    · cases hheld
  · next hheld =>
    cases h
    refine ⟨isHeld_withSite m who _, ?_⟩
    rw [shelf_eq_shelfOf hm (by simpa using hheld), shelf_withSite]
    simp only [shelfOf, Site.handle, Shelf.forget]
    cases m.site.working <;> simp

/-- What leaves the holder and the site's records alone leaves the shelf alone. -/
theorem shelf_congr (hholder : m'.holder = m.holder) (hrecords : m'.site.records = m.site.records)
    (hworking : m'.site.working = m.site.working) : (m.IsHeld → m'.IsHeld) ∧ m'.shelf = m.shelf := by
  unfold IsHeld shelf
  rw [hholder, hrecords, hworking]
  exact ⟨id, rfl⟩

/-- Every action of a task does to the shelf what its kind does. -/
theorem shelf_of_handle (hm : m.IsHeld) {a : TaskAction} {x : a.Answer}
    (h : m.handle office who a = some (x, m')) :
    m'.IsHeld ∧ Shelf.Does who a x m.shelf m'.shelf := by
  have hsame (hshelf : (m.IsHeld → m'.IsHeld) ∧ m'.shelf = m.shelf) :
      m'.IsHeld ∧ m'.shelf = m.shelf := ⟨hshelf.1 hm, hshelf.2⟩
  cases a with
  | site a =>
    cases a with
    | records a => exact shelf_of_records hm h
    | rollback => exact shelf_of_rollback hm h
    | _ => cases h; exact hsame (shelf_congr rfl rfl rfl)
  | takePermit =>
    simp only [handle] at h
    split at h
    · cases h
    · cases h; exact hsame (shelf_congr rfl rfl rfl)
  | givePermit | announce | endJob => cases h; exact hsame (shelf_congr rfl rfl rfl)
  | runningImport | job => cases h; exact hsame (shelf_congr rfl rfl rfl)
  | subscribe id =>
    simp only [handle] at h
    split at h <;> cases h <;> exact hsame (shelf_congr rfl rfl rfl)
  | queueImport layer =>
    obtain ⟨hsite, hholder⟩ := (queued_of_queueImport h).site_holder
    exact hsame (shelf_congr hholder (by rw [hsite]) (by rw [hsite]))
  | queueTeardown table entry =>
    obtain ⟨hsite, hholder⟩ := (queued_of_queueTeardown h).site_holder
    exact hsame (shelf_congr hholder (by rw [hsite]) (by rw [hsite]))

/-- Nothing is held against a task when no other task has a draft. -/
theorem isHeldAgainst_of_isFreeFor (hm : m.IsHeld) (hfree : m.shelf.IsFreeFor who) :
    m.isHeldAgainst who = false := by
  unfold IsHeld at hm
  unfold isHeldAgainst
  cases hholder : m.holder with
  | none => rfl
  | some other =>
    rw [hholder] at hm
    cases hworking : m.site.working with
    | none => rw [hworking] at hm; cases hm
    | some w =>
      have hdraft : m.shelf.draft = some (other, w.layers) := by
        simp only [shelf, hholder, hworking]
        rfl
      simp [hfree other w.layers hdraft]

/-- A task that nothing is held against never waits, except for a permit. -/
theorem exists_handle {a : TaskAction} (hpermit : a ≠ .takePermit)
    (hfree : m.isHeldAgainst who = false) :
    ∃ x after, m.handle office who a = some (x, after) := by
  cases a with
  | takePermit => exact absurd rfl hpermit
  | site a =>
    cases a with
    | records a => exact ⟨_, _, by simp only [handle, onSite, records, hfree]; rfl⟩
    | rollback => exact ⟨(), _, by simp only [handle, onSite, hfree]; rfl⟩
    | _ => exact ⟨_, _, rfl⟩
  | subscribe id =>
    simp only [handle]
    split <;> exact ⟨_, _, rfl⟩
  | _ => exact ⟨_, _, rfl⟩

end Machine

end LayerPress
