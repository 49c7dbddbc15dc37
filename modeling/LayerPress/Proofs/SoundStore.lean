import LayerPress.Proofs.Itinerary
import LayerPress.Proofs.LoadedRecord
import LayerPress.Proofs.SameAnswers

/-!
# Attempts in a sound record store

A sound record store fails only where its tables refuse a statement. Of the statements of an
attempt they refuse one kind: a new attribute whose id another attribute has. An attempt that has
surveyed its layer therefore records and publishes the load, and succeeds whatever the catalog
answers, unless attribute ids clash.

So all that decides how an attempt ends is the layer that it finds, the answers to its survey and,
for the entry, the answer of the catalog.
-/

namespace LayerPress

/-- No record action fails unless the tables refuse it. -/
def Surroundings.IsSound {σ : Type} (env : Surroundings σ) : Prop :=
  ∀ a o, (env.recordFault a o).1 = none

/-- A record action that failed is a statement that the tables refuse. -/
def SiteAction.FaultJustified : (a : SiteAction) → a.Answer → Register → Prop
  | .records (.statement st), .error f, r => r.visible.execute st = .error f
  | .records _, .error _, _ => False
  | _, _, _ => True

/-- What an action may answer and makes of the register in a sound record store. -/
def Register.Serves (a : SiteAction) (x : a.Answer) (r r' : Register) : Prop :=
  Register.Does a x r r' ∧ a.FaultJustified x r

/-- In a sound record store every fault is justified. -/
theorem Site.serves_handle {σ : Type} {env : Surroundings σ} (hsound : env.IsSound)
    (a : SiteAction) (s : Site σ) :
    Register.Serves a (handle env a s).1 s.register (handle env a s).2.register := by
  refine ⟨Site.does_handle env a s, ?_⟩
  cases a with
  | records a =>
    have hnone := hsound a s.outside
    simp only [handle]
    generalize env.recordFault a s.outside = asked at hnone
    obtain ⟨fault, outside⟩ := asked
    obtain rfl : fault = none := hnone
    cases a with
    | statement st =>
      simp only [perform]
      rw [show ({ s with outside := outside } : Site σ).visible = s.register.visible from rfl]
      cases hexecute : s.register.visible.execute st with
      | error f => exact hexecute
      | ok answer => trivial
    | «begin» | commit => trivial
  | _ => trivial

/-- In a sound record store a statement that the tables do not refuse is executed. -/
theorem Site.handle_of_execute {σ : Type} {env : Surroundings σ} (hsound : env.IsSound) (s : Site σ)
    {st : Statement} {v : st.Value} {after : Records} (h : s.visible.execute st = .ok (v, after)) :
    ∃ outside, handle env (.records (.statement st)) s =
      (.ok v, ({ s with outside := outside } : Site σ).withVisible after) := by
  have hnone := hsound (.statement st) s.outside
  refine ⟨(env.recordFault (.statement st) s.outside).2, ?_⟩
  simp only [handle]
  generalize env.recordFault (.statement st) s.outside = asked at hnone
  obtain ⟨fault, outside⟩ := asked
  obtain rfl : fault = none := hnone
  simp only [perform]
  rw [show ({ s with outside := outside } : Site σ).visible = s.visible from rfl, h]

/-- Work in a sound record store does what it ensures there. -/
theorem Site.run_serves {σ α : Type} {env : Surroundings σ} (hsound : env.IsSound) {w : Work α}
    {s : Site σ} {Q : α → Register → List (Exchange siteActions) → Prop}
    (h : Procedure.Ensures Register.Serves Q s.register w) :
    Q (s.run env w).1 (s.run env w).2.register (s.transcript env w) :=
  h.run (Site.serves_handle hsound)

/-- What is ensured of every record store is ensured of a sound one. -/
theorem Procedure.Ensures.serves {α : Type} {r : Register} {w : Work α}
    {Q : α → Register → List (Exchange siteActions) → Prop}
    (h : Procedure.Ensures Register.Does Q r w) : Procedure.Ensures Register.Serves Q r w :=
  h.of_may fun _ _ _ _ hserves => hserves.1

namespace Work

variable {α : Type} {r : Register}

/-- A statement that the tables do not refuse is executed in a sound record store. -/
theorem ensures_execute_of_ok {st : Statement} {v : st.Value} {tables : Records}
    {k : st.Value → Attempt α}
    {Q : Except Failure α → Register → List (Exchange siteActions) → Prop}
    (hexecute : r.visible.execute st = .ok (v, tables))
    (hk : Procedure.Ensures Register.Serves
      (fun b last log => Q b last (⟨.records (.statement st), .ok v⟩ :: log)) (r.write tables)
      (k v).run) :
    Procedure.Ensures Register.Serves Q r (execute st >>= k).run := by
  intro x r' hserves
  obtain ⟨hdoes, hjustified⟩ := hserves
  cases x with
  | error f =>
    change r.visible.execute st = .error f at hjustified
    rw [hexecute] at hjustified
    cases hjustified
  | ok v' =>
    cases hdoes with
    | executed h =>
      rw [hexecute] at h
      cases h
      exact hk

end Work

/-! ## Attributes whose ids clash -/

/-- The fault of a new attribute whose id another attribute has. -/
def attributeClash : RecordFault :=
  .duplicateKey "portal_layer_attribute.id"

/-- With the columns of a layer shown, no two attributes have one id. -/
def Attribute.Distinct (layer : Uuid) (columns : List Column) (rows : List Attribute) : Prop :=
  ((upserted layer 0 columns rows).map (·.id)).Nodup

section
variable {layer : Uuid} {place : Nat} {columns : List Column} {rows : List Attribute}

/-- The ids of shown columns are those from before and those of the new fields. -/
theorem ids_upserted : (upserted layer place columns rows).map (·.id) =
    rows.map (·.id) ++ (newFields layer columns rows).map (attributeId layer) := by
  have hid : Attribute.id ∘ Attribute.reported layer place columns = Attribute.id :=
    funext (Attribute.reported_id layer place columns)
  rw [upserted, List.map_map, hid, List.map_append, List.map_map]
  rfl

/-- Where ids clash they clash when more columns are shown. -/
theorem not_nodup_ids_upserted (h : ¬(rows.map (·.id)).Nodup) :
    ¬((upserted layer place columns rows).map (·.id)).Nodup := by
  rw [ids_upserted]
  intro hnodup
  exact h (List.nodup_append.mp hnodup).1

/-- A new field of a stored layer is refused only for its id. -/
theorem Records.insertAttribute_eq_error {tables : Records} {a : Attribute} {f : RecordFault}
    (hparent : (tables.layer? a.layer).isSome = true) (hnew : tables.attribute? a.layer a.field = none)
    (h : tables.insertAttribute a = .error f) :
    f = attributeClash ∧ a.id ∈ tables.attributes.map (·.id) := by
  obtain ⟨parent, hparent⟩ := Option.isSome_iff_exists.mp hparent
  unfold insertAttribute at h
  split at h
  · next hid =>
    cases h
    obtain ⟨b, hb, hbid⟩ := List.any_eq_true.mp hid
    exact ⟨rfl, List.mem_map.mpr ⟨b, hb, beq_iff_eq.mp hbid⟩⟩
  · simp [hnew, hparent] at h

end

namespace Work

/-- In a sound record store only a clash of ids keeps a column from being shown. -/
theorem ensures_upsertAttribute_sound {layer : Uuid} {column : Column} {place : Nat}
    {stored tables : Records} (hparent : (tables.layer? layer).isSome = true) :
    Procedure.Ensures Register.Serves (fun answer _ _ => ∀ f, answer = .error f →
        f = .records attributeClash ∧
          tables.attributes.any (Attribute.isFor layer column.name) = false ∧
          attributeId layer column.name ∈ tables.attributes.map (·.id))
      ⟨stored, some tables⟩ (upsertAttribute layer column place).run := by
  have hfind : (⟨stored, some tables⟩ : Register).visible.execute
      (.findAttribute layer column.name) = .ok (tables.attribute? layer column.name, tables) := rfl
  apply ensures_execute_of_ok hfind
  cases hfound : tables.attribute? layer column.name with
  | some a =>
    intro x r' hserves
    cases x with
    | ok =>
      intro f hf
      cases hf
    | error f =>
      have hmem : a ∈ tables.attributes := List.mem_of_find?_eq_some hfound
      have hany : tables.attributes.any (·.id == a.id) = true :=
        List.any_eq_true.mpr ⟨a, hmem, beq_self_eq_true _⟩
      have hrefused : (tables.showAttribute a.id (Naming.displayLabel column.name)
          (Attribute.orderAt place)).map (((), ·)) = .error f := hserves.2
      rw [Records.showAttribute, if_pos hany] at hrefused
      cases hrefused
  | none =>
    intro x r' hserves
    cases x with
    | ok =>
      intro f hf
      cases hf
    | error f =>
      intro g hg
      cases hg
      let added := (Attribute.blank layer column.name).shownAt place
      have hrefused : (tables.insertAttribute added).map (((), ·)) = .error f := hserves.2
      cases hinsert : tables.insertAttribute added with
      | ok after =>
        rw [hinsert] at hrefused
        cases hrefused
      | error g =>
        rw [hinsert] at hrefused
        cases hrefused
        obtain ⟨rfl, hid⟩ := Records.insertAttribute_eq_error hparent hfound hinsert
        exact ⟨rfl, List.any_eq_false.mpr fun b hb => List.find?_eq_none.mp hfound b hb, hid⟩

/-- In a sound record store only a clash of ids keeps columns from being shown. -/
theorem ensures_upsertAttributes_sound (layer : Uuid) (columns : List Column) (place : Nat)
    (stored tables : Records) (hparent : (tables.layer? layer).isSome = true)
    (hkeyed : Attribute.Keyed tables.attributes) :
    Procedure.Ensures Register.Serves (fun answer _ _ => ∀ f, answer = .error f →
        f = .records attributeClash ∧
          ¬((upserted layer place columns tables.attributes).map (·.id)).Nodup)
      ⟨stored, some tables⟩ (upsertAttributes layer place columns).run := by
  induction columns generalizing place tables with
  | nil => exact nofun
  | cons column rest ih =>
    have hone := (ensures_upsertAttribute layer column place stored tables).serves.and
      (ensures_upsertAttribute_sound hparent)
    apply hone.bindExcept
    · intro _ last log h
      obtain ⟨hshown, -⟩ := h
      cases hshown with
      | @shown _ rows hrows hlog =>
        obtain ⟨hafter, hrest⟩ := hrows hkeyed
        rw [hrest]
        exact ih (place + 1) ⟨tables.layers, rows⟩ hparent hafter
    · intro f last log h g hg
      cases hg
      obtain ⟨rfl, hnew, hid⟩ := h.2 f rfl
      refine ⟨rfl, ?_⟩
      rw [upserted_cons_of_not_any hnew]
      apply not_nodup_ids_upserted
      rw [List.map_append]
      intro hnodup
      exact (List.nodup_append.mp hnodup).2.2 _ hid _ (List.mem_singleton_self _) rfl

/-- Showing columns asks nothing, and nothing of it is seen from outside. -/
theorem ShowsColumns.unseen {stored tables : Records} {becomes : List Attribute → Prop}
    {answer : Except Failure Unit} {last : Register} {log : List (Exchange siteActions)}
    (h : ShowsColumns stored tables becomes answer last log) : outward log = [] ∧ asked log = [] := by
  have hlog : ∀ e ∈ log, e.isStatement = true := by
    cases h with
    | failed f draft hlog => exact hlog
    | shown hrows hlog => exact fun e he => (hlog e he).1
  have hunseen : ∀ e ∈ log, e.outward? = none ∧ e.action.isQuestion = false := by
    intro e he
    have hstatement := hlog e he
    obtain ⟨a, x⟩ := e
    cases a with
    | records => exact ⟨rfl, rfl⟩
    | _ => cases hstatement
  constructor
  · exact List.filterMap_eq_nil_iff.mpr fun e he => (hunseen e he).1
  · apply List.filter_eq_nil_iff.mpr
    intro e he
    simp [(hunseen e he).2]

/-- A transaction begins and ends without a fault in a sound record store. What keeps it from
succeeding has kept its body from that. -/
theorem ensures_inTransaction_sound {α : Type} {before : Records} {body : Attempt α}
    {seen : List SiteAction} {C : Failure → Prop}
    (hbody : Procedure.Ensures Register.Serves (fun answer _ log =>
        outward log = seen ∧ asked log = [] ∧ ∀ f, answer = .error f → C f)
      ⟨before, some before⟩ body.run) :
    Procedure.Ensures Register.Serves (fun answer _ log =>
        outward log = seen ∧ asked log = [] ∧ ∀ f, answer = .error f → C f)
      ⟨before, none⟩ (inTransaction body).run := by
  have hcommitted : Procedure.Ensures Register.Serves (fun answer _ log =>
      outward log = seen ∧ asked log = [] ∧ ∀ f, answer = .error f → C f) ⟨before, some before⟩
      (body >>= fun a => do records .commit; return a).run := by
    apply hbody.bindExcept
    · intro a last log h x r' hserves
      cases x with
      | error f => exact hserves.2.elim
      | ok v =>
        change outward (log ++ [_]) = seen ∧ asked (log ++ [_]) = [] ∧ _
        rw [outward_append, asked_append, h.1, h.2.1]
        exact ⟨List.append_nil seen, rfl, nofun⟩
    · intro f last log h
      exact h
  intro x r' hserves
  cases x with
  | error f => exact hserves.2.elim
  | ok v =>
    cases hserves.1 with
    | began =>
      apply hcommitted.liftBind
      intro answer last log h
      cases answer with
      | ok a =>
        change outward (log ++ []) = seen ∧ asked (log ++ []) = [] ∧ _
        rw [List.append_nil]
        exact ⟨h.1, h.2.1, nofun⟩
      | error f =>
        intro _ r'' _
        change outward (log ++ [_]) = seen ∧ asked (log ++ [_]) = [] ∧ ∀ g, _ → C g
        rw [outward_append, asked_append, h.1, h.2.1]
        exact ⟨List.append_nil seen, rfl, h.2.2⟩

/-- In a sound record store only a clash of ids keeps a load from being recorded. -/
theorem ensures_recordLoad_sound {id : Uuid} {before : Records} {layer : Layer}
    (hfound : before.layer? id = some layer) (hkeyed : Attribute.Keyed before.attributes)
    (t : TableReport) :
    Procedure.Ensures Register.Serves (fun answer _ log =>
        outward log = [.note .creatingAttributes] ∧ asked log = [] ∧
          ∀ f, answer = .error f → f = .records attributeClash ∧
            ¬Attribute.Distinct id t.columns before.attributes)
      ⟨before, none⟩
      (recordLoad id (Naming.tableName layer.slug) t.features t.kind t.extent t.columns).run := by
  obtain rfl : layer.id = id := id_of_row? hfound
  apply ensures_inTransaction_sound
  intro now r' hserves
  obtain rfl : r' = ⟨before, some before⟩ := hserves.1
  let tables : Records := { before with layers := before.layers.map fun row =>
    if row.id == layer.id then (t.change layer now).apply row else row }
  have hchange : (⟨before, some before⟩ : Register).visible.execute
      (.changeLayer layer.id (t.change layer now)) =
        .ok ((t.change layer now).apply layer, tables) := by
    change before.changeLayer layer.id (t.change layer now) = _
    rw [Records.changeLayer, hfound]
  apply ensures_execute_of_ok hchange
  intro _ r'' hnote
  obtain rfl : r'' = ⟨before, some tables⟩ := hnote.1
  have hparent : (tables.layer? layer.id).isSome = true := by
    rw [Records.layer?_changed hfound]
    rfl
  have hshown := (ensures_upsertAttributes layer.id t.columns 0 before tables).serves.and
    (ensures_upsertAttributes_sound layer.id t.columns 0 before tables hparent hkeyed)
  apply hshown.bindExcept
  · intro _ last log h
    obtain ⟨houtward, hasked⟩ := h.1.unseen
    refine ⟨?_, ?_, by simp⟩
    · rw [List.append_nil]
      simpa using houtward
    · rw [List.append_nil]
      exact hasked
  · intro f last log h
    obtain ⟨houtward, hasked⟩ := h.1.unseen
    refine ⟨?_, hasked, ?_⟩
    · simpa using houtward
    · intro g hg
      cases hg
      exact h.2 f rfl

/-- In a sound record store the entry of a stored layer is recorded. -/
theorem ensures_publish_sound {settings : ImportSettings} {tables : Records} {row : Layer}
    (hrow : (tables.layer? row.id).isSome = true) (table : String) :
    Procedure.Ensures Register.Serves (fun answer _ _ => ∃ entry, answer = .ok entry)
      ⟨tables, none⟩ (publish settings row table).run := by
  intro published r' hpublished
  obtain rfl : r' = ⟨tables, none⟩ := hpublished.1
  cases published with
  | error f => exact ⟨none, rfl⟩
  | ok action =>
    intro now r'' hnow
    obtain rfl : r'' = ⟨tables, none⟩ := hnow.1
    obtain ⟨stored, hstored⟩ := Option.isSome_iff_exists.mp hrow
    let entry := LayerChange.published (settings.workspace ++ ":" ++ table) now
    let after : Records := { tables with
      layers := tables.layers.map fun l => if l.id == row.id then entry.apply l else l }
    have hchange : (⟨tables, none⟩ : Register).visible.execute (.changeLayer row.id entry) =
        .ok (entry.apply stored, after) := by
      change tables.changeLayer row.id entry = _
      rw [Records.changeLayer, hstored]
    exact ensures_execute_of_ok hchange ⟨_, rfl⟩

end Work

/-! ## How an attempt ends -/

/-- How recording and publishing a surveyed layer ends in a sound record store: with ids that
clash, and the tables as they were, or with a recorded load and the answer of the catalog. -/
inductive FinishEnd (settings : ImportSettings) (id : Uuid) (before : Records) (layer : Layer)
    (t : TableReport) : Except Failure ImportOutcome → Register → List (Exchange siteActions) → Prop
  | clashing {log : List (Exchange siteActions)}
      (hclash : ¬Attribute.Distinct id t.columns before.attributes)
      (hseen : outward log = [.note .updatingRecord, .note .creatingAttributes])
      (hasked : asked log = []) :
      FinishEnd settings id before layer t (.error (.records attributeClash)) ⟨before, none⟩ log
  | published {published : Except Failure PublishAction}
      {recording closing : List (Exchange siteActions)} {last : Register}
      (hdistinct : Attribute.Distinct id t.columns before.attributes)
      (hseen : outward recording =
        [.note .updatingRecord, .note .creatingAttributes, .note .publishing])
      (hasked : asked recording = []) (hclosing : outward closing = [.note .done])
      (htables : Records.HoldsLoad id layer t
        ((settings.entryFrom layer published).or layer.catalogEntry) before last.stored)
      (hdraft : last.draft = none) :
      FinishEnd settings id before layer t
        (.ok (.loaded (Naming.tableName layer.slug) t.features t.kind
          (settings.entryFrom layer published))) last
        (recording ++ ⟨.call (settings.publicationOf layer), published⟩ :: closing)

/-- How an attempt ends in a sound record store: without a layer, with a survey that failed, or
with a survey from which its layer is recorded and published. -/
inductive SoundEnd (settings : ImportSettings) (id : Uuid) (before : Records) :
    Except Failure ImportOutcome → Register → List (Exchange siteActions) → Prop
  | unknown (hfound : before.layer? id = none) :
      SoundEnd settings id before (.error (.layerNotFound id)) ⟨before, none⟩
        [⟨.records (.statement (.findLayer id)), .ok none⟩]
  | unsurveyed {layer : Layer} {f : Failure} {surveyed : List (Exchange siteActions)}
      (hfound : before.layer? id = some layer)
      (hsurvey : SurveyEnd settings layer (.error f) surveyed)
      (hyields : (Work.survey settings layer).run.Yields surveyed (.error f)) :
      SoundEnd settings id before (.error f) ⟨before, none⟩
        (⟨.records (.statement (.findLayer id)), .ok (some layer)⟩ :: surveyed)
  | surveyed {layer : Layer} {t : TableReport} {answer : Except Failure ImportOutcome}
      {surveyed finish : List (Exchange siteActions)} {last : Register}
      (hfound : before.layer? id = some layer)
      (hsurvey : SurveyEnd settings layer (.ok t) surveyed)
      (hyields : (Work.survey settings layer).run.Yields surveyed (.ok t))
      (hfinish : FinishEnd settings id before layer t answer last finish) :
      SoundEnd settings id before answer last
        (⟨.records (.statement (.findLayer id)), .ok (some layer)⟩ :: (surveyed ++ finish))

section
variable {settings : ImportSettings} {id : Uuid} {before : Records} {layer : Layer}
  {answer : Except Failure ImportOutcome} {last : Register} {log : List (Exchange siteActions)}

/-- An attempt that finds no layer ends at once. -/
theorem SoundEnd.of_none (h : SoundEnd settings id before answer last log)
    (hnone : before.layer? id = none) :
    answer = .error (.layerNotFound id) ∧ last = ⟨before, none⟩ ∧
      log = [⟨.records (.statement (.findLayer id)), .ok none⟩] := by
  cases h with
  | unknown => exact ⟨rfl, rfl, rfl⟩
  | unsurveyed hfound | surveyed hfound =>
    rw [hnone] at hfound
    cases hfound

/-- An attempt that finds its layer makes a survey, and ends as it fails or as what follows. -/
theorem SoundEnd.of_some (h : SoundEnd settings id before answer last log)
    (hfound : before.layer? id = some layer) : ∃ report surveyed finish,
      log = ⟨.records (.statement (.findLayer id)), .ok (some layer)⟩ :: (surveyed ++ finish) ∧
      SurveyEnd settings layer report surveyed ∧
      (Work.survey settings layer).run.Yields surveyed report ∧
      match report with
      | .ok t => FinishEnd settings id before layer t answer last finish
      | .error f => answer = .error f ∧ last = ⟨before, none⟩ ∧ finish = [] := by
  cases h with
  | unknown hnone =>
    rw [hfound] at hnone
    cases hnone
  | @unsurveyed _ f surveyed hfound' hsurvey hyields =>
    rw [hfound] at hfound'
    cases hfound'
    exact ⟨.error f, surveyed, [], by rw [List.append_nil], hsurvey, hyields, rfl, rfl, rfl⟩
  | @surveyed _ t _ surveyed finish _ hfound' hsurvey hyields hfinish =>
    rw [hfound] at hfound'
    cases hfound'
    exact ⟨.ok t, surveyed, finish, rfl, hsurvey, hyields, hfinish⟩

end

namespace Work

variable {settings : ImportSettings} {id : Uuid} {before : Records} {layer : Layer}
  {t : TableReport}

/-- In a sound record store a load is recorded with distinct ids, or not at all as ids clash. -/
theorem ensures_recordLoad_ends (hfound : before.layer? id = some layer)
    (hkeyed : Attribute.Keyed before.attributes) (t : TableReport) :
    Procedure.Ensures Register.Serves (fun answer last log =>
        outward log = [.note .creatingAttributes] ∧ asked log = [] ∧
          match answer with
          | .ok row => ∃ after now, last = ⟨after, none⟩ ∧ row = (t.change layer now).apply layer ∧
              Records.Loaded id layer t now before after ∧
              Attribute.Distinct id t.columns before.attributes
          | .error f => last = ⟨before, none⟩ ∧ f = .records attributeClash ∧
              ¬Attribute.Distinct id t.columns before.attributes)
      ⟨before, none⟩
      (recordLoad id (Naming.tableName layer.slug) t.features t.kind t.extent t.columns).run := by
  have hkept : Procedure.Ensures Register.Does (fun _ last _ => last.Keyed) ⟨before, none⟩
      (recordLoad id (Naming.tableName layer.slug) t.features t.kind t.extent t.columns).run :=
    Procedure.Ensures.invariant (fun _ _ _ _ hr hdoes => hr.does hdoes) _ ⟨hkeyed, hkeyed⟩
  have hrecord := ((ensures_recordLoad hfound t).and hkept).serves.and
    (ensures_recordLoad_sound hfound hkeyed t)
  apply hrecord.mono
  intro answer last log h
  obtain ⟨⟨hanswer, hlast⟩, hseen, hasked, hclash⟩ := h
  refine ⟨hseen, hasked, ?_⟩
  cases answer with
  | ok row =>
    obtain ⟨after, done, now, rfl, -, hloaded, hrow, -⟩ := hanswer
    have hdistinct : Attribute.Distinct id t.columns before.attributes := by
      rw [Attribute.Distinct, ← hloaded.attributes hkeyed]
      exact hlast.stored.ids
    exact ⟨after, now, rfl, hrow, hloaded, hdistinct⟩
  | error f => exact ⟨hanswer.1, hclash f rfl⟩

/-- In a sound record store a loaded layer is published as the catalog answers. -/
theorem ensures_publish_ends {tables : Records} {now : Timestamp}
    (hloaded : Records.Loaded id layer t now before tables)
    (hkeyed : Attribute.Keyed before.attributes) :
    Procedure.Ensures Register.Serves (fun answer last (log : List (Exchange siteActions)) =>
        ∃ published more,
          log = ⟨.call (settings.publicationOf layer), published⟩ :: more ∧ outward more = [] ∧
          answer = .ok (settings.entryFrom layer published) ∧
          Records.HoldsLoad id layer t ((settings.entryFrom layer published).or layer.catalogEntry)
            before last.stored ∧ last.draft = none)
      ⟨tables, none⟩
      (publish settings ((t.change layer now).apply layer) (Naming.tableName layer.slug)).run := by
  have hid : ((t.change layer now).apply layer).id = id :=
    (LayerChange.apply_id _ layer).trans (id_of_row? hloaded.found)
  have hstored : (tables.layer? ((t.change layer now).apply layer).id).isSome = true := by
    rw [hid, hloaded.layer?]
    rfl
  have htables := hloaded.holdsLoad hkeyed
  have hpublish : Procedure.Ensures Register.Does (PublishEnd settings id layer tables)
      ⟨tables, none⟩ (publish settings ((t.change layer now).apply layer)
        (Naming.tableName layer.slug)).run :=
    ensures_publish hid rfl
  apply (hpublish.serves.and (ensures_publish_sound hstored _)).mono
  intro answer last log h
  obtain ⟨hend, entry, rfl⟩ := h
  cases hend with
  | refused f => exact ⟨.error f, [], rfl, rfl, rfl, htables, rfl⟩
  | recorded action moment row =>
    exact ⟨.ok action, _, rfl, rfl, rfl, htables.withEntry _ moment, rfl⟩

/-- In a sound record store a surveyed layer is recorded and published, unless ids clash. -/
theorem ensures_finish_sound (hfound : before.layer? id = some layer)
    (hkeyed : Attribute.Keyed before.attributes) (t : TableReport) :
    Procedure.Ensures Register.Serves (FinishEnd settings id before layer t) ⟨before, none⟩ (do
      liftM (m := Work) (note .updatingRecord)
      let row ← recordLoad id (Naming.tableName layer.slug) t.features t.kind t.extent t.columns
      liftM (m := Work) (note .publishing)
      let entry ← publish settings row (Naming.tableName layer.slug)
      liftM (m := Work) (note .done)
      return .loaded (Naming.tableName layer.slug) t.features t.kind entry :
        Attempt ImportOutcome).run := by
  intro _ r' hnote
  obtain rfl : r' = ⟨before, none⟩ := hnote.1
  apply (ensures_recordLoad_ends hfound hkeyed t).bindExcept
  · intro row last log h
    obtain ⟨hlog, hasked, after, now, rfl, rfl, hloaded, hdistinct⟩ := h
    intro _ r' hnote
    obtain rfl : r' = ⟨after, none⟩ := hnote.1
    let recording : List (Exchange siteActions) :=
      ⟨.note .updatingRecord, ()⟩ :: (log ++ [⟨.note .publishing, ()⟩])
    have hseen : outward recording =
        [.note .updatingRecord, .note .creatingAttributes, .note .publishing] := by
      simp [recording, hlog]
    have hunasked : asked recording = [] := by
      change asked (log ++ [⟨.note .publishing, ()⟩]) = []
      rw [asked_append, hasked]
      rfl
    apply (ensures_publish_ends hloaded hkeyed).bindExcept
    · intro entry last publishing h
      obtain ⟨published, more, rfl, hmore, hentry, htables, hdraft⟩ := h
      cases hentry
      intro _ r' hnote
      obtain rfl : r' = last := hnote.1
      have hclosing : outward (more ++ [⟨.note .done, ()⟩]) = [.note .done] := by
        simp [hmore]
      have hend := FinishEnd.published hdistinct hseen hunasked hclosing htables hdraft
      simp only [recording, List.append_assoc, List.cons_append, List.nil_append] at hend
      exact hend
    · intro f last publishing h
      obtain ⟨_, _, _, _, hentry, _⟩ := h
      cases hentry
  · intro f last log h
    obtain ⟨hlog, hasked, rfl, rfl, hclash⟩ := h
    have hseen : outward (⟨.note .updatingRecord, ()⟩ :: log) =
        [.note .updatingRecord, .note .creatingAttributes] := by
      simp [hlog]
    exact .clashing hclash hseen hasked

/-- In a sound record store an attempt ends as its survey, its ids and the catalog have it. -/
theorem ensures_importLayer_sound (settings : ImportSettings) (id : Uuid)
    (hkeyed : Attribute.Keyed before.attributes) :
    Procedure.Ensures Register.Serves (SoundEnd settings id before) ⟨before, none⟩
      (importLayer settings id).run := by
  rw [importLayer_eq]
  have hfind : (⟨before, none⟩ : Register).visible.execute (.findLayer id) =
      .ok (before.layer? id, before) := rfl
  apply ensures_execute_of_ok hfind
  cases hfound : before.layer? id with
  | none => exact .unknown hfound
  | some layer =>
    have hsurveyed := ((ensures_survey settings layer).serves (r := ⟨before, none⟩)).and
      (Procedure.ensures_yields Register.Serves (survey settings layer).run ⟨before, none⟩)
    apply hsurveyed.bindExcept
    · intro t last surveyed h
      obtain ⟨⟨rfl, hsurvey⟩, hyields⟩ := h
      apply (ensures_finish_sound hfound hkeyed t).mono
      intro answer last finish hfinish
      exact .surveyed hfound hsurvey hyields hfinish
    · intro f last surveyed h
      obtain ⟨⟨rfl, hsurvey⟩, hyields⟩ := h
      exact .unsurveyed hfound hsurvey hyields

end Work

/-- On a site with a sound record store and no open transaction, an attempt ends as in one. -/
theorem Site.soundEnd_importLayer {σ : Type} {env : Surroundings σ} (hsound : env.IsSound)
    (settings : ImportSettings) (id : Uuid) (s : Site σ) (hclosed : s.working = none)
    (hkeyed : Attribute.Keyed s.records.attributes) :
    SoundEnd settings id s.records (s.run env (Work.importLayer settings id).run).1
      (s.run env (Work.importLayer settings id).run).2.register
      (s.transcript env (Work.importLayer settings id).run) := by
  have hregister : s.register = ⟨s.records, none⟩ := by rw [Site.register, hclosed]
  apply Site.run_serves hsound
  rw [hregister]
  exact Work.ensures_importLayer_sound settings id hkeyed

end LayerPress
