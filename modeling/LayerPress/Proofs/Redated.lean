import LayerPress.Proofs.Itinerary
import Mathlib.Data.List.Forall2
import Mathlib.Data.Option.Basic

/-!
# Runs that are the same but for metadata and the time

Two surroundings give the same answers, except for metadata: one may fail to answer where the
other says that there is no extent or no column, and one may have no sample where the other has
one of an unknown type. Their clocks may differ, and their record stores refuse the same actions
whatever the time is that these write. Which times may stand for each other is a relation, so that
equality gives surroundings with the same clock.

Pieces of work are run side by side in such surroundings, on sites that are the same but for the
time at which layers were changed. They are paired if they show the same to the outside, end with
results in a relation, and leave such sites again. Paired pieces in a row are paired, and so is
every single action that does not read metadata.
-/

namespace LayerPress

/-! ## Records -/

/-- Two answers are the same failure, or two values in a relation. -/
inductive SameEnd {ε α β : Type} (B : α → β → Prop) : Except ε α → Except ε β → Prop
  | ok {a : α} {b : β} (h : B a b) : SameEnd B (.ok a) (.ok b)
  | error (e : ε) : SameEnd B (.error e) (.error e)

/-- Answers with equal values are equal. -/
theorem SameEnd.eq {ε α : Type} {x y : Except ε α} (h : SameEnd Eq x y) : y = x := by
  cases h with
  | ok h => rw [h]
  | error => rfl

/-- Equal answers have equal values. -/
theorem SameEnd.refl {ε α : Type} (x : Except ε α) : SameEnd Eq x x := by
  cases x with
  | ok a => exact .ok rfl
  | error e => exact .error e

section
variable (T : Timestamp → Timestamp → Prop)

/-- Two rows are the same but for the time at which the layer was changed. -/
structure Layer.Redated (l l' : Layer) : Prop where
  row : l' = { l with updatedAt := l'.updatedAt }
  time : T l.updatedAt l'.updatedAt

/-- Tables are the same but for the times at which layers were changed. -/
structure Records.Redated (r r' : Records) : Prop where
  layers : List.Forall₂ (Layer.Redated T) r.layers r'.layers
  attributes : r'.attributes = r.attributes

/-- Changes of a layer are the same but for the time. -/
inductive LayerChange.Redated : LayerChange → LayerChange → Prop
  | loaded (table : String) (features : Int) (kind : Naming.GeometryKind)
      (extent : Option BoundingBox) {moment moment' : Timestamp} (h : T moment moment') :
      Redated (.loaded table features kind extent moment)
        (.loaded table features kind extent moment')
  | published (entry : String) {moment moment' : Timestamp} (h : T moment moment') :
      Redated (.published entry moment) (.published entry moment')
  | cleared {moment moment' : Timestamp} (h : T moment moment') :
      Redated (.cleared moment) (.cleared moment')

/-- Record actions are the same but for the time that they write. -/
inductive RecordAction.Redated : RecordAction → RecordAction → Prop
  | refl (a : RecordAction) : Redated a a
  | changed (id : Uuid) {change change' : LayerChange} (h : change.Redated T change') :
      Redated (.statement (.changeLayer id change)) (.statement (.changeLayer id change'))

/-- Two statements do the same to tables that are the same but for times, with values in a
relation. -/
def Statement.Paired (st st' : Statement) (B : st.Value → st'.Value → Prop) : Prop :=
  ∀ r r', Records.Redated T r r' →
    SameEnd (fun answer answer' => B answer.1 answer'.1 ∧ answer.2.Redated T answer'.2)
      (r.execute st) (r'.execute st')

end

section
variable {T : Timestamp → Timestamp → Prop} {l l' : Layer} {r r' : Records}

namespace Layer.Redated

/-- Every row is the same as itself. -/
theorem refl (hT : ∀ moment, T moment moment) (l : Layer) : l.Redated T l :=
  ⟨rfl, hT _⟩

/-- At the same time redated rows are the same. -/
theorem eq (h : l.Redated Eq l') : l' = l := by
  rw [h.row, ← h.time]

/-- Redated rows have the same id. -/
theorem id_eq (h : l.Redated T l') : l'.id = l.id := by
  rw [h.row]

/-- Redated rows stay so when they are changed alike. -/
theorem apply (h : l.Redated T l') {change change' : LayerChange}
    (hchange : change.Redated T change') : (change.apply l).Redated T (change'.apply l') := by
  rw [h.row]
  cases hchange with
  | loaded _ _ _ _ htime | published _ htime | cleared htime => exact ⟨rfl, htime⟩

end Layer.Redated

/-- At the same time redated actions are the same. -/
theorem RecordAction.Redated.eq {a a' : RecordAction} (h : a.Redated Eq a') : a' = a := by
  cases h with
  | refl => rfl
  | changed id h =>
    cases h with
    | loaded _ _ _ _ htime | published _ htime | cleared htime => rw [htime]

namespace Records.Redated

/-- All tables are the same as themselves. -/
theorem refl (hT : ∀ moment, T moment moment) (r : Records) : r.Redated T r :=
  ⟨List.forall₂_same.mpr fun l _ => .refl hT l, rfl⟩

/-- At the same times redated tables are the same. -/
theorem eq (h : r.Redated Eq r') : r' = r := by
  obtain ⟨layers, attributes⟩ := r
  obtain ⟨layers', attributes'⟩ := r'
  have hlayers : List.Forall₂ Eq layers layers' := h.layers.imp fun _ _ hl => hl.eq.symm
  rw [List.forall₂_eq_eq_eq] at hlayers
  subst hlayers
  obtain rfl : attributes' = attributes := h.attributes
  rfl

/-- Redated tables have redated rows for the same ids. -/
theorem layer? (h : r.Redated T r') (id : Uuid) :
    Option.Rel (Layer.Redated T) (r.layer? id) (r'.layer? id) := by
  obtain ⟨layers, attributes⟩ := r
  obtain ⟨layers', attributes'⟩ := r'
  have hlayers : List.Forall₂ (Layer.Redated T) layers layers' := h.layers
  change Option.Rel _ (layers.find? _) (layers'.find? _)
  clear h
  induction hlayers with
  | nil => exact .none
  | @cons l l' rest rest' hl _ ih =>
    rw [List.find?_cons, List.find?_cons, hl.id_eq]
    split
    · exact .some hl
    · exact ih

/-- Redated tables show the same attributes. -/
theorem attribute?_eq (h : r.Redated T r') (layer : Uuid) (field : String) :
    r'.attribute? layer field = r.attribute? layer field := by
  rw [Records.attribute?, h.attributes]
  rfl

/-- Redated tables with the same attributes instead are redated. -/
theorem withAttributes (h : r.Redated T r') (rows : List Attribute) :
    ({ r with attributes := rows } : Records).Redated T { r' with attributes := rows } :=
  ⟨h.layers, rfl⟩

end Records.Redated

namespace Statement

/-- Finding a layer. -/
theorem paired_findLayer (id : Uuid) :
    Paired T (.findLayer id) (.findLayer id) (Option.Rel (Layer.Redated T)) := by
  intro r r' h
  exact .ok ⟨h.layer? id, h⟩

/-- Changing a layer, at one time or another. -/
theorem paired_changeLayer (id : Uuid) {change change' : LayerChange}
    (hchange : change.Redated T change') :
    Paired T (.changeLayer id change) (.changeLayer id change') (Layer.Redated T) := by
  intro r r' h
  have hfound := h.layer? id
  change SameEnd _ (r.changeLayer id change) (r'.changeLayer id change')
  unfold Records.changeLayer
  generalize r.layer? id = found at hfound
  generalize r'.layer? id = found' at hfound
  cases hfound with
  | none => exact .error _
  | some hrow =>
    refine .ok ⟨hrow.apply hchange, ?_, h.attributes⟩
    apply List.forall₂_map_left_iff.mpr
    apply List.forall₂_map_right_iff.mpr
    refine h.layers.imp fun l l' hl => ?_
    rw [hl.id_eq]
    split
    · exact hl.apply hchange
    · exact hl

/-- Finding an attribute. -/
theorem paired_findAttribute (layer : Uuid) (field : String) :
    Paired T (.findAttribute layer field) (.findAttribute layer field) Eq := by
  intro r r' h
  exact .ok ⟨(h.attribute?_eq layer field).symm, h⟩

/-- Adding an attribute. -/
theorem paired_insertAttribute (a : Attribute) :
    Paired T (.insertAttribute a) (.insertAttribute a) Eq := by
  intro r r' h
  have hparent := h.layer? a.layer
  change SameEnd _ ((r.insertAttribute a).map _) ((r'.insertAttribute a).map _)
  unfold Records.insertAttribute
  rw [h.attribute?_eq, h.attributes]
  split
  · exact .error _
  · split
    · exact .error _
    · generalize r.layer? a.layer = found at hparent
      generalize r'.layer? a.layer = found' at hparent
      cases hparent with
      | none => exact .error _
      | some => exact .ok ⟨rfl, h.withAttributes _⟩

/-- Showing an attribute. -/
theorem paired_showAttribute (id : Uuid) (name : String) (place : Int) :
    Paired T (.showAttribute id name place) (.showAttribute id name place) Eq := by
  intro r r' h
  change SameEnd _ ((r.showAttribute id name place).map _) ((r'.showAttribute id name place).map _)
  unfold Records.showAttribute
  rw [h.attributes]
  split
  · exact .ok ⟨rfl, h.withAttributes _⟩
  · exact .error _

end Statement

end

/-! ## Surroundings and sites -/

/-- What an import takes from the answer to a call. Without an answer a table has no extent and no
columns, and without a sample its geometry is of the unknown type. -/
def ServiceCall.settled : (c : ServiceCall) → Except Failure c.Value → Except Failure c.Value
  | .extent _, .error _ => .ok none
  | .columns _, .error _ => .ok []
  | .geometryType _, .ok none => .ok (some unknownGeometry)
  | _, x => x

/-- The action asks nothing of what lies outside and is no record action. -/
def SiteAction.isLocal : SiteAction → Bool
  | .call _ | .records _ | .now => false
  | _ => true

section
variable {σ : Type} (T : Timestamp → Timestamp → Prop)

/-- Surroundings answer the same as far as an import takes it, record stores refuse the same actions
whatever time they write, and clocks show times that may stand for each other. -/
structure Surroundings.Differ (env env' : Surroundings σ) : Prop where
  answer : ∀ (c : ServiceCall) o, c.settled (env'.answer c o).1 = c.settled (env.answer c o).1
  afterAnswer : ∀ c o, (env'.answer c o).2 = (env.answer c o).2
  recordFault : ∀ a a' o, RecordAction.Redated T a a' →
    env'.recordFault a' o = env.recordFault a o
  now : ∀ o, T (env.now o).1 (env'.now o).1
  afterNow : ∀ o, (env'.now o).2 = (env.now o).2

/-- Sites are the same but for the times at which layers were changed. -/
structure Site.Redated (s s' : Site σ) : Prop where
  disk : s'.disk = s.disk
  scratchRoot : s'.scratchRoot = s.scratchRoot
  records : s.records.Redated T s'.records
  working : Option.Rel (Records.Redated T) s.working s'.working
  outside : s'.outside = s.outside
  stages : s'.stages = s.stages

end

namespace Site.Redated

variable {σ : Type} {T : Timestamp → Timestamp → Prop} {s s' : Site σ}

/-- A site is the same as itself. -/
theorem refl (hT : ∀ moment, T moment moment) (s : Site σ) : s.Redated T s where
  disk := rfl
  scratchRoot := rfl
  records := .refl hT s.records
  working := by
    cases s.working with
    | none => exact .none
    | some r => exact .some (.refl hT r)
  outside := rfl
  stages := rfl

/-- At the same times redated sites are the same. -/
theorem eq (h : s.Redated Eq s') : s' = s := by
  obtain ⟨disk, scratchRoot, records, working, outside, stages⟩ := s
  obtain ⟨disk', scratchRoot', records', working', outside', stages'⟩ := s'
  obtain ⟨hdisk, hroot, hrecords, hworking, houtside, hstages⟩ := h
  dsimp only at hdisk hroot hrecords hworking houtside hstages
  subst hdisk hroot houtside hstages
  obtain rfl := hrecords.eq
  cases hworking with
  | none => rfl
  | some hdraft =>
    obtain rfl := hdraft.eq
    rfl

/-- Statements see redated tables on redated sites. -/
theorem visible (h : s.Redated T s') : s.visible.Redated T s'.visible := by
  obtain ⟨disk, scratchRoot, records, working, outside, stages⟩ := s
  obtain ⟨disk', scratchRoot', records', working', outside', stages'⟩ := s'
  have hworking : Option.Rel (Records.Redated T) working working' := h.working
  cases hworking with
  | none => exact h.records
  | some hdraft => exact hdraft

/-- Redated sites stay so when statements leave redated tables. -/
theorem withVisible (h : s.Redated T s') {r r' : Records} (hr : r.Redated T r') :
    (s.withVisible r).Redated T (s'.withVisible r') := by
  obtain ⟨disk, scratchRoot, records, working, outside, stages⟩ := s
  obtain ⟨disk', scratchRoot', records', working', outside', stages'⟩ := s'
  obtain ⟨hdisk, hroot, hrecords, hworking, houtside, hstages⟩ := h
  dsimp only at hworking
  cases hworking with
  | none => exact ⟨hdisk, hroot, hr, .none, houtside, hstages⟩
  | some hdraft => exact ⟨hdisk, hroot, hrecords, .some hr, houtside, hstages⟩

end Site.Redated

section
variable {σ : Type} (T : Timestamp → Timestamp → Prop)

/-- Two runs show the same to the outside, end with results in a relation, and leave sites that are
the same but for times. -/
structure Work.EndPaired {α β : Type} (env env' : Surroundings σ) (B : α → β → Prop) (p : Work α)
    (p' : Work β) (s s' : Site σ) : Prop where
  result : B (s.run env p).1 (s'.run env' p').1
  site : (s.run env p).2.Redated T (s'.run env' p').2
  outward : outward (s'.transcript env' p') = outward (s.transcript env p)

/-- Two pieces of work are paired: they go the same way wherever the sites are the same but for
times. -/
def Work.Paired {α β : Type} (env env' : Surroundings σ) (B : α → β → Prop) (p : Work α)
    (p' : Work β) : Prop :=
  ∀ s s' : Site σ, s.Redated T s' → Work.EndPaired T env env' B p p' s s'

end

namespace Work

variable {σ α β γ δ : Type} {T : Timestamp → Timestamp → Prop} {env env' : Surroundings σ}
  {B : α → β → Prop} {C : γ → δ → Prop}

/-- Ending at once. -/
theorem paired_pure {a : α} {b : β} (h : B a b) : Paired T env env' B (pure a) (pure b) :=
  fun _ _ hs => ⟨h, hs, rfl⟩

/-- Pieces that are paired for one relation are paired for a wider one. -/
theorem Paired.mono {p : Work α} {p' : Work β} {B' : α → β → Prop}
    (h : Paired T env env' B p p') (hB : ∀ a b, B a b → B' a b) : Paired T env env' B' p p' :=
  fun s s' hs => ⟨hB _ _ (h s s' hs).result, (h s s' hs).site, (h s s' hs).outward⟩

/-- Paired pieces followed by paired pieces. -/
theorem Paired.bind {p : Work α} {p' : Work β} {k : α → Work γ} {k' : β → Work δ}
    (h : Paired T env env' B p p') (hk : ∀ a b, B a b → Paired T env env' C (k a) (k' b)) :
    Paired T env env' C (p >>= k) (p' >>= k') := by
  intro s s' hs
  obtain ⟨hresult, hsite, hseen⟩ := h s s' hs
  obtain ⟨hresult', hsite', hseen'⟩ := hk _ _ hresult _ _ hsite
  refine ⟨?_, ?_, ?_⟩
  · rw [Site.run_bind, Site.run_bind]
    exact hresult'
  · rw [Site.run_bind, Site.run_bind]
    exact hsite'
  · rw [Site.transcript_bind, Site.transcript_bind, outward_append, outward_append, hseen, hseen']

/-- Paired attempts followed by paired attempts; both stop at the same failure. -/
theorem Paired.bindExcept {p : Attempt α} {p' : Attempt β} {k : α → Attempt γ} {k' : β → Attempt δ}
    (h : Paired T env env' (SameEnd B) p.run p'.run)
    (hk : ∀ a b, B a b → Paired T env env' (SameEnd C) (k a).run (k' b).run) :
    Paired T env env' (SameEnd C) (p >>= k).run (p' >>= k').run := by
  refine Paired.bind (p := p.run) h fun x y hxy => ?_
  cases hxy with
  | ok hab => exact hk _ _ hab
  | error f => exact paired_pure (.error f)

/-- Paired pieces at the beginning of paired attempts. -/
theorem Paired.liftBind {p : Work α} {p' : Work β} {k : α → Attempt γ} {k' : β → Attempt δ}
    (h : Paired T env env' B p p')
    (hk : ∀ a b, B a b → Paired T env env' (SameEnd C) (k a).run (k' b).run) :
    Paired T env env' (SameEnd C) ((liftM p : Attempt α) >>= k).run
      ((liftM p' : Attempt β) >>= k').run := by
  have hlifted : Paired T env env' (SameEnd B) (liftM p : Attempt α).run
      (liftM p' : Attempt β).run :=
    h.bind fun _ _ hab => paired_pure (.ok hab)
  exact hlifted.bindExcept hk

/-! ## Single actions -/

/-- An action that asks nothing of what lies outside and is no record action. -/
theorem paired_ask (a : SiteAction) (ha : a.isLocal = true) :
    Paired T env env' Eq (Procedure.ask (S := siteActions) a)
      (Procedure.ask (S := siteActions) a) := by
  intro s s' hs
  obtain ⟨disk, scratchRoot, records, working, outside, stages⟩ := s
  obtain ⟨disk', scratchRoot', records', working', outside', stages'⟩ := s'
  obtain ⟨hdisk, hroot, hrecorded, hworking, houtside, hstages⟩ := hs
  dsimp only at hdisk hroot hrecorded hworking houtside hstages
  subst hdisk hroot houtside hstages
  cases a with
  | call | records | now => cases ha
  | rollback => exact ⟨rfl, ⟨rfl, rfl, hrecorded, .none, rfl, rfl⟩, rfl⟩
  | note | isFile | resolve | release | pause =>
    exact ⟨rfl, ⟨rfl, rfl, hrecorded, hworking, rfl, rfl⟩, rfl⟩

/-- Showing a stage. -/
theorem paired_note (stage : ImportStage) : Paired T env env' Eq (note stage) (note stage) :=
  paired_ask (.note stage) rfl

/-- A call is answered the same as far as an import takes it. -/
theorem paired_call (h : env.Differ T env') (c : ServiceCall) :
    Paired T env env' (fun x y => c.settled y = c.settled x) (call c) (call c) := by
  intro s s' hs
  obtain ⟨hdisk, hroot, hrecorded, hworking, houtside, hstages⟩ := hs
  refine ⟨?_, ⟨hdisk, hroot, hrecorded, hworking, ?_, hstages⟩, rfl⟩
  · change c.settled (env'.answer c s'.outside).1 = c.settled (env.answer c s.outside).1
    rw [houtside]
    exact h.answer c s.outside
  · change (env'.answer c s'.outside).2 = (env.answer c s.outside).2
    rw [houtside]
    exact h.afterAnswer c s.outside

/-- The clocks show times that may stand for each other. -/
theorem paired_now (h : env.Differ T env') : Paired T env env' T now now := by
  intro s s' hs
  obtain ⟨hdisk, hroot, hrecorded, hworking, houtside, hstages⟩ := hs
  refine ⟨?_, ⟨hdisk, hroot, hrecorded, hworking, ?_, hstages⟩, rfl⟩
  · change T (env.now s.outside).1 (env'.now s'.outside).1
    rw [houtside]
    exact h.now s.outside
  · change (env'.now s'.outside).2 = (env.now s.outside).2
    rw [houtside]
    exact h.afterNow s.outside

/-- A record action that does the same to sites that are the same but for times. -/
theorem paired_records {a a' : RecordAction} {B : a.Value → a'.Value → Prop}
    (h : env.Differ T env') (haction : a.Redated T a')
    (hperform : ∀ s s' : Site σ, s.Redated T s' →
      SameEnd B (s.perform a).1 (s'.perform a').1 ∧ (s.perform a).2.Redated T (s'.perform a').2) :
    Paired T env env' (SameEnd B) (records a).run (records a').run := by
  have hask : Paired T env env' (SameEnd B) (Procedure.ask (S := siteActions) (.records a))
      (Procedure.ask (S := siteActions) (.records a')) := by
    intro s s' hs
    have hfault : env'.recordFault a' s'.outside = env.recordFault a s.outside := by
      rw [hs.outside]
      exact h.recordFault a a' s.outside haction
    have hhandle : SameEnd B (Site.handle env (.records a) s).1
        (Site.handle env' (.records a') s').1 ∧
          (Site.handle env (.records a) s).2.Redated T
            (Site.handle env' (.records a') s').2 := by
      simp only [Site.handle, hfault]
      generalize env.recordFault a s.outside = faulted
      obtain ⟨fault, outside⟩ := faulted
      have hnext : ({ s with outside := outside } : Site σ).Redated T
          { s' with outside := outside } :=
        ⟨hs.disk, hs.scratchRoot, hs.records, hs.working, rfl, hs.stages⟩
      cases fault with
      | some f => exact ⟨.error f, hnext⟩
      | none => exact hperform _ _ hnext
    exact ⟨hhandle.1, hhandle.2, rfl⟩
  refine Paired.bind (p := Procedure.ask _) hask fun x y hxy => ?_
  cases hxy with
  | ok hab => exact paired_pure (.ok hab)
  | error f => exact paired_pure (.error _)

/-- Paired statements. -/
theorem paired_execute {st st' : Statement} {B : st.Value → st'.Value → Prop}
    (h : env.Differ T env')
    (haction : RecordAction.Redated T (.statement st) (.statement st'))
    (hst : Statement.Paired T st st' B) :
    Paired T env env' (SameEnd B) (execute st).run (execute st').run := by
  refine paired_records h haction fun s s' hs => ?_
  simp only [Site.perform]
  have hexecute := hst _ _ hs.visible
  generalize s.visible.execute st = answer at hexecute
  generalize s'.visible.execute st' = answer' at hexecute
  cases hexecute with
  | ok hvalue => exact ⟨.ok hvalue.1, hs.withVisible hvalue.2⟩
  | error f => exact ⟨.error f, hs⟩

/-- A statement that writes no time. -/
theorem paired_execute_self {st : Statement} {B : st.Value → st.Value → Prop}
    (h : env.Differ T env') (hst : Statement.Paired T st st B) :
    Paired T env env' (SameEnd B) (execute st).run (execute st).run :=
  paired_execute h (.refl _) hst

/-- Beginning a transaction. -/
theorem paired_begin (h : env.Differ T env') :
    Paired T env env' (SameEnd Eq) (records .begin).run (records .begin).run := by
  refine paired_records h (.refl _) fun s s' hs => ?_
  exact ⟨.ok rfl, hs.disk, hs.scratchRoot, hs.records, .some hs.records, hs.outside, hs.stages⟩

/-- Committing a transaction. -/
theorem paired_commit (h : env.Differ T env') :
    Paired T env env' (SameEnd Eq) (records .commit).run (records .commit).run := by
  refine paired_records h (.refl _) fun s s' hs => ?_
  exact ⟨.ok rfl, hs.disk, hs.scratchRoot, hs.visible, .none, hs.outside, hs.stages⟩

/-- Paired attempts inside a transaction. -/
theorem Paired.inTransaction {body : Attempt α} {body' : Attempt β} (h : env.Differ T env')
    (hbody : Paired T env env' (SameEnd B) body.run body'.run) :
    Paired T env env' (SameEnd B) (inTransaction body).run (inTransaction body').run := by
  have hcommitted : Paired T env env' (SameEnd B)
      (body >>= fun a => do records .commit; return a).run
      (body' >>= fun a => do records .commit; return a).run :=
    hbody.bindExcept fun a b hab => (paired_commit h).bindExcept fun _ _ _ => paired_pure (.ok hab)
  refine (paired_begin h).bindExcept fun _ _ _ => ?_
  refine hcommitted.liftBind fun x y hxy => ?_
  cases hxy with
  | ok hab => exact paired_pure (.ok hab)
  | error f =>
    have hrollback : Paired T env env' Eq rollback rollback := paired_ask .rollback rfl
    exact hrollback.liftBind fun _ _ _ => paired_pure (.error f)

end Work

end LayerPress
