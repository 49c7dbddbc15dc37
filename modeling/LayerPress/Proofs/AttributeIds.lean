import LayerPress.Proofs.ColumnRows
import LayerPress.Proofs.Exclusion
import LayerPress.Proofs.JobWatch
import LayerPress.Proofs.RecordInvariant

/-!
# The ids of attributes

Attributes are inserted by imports alone, and each under an id that is made from its layer and its
field. So in every course of requests and jobs, whatever the services and the record store answer,
all attributes have the ids of their fields: those that are stored and those in the draft of a
transaction that is still open. They keep the keys of their table as well.
-/

namespace LayerPress

/-! ## Work that inserts attributes -/

/-- The statement inserts no attribute, or one under the id of its field. -/
def Statement.DerivesIds : Statement → Prop
  | insertAttribute a => a.id = attributeId a.layer a.field
  | _ => True

/-- Admits every action but the insertion of an attribute under another id than that of its
field. -/
def derivedIds : Monitor siteActions Unit where
  admits _ a :=
    match a with
    | .records (.statement st) => st.DerivesIds
    | _ => True
  after _ _ _ := ()

namespace Work

variable {settings : ImportSettings} {id : Uuid} {α β : Type}

/-- The work inserts attributes under the ids of their fields only. -/
abbrev DerivesIds (w : Work α) : Prop :=
  derivedIds.Passes (fun _ _ => True) () w

namespace DerivesIds

/-- A sequence inserts what its parts do. -/
theorem bind {w : Work α} {k : α → Work β} (h : DerivesIds w) (hk : ∀ a, DerivesIds (k a)) :
    DerivesIds (w >>= k) :=
  Monitor.Passes.bind h fun a _ _ => hk a

/-- Attempts in sequence insert what they do one by one. -/
theorem bindExcept {w : Attempt α} {k : α → Attempt β} (h : DerivesIds w.run)
    (hk : ∀ a, DerivesIds (k a).run) : DerivesIds (w >>= k).run :=
  Monitor.Passes.bindExcept h (fun a _ _ => hk a) fun _ _ _ => trivial

/-- An attempt that begins with work inserts what both do. -/
theorem liftBind {w : Work α} {k : α → Attempt β} (h : DerivesIds w)
    (hk : ∀ a, DerivesIds (k a).run) :
    DerivesIds ((liftM w : Attempt α) >>= k).run :=
  Monitor.Passes.liftBind h fun a _ _ => hk a

/-- A service is called without an insertion. -/
theorem call (c : ServiceCall) : DerivesIds (call c) := ⟨trivial, fun _ => trivial⟩

/-- A note is no insertion. -/
theorem note (stage : ImportStage) : DerivesIds (note stage) := ⟨trivial, fun _ => trivial⟩

/-- The clock is read without an insertion. -/
theorem now : DerivesIds now := ⟨trivial, fun _ => trivial⟩

/-- A statement is executed as it is. -/
theorem execute {st : Statement} (h : st.DerivesIds) : DerivesIds (execute st).run :=
  ⟨h, fun _ => trivial⟩

end DerivesIds

/-- Showing a column inserts at most the attribute of its field. -/
theorem derivesIds_upsertAttribute (layer : Uuid) (column : Column) (place : Nat) :
    DerivesIds (upsertAttribute layer column place).run := by
  apply DerivesIds.bindExcept (DerivesIds.execute (by trivial))
  intro found
  cases found with
  | some a => exact DerivesIds.execute (by trivial)
  | none => exact DerivesIds.execute rfl

/-- Showing columns inserts at most the attributes of their fields. -/
theorem derivesIds_upsertAttributes (layer : Uuid) (columns : List Column) (place : Nat) :
    DerivesIds (upsertAttributes layer place columns).run := by
  induction columns generalizing place with
  | nil => trivial
  | cons column rest ih =>
    exact (derivesIds_upsertAttribute layer column place).bindExcept fun _ => ih (place + 1)

/-- A transaction inserts what its body does. -/
theorem derivesIds_inTransaction {body : Attempt α} (hbody : DerivesIds body.run) :
    DerivesIds (inTransaction body).run := by
  have hcommitted : DerivesIds (body >>= fun a => do records .commit; return a).run :=
    hbody.bindExcept fun a => ⟨trivial, fun answer => by cases answer <;> trivial⟩
  refine ⟨trivial, fun begun => ?_⟩
  cases begun with
  | error f => trivial
  | ok _ =>
    apply hcommitted.liftBind
    intro answer
    cases answer with
    | ok a => trivial
    | error f => exact ⟨trivial, fun _ => trivial⟩

/-- Recording a load inserts at most the attributes of the reported columns. -/
theorem derivesIds_recordLoad (table : String) (features : Int) (kind : Naming.GeometryKind)
    (extent : Option BoundingBox) (columns : List Column) :
    DerivesIds (recordLoad id table features kind extent columns).run := by
  apply derivesIds_inTransaction
  refine DerivesIds.now.liftBind fun moment => ?_
  refine (DerivesIds.execute (by trivial)).bindExcept fun row => ?_
  refine (DerivesIds.note _).liftBind fun _ => ?_
  exact (derivesIds_upsertAttributes row.id columns 0).bindExcept fun _ => trivial

/-- Publishing inserts nothing. -/
theorem derivesIds_publish (row : Layer) (table : String) :
    DerivesIds (publish settings row table).run := by
  refine (DerivesIds.call _).liftBind fun published => ?_
  cases published with
  | error f => trivial
  | ok action =>
    refine DerivesIds.now.liftBind fun moment => ?_
    exact (DerivesIds.execute (by trivial)).bindExcept fun _ => trivial

/-- Looking for the source file inserts nothing. -/
theorem derivesIds_sourcePath (l : Layer) : DerivesIds (sourcePath settings l).run := by
  unfold sourcePath
  cases l.sourceFile with
  | none => trivial
  | some raw =>
    dsimp only
    split
    · trivial
    · exact ⟨trivial, fun isFile => by cases isFile <;> trivial⟩

/-- Loading a source inserts nothing. -/
theorem derivesIds_load (source : Path) (table : String) :
    DerivesIds (load settings.spatial settings.loader source table) := by
  have hmeasured : DerivesIds (measure table) := by
    refine (DerivesIds.call _).bind fun features => ?_
    cases features with
    | error f => trivial
    | ok features => exact (DerivesIds.call _).bind fun type => by cases type <;> trivial
  refine (DerivesIds.call _).bind fun ran => ?_
  cases ran with
  | error f => trivial
  | ok output =>
    dsimp only
    split
    · exact hmeasured
    · trivial

/-- An attempt inserts at most attributes under the ids of their fields. -/
theorem derivesIds_importLayer (settings : ImportSettings) (id : Uuid) :
    DerivesIds (importLayer settings id).run := by
  refine (DerivesIds.execute (by trivial)).bindExcept fun found => ?_
  cases found with
  | none => trivial
  | some layer =>
    have hextent (table : String) : DerivesIds (tableExtent table) :=
      (DerivesIds.call _).bind fun extent => by cases extent <;> trivial
    have hcolumns (table : String) : DerivesIds (tableColumns table) :=
      (DerivesIds.call _).bind fun columns => by cases columns <;> trivial
    refine (derivesIds_sourcePath layer).bindExcept fun path => ?_
    refine (DerivesIds.note _).liftBind fun _ => ?_
    refine ⟨trivial, fun resolved => ?_⟩
    cases resolved with
    | error f => trivial
    | ok source =>
      refine (DerivesIds.note _).liftBind fun _ => ?_
      refine (derivesIds_load source.path _).liftBind fun result => ?_
      refine ⟨trivial, fun _ => ?_⟩
      cases result with
      | failed f => trivial
      | loaded features type =>
        refine (DerivesIds.note _).liftBind fun _ => ?_
        refine (hextent _).liftBind fun extent => ?_
        refine (hcolumns _).liftBind fun columns => ?_
        refine (DerivesIds.note _).liftBind fun _ => ?_
        refine (derivesIds_recordLoad _ _ _ _ _).bindExcept fun updated => ?_
        refine (DerivesIds.note _).liftBind fun _ => ?_
        refine (derivesIds_publish updated _).bindExcept fun entry => ?_
        exact (DerivesIds.note _).liftBind fun _ => trivial

/-- Repeating an attempt inserts what it does once. -/
theorem derivesIds_retrying {attempt : Attempt α} (h : DerivesIds attempt.run) (left made : Nat) :
    DerivesIds (retrying attempt left made) := by
  induction left generalizing made with
  | zero => exact h
  | succ left ih =>
    refine h.bind fun answer => ?_
    cases answer with
    | ok a => trivial
    | error f =>
      dsimp only
      split
      · exact ⟨trivial, fun _ => ih (made + 1)⟩
      · trivial

/-- An import inserts at most attributes under the ids of their fields. -/
theorem derivesIds_runImport (settings : ImportSettings) (id : Uuid) :
    DerivesIds (runImport settings id) := by
  refine (DerivesIds.note _).bind fun _ => ?_
  apply (derivesIds_retrying (derivesIds_importLayer settings id) _ _).bind
  intro answer
  cases answer <;> trivial

/-- A step of a teardown inserts what its work does. -/
theorem derivesIds_stepFor {step : String → Work StepOutcome} (h : ∀ name, DerivesIds (step name))
    (name : Option String) : DerivesIds (stepFor name step) := by
  cases name with
  | none => trivial
  | some n =>
    unfold stepFor
    dsimp only
    split
    · trivial
    · exact (h n).bind fun _ => trivial

/-- A teardown inserts nothing. -/
theorem derivesIds_runTeardown (settings : ImportSettings) (table entry : Option String) :
    DerivesIds (runTeardown settings table entry) := by
  have hentry (entry : String) : DerivesIds (deleteEntry settings entry) := by
    unfold deleteEntry
    cases Naming.splitEntry entry with
    | none => trivial
    | some parts => exact (DerivesIds.call _).bind fun answer => by cases answer <;> trivial
  have htable (table : String) : DerivesIds (dropTable table) :=
    (DerivesIds.call _).bind fun answer => by cases answer <;> trivial
  refine (derivesIds_stepFor hentry entry).bind fun _ => ?_
  exact (derivesIds_stepFor htable table).bind fun _ => trivial

end Work

/-! ## The tables of a machine -/

/-- A condition on tables holds of those that are stored and of the draft. -/
structure Register.Meets (P : Records → Prop) (r : Register) : Prop where
  stored : P r.stored
  draft : ∀ tables, r.draft = some tables → P tables

namespace Register.Meets

variable {P : Records → Prop} {r r' : Register}

/-- Without a draft it is a condition on what is stored. -/
theorem closed {tables : Records} (h : P tables) : Register.Meets P ⟨tables, none⟩ where
  stored := h
  draft := by simp

/-- What statements act on meets the condition. -/
theorem visible (h : r.Meets P) : P r.visible := by
  unfold Register.visible
  cases hdraft : r.draft with
  | none => exact h.stored
  | some tables => exact h.draft tables hdraft

/-- Tables that meet the condition may be written. -/
theorem write (h : r.Meets P) {tables : Records} (htables : P tables) :
    (r.write tables).Meets P := by
  unfold Register.write
  cases hdraft : r.draft with
  | none => exact .closed htables
  | some draft =>
    refine ⟨h.stored, fun other hother => ?_⟩
    cases hother
    exact htables

/-- An action keeps a condition that its statement keeps, if it is one. -/
theorem does (h : r.Meets P) {a : SiteAction} {x : a.Answer}
    (hstatement : ∀ st, a = .records (.statement st) →
      ∀ tables v after, P tables → tables.execute st = .ok (v, after) → P after)
    (hdoes : Register.Does a x r r') : r'.Meets P := by
  cases a with
  | records a =>
    cases hdoes with
    | faulted => exact h
    | executed hexecute => exact h.write (hstatement _ rfl _ _ _ h.visible hexecute)
    | began => exact ⟨h.stored, fun tables htables => by cases htables; exact h.stored⟩
    | committed => exact .closed h.visible
  | rollback =>
    cases hdoes
    exact .closed h.stored
  | _ =>
    cases hdoes
    exact h

end Register.Meets

namespace Machine

variable {σ : Type} {office : Office σ} {m m' : Machine σ} {who : Actor} {P : Records → Prop}

/-- A record action keeps a condition on tables that its statement keeps, if it is one. -/
theorem meets_of_records (h : m.site.register.Meets P) {a : RecordAction}
    {x : Except RecordFault a.Value}
    (hstatement : ∀ st, a = .statement st →
      ∀ tables v after, P tables → tables.execute st = .ok (v, after) → P after)
    (hrecords : m.records office.surroundings who a = some (x, m')) :
    m'.site.register.Meets P := by
  have hkept : ∀ st, SiteAction.records a = .records (.statement st) →
      ∀ tables v after, P tables → tables.execute st = .ok (v, after) → P after := by
    rintro st ⟨⟩
    exact hstatement st rfl
  simp only [records] at hrecords
  split at hrecords
  · -- A task that is kept out of the draft acts on what is stored, and the draft stays.
    have hstored : Register.Meets P ⟨m.site.records, none⟩ := .closed h.stored
    have hafter := hstored.does hkept
      (Site.does_handle office.surroundings (.records a) { m.site with working := none })
    cases a with
    | statement st =>
      dsimp only at hrecords
      split at hrecords
      · cases hrecords
      · cases hrecords
        exact ⟨hafter.stored, h.draft⟩
    | «begin» | commit => cases hrecords
  · cases hrecords
    exact h.does hkept (Site.does_handle office.surroundings (.records a) m.site)

/-- An action of a task keeps a condition on tables that its statement keeps, if it is one. -/
theorem meets_of_handle (h : m.site.register.Meets P) {a : TaskAction} {x : a.Answer}
    (hstatement : ∀ st, a = .site (.records (.statement st)) →
      ∀ tables v after, P tables → tables.execute st = .ok (v, after) → P after)
    (hhandle : m.handle office who a = some (x, m')) : m'.site.register.Meets P := by
  cases a with
  | site a =>
    cases a with
    | records a =>
      refine meets_of_records h ?_ hhandle
      rintro st ⟨⟩
      exact hstatement st rfl
    | rollback =>
      simp only [handle, onSite] at hhandle
      split at hhandle
      · cases hhandle
        exact h
      · cases hhandle
        exact .closed h.stored
    | _ => cases hhandle; exact h
  | takePermit =>
    simp only [handle] at hhandle
    split at hhandle <;> cases hhandle
    exact h
  | subscribe id =>
    simp only [handle] at hhandle
    split at hhandle <;> cases hhandle <;> exact h
  | queueImport layer =>
    rw [(queued_of_queueImport hhandle).site_holder.1]
    exact h
  | queueTeardown table entry =>
    rw [(queued_of_queueTeardown hhandle).site_holder.1]
    exact h
  | _ => cases hhandle; exact h

end Machine

/-! ## Every course -/

/-- Tables whose attributes have the keys of their table, each the id of its field. -/
structure Records.HasFieldIds (r : Records) : Prop where
  keyed : Attribute.Keyed r.attributes
  derived : ∀ a ∈ r.attributes, a.id = attributeId a.layer a.field

/-- A statement that inserts attributes under the ids of their fields only keeps the ids. -/
theorem Records.HasFieldIds.execute {r after : Records} (h : r.HasFieldIds) {st : Statement}
    (hderives : st.DerivesIds) {v : st.Value} (hexecute : r.execute st = .ok (v, after)) :
    after.HasFieldIds := by
  refine ⟨h.keyed.execute hexecute, ?_⟩
  have hstep := Records.attributeStep_of_execute hexecute
  generalize after.attributes = rows at hstep ⊢
  cases hstep with
  | kept => exact h.derived
  | filtered p => exact fun a ha => h.derived a (List.mem_filter.mp ha).1
  | inserted hst =>
    rw [hst] at hderives
    exact List.forall_mem_append.mpr ⟨h.derived, List.forall_mem_singleton.mpr hderives⟩
  | changed hid hfield =>
    intro b hb
    obtain ⟨a, ha, rfl⟩ := List.mem_map.mp hb
    obtain ⟨hlayer, hname⟩ := Prod.mk.inj (hfield a)
    rw [hid, hlayer, hname]
    exact h.derived a ha

/-- A statement that is open to requests inserts no attribute. -/
theorem Statement.derivesIds_of_isOpenToRequests {st : Statement} (h : st.isOpenToRequests) :
    st.DerivesIds := by
  cases st with
  | insertAttribute a => exact h.elim
  | _ => trivial

/-- Jobs and requests are watched for the ids under which they insert attributes. -/
def idWatch : Watch Unit Unit where
  job := derivedIds.inJob fun _ _ => True
  client := requestMonitor
  opening d := if d.newEntry?.isSome then some () else none

/-- Queued jobs insert attributes under the ids of their fields only. -/
theorem idWatch_fits {σ : Type} (office : Office σ) : idWatch.Fits (fun _ => True) office where
  imports _ layer id := by
    refine ⟨(), rfl, fun channel => ?_⟩
    exact (passes_inJob (fun _ _ => rfl) (Work.derivesIds_runImport office.settings layer)
      ImportOutcome.success (fun _ _ _ => trivial) id channel ImportOutcome.message
      ImportOutcome.document).mono fun _ _ _ => trivial
  refused _ _ _ := rfl
  teardowns _ table entry id := by
    refine ⟨(), rfl, fun channel => ?_⟩
    exact (passes_inJob (fun _ _ => rfl) (Work.derivesIds_runTeardown office.settings table entry)
      TeardownOutcome.success (fun _ _ _ => trivial) id channel TeardownOutcome.failureText
      TeardownOutcome.document).mono fun _ _ _ => trivial
  others d hqueues := by
    obtain ⟨who, a, x⟩ := d
    cases a with
    | queueImport | queueTeardown => cases hqueues
    | _ => rfl

section
variable {σ ρ : Type} {office : Office σ}

/-- All tables of a course have the ids of their fields, and everyone keeps to them. -/
structure Course.KeepsFieldIds (c : Course σ ρ) : Prop where
  tables : c.scene.machine.site.register.Meets Records.HasFieldIds
  seen : ∃ jobs clients, idWatch.Sees (fun _ => True) (fun _ _ => True) jobs clients c.scene

namespace Course.KeepsFieldIds

/-- One deed keeps the ids. -/
theorem act {c : Course σ ρ} (h : c.KeepsFieldIds) {who : Actor} {d : Deed} {s : Scene σ ρ}
    (htake : c.scene.take office who = some (d, s)) :
    Course.KeepsFieldIds ⟨s, c.deeds ++ [d]⟩ := by
  obtain ⟨jobs, clients, hseen⟩ := h.seen
  obtain ⟨hadmits, hseen'⟩ := hseen.act (idWatch_fits office) htake
  refine ⟨?_, _, _, hseen'⟩
  cases who with
  | job i =>
    obtain ⟨a, next, x, m', -, hhandle, rfl, rfl⟩ := Scene.take_job_eq_some htake
    obtain ⟨_, -, hadmitted⟩ := hadmits
    have hkept : m'.site.register.Meets Records.HasFieldIds := by
      refine Machine.meets_of_handle h.tables ?_ hhandle
      rintro st rfl tables v after htables hexecute
      exact htables.execute hadmitted hexecute
    exact hkept
  | client i =>
    obtain ⟨a, next, x, m', -, hhandle, rfl, rfl⟩ := Scene.take_client_eq_some htake
    obtain ⟨_, -, hadmitted⟩ := hadmits
    refine Machine.meets_of_handle h.tables ?_ hhandle
    rintro st rfl tables v after htables hexecute
    exact htables.execute (Statement.derivesIds_of_isOpenToRequests hadmitted) hexecute

/-- The ids are kept in every course that begins with them. -/
theorem run {c : Course σ ρ} (h : c.KeepsFieldIds) (turns : List Turn) :
    (c.run office turns).KeepsFieldIds := by
  refine Course.run_induction h (fun _ _ _ _ hc htake => hc.act htake)
    (fun c elapsed hc => ?_) turns
  obtain ⟨jobs, clients, hseen⟩ := hc.seen
  exact ⟨hc.tables, jobs, clients, hseen.later elapsed⟩

end Course.KeepsFieldIds

/-- Created records have no attributes. -/
theorem Records.Created.attributes {r : Records} (h : r.Created) : r.attributes = [] := by
  induction h with
  | empty => rfl
  | declare id title slug layerKind geometryKind sourceFile now h hinsert ih =>
    unfold Records.insertLayer at hinsert
    split at hinsert
    · cases hinsert
    · split at hinsert
      · cases hinsert
      · cases hinsert
        exact ih

/-- From created records on, the stored attributes and those of an open draft have the keys of their
table, and each the id of its field. -/
theorem hasFieldIds_of_created (office : Office σ) (site : Site σ)
    (hcreated : site.records.Created) (hclosed : site.working = none) (workers : Nat)
    (requests : List JobRequest) (turns : List Turn) :
    ((Course.start (Scene.opening site workers requests)).run
      office turns).scene.machine.site.register.Meets Records.HasFieldIds := by
  have hnone : site.records.HasFieldIds := by
    refine ⟨⟨?_, ?_⟩, ?_⟩ <;> rw [hcreated.attributes]
    · exact List.nodup_nil
    · exact List.nodup_nil
    · exact nofun
  have hclients : Staffed (fun (_ : Unit) t => requestMonitor.Passes (fun _ _ => True) () t)
      (requests.map fun _ => ()) (requests.map JobRequest.task) := by
    refine ⟨by rw [List.length_map, List.length_map], fun i _ t _ ht => ?_⟩
    obtain ⟨r, -, rfl⟩ := List.mem_map.mp (List.mem_of_getElem? ht)
    exact r.requestTask_task
  have htables : site.register.Meets Records.HasFieldIds :=
    ⟨hnone, fun tables htables => by cases hclosed.symm.trans htables⟩
  have hstart : (Course.start (Scene.opening site workers requests)).KeepsFieldIds :=
    ⟨htables, [], _, .nil, hclients⟩
  exact (hstart.run turns).tables

end

end LayerPress
