import LayerPress.Proofs.Attendance
import LayerPress.Proofs.Rows

/-!
# The table that imports record

While a layer is imported, and perhaps deleted, but not cleared, its row keeps its slug, and once
the row names the table of the slug it does so for as long as it is there. Every import of the
layer makes that table and no other; one that ends completed has recorded it.
-/

namespace LayerPress

/-- The row of the layer, if it is there, has the slug. -/
def SlugIn (layer : Uuid) (slug : String) (layers : List Layer) : Prop :=
  ∀ l, row? layer layers = some l → l.slug = slug

/-- The row of the layer, if it is there, names the table of the slug. -/
def NamedIn (layer : Uuid) (slug : String) (layers : List Layer) : Prop :=
  ∀ l, row? layer layers = some l → l.tableName = some (Naming.tableName slug)

/-- A statement that clears no layer, adds none, and records no table but that of the slug. -/
def Statement.KeepsNames (slug : String) : Statement → Prop
  | .changeLayer _ (.loaded table ..) => table = Naming.tableName slug
  | .changeLayer _ (.cleared _) | .insertLayer _ => False
  | _ => True

/-- An action that is no statement or one that keeps names. -/
def TaskAction.KeepsNames (slug : String) : TaskAction → Prop
  | .site (.records (.statement st)) => st.KeepsNames slug
  | _ => True

section
variable {layer : Uuid} {slug : String} {before after : List Layer}

/-- A statement that keeps names adds no row, keeps its slug, and keeps the table it names. -/
theorem exists_row_of_keepsNames {st : Statement} {v : st.Value} (hst : st.KeepsNames slug)
    (h : st.Effect v before after) {l : Layer} (hl : row? layer after = some l) :
    ∃ old, row? layer before = some old ∧ l.slug = old.slug ∧
      (old.tableName = some (Naming.tableName slug) → l.tableName = some (Naming.tableName slug)) := by
  cases h with
  | @changed id change =>
    rw [row?_changed] at hl
    obtain ⟨old, hold, rfl⟩ := Option.map_eq_some_iff.mp hl
    refine ⟨old, hold, ?_⟩
    split
    · cases change with
      | loaded => exact ⟨rfl, fun _ => congrArg some hst⟩
      | published => exact ⟨rfl, fun hname => hname⟩
      | cleared => exact hst.elim
    · exact ⟨rfl, fun hname => hname⟩
  | deleted id =>
    rw [row?_deleted] at hl
    split at hl
    · cases hl
    · exact ⟨l, hl, rfl, fun hname => hname⟩
  | inserted => exact hst.elim
  | _ => exact ⟨l, hl, rfl, fun hname => hname⟩

/-- The slug of a row stays. -/
theorem SlugIn.effect {a : TaskAction} {x : a.Answer} (h : SlugIn layer slug before)
    (ha : a.KeepsNames slug) (heffect : a.Effect x before after) : SlugIn layer slug after := by
  unfold TaskAction.Effect at heffect
  split at heffect
  · intro l hl
    obtain ⟨old, hold, hslug, -⟩ := exists_row_of_keepsNames ha heffect hl
    exact hslug.trans (h old hold)
  · cases heffect

/-- The table that a row names stays. -/
theorem NamedIn.effect {a : TaskAction} {x : a.Answer} (h : NamedIn layer slug before)
    (ha : a.KeepsNames slug) (heffect : a.Effect x before after) : NamedIn layer slug after := by
  unfold TaskAction.Effect at heffect
  split at heffect
  · intro l hl
    obtain ⟨old, hold, -, hname⟩ := exists_row_of_keepsNames ha heffect hl
    exact hname (h old hold)
  · cases heffect

/-- A row that is gone stays gone. -/
theorem row?_eq_none_of_effect {a : TaskAction} {x : a.Answer} (h : row? layer before = none)
    (ha : a.KeepsNames slug) (heffect : a.Effect x before after) : row? layer after = none := by
  unfold TaskAction.Effect at heffect
  split at heffect
  · cases hl : row? layer after with
    | none => rfl
    | some l =>
      obtain ⟨old, hold, -⟩ := exists_row_of_keepsNames ha heffect hl
      rw [h] at hold
      cases hold
  · cases heffect

/-- A row of which a table was recorded names it. -/
theorem NamedIn.of_loaded {features : Int} {kind : Naming.GeometryKind} {extent : Option BoundingBox}
    {now : Timestamp} {row : Layer}
    (h : (Statement.changeLayer layer (.loaded (Naming.tableName slug) features kind extent now)).Effect
      row before after) : NamedIn layer slug after := by
  cases h with
  | changed =>
    intro l hl
    rw [row?_changed] at hl
    obtain ⟨old, hold, rfl⟩ := Option.map_eq_some_iff.mp hl
    rw [if_pos (beq_iff_eq.mpr (id_of_row? hold))]
    rfl

end

/-- The layer that an import has found has the slug. -/
def ImportPhase.HasSlug (slug : String) : ImportPhase → Prop
  | seeking => True
  | found l | loaded l | opened l | changed l _ | recorded l _ | published l _ => l.slug = slug

/-- What an import of a layer with the slug may do keeps names. -/
theorem keepsNames_of_import {settings : ImportSettings} {layer : Uuid} {slug : String}
    {phase : ImportPhase} {a : TaskAction}
    (hadmits : ((importMonitor settings layer).inJob ImportPhase.mayEnd).admits phase a)
    (hslug : phase.HasSlug slug) : a.KeepsNames slug := by
  unfold TaskAction.KeepsNames
  split
  · next st =>
    cases st with
    | changeLayer id change =>
      cases change with
      | loaded table =>
        obtain ⟨-, l, rfl, rfl⟩ := hadmits
        exact congrArg Naming.tableName hslug
      | published => trivial
      | cleared => exact hadmits.elim
    | insertLayer => exact hadmits.elim
    | _ => trivial
  · trivial

/-- The task of a job has ended it as failed. -/
def HasFailed (i : Nat) (deeds : List Deed) : Prop :=
  ∃ id result error, ⟨.job i, .endJob id .failed result error, ()⟩ ∈ deeds

namespace ImportPhase

variable {settings : ImportSettings} {layer : Uuid} {slug : String} {i : Nat} {phase : ImportPhase}
  {s s' : Shelf} {a : SiteAction} {x : a.Answer}

/-- The layer that is found has the slug of its row. -/
theorem HasSlug.act (h : phase.HasSlug slug) (hadmits : (importMonitor settings layer).admits phase a)
    (hslugs : ∀ layers, s.Holds layers → SlugIn layer slug layers)
    (hdoes : Shelf.Does (.job i) (.site a) x s s') : (phase.after a x).HasSlug slug := by
  unfold after
  split
  · next id l =>
    obtain ⟨rfl, -⟩ := hadmits
    exact hslugs _ (s.holds_seenBy _) l hdoes.row?_of_found
  · trivial
  · split <;> exact h
  · exact h
  · exact h
  · exact h
  · trivial
  · exact h
  · exact h

/-- A table is recorded by the commit of its transaction only. -/
theorem isRecorded_of_after (h : (phase.after a x).isRecorded = true) :
    phase.isRecorded = true ∨ (∃ l row, phase = .changed l row) ∧ a = .records .commit ∧
      HEq x (Except.ok () : Except RecordFault Unit) := by
  unfold after at h
  split at h
  · cases h
  · cases h
  · split at h <;> cases h
  · cases h
  · cases h
  · exact .inr ⟨⟨_, _, rfl⟩, rfl, .rfl⟩
  · cases h
  · exact .inl rfl
  · exact .inl h

/-- The row of a layer is changed by a change in its transaction only. -/
theorem changed_of_after {l : Layer} {row : Layer} (h : phase.after a x = .changed l row) :
    phase = .changed l row ∨ phase = .opened l ∧
      ∃ id change, a = .records (.statement (.changeLayer id change)) ∧
        HEq x (Except.ok row : Except RecordFault Layer) := by
  unfold after at h
  split at h
  · cases h
  · cases h
  · split at h <;> cases h
  · cases h
  · next id change row' =>
    cases h
    exact .inr ⟨rfl, id, change, rfl, .rfl⟩
  · cases h
  · cases h
  · cases h
  · exact .inl h

/-- As long as an import has its row changed, it writes nothing more. -/
theorem eq_of_changed {l row l' row' : Layer}
    (hadmits : (importMonitor settings layer).admits (.changed l row) a)
    (hdoes : Shelf.Does (.job i) (.site a) x s s')
    (hafter : (changed l row).after a x = .changed l' row') : s' = s := by
  cases a with
  | records a =>
    cases a with
    | statement st =>
      cases st with
      | findLayer id => cases hadmits.2
      | changeLayer id change =>
        cases change with
        | loaded =>
          obtain ⟨-, l', hopened, -⟩ := hadmits
          cases hopened
        | published =>
          obtain ⟨l', row', hopened, -⟩ := hadmits
          cases hopened
        | cleared => exact hadmits.elim
      | findAttribute | insertAttribute | showAttribute => exact hdoes.eq_of_keepsLayers rfl
      | _ => exact hadmits.elim
    | «begin» =>
      obtain ⟨l', hloaded⟩ := hadmits
      cases hloaded
    | commit =>
      cases hdoes with
      | faulted => rfl
      | committed => cases hafter
  | rollback => cases hafter
  | _ => exact hdoes

end ImportPhase

/-- What an import knows and has recorded of its layer. -/
structure ImportRecords (layer : Uuid) (slug : String) (s : Shelf) (deeds : List Deed) (i : Nat)
    (e : JobEntry) (phase : ImportPhase) : Prop where
  hasSlug : phase.HasSlug slug
  changed : ∀ l row layers, phase = .changed l row → s.draft = some (.job i, layers) →
    NamedIn layer slug layers
  recorded : phase.isRecorded = true → ∀ layers, s.Holds layers → NamedIn layer slug layers
  ended : e.stage.isOpen = false → HasFailed i deeds ∨ phase.isRecorded = true

namespace ImportRecords

variable {settings : ImportSettings} {layer : Uuid} {slug : String} {s s' : Shelf}
  {deeds : List Deed} {i : Nat} {e : JobEntry} {phase : ImportPhase} {a : TaskAction}
  {x : a.Answer}

/-- A newly queued import knows nothing yet. -/
theorem queued (layer : Uuid) (slug : String) (s : Shelf) (deeds : List Deed) (i : Nat) (id : JobId) :
    ImportRecords layer slug s deeds i ⟨id, some layer, .waiting⟩ .seeking where
  hasSlug := trivial
  changed _ _ _ hphase := by cases hphase
  recorded hphase := by cases hphase
  ended hclosed := by cases hclosed

/-- What others do, if they keep names, leaves what an import has recorded. -/
theorem of_ne {who : Actor} (h : ImportRecords layer slug s deeds i e phase)
    (hkeeps : a.KeepsNames slug) (hdoes : Shelf.Does who a x s s') (hne : Actor.job i ≠ who) :
    ImportRecords layer slug s' (deeds ++ [⟨who, a, x⟩]) i e phase where
  hasSlug := h.hasSlug
  changed l row layers hphase hdraft :=
    h.changed l row layers hphase ((hdoes.draft_of_ne hne).mp hdraft)
  recorded hphase layers hholds := by
    obtain ⟨before, hbefore, rfl | heffect⟩ := hdoes.of_holds hholds
    · exact h.recorded hphase _ hbefore
    · exact (h.recorded hphase before hbefore).effect hkeeps heffect
  ended hclosed := by
    rcases h.ended hclosed with ⟨id, result, error, hmem⟩ | hrecorded
    · exact .inl ⟨id, result, error, List.mem_append_left _ hmem⟩
    · exact .inr hrecorded

/-- What an import does itself keeps what it has recorded. -/
theorem site {a : SiteAction} {x : a.Answer} (h : ImportRecords layer slug s deeds i e phase)
    (hslugs : ∀ layers, s.Holds layers → SlugIn layer slug layers) (howns : phase.Owns (.job i) s)
    (hworking : e.stage = .working) (hadmits : (importMonitor settings layer).admits phase a)
    (hdoes : Shelf.Does (.job i) (.site a) x s s') :
    ImportRecords layer slug s' (deeds ++ [⟨.job i, .site a, x⟩]) i e (phase.after a x) where
  hasSlug := h.hasSlug.act hadmits hslugs hdoes
  changed l row layers hphase hdraft := by
    rcases ImportPhase.changed_of_after hphase with rfl | ⟨rfl, id, change, rfl, hx⟩
    · have hsame : s' = s := ImportPhase.eq_of_changed hadmits hdoes hphase
      exact h.changed l row layers rfl (hsame ▸ hdraft)
    · -- The draft is the import's own, and the change has recorded the table in it.
      cases hx
      obtain ⟨held, hheld⟩ := howns.mp rfl
      cases change with
      | loaded table features kind extent now =>
        obtain ⟨rfl, l', hopened, rfl⟩ := hadmits
        cases hopened
        cases hdoes with
        | executed _ heffect =>
          rw [Shelf.put_of_some hheld] at hdraft
          cases hdraft
          rw [show l.slug = slug from h.hasSlug] at heffect
          exact .of_loaded heffect
      | published =>
        obtain ⟨l', row', hopened, -⟩ := hadmits
        cases hopened
      | cleared => exact hadmits.elim
  recorded hphase layers hholds := by
    rcases ImportPhase.isRecorded_of_after hphase with hbefore | ⟨⟨l, row, rfl⟩, rfl, hx⟩
    · have hjob : ((importMonitor settings layer).inJob ImportPhase.mayEnd).admits phase (.site a) :=
        hadmits
      obtain ⟨before, hholds', rfl | heffect⟩ := hdoes.of_holds hholds
      · exact h.recorded hbefore _ hholds'
      · exact (h.recorded hbefore before hholds').effect (keepsNames_of_import hjob h.hasSlug) heffect
    · cases hx
      obtain ⟨held, hheld⟩ := howns.mp rfl
      cases hdoes with
      | committed =>
        rw [hholds.eq_stored rfl, Shelf.seenBy_of_some hheld]
        exact h.changed l row held rfl hheld
  ended hclosed := by
    rw [hworking] at hclosed
    cases hclosed

/-- What the task of an import does keeps what the import has recorded, and it ends its job as
completed only with the table recorded. -/
theorem act (h : ImportRecords layer slug s deeds i e phase)
    (hslugs : ∀ layers, s.Holds layers → SlugIn layer slug layers) (howns : phase.Owns (.job i) s)
    (hledger : ledgerMonitor.admits e a)
    (hadmits : ((importMonitor settings layer).inJob ImportPhase.mayEnd).admits phase a)
    (hdoes : Shelf.Does (.job i) a x s s') :
    ImportRecords layer slug s' (deeds ++ [⟨.job i, a, x⟩]) i (e.after a)
      (((importMonitor settings layer).inJob ImportPhase.mayEnd).after phase a x) := by
  have hsame (hshelf : s' = s) (hended : (e.after a).stage.isOpen = false →
      HasFailed i (deeds ++ [⟨.job i, a, x⟩]) ∨ phase.isRecorded = true) :
      ImportRecords layer slug s' (deeds ++ [⟨.job i, a, x⟩]) i (e.after a) phase :=
    ⟨h.hasSlug, hshelf ▸ h.changed, hshelf ▸ h.recorded, hended⟩
  cases a with
  | site a => exact h.site hslugs howns hledger hadmits hdoes
  | takePermit => exact hsame hdoes nofun
  | announce channel event =>
    have hworking : e.stage = .working := hledger
    refine hsame hdoes fun hclosed => ?_
    rw [show (e.after (.announce channel event)).stage = .working from hworking] at hclosed
    cases hclosed
  | givePermit =>
    have hended : e.stage = .ended := hledger
    refine hsame hdoes fun _ => ?_
    rcases h.ended (by rw [hended]; rfl) with ⟨id, result, error, hmem⟩ | hrecorded
    · exact .inl ⟨id, result, error, List.mem_append_left _ hmem⟩
    · exact .inr hrecorded
  | endJob id status result error =>
    refine hsame hdoes fun _ => ?_
    cases status with
    | running => exact absurd rfl hledger.2.2
    | completed => exact .inr (hadmits.2 rfl)
    | failed => exact .inl ⟨id, result, error, List.mem_append_right _ (List.mem_singleton_self _)⟩
  | _ => exact hadmits.elim

end ImportRecords

/-- The table that an import makes is that of the slug. -/
theorem eq_table_of_import {settings : ImportSettings} {layer : Uuid} {slug : String}
    {phase : ImportPhase} {who : Actor} {a : TaskAction} {x : a.Answer} {t : String}
    (hadmits : ((importMonitor settings layer).inJob ImportPhase.mayEnd).admits phase a)
    (hslug : phase.HasSlug slug) (h : Deed.touch? ⟨who, a, x⟩ = some (.table t, .made)) :
    t = Naming.tableName slug := by
  obtain ⟨c, rfl, hc⟩ := exists_call_of_touch? h
  cases c with
  | run program args timeout =>
    obtain ⟨l, source, rfl, rfl⟩ := hadmits
    cases hc
    exact congrArg Naming.tableName hslug
  | _ => cases hc

/-- All imports are of the layer, and the layer, its row and the tables go by one slug. -/
structure RecordsAgree (layer : Uuid) (slug : String) (states : List JobState) (s : Shelf)
    (deeds : List Deed) : Prop where
  about : ∀ (i : Nat) (job : JobState) (id : Uuid) (phase : ImportPhase), states[i]? = some job →
    job.work = .importing id phase → id = layer
  slugs : ∀ layers, s.Holds layers → SlugIn layer slug layers
  made : ∀ (i : Nat) (t : String), (.job i, .made) ∈ touches (.table t) deeds →
    t = Naming.tableName slug
  imports : ∀ (i : Nat) (job : JobState) (phase : ImportPhase), states[i]? = some job →
    job.work = .importing layer phase → ImportRecords layer slug s deeds i job.entry phase

namespace RecordsAgree

variable {R : Type} {settings : ImportSettings} {client : Monitor taskActions R} {layer : Uuid}
  {slug : String} {states : List JobState} {s s' : Shelf} {deeds : List Deed} {i : Nat}
  {job : JobState} {a : TaskAction} {x : a.Answer}

/-- Before anything has happened, and while no transaction is open, the slug is that of the row. -/
theorem exists_start {s : Shelf} (hclosed : s.draft = none) (layer : Uuid) :
    ∃ slug, RecordsAgree layer slug [] s [] := by
  have hslug : ∃ slug, SlugIn layer slug s.stored := by
    cases hrow : row? layer s.stored with
    | none => exact ⟨"", fun l hl => by rw [hrow] at hl; cases hl⟩
    | some row => exact ⟨row.slug, fun l hl => by rw [hrow] at hl; cases hl; rfl⟩
  obtain ⟨slug, hslug⟩ := hslug
  refine ⟨slug, by simp, fun layers hholds => ?_, by simp [touches], by simp⟩
  rw [hholds.eq_stored hclosed]
  exact hslug

/-- A job does only what keeps names. -/
theorem keepsNames (h : RecordsAgree layer slug states s deeds) (hjob : states[i]? = some job)
    (hadmits : (jobMonitor settings).admits job a) : a.KeepsNames slug := by
  obtain ⟨-, hwork⟩ := hadmits
  cases hwhat : job.work with
  | importing id phase =>
    rw [hwhat] at hwork
    cases h.about i job id phase hjob hwhat
    exact keepsNames_of_import hwork (h.imports i job phase hjob hwhat).hasSlug
  | tearing table attempted =>
    rw [hwhat] at hwork
    unfold TaskAction.KeepsNames
    split
    · exact hwork.elim
    · trivial

/-- The slug of the row stays in every list. -/
theorem slugs_after (h : RecordsAgree layer slug states s deeds) (hkeeps : a.KeepsNames slug)
    {who : Actor} (hdoes : Shelf.Does who a x s s') {layers : List Layer}
    (hholds : s'.Holds layers) : SlugIn layer slug layers := by
  obtain ⟨before, hbefore, rfl | heffect⟩ := hdoes.of_holds hholds
  · exact h.slugs _ hbefore
  · exact (h.slugs before hbefore).effect hkeeps heffect

/-- A deed of a job keeps the agreement. -/
theorem act (h : RecordsAgree layer slug states s deeds) (hagree : JobsAgree settings states s deeds)
    (hjob : states[i]? = some job) (hadmits : (jobMonitor settings).admits job a)
    (hdoes : Shelf.Does (.job i) a x s s') :
    RecordsAgree layer slug ((jobWatch settings client).noteJobs states ⟨.job i, a, x⟩) s'
      (deeds ++ [⟨.job i, a, x⟩]) := by
  have hkeeps := h.keepsNames hjob hadmits
  refine ⟨?_, fun layers hholds => h.slugs_after hkeeps hdoes hholds, ?_, ?_⟩
  · intro k later id phase hlater hwork
    obtain ⟨earlier, hearlier, hfollows⟩ := exists_follows_of_noteJobs hjob hadmits hlater
    obtain ⟨before, hbefore⟩ := hfollows.importing id phase hwork
    exact h.about k earlier id before hearlier hbefore
  · intro k t hmade
    rcases of_mem_touches_concat hmade with hmade | ⟨hwho, htouch⟩
    · exact h.made k t hmade
    · obtain ⟨-, hwork⟩ := hadmits
      cases hwhat : job.work with
      | importing id phase =>
        rw [hwhat] at hwork
        cases h.about i job id phase hjob hwhat
        exact eq_table_of_import hwork (h.imports i job phase hjob hwhat).hasSlug htouch
      | tearing table attempted =>
        rw [hwhat] at hwork
        cases eq_unmade_of_teardown hwork htouch
  · intro k later phase hlater hwork
    have hnone : (jobWatch settings client).opening ⟨.job i, a, x⟩ = none :=
      newJob?_eq_none_of_job hadmits.1
    rcases (Watch.getElem?_noteJobs_job hjob hnone).mp hlater with ⟨rfl, rfl⟩ | ⟨hk, hlater⟩
    · obtain ⟨e, work⟩ := job
      obtain ⟨hledger, hadmitted⟩ := hadmits
      cases work with
      | importing id before =>
        cases hwork
        have howns := (hagree.imports k _ layer before hjob rfl).owns
        exact (h.imports k _ before hjob rfl).act h.slugs howns hledger hadmitted hdoes
      | tearing => cases hwork
    · exact (h.imports k later phase hlater hwork).of_ne hkeeps hdoes (by simpa using hk)

/-- A deed of a request that keeps names and imports no other layer keeps the agreement. -/
theorem request (h : RecordsAgree layer slug states s deeds) (hopen : a.isOpenToRequests)
    (hkeeps : a.KeepsNames slug) (habout : ∀ id, a = .queueImport id → id = layer)
    (hdoes : Shelf.Does (.client i) a x s s') :
    RecordsAgree layer slug ((jobWatch settings client).noteJobs states ⟨.client i, a, x⟩) s'
      (deeds ++ [⟨.client i, a, x⟩]) := by
  refine ⟨?_, fun layers hholds => h.slugs_after hkeeps hdoes hholds, ?_, ?_⟩
  · intro k later id phase hlater hwork
    rcases Watch.getElem?_noteJobs_client.mp hlater with hlater | ⟨-, hnew⟩
    · exact h.about k later id phase hlater hwork
    · cases a with
      | queueImport id' =>
        cases x with
        | ok job => cases hnew; cases hwork; exact habout _ rfl
        | error running => cases hnew
      | queueTeardown => cases hnew; cases hwork
      | _ => cases hnew
  · intro k t hmade
    rcases of_mem_touches_concat hmade with hmade | ⟨hwho, -⟩
    · exact h.made k t hmade
    · cases hwho
  · intro k later phase hlater hwork
    rcases Watch.getElem?_noteJobs_client.mp hlater with hlater | ⟨rfl, hnew⟩
    · exact (h.imports k later phase hlater hwork).of_ne hkeeps hdoes nofun
    · obtain ⟨id, hentry, rfl⟩ := eq_importing_of_newJob? hnew hwork
      rw [hentry]
      exact .queued layer slug s' _ _ id

end RecordsAgree

end LayerPress
