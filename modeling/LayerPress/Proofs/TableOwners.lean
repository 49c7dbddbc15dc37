import LayerPress.Proofs.Attendance
import LayerPress.Proofs.RecordInvariant
import LayerPress.Proofs.RowReaders
import LayerPress.Proofs.Rows

/-!
# Whose table it is

A row names the table of its layer's slug or none, and a job touches no table but that of the
slug of the layer it was queued for. A layer therefore has its table to itself exactly as far as
no other slug has the same table name. Table names keep small letters and digits only, and
different slugs may have one: the layers of such slugs share a table, which the import of either
replaces and the teardown of either drops.

The rows, what requests have found, and the work of jobs are followed together, since each is
written from the others.
-/

namespace LayerPress

/-! ## Rows that name their own table -/

/-- A row of a created layer names the table of the layer's slug or none. -/
structure Layer.NamesOwn (l created : Layer) : Prop where
  id : l.id = created.id
  slug : l.slug = created.slug
  table : l.tableName = none ∨ l.tableName = some (Naming.tableName created.slug)

/-- Every row is that of a created layer and names its own table. -/
def OwnTables (initial layers : List Layer) : Prop :=
  ∀ l ∈ layers, ∃ created ∈ initial, l.NamesOwn created

/-- A statement that adds no row, and records no table in a row but its own. -/
def Statement.KeepsOwn (initial : List Layer) : Statement → Prop
  | .changeLayer id (.loaded table ..) =>
    ∃ created ∈ initial, created.id = id ∧ table = Naming.tableName created.slug
  | .insertLayer _ => False
  | _ => True

section
variable {initial before after : List Layer} {id : Uuid} {l : Layer}

/-- A row that is found is that of a created layer. -/
theorem OwnTables.of_row? (h : OwnTables initial before) (hl : row? id before = some l) :
    ∃ created ∈ initial, created.id = id ∧ l.NamesOwn created := by
  obtain ⟨created, hcreated, hown⟩ := h l (List.mem_of_find?_eq_some hl)
  exact ⟨created, hcreated, hown.id.symm.trans (id_of_row? hl), hown⟩

/-- Statements that keep tables apart leave rows that name their own. -/
theorem OwnTables.effect (h : OwnTables initial before) (hids : (initial.map (·.id)).Nodup)
    {st : Statement} {v : st.Value} (hst : st.KeepsOwn initial)
    (heffect : st.Effect v before after) : OwnTables initial after := by
  cases heffect with
  | @changed id change =>
    intro l hl
    obtain ⟨row, hrow, rfl⟩ := List.mem_map.mp hl
    obtain ⟨created, hcreated, hown⟩ := h row hrow
    refine ⟨created, hcreated, ?_⟩
    split
    · next hid =>
      cases change with
      | loaded table =>
        obtain ⟨other, hother, hotherid, rfl⟩ := hst
        have heq : other = created := List.inj_on_of_nodup_map hids hother hcreated
          (hotherid.trans ((beq_iff_eq.mp hid).symm.trans hown.id))
        exact ⟨hown.id, hown.slug, .inr (heq ▸ rfl)⟩
      | published => exact ⟨hown.id, hown.slug, hown.table⟩
      | cleared => exact ⟨hown.id, hown.slug, .inl rfl⟩
    · exact hown
  | deleted => exact fun l hl => h l (List.mem_of_mem_filter hl)
  | inserted => exact hst.elim
  | _ => exact h

/-- Rows that name their own table name one together exactly if both name one and their slugs
have the same. -/
theorem OwnTables.tableName_eq_iff (h : OwnTables initial before) {l l' : Layer} (hl : l ∈ before)
    (hl' : l' ∈ before) {t : String} (ht : l.tableName = some t) :
    l'.tableName = some t ↔
      l'.tableName.isSome ∧ Naming.tableName l'.slug = Naming.tableName l.slug := by
  have hown {row : Layer} (hrow : row ∈ before) :
      row.tableName = none ∨ row.tableName = some (Naming.tableName row.slug) := by
    obtain ⟨created, -, hcreated⟩ := h row hrow
    rw [hcreated.slug]
    exact hcreated.table
  have htable : t = Naming.tableName l.slug := by
    rcases hown hl with hnone | hsome
    · rw [hnone] at ht
      cases ht
    · exact Option.some.inj (ht.symm.trans hsome)
  subst htable
  rcases hown hl' with hnone | hsome
  · simp [hnone]
  · simp [hsome]

end

/-! ## Jobs and the layer they work for -/

/-- The row that an import has found. -/
def ImportPhase.layer? : ImportPhase → Option Layer
  | seeking => none
  | found l | loaded l | opened l | changed l _ | recorded l _ | published l _ => some l

/-- The work is the import of a created layer, which has found its row, or the teardown of its
table. -/
def WorkPhase.IsFor (created : Layer) : WorkPhase → Prop
  | importing layer phase => layer = created.id ∧ ∀ l, phase.layer? = some l → l.NamesOwn created
  | tearing table _ => table = none ∨ table = some (Naming.tableName created.slug)

section
variable {settings : ImportSettings} {initial : List Layer} {created : Layer} {phase : ImportPhase}
  {who : Actor} {s s' : Shelf}

/-- An import has found the row from before, or finds one now. -/
theorem ImportPhase.layer?_after {a : SiteAction} {x : a.Answer} {l : Layer}
    (h : (phase.after a x).layer? = some l) :
    phase.layer? = some l ∨
      ∃ id, a = .records (.statement (.findLayer id)) ∧
        HEq x (Except.ok (some l) : Except RecordFault (Option Layer)) := by
  unfold after at h
  split at h
  · cases h
    exact .inr ⟨_, rfl, .rfl⟩
  · cases h
  · split at h <;> exact .inl h
  · exact .inl h
  · exact .inl h
  · exact .inl h
  · cases h
  · exact .inl h
  · exact .inl h

/-- The work stays for its layer whatever a job does. -/
theorem WorkPhase.IsFor.act {job : JobState} {a : TaskAction} {x : a.Answer}
    (h : job.work.IsFor created) (hids : (initial.map (·.id)).Nodup) (hcreated : created ∈ initial)
    (hrows : ∀ layers, s.Holds layers → OwnTables initial layers)
    (hadmits : (jobMonitor settings).admits job a) (hdoes : Shelf.Does who a x s s') :
    ((jobMonitor settings).after job a x).work.IsFor created := by
  obtain ⟨e, work⟩ := job
  cases work with
  | tearing => exact h
  | importing layer phase =>
    obtain ⟨rfl, hfound⟩ := h
    refine ⟨rfl, fun l hl => ?_⟩
    cases a with
    | site a =>
      rcases ImportPhase.layer?_after hl with hbefore | ⟨id, rfl, hx⟩
      · exact hfound l hbefore
      · cases hx
        obtain ⟨rfl, -⟩ := hadmits.2
        have hrow := hdoes.row?_of_found
        obtain ⟨other, hother, hid, hown⟩ := (hrows _ (s.holds_seenBy who)).of_row? hrow
        cases List.inj_on_of_nodup_map hids hother hcreated hid
        exact hown
    | _ => exact hfound l hl

/-- A job records no table but that of its layer. -/
theorem WorkPhase.IsFor.keepsOwn {job : JobState} {st : Statement} (h : job.work.IsFor created)
    (hcreated : created ∈ initial)
    (hadmits : (jobMonitor settings).admits job (.site (.records (.statement st)))) :
    st.KeepsOwn initial := by
  obtain ⟨e, work⟩ := job
  cases work with
  | tearing => exact hadmits.2.elim
  | importing layer phase =>
    obtain ⟨rfl, hfound⟩ := h
    cases st with
    | changeLayer id change =>
      cases change with
      | loaded table =>
        obtain ⟨rfl, l, rfl, rfl⟩ := hadmits.2
        exact ⟨created, hcreated, rfl, congrArg Naming.tableName (hfound l rfl).slug⟩
      | published | cleared => trivial
    | insertLayer => exact hadmits.2.elim
    | _ => trivial

/-- A job touches no table but that of its layer. -/
theorem WorkPhase.IsFor.touch {job : JobState} {a : TaskAction} {x : a.Answer}
    (h : job.work.IsFor created) (hadmits : (jobMonitor settings).admits job a) {t : String}
    {how : Touch} (htouch : Deed.touch? ⟨who, a, x⟩ = some (.table t, how)) :
    Naming.tableName created.slug = t := by
  obtain ⟨c, rfl, hc⟩ := exists_call_of_touch? htouch
  obtain ⟨e, work⟩ := job
  cases work with
  | importing layer phase =>
    obtain ⟨rfl, hfound⟩ := h
    cases c with
    | run program args timeout =>
      obtain ⟨l, source, rfl, rfl⟩ := hadmits.2
      cases hc
      exact congrArg Naming.tableName (hfound l rfl).slug.symm
    | drop => exact hadmits.2.elim
    | _ => cases hc
  | tearing table attempted =>
    cases c with
    | run => exact hadmits.2.elim
    | drop name =>
      obtain ⟨rfl, -, -⟩ := hadmits.2
      cases hc
      rcases h with hnone | hsome
      · cases hnone
      · exact (Option.some.inj hsome).symm
    | _ => cases hc

end

/-! ## Everyone together -/

/-- The job of a number was queued for a created layer, by a request that is about this layer. -/
def WorksFor (initial : List Layer) (requests : List JobRequest) (i : Nat) (created : Layer)
    (deeds : List Deed) : Prop :=
  created ∈ initial ∧ ∃ n r, requests[n]? = some r ∧ created.id ∈ r.layers ∧
    QueuedFor i (.client n) created.id deeds

/-- What is known of a request is what it has found among rows of created layers. -/
structure ReadingAgrees (initial : List Layer) (requests : List JobRequest) (deeds : List Deed)
    (n : Nat) (r : Reading) : Prop where
  request : ∃ q, requests[n]? = some q ∧ r.layers = q.layers
  found : ∀ id l, r.last = some (id, l) → id ∈ r.layers ∧
    lastFound? (.client n) deeds = some id ∧ ∃ created ∈ initial, created.id = id ∧
      l.NamesOwn created

/-- All rows name their own table, and so does what requests have found. Every job works for the
layer that it was queued for, and what has touched a table is a job that works for a layer of that
table. -/
structure TablesOwned (initial : List Layer) (requests : List JobRequest) (states : List JobState)
    (clients : List Reading) (s : Shelf) (deeds : List Deed) : Prop where
  rows : ∀ layers, s.Holds layers → OwnTables initial layers
  readings : ∀ (n : Nat) (r : Reading), clients[n]? = some r →
    ReadingAgrees initial requests deeds n r
  jobs : ∀ (i : Nat) (job : JobState), states[i]? = some job →
    ∃ created, WorksFor initial requests i created deeds ∧ job.work.IsFor created
  touched : ∀ (t : String) (who : Actor) (how : Touch), (who, how) ∈ touches (.table t) deeds →
    ∃ i created, who = .job i ∧ WorksFor initial requests i created deeds ∧
      Naming.tableName created.slug = t

section
variable {settings : ImportSettings} {initial : List Layer} {requests : List JobRequest}
  {states : List JobState} {clients : List Reading} {s s' : Shelf} {deeds : List Deed}

/-- For whom a job works does not change. -/
theorem WorksFor.concat {i : Nat} {created : Layer} (h : WorksFor initial requests i created deeds)
    (d : Deed) : WorksFor initial requests i created (deeds ++ [d]) := by
  obtain ⟨hcreated, n, r, hr, hmem, hqueued⟩ := h
  exact ⟨hcreated, n, r, hr, hmem, hqueued.concat d⟩

/-- What others do changes nothing of what is known of a request. -/
theorem ReadingAgrees.of_ne {n : Nat} {r : Reading} {d : Deed}
    (h : ReadingAgrees initial requests deeds n r) (hne : d.actor ≠ .client n) :
    ReadingAgrees initial requests (deeds ++ [d]) n r where
  request := h.request
  found id l hlast := by
    rw [lastFound?_concat, foundBy?_of_ne hne]
    exact h.found id l hlast

/-- What a request does keeps what is known of it. -/
theorem ReadingAgrees.act {n : Nat} {r : Reading} {a : TaskAction} {x : a.Answer}
    (h : ReadingAgrees initial requests deeds n r) (hadmits : readingMonitor.admits r a)
    (hrows : ∀ layers, s.Holds layers → OwnTables initial layers)
    (hdoes : Shelf.Does (.client n) a x s s') :
    ReadingAgrees initial requests (deeds ++ [⟨.client n, a, x⟩]) n (r.after a x) := by
  have hstep := r.step_after a x
  generalize r.after a x = next at hstep
  cases hstep with
  | found id l =>
    refine ⟨h.request, ?_⟩
    rintro _ _ ⟨⟩
    have hrow := hdoes.row?_of_found
    refine ⟨hadmits, ?_, (hrows _ (s.holds_seenBy _)).of_row? hrow⟩
    rw [lastFound?_concat]
    simp [Deed.foundBy?]
  | other hnone =>
    refine ⟨h.request, fun id l hlast => ?_⟩
    rw [lastFound?_concat, hnone]
    exact h.found id l hlast

/-- What is open to requests records no table. -/
theorem keepsOwn_of_request {st : Statement} (hopen : st.isOpenToRequests) :
    st.KeepsOwn initial := by
  cases st with
  | changeLayer id change =>
    cases change with
    | cleared => trivial
    | loaded | published => exact hopen.elim
  | insertLayer => exact hopen.elim
  | _ => trivial

namespace TablesOwned

/-- Rows keep naming their own table when whoever writes keeps tables apart. -/
theorem rows_of_does (h : TablesOwned initial requests states clients s deeds)
    (hids : (initial.map (·.id)).Nodup) {who : Actor} {a : TaskAction} {x : a.Answer}
    (hkeeps : ∀ st, a = .site (.records (.statement st)) → st.KeepsOwn initial)
    (hdoes : Shelf.Does who a x s s') {layers : List Layer} (hholds : s'.Holds layers) :
    OwnTables initial layers := by
  obtain ⟨before, hbefore, rfl | heffect⟩ := hdoes.of_holds hholds
  · exact h.rows _ hbefore
  · unfold TaskAction.Effect at heffect
    split at heffect
    · exact (h.rows before hbefore).effect hids (hkeeps _ rfl) heffect
    · cases heffect

/-- A deed of a job keeps every table with its layers. -/
theorem act (h : TablesOwned initial requests states clients s deeds)
    (hids : (initial.map (·.id)).Nodup) {i : Nat} {job : JobState} {a : TaskAction} {x : a.Answer}
    (hjob : states[i]? = some job) (hadmits : (jobMonitor settings).admits job a)
    (hdoes : Shelf.Does (.job i) a x s s') :
    TablesOwned initial requests
      ((jobWatch settings readingMonitor).noteJobs states ⟨.job i, a, x⟩) clients s'
      (deeds ++ [⟨.job i, a, x⟩]) := by
  obtain ⟨created, hworks, hfor⟩ := h.jobs i job hjob
  have hnone : (jobWatch settings readingMonitor).opening ⟨.job i, a, x⟩ = none :=
    newJob?_eq_none_of_job hadmits.1
  refine ⟨fun layers hholds => ?_, fun n r hr => ?_, fun k later hlater => ?_,
    fun t who how htouched => ?_⟩
  · refine h.rows_of_does hids ?_ hdoes hholds
    rintro st rfl
    exact hfor.keepsOwn hworks.1 hadmits
  · exact (h.readings n r hr).of_ne nofun
  · rcases (Watch.getElem?_noteJobs_job hjob hnone).mp hlater with ⟨rfl, rfl⟩ | ⟨-, hother⟩
    · exact ⟨created, hworks.concat _, hfor.act hids hworks.1 h.rows hadmits hdoes⟩
    · obtain ⟨other, hother, hforother⟩ := h.jobs k later hother
      exact ⟨other, hother.concat _, hforother⟩
  · rcases of_mem_touches_concat htouched with hearlier | ⟨rfl, htouch⟩
    · obtain ⟨k, other, rfl, hother, hname⟩ := h.touched t who how hearlier
      exact ⟨k, other, rfl, hother.concat _, hname⟩
    · exact ⟨i, created, rfl, hworks.concat _, hfor.touch hadmits htouch⟩

/-- The job that a request queues works for the layer whose row the request has found last. -/
theorem exists_worksFor (h : TablesOwned initial requests states clients s deeds)
    (hentries : states.map (·.entry) = Ledger.ofDeeds deeds) {n : Nat} {r : Reading}
    (hr : clients[n]? = some r) {a : TaskAction} {x : a.Answer}
    (hadmits : readingMonitor.admits r a) {job : JobState}
    (hnew : Deed.newJob? ⟨.client n, a, x⟩ = some job) :
    ∃ created, WorksFor initial requests states.length created (deeds ++ [⟨.client n, a, x⟩]) ∧
      job.work.IsFor created := by
  obtain ⟨⟨q, hq, hlayers⟩, hfound⟩ := h.readings n r hr
  have hlength : (Ledger.ofDeeds deeds).length = states.length := by
    rw [← hentries, List.length_map]
  have hentry : (Deed.newEntry? ⟨.client n, a, x⟩).isSome = true := by
    rw [← Deed.newJob?_entry, hnew]
    rfl
  have hworks {id : Uuid} {l : Layer} (hlast : r.last = some (id, l)) :
      ∃ created, WorksFor initial requests states.length created (deeds ++ [⟨.client n, a, x⟩]) ∧
        created.id = id ∧ l.NamesOwn created := by
    obtain ⟨hmem, hread, created, hcreated, rfl, hown⟩ := hfound id l hlast
    exact ⟨created, ⟨hcreated, n, q, hq, hlayers ▸ hmem, deeds, _, [], rfl, hlength, hentry, rfl,
      hread⟩, rfl, hown⟩
  cases a with
  | queueImport layer =>
    obtain ⟨l, hlast⟩ := hadmits
    cases x with
    | error running => cases hnew
    | ok id =>
      cases hnew
      obtain ⟨created, hcreated, rfl, -⟩ := hworks hlast
      exact ⟨created, hcreated, rfl, fun _ hl => by cases hl⟩
  | queueTeardown table entry =>
    obtain ⟨id, l, hlast, rfl⟩ := hadmits
    cases hnew
    obtain ⟨created, hcreated, -, hown⟩ := hworks hlast
    exact ⟨created, hcreated, hown.table⟩
  | _ => cases hnew

/-- A deed of a request keeps every table with its layers. -/
theorem request (h : TablesOwned initial requests states clients s deeds)
    (hids : (initial.map (·.id)).Nodup)
    (hentries : states.map (·.entry) = Ledger.ofDeeds deeds) {n : Nat} {r : Reading}
    (hr : clients[n]? = some r) {a : TaskAction} {x : a.Answer}
    (hadmits : readingMonitor.admits r a) (hdoes : Shelf.Does (.client n) a x s s') :
    TablesOwned initial requests
      ((jobWatch settings readingMonitor).noteJobs states ⟨.client n, a, x⟩)
      ((jobWatch settings readingMonitor).noteClients clients ⟨.client n, a, x⟩) s'
      (deeds ++ [⟨.client n, a, x⟩]) := by
  have hopen := isOpenToRequests_of_reading hadmits
  refine ⟨fun layers hholds => ?_, fun k q hq => ?_, fun k job hjob => ?_,
    fun t who how htouched => ?_⟩
  · refine h.rows_of_does hids ?_ hdoes hholds
    rintro st rfl
    exact keepsOwn_of_request hopen
  · change (clients.modify n fun r => r.after a x)[k]? = some q at hq
    by_cases hk : n = k
    · subst hk
      rw [List.getElem?_modify_eq, hr] at hq
      cases hq
      exact (h.readings n r hr).act hadmits h.rows hdoes
    · rw [List.getElem?_modify_ne _ _ hk] at hq
      exact (h.readings k q hq).of_ne (by simpa using hk)
  · rcases Watch.getElem?_noteJobs_client.mp hjob with hbefore | ⟨rfl, hnew⟩
    · obtain ⟨created, hworks, hfor⟩ := h.jobs k job hbefore
      exact ⟨created, hworks.concat _, hfor⟩
    · exact h.exists_worksFor hentries hr hadmits hnew
  · rw [touches_concat_of_request hopen] at htouched
    obtain ⟨k, created, rfl, hworks, hname⟩ := h.touched t who how htouched
    exact ⟨k, created, rfl, hworks.concat _, hname⟩

/-- Whatever happens keeps every table with its layers. -/
theorem happens {σ ρ : Type} {office : Office σ} {workers : Nat} {Q : ρ → Reading → Prop}
    {c : Course σ ρ} {d : Deed} {m : Machine σ} (hids : (initial.map (·.id)).Nodup)
    (hattended : c.Attended office workers readingMonitor Q states clients)
    (h : TablesOwned initial requests states clients c.scene.machine.shelf c.deeds)
    (hhappens : Happens office readingMonitor states clients c.scene.machine m d) :
    TablesOwned initial requests ((jobWatch office.settings readingMonitor).noteJobs states d)
      ((jobWatch office.settings readingMonitor).noteClients clients d) m.shelf
      (c.deeds ++ [d]) := by
  cases hhappens with
  | job hjob hadmits _ hdoes => exact h.act hids hjob hadmits hdoes
  | client hr hadmits _ hdoes => exact h.request hids hattended.entries hr hadmits hdoes

end TablesOwned

end

/-- From created layers, every table is kept with the layers of its slugs throughout. -/
theorem exists_tablesOwned {σ : Type} (office : Office σ) (hinj : Function.Injective office.jobId)
    (site : Site σ) (hcreated : site.records.Created) (hworking : site.working = none)
    (workers : Nat) (requests : List JobRequest) (turns : List Turn) :
    let c := (Course.start (Scene.opening site workers requests)).run office turns
    ∃ states clients, TablesOwned site.records.layers requests states clients
      c.scene.machine.shelf c.deeds := by
  intro c
  have hclients : Staffed (fun r t => readingMonitor.Passes (fun _ _ => True) r t)
      (requests.map fun r => ⟨r.layers, none⟩) (requests.map JobRequest.task) := by
    refine ⟨by simp, fun n p t hp ht => ?_⟩
    obtain ⟨r, hr, rfl⟩ := Option.map_eq_some_iff.mp (List.getElem?_map .. ▸ hp)
    obtain ⟨r', hr', rfl⟩ := Option.map_eq_some_iff.mp (List.getElem?_map .. ▸ ht)
    cases hr.symm.trans hr'
    exact (r.readingTask none).mono fun _ _ _ => trivial
  have hstart : (Course.start (Scene.opening site workers requests)).Attended office workers
      readingMonitor (fun _ _ => True) [] (requests.map fun r => ⟨r.layers, none⟩) :=
    .start office workers hworking hclients
  have hfirst : TablesOwned site.records.layers requests []
      (requests.map fun r => ⟨r.layers, none⟩) (Machine.start site workers).shelf [] := by
    refine ⟨fun layers hholds => ?_, fun n r hr => ?_, by simp, by simp [touches]⟩
    · rw [hholds.eq_stored rfl]
      exact fun l hl => ⟨l, hl, rfl, rfl, .inl (hcreated.fresh.2 l hl).1⟩
    · rw [List.getElem?_map] at hr
      obtain ⟨q, hq, rfl⟩ := Option.map_eq_some_iff.mp hr
      exact ⟨⟨q, hq, rfl⟩, fun _ _ hlast => by cases hlast⟩
  obtain ⟨states, clients, -, howned⟩ :=
    hstart.run (I := TablesOwned site.records.layers requests) hinj
      (fun _ _ => isOpenToRequests_of_reading) hfirst
      (fun hattended h hhappens => h.happens hcreated.fresh.1 hattended hhappens) turns
  exact ⟨states, clients, howned⟩

/-- Two layers name the same table exactly if both name one and their slugs have the same table
name. And whatever has loaded or dropped a table is a job that was queued, by a request about it,
for a layer whose slug has that table name. -/
theorem table_shared_iff {σ : Type} (office : Office σ) (hinj : Function.Injective office.jobId)
    (site : Site σ) (hcreated : site.records.Created) (hworking : site.working = none)
    (workers : Nat) (requests : List JobRequest) (turns : List Turn) :
    let c := (Course.start (Scene.opening site workers requests)).run office turns
    (∀ l ∈ c.scene.machine.site.records.layers, ∀ l' ∈ c.scene.machine.site.records.layers,
      ∀ t, l.tableName = some t → (l'.tableName = some t ↔
        l'.tableName.isSome ∧ Naming.tableName l'.slug = Naming.tableName l.slug)) ∧
      ∀ t who how, (who, how) ∈ touches (.table t) c.deeds →
        ∃ i n r created, who = .job i ∧ requests[n]? = some r ∧
          created ∈ site.records.layers ∧ created.id ∈ r.layers ∧
          QueuedFor i (.client n) created.id c.deeds ∧ Naming.tableName created.slug = t := by
  intro c
  obtain ⟨states, clients, howned⟩ :=
    exists_tablesOwned office hinj site hcreated hworking workers requests turns
  refine ⟨fun l hl l' hl' t ht => ?_, fun t who how htouched => ?_⟩
  · exact (howned.rows _ (.inl rfl)).tableName_eq_iff hl hl' ht
  · obtain ⟨i, created, rfl, ⟨hmem, n, r, hr, habout, hqueued⟩, hname⟩ :=
      howned.touched t who how htouched
    exact ⟨i, n, r, created, rfl, hr, hmem, habout, hqueued, hname⟩

/-- The plain site with two layers whose slugs have one table name. -/
def Site.plainSharing : Site Unit :=
  .plain [.plain "old-town", { Layer.plain "old_town" with id := ⟨2⟩ }]

/-- Both layers are imported. -/
def sharingTurns : List Turn :=
  List.replicate 3 (.act (.client 0)) ++ List.replicate 40 (.act (.job 0)) ++
    List.replicate 3 (.act (.client 1)) ++ List.replicate 40 (.act (.job 1))

/-- The first of the layers is deleted. -/
def clearingTurns : List Turn :=
  List.replicate 6 (.act (.client 2)) ++ List.replicate 8 (.act (.job 2))

/-- The imports of both layers and the deletion of the first, as far as the turns go. -/
def sharingCourse (turns : List Turn) : Course Unit Admin.Response :=
  (Course.start (Scene.opening .plainSharing 1
    [.submitImport ⟨1⟩, .submitImport ⟨2⟩, .deleteLayer ⟨1⟩])).run .plain turns

/-- The layers of the two slugs were created. -/
theorem Site.plainSharing_created : Site.plainSharing.records.Created := by
  have hfirst : (⟨[.plain "old-town"], []⟩ : Records).Created := Site.plain_created "old-town"
  exact .declare ⟨2⟩ "Roads" "old_town" "vector" "line" (some "r.shp") ⟨2020, 1, 1, 0, 0, 0, 0⟩
    hfirst rfl

/-- Two layers with different slugs name one table after their imports, and the deletion of the
first drops the table that the record of the second still names. -/
theorem table_dropped_of_another_layer :
    Site.plainSharing.records.layers.map (·.slug) = ["old-town", "old_town"] ∧
      (sharingCourse sharingTurns).scene.machine.site.records.layers.map (·.tableName) =
        [some "old_town", some "old_town"] ∧
      (sharingCourse (sharingTurns ++ clearingTurns)).scene.isOver ∧
      (sharingCourse (sharingTurns ++ clearingTurns)).scene.machine.site.records.layers.map
        (fun l => (l.id, l.tableName)) = [(⟨2⟩, some "old_town")] ∧
      touches (.table "old_town") (sharingCourse (sharingTurns ++ clearingTurns)).deeds =
        [(.job 0, .made), (.job 1, .made), (.job 2, .unmade)] := by
  decide +kernel

/-- Who shares the table in this course, and for whom the jobs that touched it were queued. -/
theorem table_shared_iff_sharing :
    Function.Injective Office.plain.jobId ∧ Site.plainSharing.records.Created ∧
      Site.plainSharing.working = none ∧
      let c := sharingCourse (sharingTurns ++ clearingTurns)
      (∀ l ∈ c.scene.machine.site.records.layers, ∀ l' ∈ c.scene.machine.site.records.layers,
        ∀ t, l.tableName = some t → (l'.tableName = some t ↔
          l'.tableName.isSome ∧ Naming.tableName l'.slug = Naming.tableName l.slug)) ∧
        ∀ t who how, (who, how) ∈ touches (.table t) c.deeds →
          ∃ i n r created, who = .job i ∧
            [JobRequest.submitImport ⟨1⟩, .submitImport ⟨2⟩, .deleteLayer ⟨1⟩][n]? = some r ∧
            created ∈ Site.plainSharing.records.layers ∧ created.id ∈ r.layers ∧
            QueuedFor i (.client n) created.id c.deeds ∧ Naming.tableName created.slug = t := by
  have hshared := table_shared_iff .plain Office.plain_jobId_injective .plainSharing
    Site.plainSharing_created rfl 1 [.submitImport ⟨1⟩, .submitImport ⟨2⟩, .deleteLayer ⟨1⟩]
    (sharingTurns ++ clearingTurns)
  unfold sharingCourse
  exact ⟨Office.plain_jobId_injective, Site.plainSharing_created, rfl, hshared⟩

end LayerPress
