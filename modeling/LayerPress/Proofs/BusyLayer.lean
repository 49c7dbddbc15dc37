import LayerPress.Proofs.Plain
import LayerPress.Proofs.RunningImports
import LayerPress.Proofs.SparedLayer
import Mathlib.Data.List.Infix

/-!
# A layer that is being imported is left alone

While the import of a layer is running, a request that meets the layer leaves its rows and its job
as they are, whatever other requests and jobs do beside it. A request for the layer alone is refused.
A request with a list does to all other layers what it would do if the layer were not in the list:
the same course of events happens when its turns at the layer are left out. Only the number that a
refused import would have got is passed over.
-/

namespace LayerPress

/-! ## The same course without a layer -/

/-- What happens in a scene: a turn, or a number is passed over as after a refused import. -/
inductive Occurrence where
  | turn (turn : Turn)
  | refusal

namespace Scene

variable {σ ρ : Type}

/-- The scene after something has happened. -/
def occur (office : Office σ) (s : Scene σ ρ) : Occurrence → Scene σ ρ
  | .turn (.act who) => (s.move? office who).getD s
  | .turn (.pass elapsed) => s.later elapsed
  | .refusal => { s with machine := s.machine.passOver }

/-- The scene after all that happens. -/
def unroll (office : Office σ) (s : Scene σ ρ) (occurrences : List Occurrence) : Scene σ ρ :=
  occurrences.foldl (occur office) s

end Scene

/-- Turns of a request are left out, or stand for a refusal if the request may ask for imports. All
else happens as it does. -/
inductive Abridged (k : Nat) (imports : Prop) : List Turn → List Occurrence → Prop
  | nil : Abridged k imports [] []
  | keep {turns : List Turn} {occurrences : List Occurrence} (turn : Turn)
      (rest : Abridged k imports turns occurrences) :
      Abridged k imports (turn :: turns) (.turn turn :: occurrences)
  | leave {turns : List Turn} {occurrences : List Occurrence}
      (rest : Abridged k imports turns occurrences) :
      Abridged k imports (.act (.client k) :: turns) occurrences
  | refuse {turns : List Turn} {occurrences : List Occurrence} (himports : imports)
      (rest : Abridged k imports turns occurrences) :
      Abridged k imports (.act (.client k) :: turns) (.refusal :: occurrences)

/-- What a turn is abridged to is followed by what those after it are abridged to. -/
theorem Abridged.cons {k : Nat} {imports : Prop} {turn : Turn} {turns : List Turn}
    {first occurrences : List Occurrence} (h : Abridged k imports [turn] first)
    (hrest : Abridged k imports turns occurrences) :
    Abridged k imports (turn :: turns) (first ++ occurrences) := by
  cases h with
  | keep _ hnil => cases hnil; exact .keep turn hrest
  | leave hnil => cases hnil; exact .leave hrest
  | refuse himports hnil => cases hnil; exact .refuse himports hrest

/-- The layer that was found last. -/
def lastFound (log : List (Exchange taskActions)) : Option (Uuid × Layer) :=
  log.foldl (fun found x => foundAfter found x.action x.answer) none

/-- The layer that was found last after one more exchange. -/
theorem lastFound_concat (log : List (Exchange taskActions)) (x : Exchange taskActions) :
    lastFound (log ++ [x]) = foundAfter (lastFound log) x.action x.answer := by
  simp [lastFound]

/-! ## What a request does to a layer -/

/-- The rows of a layer and of its attributes. -/
def Records.rowsOf (r : Records) (layer : Uuid) : List Layer × List Attribute :=
  (r.layers.filter (·.id == layer), r.attributes.filter (·.layer == layer))

namespace Machine

variable {σ : Type}

/-- A job is importing the layer. -/
def Imports (m : Machine σ) (layer : Uuid) (job : JobId) : Prop :=
  ∃ j ∈ m.jobs.jobs, j.id = job ∧ j.layer = some layer ∧ j.isRunning

instance (m : Machine σ) (layer : Uuid) (job : JobId) : Decidable (m.Imports layer job) :=
  inferInstanceAs (Decidable (∃ j ∈ m.jobs.jobs, _))

/-- Who looks the layer up finds it and changes nothing. -/
def Finds (office : Office σ) (m : Machine σ) (who : Actor) (layer : Uuid) (l : Layer) : Prop :=
  m.handle office who (.site (.records (.statement (.findLayer layer)))) = some (.ok (some l), m)

/-- Where no transaction is open and the record store answers, a stored layer is found. -/
theorem finds_of_idle {office : Office σ} {m : Machine σ} {who : Actor} {layer : Uuid} {l : Layer}
    (hsound : ∀ s, office.surroundings.recordFault (.statement (.findLayer layer)) s = (none, s))
    (hholder : m.holder = none) (hworking : m.site.working = none)
    (hrow : m.site.records.layer? layer = some l) : m.Finds office who layer l := by
  obtain ⟨⟨disk, scratchRoot, rows, working, outside, stages⟩, holder, _⟩ := m
  cases hholder
  cases hworking
  have hrow : rows.layer? layer = some l := hrow
  simp only [Finds, handle, onSite, records, isHeldAgainst, Bool.false_eq_true, if_false,
    Site.handle, hsound, Site.perform, Site.visible, Option.getD_none, Records.execute, hrow,
    Site.withVisible, withSite, Option.map_none]

/-- A look finds one row. -/
theorem Finds.unique {office : Office σ} {m : Machine σ} {who : Actor} {layer : Uuid} {l l' : Layer}
    (h : m.Finds office who layer l) (h' : m.Finds office who layer l') : l' = l := by
  have hsame := Option.some.inj (h'.symm.trans h)
  exact Option.some.inj (Except.ok.inj (congrArg Prod.fst hsame))

/-- The rows of the layer are as they were, committed or not, the job is as it was, and no other job
has been registered for the layer. -/
structure Keeps (layer : Uuid) (job : JobId) (m m' : Machine σ) : Prop where
  records : m'.site.records.rowsOf layer = m.site.records.rowsOf layer
  working : m'.site.working.map (·.rowsOf layer) = m.site.working.map (·.rowsOf layer)
  job : m'.jobs.get? job = m.jobs.get? job
  jobs : ∀ j ∈ m'.jobs.jobs, j.layer = some layer → j ∈ m.jobs.jobs

/-- A machine keeps what it has. -/
theorem Keeps.refl (layer : Uuid) (job : JobId) (m : Machine σ) : Keeps layer job m m :=
  ⟨rfl, rfl, rfl, fun _ hj _ => hj⟩

section
variable {office : Office σ} {env : Surroundings σ} {m m' : Machine σ} {who : Actor} {layer : Uuid}
  {job : JobId}

/-- A statement that leaves the rows of a layer alone does so wherever it is executed. -/
theorem rowsOf_handle {st : Statement} (s : Site σ)
    (hrows : ∀ r r' v, Records.execute r st = .ok (v, r') → r'.rowsOf layer = r.rowsOf layer) :
    (Site.handle env (.records (.statement st)) s).2.records.rowsOf layer =
        s.records.rowsOf layer ∧
      (Site.handle env (.records (.statement st)) s).2.working.map (·.rowsOf layer) =
        s.working.map (·.rowsOf layer) := by
  obtain ⟨f, outside, hhandle⟩ | ⟨v, r, outside, hexecute, hhandle⟩ := handle_statement env st s
  · rw [hhandle]
    exact ⟨rfl, rfl⟩
  · rw [hhandle]
    have hsame := hrows _ _ _ hexecute
    cases hworking : s.working with
    | none =>
      rw [Site.visible, hworking] at hsame
      simp only [Site.withVisible]
      exact ⟨hsame, trivial⟩
    | some w =>
      rw [Site.visible, hworking] at hsame
      simp only [Site.withVisible]
      exact ⟨trivial, congrArg some hsame⟩

/-- A statement that leaves the rows of a layer alone does so whoever executes it. -/
theorem rowsOf_records {st : Statement} {x : Except RecordFault st.Value}
    (hrows : ∀ r r' v, Records.execute r st = .ok (v, r') → r'.rowsOf layer = r.rowsOf layer)
    (h : m.records env who (.statement st) = some (x, m')) :
    m'.site.records.rowsOf layer = m.site.records.rowsOf layer ∧
      m'.site.working.map (·.rowsOf layer) = m.site.working.map (·.rowsOf layer) := by
  cases hheld : m.isHeldAgainst who with
  | true =>
    simp only [records, hheld, if_true] at h
    split at h
    · cases h
    · cases h
      exact ⟨(rowsOf_handle { m.site with working := none } hrows).1, rfl⟩
  | false =>
    simp only [records, hheld, Bool.false_eq_true, if_false] at h
    cases h
    exact rowsOf_handle m.site hrows

/-- Changing another layer leaves the rows of a layer alone. -/
theorem rowsOf_changeLayer {id : Uuid} (hid : id ≠ layer) {change : LayerChange} {r r' : Records}
    {v : Layer} (h : r.execute (.changeLayer id change) = .ok (v, r')) :
    r'.rowsOf layer = r.rowsOf layer := by
  simp only [Records.execute, Records.changeLayer] at h
  split at h
  · cases h
  · cases h
    have hothers (ls : List Layer) :
        ls.filter (·.id == layer) = (ls.filter (·.id != id)).filter (·.id == layer) := by
      rw [List.filter_filter]
      refine List.filter_congr fun row _ => ?_
      by_cases hrow : row.id = layer
      · simp [hrow, Ne.symm hid]
      · simp [hrow]
    refine Prod.ext ?_ rfl
    change List.filter _ (List.map _ _) = List.filter _ _
    rw [hothers, filter_ne_changed, ← hothers]

/-- Among the jobs that have been indexed, a job is known by its id. -/
theorem Indexed.get?_eq {j : Job} (h : m.Indexed office) (hj : j ∈ m.jobs.jobs) :
    m.jobs.get? j.id = some j :=
  (JobStore.get?_eq_some_iff (JobStore.Indexed.sound h)).mpr ⟨hj, rfl⟩

/-- Whoever asks for the import of the layer is told of the job. -/
theorem Imports.exists_active? (h : m.Imports layer job) (hindexed : m.Indexed office) :
    ∃ j, m.jobs.active? layer = some j ∧ j.id = job := by
  obtain ⟨j, hj, hid, hlayer, hrun⟩ := h
  exact ⟨j, (JobStore.Indexed.active?_eq_some_iff hindexed).mpr ⟨hj, hlayer, hrun⟩, hid⟩

/-- Evicting old jobs keeps the layer. -/
theorem Keeps.of_evict (himports : m.Imports layer job) (hindexed : m.Indexed office)
    (hindexed' : m'.Indexed office) (hsite : m'.site = m.site)
    (hjobs : m'.jobs = m.jobs.evict m.now) : Keeps layer job m m' := by
  obtain ⟨j, hj, rfl, hlayer, hrun⟩ := himports
  have hkept : j ∈ m'.jobs.jobs := by
    rw [hjobs]
    exact (JobStore.Indexed.sound hindexed).mem_evict hj hrun m.now
  refine ⟨by rw [hsite], by rw [hsite], ?_, fun k hk _ => ?_⟩
  · rw [hindexed'.get?_eq hkept, hindexed.get?_eq hj]
  · rw [hjobs] at hk
    exact List.mem_of_mem_filter hk

/-- A refused import keeps the layer. -/
theorem Keeps.passOver (himports : m.Imports layer job) (hindexed : m.Indexed office)
    (hinj : Function.Injective office.jobId) : Keeps layer job m m.passOver := by
  obtain ⟨j, hactive, -⟩ := himports.exists_active? hindexed
  have hindexed' : m.passOver.Indexed office :=
    hindexed.handle hinj (hindexed.queueImport hactive (.client 0)) (by rintro _ _ ⟨⟩)
  exact .of_evict himports hindexed hindexed' rfl rfl

/-- Queueing a job that is not for the layer keeps the layer, refused or not. -/
theorem Keeps.of_queued (himports : m.Imports layer job) (hindexed : m.Indexed office)
    (hindexed' : m'.Indexed office) (hinj : Function.Injective office.jobId) {kind : JobKind}
    {other : Option Uuid} (hother : other ≠ some layer) {task : JobId → Nat → Task Unit}
    {answer : Except JobId JobId} (h : Queued office m kind other task answer m') :
    Keeps layer job m m' := by
  cases h with
  | refused _ _ _ hsite _ hjobs _ => exact .of_evict himports hindexed hindexed' hsite hjobs
  | started _ _ _ hsite _ hjobs _ =>
    obtain ⟨j, hj, rfl, hlayer, hrun⟩ := himports
    have hall : m'.jobs.jobs = (m.jobs.evict m.now).jobs ++
        [Job.start (office.jobId m.nextJob) kind other m.broadcast.nextChannel m.now] := by
      rw [hjobs, JobStore.put_jobs (by rw [JobStore.notedWith_jobs]; exact hindexed.ne_next hinj),
        JobStore.notedWith_jobs]
    have hkept : j ∈ m'.jobs.jobs := by
      rw [hall]
      exact List.mem_append_left _
        ((JobStore.Indexed.sound hindexed).mem_evict hj hrun m.now)
    refine ⟨by rw [hsite], by rw [hsite], ?_, fun k hk hklayer => ?_⟩
    · rw [hindexed'.get?_eq hkept, hindexed.get?_eq hj]
    · rw [hall, List.mem_append, List.mem_singleton] at hk
      obtain hk | rfl := hk
      · exact List.mem_of_mem_filter hk
      · exact absurd hklayer hother

/-- Where only the site has changed, the layer is kept if its rows are. -/
theorem Keeps.of_sameJobs (h : SameJobs m m')
    (hrows : m'.site.records.rowsOf layer = m.site.records.rowsOf layer ∧
      m'.site.working.map (·.rowsOf layer) = m.site.working.map (·.rowsOf layer)) :
    Keeps layer job m m' :=
  ⟨hrows.1, hrows.2, by rw [h.jobs], fun j hj _ => h.jobs ▸ hj⟩

/-- What is about other layers keeps the layer. -/
theorem Keeps.of_avoids {e : Encounter} {found : Option (Uuid × Layer)} {a : TaskAction}
    {x : a.Answer} (himports : m.Imports e.layer e.job) (hindexed : m.Indexed office)
    (hinj : Function.Injective office.jobId) (havoids : e.Avoids found a)
    (h : m.handle office who a = some (x, m')) : Keeps e.layer e.job m m' := by
  cases a with
  | site a =>
    cases a with
    | now => cases h; exact .of_sameJobs ⟨rfl, rfl, rfl, rfl, rfl⟩ ⟨rfl, rfl⟩
    | records a =>
      refine .of_sameJobs (sameJobs_of_records h) ?_
      cases a with
      | statement st =>
        refine rowsOf_records (fun r r' v hexecute => ?_) h
        cases st with
        | findLayer id => cases hexecute; rfl
        | changeLayer id change =>
          cases change with
          | cleared moment => exact rowsOf_changeLayer havoids.1 hexecute
          | loaded | published => exact havoids.elim
        | _ => exact havoids.elim
      | begin | commit => exact havoids.elim
    | _ => exact havoids.elim
  | queueImport id =>
    have hindexed' : m'.Indexed office := hindexed.handle hinj h nofun
    exact .of_queued himports hindexed hindexed' hinj (fun hsame => havoids (Option.some.inj hsame))
      (queued_of_queueImport h)
  | queueTeardown table entry =>
    have hindexed' : m'.Indexed office := hindexed.handle hinj h nofun
    exact .of_queued himports hindexed hindexed' hinj (by simp) (queued_of_queueTeardown h)
  | runningImport id => cases h; exact .refl ..
  | _ => exact havoids.elim

end

end Machine

/-! ## One turn -/

section
variable {σ : Type} {office : Office σ} {e : Encounter} {k : Nat}
  {R : Admin.Response → Admin.Response → Prop} {budget : Nat}

/-- The machine is as the request meets it: the job is importing the layer, and the layer is
found. -/
structure Encounter.Holds (e : Encounter) (office : Office σ) (k : Nat) (m : Machine σ) : Prop where
  indexed : m.Indexed office
  imports : m.Imports e.layer e.job
  finds : ∃ l, e.rows l ∧ m.Finds office (.client k) e.layer l

/-- A course of a request that meets a layer, and the same without the layer: all others are where
they are, and the request does what is done without the layer. -/
structure Encounter.Beside (e : Encounter) (k : Nat) (R : Admin.Response → Admin.Response → Prop)
    (budget : Nat) (c : Course σ Admin.Response) (s : Scene σ Admin.Response) : Prop where
  machine : s.machine = c.scene.machine
  others : ∀ i, i ≠ k → s.clients[i]? = c.scene.clients[i]?
  own : ∃ t u n, c.scene.clients[k]? = some t ∧ s.clients[k]? = some u ∧
    e.Spares R n (lastFound (exchangesOf (.client k) c.deeds)) t u ∧
      (exchangesOf (.client k) c.deeds).length + n ≤ budget

/-- A turn of a request leaves the layer alone: its rows, its job and what is registered for it are
kept, and a teardown is queued for another layer, which the request has found last. -/
structure LeavesAlone (layer : Uuid) (job : JobId) (k : Nat) (c c' : Course σ Admin.Response) :
    Prop where
  keeps : c.scene.machine.Keeps layer job c'.scene.machine
  teardown : ∀ d table entry, c'.deeds = c.deeds ++ [d] → d.action = .queueTeardown table entry →
    ∃ id l, lastFound (exchangesOf (.client k) c.deeds) = some (id, l) ∧ id ≠ layer ∧
      table = l.tableName ∧ entry = l.catalogEntry

/-- How often a request may go on: in each of its turns, or, where it resets layers, in those in
which no other task has a transaction open. -/
def Course.chances {ρ : Type} (office : Office σ) (k : Nat) (resets : Bool) :
    Course σ ρ → List Turn → Nat
  | _, [] => 0
  | c, turn :: rest =>
    (if turn = .act (.client k) ∧
        (resets = true → c.scene.machine.isHeldAgainst (.client k) = false) then 1 else 0) +
      chances office k resets (c.next office turn) rest

/-- A turn of a request that can go on. -/
theorem Course.next_client {ρ : Type} {c : Course σ ρ} {a : TaskAction} {rest : a.Answer → Task ρ}
    {x : a.Answer} {m : Machine σ} (ht : c.scene.clients[k]? = some (.perform a rest))
    (hhandle : c.scene.machine.handle office (.client k) a = some (x, m)) :
    c.next office (.act (.client k)) =
      ⟨⟨m, c.scene.clients.set k (rest x)⟩, c.deeds ++ [⟨.client k, a, x⟩]⟩ := by
  simp only [next, Scene.take, Machine.turn?, ht, hhandle]

/-- A turn of someone who cannot go on. -/
theorem Course.next_of_take {ρ : Type} {c : Course σ ρ} {who : Actor}
    (htake : c.scene.take office who = none) : c.next office (.act who) = c := by
  simp only [next, htake]

/-- A turn of the scene of a course. -/
theorem Course.scene_next {ρ : Type} (c : Course σ ρ) (turn : Turn) :
    (c.next office turn).scene = c.scene.occur office (.turn turn) := by
  cases turn with
  | pass elapsed => rfl
  | act who =>
    rw [Scene.occur, Scene.move?_eq_take, next]
    cases c.scene.take office who <;> rfl

/-- What others do is the same in two scenes that differ only in one request. -/
theorem Scene.occur_other {ρ : Type} (office : Office σ) {s s' : Scene σ ρ}
    (hmachine : s'.machine = s.machine) (hothers : ∀ i, i ≠ k → s'.clients[i]? = s.clients[i]?)
    {turn : Turn} (hturn : turn ≠ .act (.client k)) :
    (s'.occur office (.turn turn)).machine = (s.occur office (.turn turn)).machine ∧
      (∀ i, i ≠ k → (s'.occur office (.turn turn)).clients[i]? =
        (s.occur office (.turn turn)).clients[i]?) ∧
      (s.occur office (.turn turn)).clients[k]? = s.clients[k]? ∧
      (s'.occur office (.turn turn)).clients[k]? = s'.clients[k]? := by
  cases turn with
  | pass elapsed =>
    simp only [occur, later, hmachine]
    exact ⟨trivial, hothers, trivial, trivial⟩
  | act who =>
    cases who with
    | job i =>
      simp only [occur, move?, hmachine]
      cases s.machine.step office i with
      | none => exact ⟨hmachine, hothers, rfl, rfl⟩
      | some m => exact ⟨rfl, hothers, rfl, rfl⟩
    | client i =>
      have hi : i ≠ k := fun hsame => hturn (by rw [hsame])
      simp only [occur, move?, hmachine, hothers i hi]
      cases htask : s.clients[i]? with
      | none => exact ⟨hmachine, hothers, rfl, rfl⟩
      | some task =>
        cases hadvance : s.machine.advance office (.client i) task with
        | none =>
          simp only [hadvance]
          exact ⟨hmachine, hothers, rfl, rfl⟩
        | some answered =>
          obtain ⟨rest, m⟩ := answered
          simp only [hadvance]
          refine ⟨rfl, fun l hl => ?_, List.getElem?_set_ne hi, List.getElem?_set_ne hi⟩
          have htask' := (hothers i hi).trans htask
          change (s'.clients.set i rest)[l]? = (s.clients.set i rest)[l]?
          by_cases hli : l = i
          · subst hli
            rw [List.getElem?_set_self (List.getElem?_eq_some_iff.mp htask).1,
              List.getElem?_set_self (List.getElem?_eq_some_iff.mp htask').1]
          · rw [List.getElem?_set_ne (Ne.symm hli), List.getElem?_set_ne (Ne.symm hli),
              hothers l hl]

namespace Encounter

variable {c : Course σ Admin.Response} {s s' : Scene σ Admin.Response} {a : TaskAction}
  {rest : a.Answer → Task Admin.Response} {x : a.Answer} {m m' : Machine σ}
  {t u : Task Admin.Response} {n : Nat} {found : Option (Uuid × Layer)}

/-- What is about other layers has to wait only if it writes records. -/
theorem Avoids.waits (h : e.Avoids found a) (hhandle : m.handle office (.client k) a = none) :
    e.resets = true ∧ m.isHeldAgainst (.client k) = true := by
  have hheld : m.isHeldAgainst (.client k) = true := by
    by_contra hfree
    have hpermit : a ≠ .takePermit := by
      rintro rfl
      exact h.elim
    have hhandled : ∃ x after, m.handle office (.client k) a = some (x, after) :=
      Machine.exists_handle hpermit (Bool.eq_false_iff.mpr hfree)
    rw [hhandle] at hhandled
    obtain ⟨_, _, hnone⟩ := hhandled
    cases hnone
  refine ⟨?_, hheld⟩
  cases a with
  | site a =>
    cases a with
    | now => cases hhandle
    | records a =>
      cases a with
      | statement st =>
        cases st with
        | findLayer id =>
          simp [Machine.handle, Machine.onSite, Machine.records, hheld, Statement.isWrite]
            at hhandle
        | changeLayer id change =>
          cases change with
          | cleared moment => exact h.2
          | loaded | published => exact h.elim
        | _ => exact h.elim
      | begin | commit => exact h.elim
    | _ => exact h.elim
  | queueImport | queueTeardown | runningImport => cases hhandle
  | _ => exact h.elim

/-- The request has performed an action, and the other scene has followed. -/
theorem Beside.deed (h : e.Beside k R budget c s)
    (ht : c.scene.clients[k]? = some (.perform a rest))
    (hothers : ∀ i, i ≠ k → s'.clients[i]? = s.clients[i]?) (hu : s'.clients[k]? = some u)
    (hmachine : s'.machine = m)
    (hspares : e.Spares R n
      (foundAfter (lastFound (exchangesOf (.client k) c.deeds)) a x) (rest x) u)
    (hbudget : (exchangesOf (.client k) c.deeds).length + (n + 1) ≤ budget) :
    e.Beside k R budget
      ⟨⟨m, c.scene.clients.set k (rest x)⟩, c.deeds ++ [⟨.client k, a, x⟩]⟩ s' := by
  have hlog : exchangesOf (.client k) (c.deeds ++ [⟨.client k, a, x⟩]) =
      exchangesOf (.client k) c.deeds ++ [⟨a, x⟩] := exchangesOf_concat_self _ ⟨.client k, a, x⟩
  have hlt := (List.getElem?_eq_some_iff.mp ht).1
  refine ⟨hmachine, fun i hi => ?_, rest x, u, n, ?_, hu, ?_, ?_⟩
  · rw [hothers i hi, h.others i hi, List.getElem?_set_ne (Ne.symm hi)]
  · exact List.getElem?_set_self hlt
  · rw [hlog, lastFound_concat]
    exact hspares
  · rw [hlog, List.length_append, List.length_singleton]
    omega

/-- A turn in which the request has performed an action. -/
theorem leavesAlone_deed (hkeeps : c.scene.machine.Keeps e.layer e.job m)
    (hteardown : ∀ table entry, a = .queueTeardown table entry →
      e.Avoids (lastFound (exchangesOf (.client k) c.deeds)) a)
    {clients : List (Task Admin.Response)} :
    LeavesAlone e.layer e.job k c ⟨⟨m, clients⟩, c.deeds ++ [⟨.client k, a, x⟩]⟩ := by
  refine ⟨hkeeps, fun d table entry hd hqueues => ?_⟩
  obtain rfl := List.singleton_inj.mp (List.append_cancel_left hd)
  obtain rfl : a = .queueTeardown table entry := hqueues
  exact hteardown table entry rfl

/-- A turn in which the request has done nothing. -/
theorem leavesAlone_refl (layer : Uuid) (job : JobId) (k : Nat) (c : Course σ Admin.Response) :
    LeavesAlone layer job k c c := by
  refine ⟨.refl .., fun d _ _ hd _ => ?_⟩
  have hlength := congrArg List.length hd
  simp at hlength

/-- A turn of the request that meets the layer: it leaves the layer alone and goes on, and the other
scene follows. -/
structure OwnTurn (e : Encounter) (office : Office σ) (k : Nat)
    (R : Admin.Response → Admin.Response → Prop) (budget : Nat) (c : Course σ Admin.Response)
    (s : Scene σ Admin.Response) : Prop where
  alone : LeavesAlone e.layer e.job k c (c.next office (.act (.client k)))
  goesOn : (∃ answer, c.scene.clients[k]? = some (.result answer)) ∨
    (e.resets = true ∧ c.scene.machine.isHeldAgainst (.client k) = true) ∨
    (exchangesOf (.client k) (c.next office (.act (.client k))).deeds).length =
      (exchangesOf (.client k) c.deeds).length + 1
  follows : ∃ occurrences, Abridged k (e.resets = false) [.act (.client k)] occurrences ∧
    e.Beside k R budget (c.next office (.act (.client k))) (s.unroll office occurrences)

/-- In neither scene is there anything to do. -/
theorem OwnTurn.still (h : e.Beside k R budget c s)
    (htake : c.scene.take office (.client k) = none) (hmove : s.move? office (.client k) = none)
    (hgoesOn : (∃ answer, c.scene.clients[k]? = some (.result answer)) ∨
      (e.resets = true ∧ c.scene.machine.isHeldAgainst (.client k) = true)) :
    e.OwnTurn office k R budget c s := by
  have hnext := Course.next_of_take htake
  refine ⟨hnext.symm ▸ leavesAlone_refl .., hgoesOn.imp_right .inl,
    [.turn (.act (.client k))], .keep _ .nil, ?_⟩
  rw [hnext, Scene.unroll, List.foldl_cons, List.foldl_nil, Scene.occur, hmove]
  exact h

/-- The request performs an action, which the other scene does or leaves out. -/
theorem OwnTurn.acts (h : e.Beside k R budget c s)
    (ht : c.scene.clients[k]? = some (.perform a rest))
    (hhandle : c.scene.machine.handle office (.client k) a = some (x, m))
    (hkeeps : c.scene.machine.Keeps e.layer e.job m)
    (hteardown : ∀ table entry, a = .queueTeardown table entry →
      e.Avoids (lastFound (exchangesOf (.client k) c.deeds)) a)
    {occurrences : List Occurrence}
    (habridged : Abridged k (e.resets = false) [.act (.client k)] occurrences)
    (hmachine : (s.unroll office occurrences).machine = m)
    (hothers : ∀ i, i ≠ k → (s.unroll office occurrences).clients[i]? = s.clients[i]?)
    (hu : (s.unroll office occurrences).clients[k]? = some u)
    (hspares : e.Spares R n
      (foundAfter (lastFound (exchangesOf (.client k) c.deeds)) a x) (rest x) u)
    (hbudget : (exchangesOf (.client k) c.deeds).length + (n + 1) ≤ budget) :
    e.OwnTurn office k R budget c s := by
  have hnext := Course.next_client ht hhandle
  refine ⟨hnext ▸ leavesAlone_deed hkeeps hteardown, .inr (.inr ?_), occurrences, habridged, ?_⟩
  · rw [hnext, exchangesOf_concat_self _ ⟨.client k, a, x⟩, List.length_append,
      List.length_singleton]
  · rw [hnext]
    exact h.deed ht hothers hu hmachine hspares hbudget

/-- What a turn of the request does, with and without the layer. -/
theorem Beside.act_own (h : e.Beside k R budget c s) (hholds : e.Holds office k c.scene.machine)
    (hinj : Function.Injective office.jobId) : e.OwnTurn office k R budget c s := by
  obtain ⟨t, u, n, ht, hu, hspares, hbudget⟩ := h.own
  generalize hfound : lastFound (exchangesOf (.client k) c.deeds) = found at hspares
  cases hspares with
  | @result _ _ answer other related =>
    exact .still h (by simp only [Scene.take, Machine.turn?, ht])
      (by simp only [Scene.move?, hu, Machine.advance]) (.inl ⟨answer, ht⟩)
  | @both n _ a next next' avoids rest =>
    cases hhandle : c.scene.machine.handle office (.client k) a with
    | none =>
      exact .still h (by simp only [Scene.take, Machine.turn?, ht, hhandle])
        (by simp only [Scene.move?, hu, Machine.advance, h.machine, hhandle])
        (.inr (avoids.waits hhandle))
    | some answered =>
      obtain ⟨x, m⟩ := answered
      have hmove : s.unroll office [.turn (.act (.client k))] = ⟨m, s.clients.set k (next' x)⟩ := by
        simp only [Scene.unroll, List.foldl_cons, List.foldl_nil, Scene.occur, Scene.move?, hu,
          Machine.advance, h.machine, hhandle, Option.getD_some]
      refine .acts h ht hhandle
        (.of_avoids hholds.imports hholds.indexed hinj avoids hhandle)
        (fun _ _ _ => hfound ▸ avoids) (.keep _ .nil) ?_ ?_ ?_ (hfound ▸ rest x) hbudget
      · rw [hmove]
      · rw [hmove]
        exact fun i hi => List.getElem?_set_ne (Ne.symm hi)
      · rw [hmove]
        exact List.getElem?_set_self (List.getElem?_eq_some_iff.mp hu).1
  | @looked n _ next _ rest =>
    obtain ⟨l, hl, hfinds⟩ := hholds.finds
    exact .acts h ht hfinds (.refl ..) (by simp) (.leave .nil) h.machine (fun _ _ => rfl) hu
      (rest l hl) hbudget
  | @asked n _ next _ rest =>
    obtain ⟨j, hactive, hid⟩ := hholds.imports.exists_active? hholds.indexed
    have hhandle : c.scene.machine.handle office (.client k) (.runningImport e.layer) =
        some (some e.job, c.scene.machine) := by
      simp only [Machine.handle, hactive, Option.map_some, hid]
    exact .acts h ht hhandle (.refl ..) (by simp) (.leave .nil) h.machine (fun _ _ => rfl) hu
      (hfound ▸ rest) hbudget
  | @refused n _ next _ imports rest =>
    obtain ⟨j, hactive, hid⟩ := hholds.imports.exists_active? hholds.indexed
    have hhandle := hholds.indexed.queueImport hactive (.client k)
    rw [hid] at hhandle
    have hkeeps := Machine.Keeps.passOver hholds.imports hholds.indexed hinj
    have hmachine : (s.unroll office [.refusal]).machine = c.scene.machine.passOver := by
      rw [Scene.unroll, List.foldl_cons, List.foldl_nil, Scene.occur, h.machine]
    exact .acts h ht hhandle hkeeps (by simp) (.refuse imports .nil) hmachine (fun _ _ => rfl) hu
      (hfound ▸ rest) hbudget

/-- What others do is no exchange of the request. -/
theorem exchangesOf_next (c : Course σ Admin.Response) {turn : Turn}
    (hturn : turn ≠ .act (.client k)) :
    exchangesOf (.client k) (c.next office turn).deeds = exchangesOf (.client k) c.deeds := by
  cases turn with
  | pass elapsed => rfl
  | act who =>
    simp only [Course.next]
    split
    · next d s htake =>
      refine exchangesOf_concat_of_ne fun hactor => hturn ?_
      cases who with
      | job i =>
        obtain ⟨a, rest, x, m, -, -, rfl, -⟩ := Scene.take_job_eq_some htake
        cases hactor
      | client i =>
        obtain ⟨a, rest, x, m, -, -, rfl, -⟩ := Scene.take_client_eq_some htake
        exact congrArg Turn.act hactor
    · rfl

/-- No exchange is forgotten. -/
theorem length_exchangesOf_next (office : Office σ) (c : Course σ Admin.Response) (turn : Turn)
    (k : Nat) :
    (exchangesOf (.client k) c.deeds).length ≤
      (exchangesOf (.client k) (c.next office turn).deeds).length := by
  cases turn with
  | pass elapsed => exact Nat.le_refl _
  | act who =>
    simp only [Course.next]
    split
    · simp [exchangesOf]
    · exact Nat.le_refl _

/-- What others do happens in both scenes. -/
theorem Beside.act_other (h : e.Beside k R budget c s) {turn : Turn}
    (hturn : turn ≠ .act (.client k)) :
    e.Beside k R budget (c.next office turn) (s.occur office (.turn turn)) := by
  have hlog : exchangesOf (.client k) (c.next office turn).deeds =
      exchangesOf (.client k) c.deeds :=
    exchangesOf_next c hturn
  obtain ⟨t, u, n, ht, hu, hspares, hbudget⟩ := h.own
  obtain ⟨hmachine, hothers, hown, hown'⟩ := Scene.occur_other office h.machine h.others hturn
  refine ⟨?_, ?_, t, u, n, ?_, hown'.trans hu, ?_, ?_⟩
  · rw [Course.scene_next, hmachine]
  · rw [Course.scene_next]
    exact hothers
  · rw [Course.scene_next, hown, ht]
  · rw [hlog]
    exact hspares
  · rw [hlog]
    exact hbudget

/-- What a turn does, with and without the layer. -/
theorem Beside.next (h : e.Beside k R budget c s) (hholds : e.Holds office k c.scene.machine)
    (hinj : Function.Injective office.jobId) (turn : Turn) :
    ∃ occurrences, Abridged k (e.resets = false) [turn] occurrences ∧
      e.Beside k R budget (c.next office turn) (s.unroll office occurrences) := by
  by_cases hturn : turn = .act (.client k)
  · subst hturn
    exact (h.act_own hholds hinj).follows
  · exact ⟨[.turn turn], .keep turn .nil, h.act_other hturn⟩

/-- What a course does, with and without the layer. -/
theorem Beside.run (h : e.Beside k R budget c s) (hinj : Function.Injective office.jobId)
    {turns : List Turn}
    (hholds : ∀ past, past <+: turns → e.Holds office k (c.run office past).scene.machine) :
    ∃ occurrences, Abridged k (e.resets = false) turns occurrences ∧
      e.Beside k R budget (c.run office turns) (s.unroll office occurrences) := by
  induction turns generalizing c s with
  | nil => exact ⟨[], .nil, h⟩
  | cons turn rest ih =>
    obtain ⟨first, hfirst, hnext⟩ := h.next (hholds [] List.nil_prefix) hinj turn
    obtain ⟨occurrences, hoccurrences, hlast⟩ := ih hnext fun past hpast =>
      hholds (turn :: past) ((List.prefix_cons_inj turn).mpr hpast)
    refine ⟨first ++ occurrences, hfirst.cons hoccurrences, ?_⟩
    rw [Scene.unroll, List.foldl_append]
    exact hlast

/-- Who has answered does nothing more. -/
theorem Course.answered_run {answer : Admin.Response}
    (h : c.scene.clients[k]? = some (.result answer)) (turns : List Turn) :
    (c.run office turns).scene.clients[k]? = some (.result answer) := by
  induction turns generalizing c with
  | nil => exact h
  | cons turn rest ih =>
    refine ih ?_
    by_cases hturn : turn = .act (.client k)
    · subst hturn
      rwa [Course.next_of_take (by simp only [Scene.take, Machine.turn?, h])]
    · rw [Course.scene_next, (Scene.occur_other office rfl (fun _ _ => rfl) hturn).2.2.1, h]

/-- A request that has not answered has used its chances. -/
theorem Beside.chances (h : e.Beside k R budget c s) (hinj : Function.Injective office.jobId)
    {turns : List Turn}
    (hholds : ∀ past, past <+: turns → e.Holds office k (c.run office past).scene.machine) :
    (∃ answer, (c.run office turns).scene.clients[k]? = some (.result answer)) ∨
      (exchangesOf (.client k) c.deeds).length + c.chances office k e.resets turns ≤
        (exchangesOf (.client k) (c.run office turns).deeds).length := by
  induction turns generalizing c s with
  | nil => exact .inr (Nat.le_refl _)
  | cons turn rest ih =>
    obtain ⟨_, _, hnext⟩ := h.next (hholds [] List.nil_prefix) hinj turn
    have hrest := ih hnext fun past hpast =>
      hholds (turn :: past) ((List.prefix_cons_inj turn).mpr hpast)
    have hgrows := length_exchangesOf_next office c turn k
    rw [Course.chances]
    split
    · next hchance =>
      obtain ⟨rfl, hfree⟩ := hchance
      obtain ⟨answer, hanswer⟩ | ⟨hresets, hheld⟩ | hlog :=
        (h.act_own (hholds [] List.nil_prefix) hinj).goesOn
      · exact .inl ⟨answer, Course.answered_run hanswer _⟩
      · rw [hfree hresets] at hheld
        cases hheld
      · rw [hlog] at hrest
        exact hrest.imp_right fun hle => by rwa [← Nat.add_assoc]
    · refine hrest.imp_right fun hle => ?_
      rw [Nat.zero_add]
      exact Nat.le_trans (Nat.add_le_add_right hgrows _) hle

/-- A request that has had as many chances as it takes actions has answered. -/
theorem Beside.exists_answer (h : e.Beside k R budget c s) (hinj : Function.Injective office.jobId)
    {turns : List Turn}
    (hholds : ∀ past, past <+: turns → e.Holds office k (c.run office past).scene.machine)
    (hchances : budget ≤
      (exchangesOf (.client k) c.deeds).length + c.chances office k e.resets turns) :
    ∃ answer, (c.run office turns).scene.clients[k]? = some (.result answer) := by
  obtain hanswer | hused := h.chances hinj hholds
  · exact hanswer
  · obtain ⟨_, -, -, -, t, u, n, ht, -, hspares, hbudget⟩ := h.run hinj hholds
    obtain rfl : n = 0 := by omega
    cases hspares with
    | @result _ _ answer _ _ => exact ⟨answer, ht⟩

end Encounter

end

/-! ## The theorem -/

/-- While a job is importing a layer, a request that meets the layer leaves it alone in every
course, beside any requests and jobs. Each turn of the request keeps the rows of the layer, the job
and what is registered for the layer, and queues a teardown only for another layer. It has answered
when it has had as many chances as it takes actions. There is a course without the layer in which
all else happens as it does: the machine and all other requests come to the same, and the answer is
the same but for the layer, which is refused or skipped, for a reason that names the job if the
layer always suits the request. -/
theorem busy_layer_is_left_alone {σ : Type} (office : Office σ)
    (hinj : Function.Injective office.jobId) (site : Site σ) (workers : Nat)
    (clients : List (Task Admin.Response)) (hclients : ∀ t ∈ clients, ClientTask t)
    (before : List Turn) (k : Nat) (r : JobRequest) (layer : Uuid) (hmeets : r.MayMeet layer)
    (job : JobId) (turns : List Turn) :
    let c := (Course.start ⟨Machine.start site workers, clients⟩).run office before
    let machine (past : List Turn) := (c.run office past).scene.machine
    let always := ∀ past, past <+: turns → ∀ l,
      (machine past).Finds office (.client k) layer l → r.suits l = true
    c.scene.clients[k]? = some r.task →
    (∀ past, past <+: turns → (machine past).Imports layer job) →
    (∀ past, past <+: turns → ∃ l, (machine past).Finds office (.client k) layer l) →
    (∀ past, past ++ [.act (.client k)] <+: turns →
      LeavesAlone layer job k (c.run office past) (c.run office (past ++ [.act (.client k)]))) ∧
    (r.cost ≤ c.chances office k r.isReset turns →
      ∃ answer, (c.run office turns).scene.clients[k]? = some (.result answer)) ∧
    ∃ occurrences, Abridged k (r.isReset = false) turns occurrences ∧
      let without := Scene.unroll office
        ⟨c.scene.machine, c.scene.clients.set k (r.sparing layer job)⟩ occurrences
      without.machine = machine turns ∧
      (∀ i, i ≠ k → without.clients[i]? = (c.run office turns).scene.clients[i]?) ∧
      ∀ answer, (c.run office turns).scene.clients[k]? = some (.result answer) →
        ∃ other, without.clients[k]? = some (.result other) ∧
          r.Spared layer job always answer other := by
  intro c machine always hclient himports hfinds
  let e : Encounter := ⟨layer, job, fun l => always → r.suits l = true, r.isReset⟩
  have hfirst := Course.Enrolled.start office site workers hclients
  have hindexed : c.scene.machine.Indexed office :=
    hfirst.run_indexed hinj (Machine.indexed_start office site workers) before
  have hholds : ∀ past, past <+: turns → e.Holds office k (machine past) := by
    intro past hpast
    obtain ⟨l, hl⟩ := hfinds past hpast
    exact ⟨(hfirst.run before).run_indexed hinj hindexed past, himports past hpast, l,
      fun halways => halways past hpast l hl, hl⟩
  have hlt := (List.getElem?_eq_some_iff.mp hclient).1
  have hstart : e.Beside k (r.Spared layer job always)
      ((exchangesOf (.client k) c.deeds).length + r.cost) c
      ⟨c.scene.machine, c.scene.clients.set k (r.sparing layer job)⟩ :=
    ⟨rfl, fun i hi => List.getElem?_set_ne (Ne.symm hi), r.task, _, r.cost, hclient,
      List.getElem?_set_self hlt,
      JobRequest.spares_task (e := e) hmeets (fun l hl => hl) rfl _, Nat.le_refl _⟩
  refine ⟨fun past hpast => ?_, fun hchances => ?_, ?_⟩
  · have hprefix : past <+: turns := (List.prefix_append past _).trans hpast
    obtain ⟨_, -, hbeside⟩ := hstart.run hinj fun sooner hsooner =>
      hholds sooner (hsooner.trans hprefix)
    rw [Course.run_concat]
    exact (hbeside.act_own (hholds past hprefix) hinj).alone
  · exact hstart.exists_answer hinj hholds (Nat.add_le_add_left hchances _)
  · obtain ⟨occurrences, habridged, hbeside⟩ := hstart.run hinj hholds
    refine ⟨occurrences, habridged, hbeside.machine, hbeside.others, fun answer hanswer => ?_⟩
    obtain ⟨t, u, n, ht, hu, hspares, -⟩ := hbeside.own
    obtain rfl := Option.some.inj (ht.symm.trans hanswer)
    cases hspares with
    | result related => exact ⟨_, hu, related⟩

/-- Three layers with a source file. -/
def spareSite : Site Unit :=
  Site.plain [.plain "roads", { Layer.plain "rivers" with id := ⟨2⟩ },
    { Layer.plain "lakes" with id := ⟨3⟩ }]

/-- Two of the layers are imported, and then two again of which one is being imported. -/
def spareRequests : List JobRequest := [.bulkImport [⟨2⟩, ⟨1⟩], .bulkImport [⟨1⟩, ⟨3⟩, ⟨1⟩]]

/-- The course in which the first request has been answered. -/
def spareCourse : Course Unit Admin.Response :=
  (Course.start ⟨Machine.start spareSite 1, spareRequests.map JobRequest.task⟩).run .plain
    (List.replicate 4 (.act (.client 0)))

/-- The turns of the second request. -/
def spareTurns : List Turn := List.replicate 6 (.act (.client 1))

/-- At each of these turns the job is importing the layer, which has its source file. -/
theorem spareCourse_holds : ∀ past, past <+: spareTurns →
    let m := (spareCourse.run .plain past).scene.machine
    m.Imports ⟨1⟩ "j" ∧ m.holder = none ∧ m.site.working = none ∧
      m.site.records.layer? ⟨1⟩ = some (.plain "roads") := by
  simp only [← List.mem_inits]
  decide +kernel

/-- The second request leaves the layer alone that the first has queued: it skips the layer wherever
it is named. -/
theorem busy_layer_is_left_alone_plain :
    Function.Injective Office.plain.jobId ∧
      (∀ t ∈ spareRequests.map JobRequest.task, ClientTask t) ∧
      JobRequest.MayMeet ⟨1⟩ (.bulkImport [⟨1⟩, ⟨3⟩, ⟨1⟩]) ∧
      spareCourse.scene.clients[1]? = some (JobRequest.bulkImport [⟨1⟩, ⟨3⟩, ⟨1⟩]).task ∧
      (∀ past, past <+: spareTurns →
        (spareCourse.run .plain past).scene.machine.Imports ⟨1⟩ "j") ∧
      (∀ past, past <+: spareTurns → ∃ l,
        (spareCourse.run .plain past).scene.machine.Finds .plain (.client 1) ⟨1⟩ l) ∧
      ∃ answer other, (spareCourse.run .plain spareTurns).scene.clients[1]? = some (.result answer) ∧
        (JobRequest.bulkImport [⟨1⟩, ⟨3⟩, ⟨1⟩]).Spared ⟨1⟩ "j" True answer other := by
  have hclients : ∀ t ∈ spareRequests.map JobRequest.task, ClientTask t := by
    rw [List.forall_mem_map]
    exact fun r _ => r.requestTask_task.clientTask
  have himports : ∀ past, past <+: spareTurns →
      (spareCourse.run .plain past).scene.machine.Imports ⟨1⟩ "j" :=
    fun past hpast => (spareCourse_holds past hpast).1
  have hfinds : ∀ past, past <+: spareTurns →
      (spareCourse.run .plain past).scene.machine.Finds .plain (.client 1) ⟨1⟩
        (.plain "roads") := by
    intro past hpast
    obtain ⟨-, hholder, hworking, hrow⟩ := spareCourse_holds past hpast
    exact Machine.finds_of_idle (fun _ => rfl) hholder hworking hrow
  have hclient : spareCourse.scene.clients[1]? =
      some (JobRequest.bulkImport [⟨1⟩, ⟨3⟩, ⟨1⟩]).task := rfl
  obtain ⟨-, hanswers, _, -, -, -, hspared⟩ := busy_layer_is_left_alone .plain
    Office.plain_jobId_injective spareSite 1 (spareRequests.map JobRequest.task) hclients
    (List.replicate 4 (.act (.client 0))) 1 (.bulkImport [⟨1⟩, ⟨3⟩, ⟨1⟩]) ⟨1⟩ trivial "j" spareTurns
    hclient himports fun past hpast => ⟨_, hfinds past hpast⟩
  obtain ⟨answer, hanswer⟩ := hanswers (by decide +kernel)
  obtain ⟨other, -, hspared⟩ := hspared answer hanswer
  have halways : ∀ past, past <+: spareTurns → ∀ l,
      (spareCourse.run .plain past).scene.machine.Finds .plain (.client 1) ⟨1⟩ l →
        (JobRequest.bulkImport [⟨1⟩, ⟨3⟩, ⟨1⟩]).suits l = true := by
    intro past hpast l hl
    rw [(hfinds past hpast).unique hl]
    rfl
  refine ⟨Office.plain_jobId_injective, hclients, trivial, hclient, himports,
    fun past hpast => ⟨_, hfinds past hpast⟩, answer, other, hanswer, ?_⟩
  rwa [← eq_true halways]

end LayerPress
