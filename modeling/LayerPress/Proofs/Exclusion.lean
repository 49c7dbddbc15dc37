import LayerPress.Proofs.Ledger
import LayerPress.Proofs.Machine
import LayerPress.Proofs.Plain
import LayerPress.Proofs.Requests
import LayerPress.Proofs.Watch

/-!
# Mutual exclusion among jobs

Whatever the order in which requests and jobs take their turns, at most one import of a layer is
in progress, at most as many jobs as there are workers are, and each job that the store holds as
running is carried by exactly one task that has not ended it.

No task holds a lock on its layer. The exclusion follows from an invariant that ties the ledger
of queued jobs to the machine: the open entries are the running jobs of the store, the layer of
each open import is noted with that job, and the permits left and those held always add up to
the same number.
-/

namespace LayerPress

variable {σ : Type} {office : Office σ} {workers : Nat} {m m' : Machine σ}
  {l before rest : Ledger} {e : JobEntry}

/-- The ledger agrees with the machine. -/
structure Booked (office : Office σ) (workers : Nat) (m : Machine σ) (l : Ledger) : Prop where
  issued : ∀ e ∈ l, ∃ n < m.nextJob, e.id = office.jobId n
  distinct : (l.map (·.id)).Nodup
  permits : m.permits + l.countP (·.stage.holdsPermit) = max workers 1
  sound : m.jobs.Sound
  stored : ∀ j ∈ m.jobs.jobs, ∃ n < m.nextJob, j.id = office.jobId n
  runs : ∀ id noted, m.jobs.Runs id noted ↔ ∃ e ∈ l, e.id = id ∧ e.layer = noted ∧ e.stage.isOpen
  noted : ∀ e ∈ l, e.stage.isOpen → ∀ layer, e.layer = some layer →
    m.jobs.active.lookup layer = some e.id

namespace Booked

/-- A machine without jobs agrees with the empty ledger. -/
theorem start (office : Office σ) (site : Site σ) (workers : Nat) :
    Booked office workers (Machine.start site workers) [] where
  issued := fun _ h => absurd h List.not_mem_nil
  distinct := List.nodup_nil
  permits := by simp [Machine.start]
  sound := JobStore.sound_empty
  stored := fun _ h => absurd h List.not_mem_nil
  runs := fun id noted => by
    simp [JobStore.Runs, Machine.start, JobStore.empty, JobStore.timedBy]
  noted := fun _ h => absurd h List.not_mem_nil

/-- Agreement is about jobs and permits only. -/
theorem congr (h : Booked office workers m l) (hjobs : m'.jobs = m.jobs)
    (hpermits : m'.permits = m.permits) (hnext : m'.nextJob = m.nextJob) :
    Booked office workers m' l where
  issued := hnext ▸ h.issued
  distinct := h.distinct
  permits := hpermits ▸ h.permits
  sound := hjobs ▸ h.sound
  stored := hjobs ▸ hnext ▸ h.stored
  runs := hjobs ▸ h.runs
  noted := hjobs ▸ h.noted

/-- What leaves jobs alone keeps the agreement. -/
theorem of_sameJobs (h : Booked office workers m l) (hsame : m.SameJobs m') :
    Booked office workers m' l :=
  h.congr hsame.jobs hsame.permits hsame.nextJob

/-- A refused job leaves agreement; the evicted jobs had ended. -/
theorem refused (h : Booked office workers m l) (hpermits : m'.permits = m.permits)
    (hnext : m'.nextJob = m.nextJob + 1) (hjobs : m'.jobs = m.jobs.evict m.now) :
    Booked office workers m' l where
  issued := fun e he => by
    obtain ⟨n, hn, hid⟩ := h.issued e he
    exact ⟨n, by omega, hid⟩
  distinct := h.distinct
  permits := hpermits ▸ h.permits
  sound := hjobs ▸ h.sound.evict _
  stored := fun j hj => by
    rw [hjobs] at hj
    obtain ⟨n, hn, hid⟩ := h.stored j (List.mem_of_mem_filter hj)
    exact ⟨n, by omega, hid⟩
  runs := fun id noted => by rw [hjobs, JobStore.runs_evict h.sound]; exact h.runs id noted
  noted := hjobs ▸ h.noted

/-- A layer that is free has no open import. -/
theorem ne_of_free (h : Booked office workers m l) {layer : Uuid}
    (hfree : (m.jobs.evict m.now).active? layer = none) {e : JobEntry} (he : e ∈ l)
    (hopen : e.stage.isOpen) : e.layer ≠ some layer := by
  intro hlayer
  have hrun : (m.jobs.evict m.now).Runs e.id (some layer) :=
    (JobStore.runs_evict h.sound).mpr ((h.runs _ _).mpr ⟨e, he, rfl, hlayer, hopen⟩)
  have hactive := JobStore.active?_isSome_of_runs (h.sound.evict _)
    (h.noted e he hopen layer hlayer) hrun
  rw [hfree] at hactive
  cases hactive

/-- An open import is the running import of its layer. -/
theorem active?_isSome (h : Booked office workers m l) {e : JobEntry} (he : e ∈ l)
    (hopen : e.stage.isOpen) {layer : Uuid} (hlayer : e.layer = some layer) :
    (m.jobs.active? layer).isSome := by
  have hrun : m.jobs.Runs e.id (some layer) := (h.runs _ _).mpr ⟨e, he, rfl, hlayer, hopen⟩
  exact JobStore.active?_isSome_of_runs h.sound (h.noted e he hopen layer hlayer) hrun

/-- A started job is a new open entry. -/
theorem started (h : Booked office workers m l) (hinj : Function.Injective office.jobId)
    {kind : JobKind} {layer : Option Uuid} {channel : Nat} (hpermits : m'.permits = m.permits)
    (hnext : m'.nextJob = m.nextJob + 1)
    (hjobs : m'.jobs = ((m.jobs.evict m.now).notedWith layer (office.jobId m.nextJob)).put
      (Job.start (office.jobId m.nextJob) kind layer channel m.now))
    (hfree : layer.bind (m.jobs.evict m.now).active? = none) :
    Booked office workers m' (l ++ [⟨office.jobId m.nextJob, layer, .waiting⟩]) := by
  set id := office.jobId m.nextJob with hid
  set kept := (m.jobs.evict m.now).notedWith layer id with hkept
  have hfresh : ∀ n < m.nextJob, office.jobId n ≠ id := fun n hn heq => by
    have := hinj heq
    omega
  have hnew : ∀ k ∈ kept.jobs, k.id ≠ id := fun k hk => by
    rw [hkept, JobStore.notedWith_jobs] at hk
    obtain ⟨n, hn, hkid⟩ := h.stored k (List.mem_of_mem_filter hk)
    exact hkid ▸ hfresh n hn
  have hsound : kept.Sound := (h.sound.evict m.now).notedWith layer id
  have hruns : ∀ i noted, kept.Runs i noted ↔ m.jobs.Runs i noted := fun i noted =>
    JobStore.runs_notedWith.trans (JobStore.runs_evict h.sound)
  refine ⟨?_, ?_, ?_, ?_, ?_, ?_, ?_⟩
  · intro e he
    rcases List.mem_append.mp he with he | he
    · obtain ⟨n, hn, heid⟩ := h.issued e he
      exact ⟨n, by omega, heid⟩
    · rw [List.mem_singleton.mp he]
      exact ⟨m.nextJob, by omega, rfl⟩
  · rw [List.map_append]
    refine List.nodup_append'.mpr ⟨h.distinct, List.nodup_singleton _, ?_⟩
    intro i hi hi'
    obtain ⟨e, he, rfl⟩ := List.mem_map.mp hi
    obtain ⟨n, hn, heid⟩ := h.issued e he
    exact hfresh n hn (heid.symm.trans (List.mem_singleton.mp hi'))
  · simpa [hpermits, List.countP_append, JobStage.holdsPermit] using h.permits
  · rw [hjobs]
    exact hsound.put hnew rfl
  · intro j hj
    rw [hjobs, JobStore.put_jobs hnew] at hj
    rcases List.mem_append.mp hj with hj | hj
    · rw [hkept, JobStore.notedWith_jobs] at hj
      obtain ⟨n, hn, hjid⟩ := h.stored j (List.mem_of_mem_filter hj)
      exact ⟨n, by omega, hjid⟩
    · rw [List.mem_singleton.mp hj]
      exact ⟨m.nextJob, by omega, rfl⟩
  · intro i noted
    rw [hjobs, JobStore.runs_put hnew rfl, hruns, h.runs]
    constructor
    · rintro (⟨rfl, rfl⟩ | ⟨e, he, hrest⟩)
      · exact ⟨_, List.mem_append_right _ (List.mem_singleton_self _), rfl, rfl, rfl⟩
      · exact ⟨e, List.mem_append_left _ he, hrest⟩
    · rintro ⟨e, he, heid, helayer, hopen⟩
      rcases List.mem_append.mp he with he | he
      · exact Or.inr ⟨e, he, heid, helayer, hopen⟩
      · rw [List.mem_singleton.mp he] at heid helayer
        exact Or.inl ⟨heid.symm, helayer.symm⟩
  · intro e he hopen other hother
    rw [hjobs]
    change kept.active.lookup other = some e.id
    rcases List.mem_append.mp he with hin | hin
    · have hold := h.noted e hin hopen other hother
      cases layer with
      | none => exact hold
      | some layer =>
        have hne : other ≠ layer := fun heq => h.ne_of_free hfree hin hopen (heq ▸ hother)
        rw [hkept, JobStore.notedWith, JobStore.lookup_activate, if_neg hne]
        exact hold
    · rw [List.mem_singleton.mp hin] at hother ⊢
      dsimp only at hother
      rw [hkept, hother, JobStore.notedWith, JobStore.lookup_activate, if_pos rfl]

/-- No other entry has the id of a given one. -/
theorem ne_id (h : Booked office workers m (before ++ e :: rest)) {f : JobEntry}
    (hf : f ∈ before ∨ f ∈ rest) : f.id ≠ e.id := by
  have hdistinct := h.distinct
  rw [List.map_append, List.map_cons, List.nodup_middle, List.nodup_cons] at hdistinct
  intro heq
  refine hdistinct.1 (heq ▸ ?_)
  rw [← List.map_append]
  exact List.mem_map_of_mem (List.mem_append.mpr hf)

/-- The job of an entry runs exactly while the entry is open. -/
theorem runs_self (h : Booked office workers m (before ++ e :: rest)) (noted : Option Uuid) :
    m.jobs.Runs e.id noted ↔ noted = e.layer ∧ e.stage.isOpen := by
  rw [h.runs]
  constructor
  · rintro ⟨f, hf, hid, hlayer, hopen⟩
    rcases List.mem_append.mp hf with hf | hf
    · exact absurd hid (h.ne_id (Or.inl hf))
    · rcases List.mem_cons.mp hf with rfl | hf
      · exact ⟨hlayer.symm, hopen⟩
      · exact absurd hid (h.ne_id (Or.inr hf))
  · rintro ⟨rfl, hopen⟩
    exact ⟨e, by simp, rfl, rfl, hopen⟩

/-- One task goes on to another stage, and its job stops running when the stage is not open. -/
theorem restaged (h : Booked office workers m (before ++ e :: rest)) {stage : JobStage}
    (hnext : m'.nextJob = m.nextJob)
    (hpermits : m'.permits + stage.holdsPermit.toNat = m.permits + e.stage.holdsPermit.toNat)
    (hsound : m'.jobs.Sound) (hids : m'.jobs.jobs.map (·.id) = m.jobs.jobs.map (·.id))
    (hopen : stage.isOpen → e.stage.isOpen)
    (hruns : ∀ id noted, m'.jobs.Runs id noted ↔
      m.jobs.Runs id noted ∧ (id = e.id → stage.isOpen))
    (hnoted : ∀ layer id, m.jobs.active.lookup layer = some id → (id = e.id → stage.isOpen) →
      m'.jobs.active.lookup layer = some id) :
    Booked office workers m' (before ++ { e with stage := stage } :: rest) := by
  have hmem : ∀ f ∈ before ++ { e with stage := stage } :: rest, f.stage.isOpen →
      ∃ g ∈ before ++ e :: rest, g.id = f.id ∧ g.layer = f.layer ∧ g.stage.isOpen ∧
        (f.id = e.id → stage.isOpen) := by
    intro f hf hfopen
    rcases List.mem_append.mp hf with hf | hf
    · exact ⟨f, List.mem_append_left _ hf, rfl, rfl, hfopen,
        fun heq => absurd heq (h.ne_id (Or.inl hf))⟩
    · rcases List.mem_cons.mp hf with rfl | hf
      · exact ⟨e, by simp, rfl, rfl, hopen hfopen, fun _ => hfopen⟩
      · exact ⟨f, by simp [hf], rfl, rfl, hfopen, fun heq => absurd heq (h.ne_id (Or.inr hf))⟩
  refine ⟨?_, ?_, ?_, hsound, ?_, ?_, ?_⟩
  · intro f hf
    obtain ⟨g, hg, hid⟩ : ∃ g ∈ before ++ e :: rest, g.id = f.id := by
      rcases List.mem_append.mp hf with hf | hf
      · exact ⟨f, List.mem_append_left _ hf, rfl⟩
      · rcases List.mem_cons.mp hf with rfl | hf
        · exact ⟨e, by simp, rfl⟩
        · exact ⟨f, by simp [hf], rfl⟩
    rw [hnext, ← hid]
    exact h.issued g hg
  · simpa using h.distinct
  · have hold := h.permits
    simp only [List.countP_append, List.countP_cons] at hold ⊢
    rcases hb : e.stage.holdsPermit <;> rcases ha : stage.holdsPermit <;>
      simp only [hb, ha, Bool.toNat_true, Bool.toNat_false, Bool.false_eq_true, ↓reduceIte]
        at hold hpermits ⊢ <;> omega
  · intro j hj
    have hjid : j.id ∈ m.jobs.jobs.map (·.id) := hids ▸ List.mem_map_of_mem hj
    obtain ⟨k, hk, hkid⟩ := List.mem_map.mp hjid
    rw [hnext, ← hkid]
    exact h.stored k hk
  · intro id noted
    rw [hruns, h.runs]
    constructor
    · rintro ⟨⟨f, hf, hid, hlayer, hfopen⟩, hstage⟩
      rcases List.mem_append.mp hf with hf | hf
      · exact ⟨f, List.mem_append_left _ hf, hid, hlayer, hfopen⟩
      · rcases List.mem_cons.mp hf with rfl | hf
        · exact ⟨_, List.mem_append_right _ List.mem_cons_self, hid, hlayer, hstage hid.symm⟩
        · exact ⟨f, by simp [hf], hid, hlayer, hfopen⟩
    · rintro ⟨f, hf, hid, hlayer, hfopen⟩
      obtain ⟨g, hg, hgid, hglayer, hgopen, hstage⟩ := hmem f hf hfopen
      exact ⟨⟨g, hg, hgid.trans hid, hglayer.trans hlayer, hgopen⟩, fun heq => hstage (hid.trans heq)⟩
  · intro f hf hfopen layer hlayer
    obtain ⟨g, hg, hgid, hglayer, hgopen, hstage⟩ := hmem f hf hfopen
    exact hnoted layer f.id (hgid ▸ h.noted g hg hgopen layer (hglayer.trans hlayer)) hstage

/-- A task that takes or gives back a permit leaves its job as it was. -/
theorem permitMoved (h : Booked office workers m (before ++ e :: rest)) {stage : JobStage}
    (hnext : m'.nextJob = m.nextJob) (hjobs : m'.jobs = m.jobs)
    (hpermits : m'.permits + stage.holdsPermit.toNat = m.permits + e.stage.holdsPermit.toNat)
    (hopen : stage.isOpen = e.stage.isOpen) :
    Booked office workers m' (before ++ { e with stage := stage } :: rest) := by
  refine h.restaged hnext hpermits (hjobs ▸ h.sound) (by rw [hjobs]) (fun hs => hopen ▸ hs) ?_ ?_
  · intro id noted
    rw [hjobs]
    refine ⟨fun hruns => ⟨hruns, fun heq => ?_⟩, And.left⟩
    exact hopen ▸ ((h.runs_self noted).mp (heq ▸ hruns)).2
  · intro layer id hlookup _
    rw [hjobs]
    exact hlookup

/-- A task that ends its own job closes its entry. -/
theorem finished (h : Booked office workers m (before ++ e :: rest)) (hworking : e.stage = .working)
    {status : JobStatus} (hstatus : status ≠ .running) {result : Option Json}
    {error : Option String} (hnext : m'.nextJob = m.nextJob) (hpermits : m'.permits = m.permits)
    (hjobs : m'.jobs = m.jobs.finish m.now e.id status result error) :
    Booked office workers m' (before ++ { e with stage := .ended } :: rest) := by
  refine h.restaged hnext (by simp [hpermits, hworking, JobStage.holdsPermit])
    (hjobs ▸ h.sound.finish hstatus result error) ?_ (fun hs => nomatch hs) ?_ ?_
  · rw [hjobs, JobStore.finish_jobs, List.map_map]
    refine List.map_congr_left fun x _ => ?_
    simp only [Function.comp_apply]
    split <;> rfl
  · intro id noted
    rw [hjobs, JobStore.runs_finish hstatus]
    simp only [JobStage.isOpen, Bool.false_eq_true, imp_false, and_comm]
  · intro layer id hlookup hne
    have hid : id ≠ e.id := fun heq => nomatch hne heq
    rw [hjobs, JobStore.lookup_finish _ _ _ (by rw [hlookup]; simpa using hid)]
    exact hlookup

end Booked

/-! ## Deeds and the ledger -/

/-- A ledger is cut in two at the entry of a task, and noting an action of the task rewrites that
entry alone. -/
theorem Ledger.exists_modify {i : Nat} (he : l[i]? = some e) (f : JobEntry → JobEntry) :
    ∃ before rest, l = before ++ e :: rest ∧ l.modify i f = before ++ f e :: rest := by
  obtain ⟨hlt, hget⟩ := List.getElem?_eq_some_iff.mp he
  obtain ⟨before, x, rest, hl, hlength, hmodify⟩ := List.exists_of_modify f hlt
  have hx : x = e := by
    rw [← hget]
    simp [hl, ← hlength]
  exact ⟨before, rest, hx ▸ hl, hx ▸ hmodify⟩

/-- The task of a job queues none, so its deeds are noted in its own entry alone. -/
theorem Ledger.note_job {i : Nat} {a : TaskAction} {x : a.Answer}
    (hadmits : ledgerMonitor.admits e a) (l : Ledger) :
    l.note ⟨.job i, a, x⟩ = l.modify i (·.after a) := by
  have hnew : Deed.newEntry? ⟨.job i, a, x⟩ = none := by
    cases a with
    | queueImport | queueTeardown => exact hadmits.elim
    | _ => rfl
  simp [Ledger.note, hnew]

/-- A deed of a job's task keeps the agreement. -/
theorem Booked.act (h : Booked office workers m l) {i : Nat} (he : l[i]? = some e)
    {a : TaskAction} {x : a.Answer} (hadmits : ledgerMonitor.admits e a)
    (hhandle : m.handle office (.job i) a = some (x, m')) :
    Booked office workers m' (l.note ⟨.job i, a, x⟩) := by
  rw [Ledger.note_job hadmits]
  obtain ⟨before, rest, rfl, hmodify⟩ := Ledger.exists_modify he (·.after a)
  rw [hmodify]
  cases a with
  | site a => exact h.of_sameJobs (Machine.sameJobs_of_onSite hhandle)
  | announce channel event =>
    cases hhandle
    exact h.of_sameJobs ⟨rfl, rfl, rfl, rfl, rfl⟩
  | takePermit =>
    have hwaiting : e.stage = .waiting := hadmits
    simp only [Machine.handle] at hhandle
    split at hhandle
    · cases hhandle
    · next left hleft =>
      cases hhandle
      refine h.permitMoved rfl rfl ?_ (by rw [hwaiting]; rfl)
      simp [hwaiting, JobStage.holdsPermit, hleft]
  | givePermit =>
    have hended : e.stage = .ended := hadmits
    cases hhandle
    refine h.permitMoved rfl rfl ?_ (by rw [hended]; rfl)
    simp [hended, JobStage.holdsPermit]
  | endJob id status result error =>
    obtain ⟨hworking, hid, hstatus⟩ := hadmits
    cases hhandle
    subst hid
    have hafter : e.after (.endJob e.id status result error) = { e with stage := .ended } :=
      if_pos rfl
    rw [hafter]
    exact h.finished hworking hstatus rfl rfl rfl
  | queueImport | queueTeardown | runningImport | job | subscribe => exact hadmits.elim

/-- A queued job is noted, and a refused one leaves no trace. -/
theorem Booked.queued (h : Booked office workers m l) (hinj : Function.Injective office.jobId)
    {kind : JobKind} {layer : Option Uuid} {task : JobId → Nat → Task Unit}
    {answer : Except JobId JobId} (hqueued : Machine.Queued office m kind layer task answer m') :
    Booked office workers m'
      (l ++ (answer.toOption.map (⟨·, layer, .waiting⟩ : JobId → JobEntry)).toList) := by
  cases hqueued with
  | refused hpermits _ hnext _ _ hjobs _ =>
    simp only [Except.toOption, Option.map_none, Option.toList_none, List.append_nil]
    exact h.refused hpermits hnext hjobs
  | started hpermits _ hnext _ _ hjobs hfree =>
    exact h.started hinj hpermits hnext hjobs hfree

/-- A deed of a request adds the entry of the job it queues, if it queues one. -/
theorem Booked.serve (h : Booked office workers m l) (hinj : Function.Injective office.jobId)
    {i : Nat} {a : TaskAction} {x : a.Answer} (hopen : a.isOpenToRequests)
    (hhandle : m.handle office (.client i) a = some (x, m')) :
    Booked office workers m' (l.note ⟨.client i, a, x⟩) := by
  have hkept (hnew : Deed.newEntry? ⟨.client i, a, x⟩ = none) (hsame : m.SameJobs m') :
      Booked office workers m' (l.note ⟨.client i, a, x⟩) := by
    simp only [Ledger.note, hnew, Option.toList_none, List.append_nil]
    exact h.of_sameJobs hsame
  cases a with
  | site a => exact hkept rfl (Machine.sameJobs_of_onSite hhandle)
  | runningImport layer => cases hhandle; exact hkept rfl (.refl m)
  | queueImport layer =>
    have hafter := h.queued hinj (Machine.queued_of_queueImport hhandle)
    cases x <;> exact hafter
  | queueTeardown table entry => exact h.queued hinj (Machine.queued_of_queueTeardown hhandle)
  | takePermit | givePermit | announce | endJob | job | subscribe => exact hopen.elim

/-! ## Whole courses -/

variable {ρ : Type}

/-- Jobs are watched by their entries in the ledger, and requests for keeping to what is open to
them. -/
def ledgerWatch : Watch JobEntry Unit where
  job := ledgerMonitor
  client := requestMonitor
  opening := Deed.newEntry?

/-- Queued jobs begin where the ledger notes them. -/
theorem ledgerWatch_fits (office : Office σ) :
    ledgerWatch.Fits (fun last => last.stage = .released) office where
  imports _ layer id :=
    ⟨_, rfl, fun channel => jobTask_importJob office.settings id channel layer⟩
  refused _ _ _ := rfl
  teardowns _ table entry id :=
    ⟨_, rfl, fun channel => jobTask_teardownJob office.settings id channel table entry⟩
  others d hqueues := by
    obtain ⟨who, a, x⟩ := d
    cases a with
    | queueImport | queueTeardown => cases hqueues
    | _ => rfl

/-- The ledger of the deeds agrees with the scene, and everyone keeps to what is open to them. -/
structure Course.Accounted (office : Office σ) (workers : Nat) (c : Course σ ρ) : Prop where
  booked : Booked office workers c.scene.machine (Ledger.ofDeeds c.deeds)
  seen : ∃ clients, ledgerWatch.Sees (fun last => last.stage = .released) (fun _ _ => True)
    (Ledger.ofDeeds c.deeds) clients c.scene

namespace Course.Accounted

/-- One deed keeps the account. -/
theorem act (hinj : Function.Injective office.jobId) {c : Course σ ρ}
    (h : c.Accounted office workers) {who : Actor} {d : Deed} {s : Scene σ ρ}
    (htake : c.scene.take office who = some (d, s)) :
    Course.Accounted office workers ⟨s, c.deeds ++ [d]⟩ := by
  obtain ⟨clients, hseen⟩ := h.seen
  obtain ⟨hadmits, hseen'⟩ := hseen.act (ledgerWatch_fits office) htake
  have hnoted : Ledger.ofDeeds (c.deeds ++ [d]) =
      ledgerWatch.noteJobs (Ledger.ofDeeds c.deeds) d := Ledger.ofDeeds_concat c.deeds d
  refine ⟨?_, ledgerWatch.noteClients clients d, hnoted ▸ hseen'⟩
  rw [Ledger.ofDeeds_concat]
  cases who with
  | job i =>
    obtain ⟨a, next, x, m', -, hhandle, rfl, rfl⟩ := Scene.take_job_eq_some htake
    obtain ⟨e, he, hadmitted⟩ := hadmits
    exact (h.booked.act he hadmitted hhandle).congr rfl rfl rfl
  | client i =>
    obtain ⟨a, next, x, m', -, hhandle, rfl, rfl⟩ := Scene.take_client_eq_some htake
    obtain ⟨_, -, hadmitted⟩ := hadmits
    exact h.booked.serve hinj hadmitted hhandle

/-- A scene in which nothing has happened is accounted for. -/
theorem start (office : Office σ) (site : Site σ) (workers : Nat) {clients : List (Task ρ)}
    (hclients : ∀ t ∈ clients, RequestTask t) :
    (Course.start ⟨Machine.start site workers, clients⟩).Accounted office workers where
  booked := .start office site workers
  seen := ⟨clients.map fun _ => (), .nil, List.length_map _, fun _ _ t _ ht =>
    hclients t (List.mem_of_getElem? ht)⟩

/-- Every course of requests is accounted for throughout. -/
theorem run (hinj : Function.Injective office.jobId) {c : Course σ ρ}
    (h : c.Accounted office workers) (turns : List Turn) :
    (c.run office turns).Accounted office workers :=
  Course.run_induction h (fun _ _ _ _ hc htake => hc.act hinj htake)
    (fun _ _ hc => ⟨hc.booked.congr rfl rfl rfl, hc.seen.imp fun _ hseen => hseen.later _⟩) turns

end Course.Accounted

/-! ## Exclusion -/

namespace Booked

/-- At most one entry has a given id. -/
theorem countP_id_le (h : Booked office workers m l) (id : JobId) :
    l.countP (·.id == id) ≤ 1 := by
  have hcount := List.nodup_iff_count_le_one.mp h.distinct id
  rwa [List.count, List.countP_map] at hcount

/-- At most one import of a layer is in progress. -/
theorem countP_importing_le (h : Booked office workers m l) (layer : Uuid) :
    l.countP (·.isImporting layer) ≤ 1 := by
  by_cases hnone : ∃ e ∈ l, e.isImporting layer
  · obtain ⟨e, he, himporting⟩ := hnone
    simp only [JobEntry.isImporting, Bool.and_eq_true, beq_iff_eq] at himporting
    have hnoted := h.noted e he (by rw [himporting.2]; rfl) layer himporting.1
    refine Nat.le_trans (List.countP_mono_left fun f hf hfimporting => ?_) (h.countP_id_le e.id)
    -- Both are noted for the layer, and a layer has one note.
    simp only [JobEntry.isImporting, Bool.and_eq_true, beq_iff_eq] at hfimporting
    have hfnoted := h.noted f hf (by rw [hfimporting.2]; rfl) layer hfimporting.1
    simpa using Option.some.inj (hfnoted.symm.trans hnoted)
  · rw [List.countP_eq_zero.mpr fun e he himporting => hnone ⟨e, he, himporting⟩]
    exact Nat.zero_le 1

/-- No more tasks work than there are permits. -/
theorem countP_working_le (h : Booked office workers m l) :
    l.countP (·.stage == .working) ≤ max workers 1 := by
  have hle : l.countP (·.stage == .working) ≤ l.countP (·.stage.holdsPermit) := by
    refine List.countP_mono_left fun e _ hworking => ?_
    rw [beq_iff_eq.mp hworking]
    rfl
  have := h.permits
  omega

/-- A running job is carried by exactly one task that has not ended it. -/
theorem countP_open_eq (h : Booked office workers m l) {j : Job} (hj : j ∈ m.jobs.jobs)
    (hrun : j.isRunning) : l.countP (·.isOpenFor j.id) = 1 := by
  obtain ⟨e, he, hid, -, hopen⟩ := (h.runs j.id j.layer).mp ⟨j, hj, rfl, rfl, hrun⟩
  have hpos : 0 < l.countP (·.isOpenFor j.id) :=
    List.countP_pos_iff.mpr ⟨e, he, by simp [JobEntry.isOpenFor, hid, hopen]⟩
  have hle : l.countP (·.isOpenFor j.id) ≤ 1 := by
    refine Nat.le_trans (List.countP_mono_left fun f _ hf => ?_) (h.countP_id_le j.id)
    exact (Bool.and_eq_true _ _ ▸ hf : _ ∧ _).1
  omega

end Booked

/-- The scene in which requests have come in and no job is queued yet. -/
def Scene.opening (site : Site σ) (workers : Nat) (requests : List JobRequest) :
    Scene σ Admin.Response :=
  ⟨Machine.start site workers, requests.map JobRequest.task⟩

/-- In every state that requests and jobs can reach, at most one import of each layer is in
progress, at most as many jobs as there are workers are, each job the store holds as running has
exactly one task that has not ended it, and no job has two tasks. A task that has work to do on
the site is in progress. -/
theorem jobs_exclusive (office : Office σ) (hinj : Function.Injective office.jobId)
    (site : Site σ) (workers : Nat) (requests : List JobRequest) (turns : List Turn) :
    let c := (Course.start (Scene.opening site workers requests)).run office turns
    let l := Ledger.ofDeeds c.deeds
    (∀ layer, l.countP (·.isImporting layer) ≤ 1) ∧
      l.countP (·.stage == .working) ≤ max workers 1 ∧
      (∀ j ∈ c.scene.machine.jobs.jobs, j.isRunning → l.countP (·.isOpenFor j.id) = 1) ∧
      (l.map (·.id)).Nodup ∧ l.length = c.scene.machine.tasks.length ∧
      ∀ (i : Nat) (a : SiteAction) (next : a.Answer → Task Unit),
        c.scene.machine.tasks[i]? = some (.perform (.site a) next) →
          ∃ e, l[i]? = some e ∧ e.stage = .working := by
  intro c l
  have hclients : ∀ t ∈ requests.map JobRequest.task, RequestTask t := by
    intro t ht
    obtain ⟨r, -, rfl⟩ := List.mem_map.mp ht
    exact r.requestTask_task
  have h : c.Accounted office workers :=
    (Course.Accounted.start office site workers hclients).run hinj turns
  obtain ⟨clients, hseen⟩ := h.seen
  refine ⟨h.booked.countP_importing_le, h.booked.countP_working_le,
    fun j hj hrun => h.booked.countP_open_eq hj hrun, h.booked.distinct, hseen.jobs.length, ?_⟩
  intro i a next htask
  obtain ⟨e, he, hjob⟩ := hseen.jobs.exists_state htask
  exact ⟨e, he, hjob.1⟩

/-- Three requests about one layer that come in while its import starts. -/
def busyRequests : List JobRequest :=
  [.submitImport ⟨1⟩, .bulkImport [⟨1⟩], .deleteLayer ⟨1⟩]

/-- Each request is handled in turn, and the first job takes its permit. -/
def busyTurns : List Turn :=
  ([0, 0, 1, 1, 2, 2].map fun i => .act (.client i)) ++ [.act (.job 0), .act (.job 0)]

/-- The course of these requests in the plain office. -/
def busyCourse : Course Unit Admin.Response :=
  (Course.start (Scene.opening (Site.plain [.plain "roads"]) 2 busyRequests)).run .plain busyTurns

/-- Exclusion holds of the busy course. -/
theorem jobs_exclusive_busy :
    Function.Injective Office.plain.jobId ∧
      (∀ layer, (Ledger.ofDeeds busyCourse.deeds).countP (·.isImporting layer) ≤ 1) ∧
      (Ledger.ofDeeds busyCourse.deeds).countP (·.stage == .working) ≤ max 2 1 ∧
      ∀ j ∈ busyCourse.scene.machine.jobs.jobs, j.isRunning →
        (Ledger.ofDeeds busyCourse.deeds).countP (·.isOpenFor j.id) = 1 := by
  have h := jobs_exclusive .plain Office.plain_jobId_injective (Site.plain [.plain "roads"]) 2
    busyRequests busyTurns
  exact ⟨Office.plain_jobId_injective, h.1, h.2.1, h.2.2.1⟩

/-- In the busy course one import is in progress and the deletion is refused. -/
example :
    Ledger.ofDeeds busyCourse.deeds = [⟨"", some ⟨1⟩, .working⟩] ∧
      busyCourse.scene.answers.map (·.map (·.status)) = [some 202, some 200, some 409] := by
  decide +kernel

end LayerPress
