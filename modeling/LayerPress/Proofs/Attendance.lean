import LayerPress.Proofs.Exclusion
import LayerPress.Proofs.Workshop

/-!
# Courses in which everyone is watched

An attended course is one in which the states of the jobs and of the requests are known: the
jobs' entries agree with the machine, every task passes from its state, and the jobs agree with
the shelf and the deeds. Each deed of requests that keep to what is open to them keeps this up.
So a property of the states, the shelf and the deeds holds throughout if admitted deeds keep it.
-/

namespace LayerPress

variable {R σ ρ : Type} {office : Office σ} {workers : Nat} {client : Monitor taskActions R}
  {Q : ρ → R → Prop} {states : List JobState} {clients : List R}

/-- A deed with what is known of it: its actor is in a state that admits it, and the shelf
changes as its kind does. -/
inductive Happens (office : Office σ) (client : Monitor taskActions R) (states : List JobState)
    (clients : List R) (m m' : Machine σ) : Deed → Prop
  | job {i : Nat} {job : JobState} {a : TaskAction} {x : a.Answer} (hjob : states[i]? = some job)
      (hadmits : (jobMonitor office.settings).admits job a) {after : Machine σ}
      (hhandle : m.handle office (.job i) a = some (x, after))
      (hdoes : Shelf.Does (.job i) a x m.shelf m'.shelf) :
      Happens office client states clients m m' ⟨.job i, a, x⟩
  | client {i : Nat} {r : R} {a : TaskAction} {x : a.Answer} (hr : clients[i]? = some r)
      (hadmits : client.admits r a) (hhandle : m.handle office (.client i) a = some (x, m'))
      (hdoes : Shelf.Does (.client i) a x m.shelf m'.shelf) :
      Happens office client states clients m m' ⟨.client i, a, x⟩

/-- After a deed of a job, every state follows one from before, under the same number. -/
theorem exists_follows_of_noteJobs {settings : ImportSettings} {i : Nat} {job : JobState}
    {a : TaskAction} {x : a.Answer} (hjob : states[i]? = some job)
    (hadmits : (jobMonitor settings).admits job a) {k : Nat} {later : JobState}
    (h : ((jobWatch settings client).noteJobs states ⟨.job i, a, x⟩)[k]? = some later) :
    ∃ earlier, states[k]? = some earlier ∧ later.Follows earlier := by
  have hnone : (jobWatch settings client).opening ⟨.job i, a, x⟩ = none :=
    newJob?_eq_none_of_job hadmits.1
  rcases (Watch.getElem?_noteJobs_job hjob hnone).mp h with ⟨rfl, rfl⟩ | ⟨-, hlater⟩
  · exact ⟨job, hjob, JobState.follows_after hadmits x⟩
  · exact ⟨later, hlater, .refl later⟩

/-- The layer of an open import has a running import. -/
theorem exists_active_of_isOpenImport {m : Machine σ} {s : Shelf} {deeds : List Deed}
    (hbooked : Booked office workers m (states.map (·.entry)))
    (hagree : JobsAgree office.settings states s deeds) {i : Nat} {job : JobState}
    (hjob : states[i]? = some job) (hopen : job.isOpenImport = true) :
    ∃ layer phase, job.work = .importing layer phase ∧ (m.jobs.active? layer).isSome := by
  unfold JobState.isOpenImport at hopen
  rw [Bool.and_eq_true] at hopen
  obtain ⟨hkind, hstage⟩ := hopen
  cases hwork : job.work with
  | importing layer phase =>
    have hnoted := (hagree.imports i job layer phase hjob hwork).noted
    have hmem : job.entry ∈ states.map (·.entry) :=
      List.mem_map_of_mem (List.mem_of_getElem? hjob)
    exact ⟨layer, phase, rfl, hbooked.active?_isSome hmem hstage hnoted⟩
  | tearing => simp [JobState.isTeardown, hwork] at hkind

/-- While no import is open, no transaction is. -/
theorem draft_eq_none_of_quiet {settings : ImportSettings} {s : Shelf} {deeds : List Deed}
    (hagree : JobsAgree settings states s deeds)
    (hquiet : ∀ (i : Nat) (job : JobState), states[i]? = some job → job.isOpenImport = false) :
    s.draft = none := by
  cases hdraft : s.draft with
  | none => rfl
  | some draft =>
    obtain ⟨who, layers⟩ := draft
    obtain ⟨i, job, layer, phase, rfl, hjob, hwork⟩ := hagree.owned who layers hdraft
    have himport := hagree.imports i job layer phase hjob hwork
    have hworking := himport.working (himport.owns.mpr ⟨layers, hdraft⟩)
    have hclosed := hquiet i job hjob
    rw [JobState.isOpenImport, JobState.isTeardown, hwork, hworking] at hclosed
    cases hclosed

namespace Course

/-- The states of the jobs and of the requests agree with the course. -/
structure Attended (office : Office σ) (workers : Nat) (client : Monitor taskActions R)
    (Q : ρ → R → Prop) (states : List JobState) (clients : List R) (c : Course σ ρ) : Prop where
  entries : states.map (·.entry) = Ledger.ofDeeds c.deeds
  booked : Booked office workers c.scene.machine (states.map (·.entry))
  held : c.scene.machine.IsHeld
  sees : (jobWatch office.settings client).Sees JobState.HasEnded Q states clients c.scene
  agree : JobsAgree office.settings states c.scene.machine.shelf c.deeds

namespace Attended

/-- After one more deed the entries are still those of the ledger. -/
theorem entries_concat {c : Course σ ρ} (h : c.Attended office workers client Q states clients)
    (d : Deed) : ((jobWatch office.settings client).noteJobs states d).map (·.entry) =
      Ledger.ofDeeds (c.deeds ++ [d]) := by
  rw [map_entry_noteJobs, h.entries, Ledger.ofDeeds_concat]

/-- A deed happens as it is admitted, and the course stays attended. -/
theorem act (hinj : Function.Injective office.jobId)
    (hopen : ∀ r a, client.admits r a → a.isOpenToRequests) {c : Course σ ρ}
    (h : c.Attended office workers client Q states clients) {who : Actor} {d : Deed}
    {s : Scene σ ρ} (htake : c.scene.take office who = some (d, s)) :
    Happens office client states clients c.scene.machine s.machine d ∧
      Course.Attended office workers client Q ((jobWatch office.settings client).noteJobs states d)
        ((jobWatch office.settings client).noteClients clients d) ⟨s, c.deeds ++ [d]⟩ := by
  obtain ⟨hadmits, hsees⟩ := h.sees.act (jobWatch_fits office client) htake
  have hentries := map_entry_noteJobs office.settings client states d
  have hledger := h.entries_concat d
  cases who with
  | job i =>
    obtain ⟨a, next, x, m', -, hhandle, rfl, rfl⟩ := Scene.take_job_eq_some htake
    obtain ⟨job, hjob, hadmitted⟩ := hadmits
    obtain ⟨hheld, hdoes⟩ := Machine.shelf_of_handle h.held hhandle
    refine ⟨.job hjob hadmitted hhandle hdoes, hledger, ?_, hheld, hsees,
      h.agree.act hjob hadmitted hdoes⟩
    rw [hentries]
    have hentry : (states.map (·.entry))[i]? = some job.entry := by
      rw [List.getElem?_map, hjob]
      rfl
    exact (h.booked.act hentry hadmitted.1 hhandle).congr rfl rfl rfl
  | client i =>
    obtain ⟨a, next, x, m', -, hhandle, rfl, rfl⟩ := Scene.take_client_eq_some htake
    obtain ⟨r, hr, hadmitted⟩ := hadmits
    obtain ⟨hheld, hdoes⟩ := Machine.shelf_of_handle h.held hhandle
    have hopened := hopen r a hadmitted
    refine ⟨.client hr hadmitted hhandle hdoes, hledger, ?_, hheld, hsees,
      h.agree.request hopened hdoes⟩
    rw [hentries]
    exact h.booked.serve hinj hopened hhandle

/-- Requests that pass begin an attended course. -/
theorem start (office : Office σ) (workers : Nat) {site : Site σ} (hsite : site.working = none)
    {tasks : List (Task ρ)} (hclients : Staffed (fun r t => client.Passes Q r t) clients tasks) :
    (Course.start ⟨Machine.start site workers, tasks⟩).Attended office workers client Q []
      clients where
  entries := rfl
  booked := .start office site workers
  held := by
    change none.isSome = site.working.isSome
    rw [hsite]
    rfl
  sees := ⟨.nil, hclients⟩
  agree := .nil rfl

/-- What admitted deeds keep holds throughout an attended course. -/
theorem run {I : List JobState → List R → Shelf → List Deed → Prop}
    (hinj : Function.Injective office.jobId)
    (hopen : ∀ r a, client.admits r a → a.isOpenToRequests) {c : Course σ ρ}
    (h : c.Attended office workers client Q states clients)
    (hI : I states clients c.scene.machine.shelf c.deeds)
    (hact : ∀ {states : List JobState} {clients : List R} {c : Course σ ρ} {d : Deed}
      {m : Machine σ}, c.Attended office workers client Q states clients →
      I states clients c.scene.machine.shelf c.deeds →
      Happens office client states clients c.scene.machine m d →
      I ((jobWatch office.settings client).noteJobs states d)
        ((jobWatch office.settings client).noteClients clients d) m.shelf (c.deeds ++ [d]))
    (turns : List Turn) :
    ∃ states clients, (c.run office turns).Attended office workers client Q states clients ∧
      I states clients (c.run office turns).scene.machine.shelf (c.run office turns).deeds := by
  refine Course.run_induction (P := fun c => ∃ states clients,
    c.Attended office workers client Q states clients ∧
      I states clients c.scene.machine.shelf c.deeds) ⟨states, clients, h, hI⟩ ?_ ?_ turns
  · rintro c who d s ⟨states, clients, h, hI⟩ htake
    obtain ⟨hhappens, hnext⟩ := h.act hinj hopen htake
    exact ⟨_, _, hnext, hact h hI hhappens⟩
  · rintro c elapsed ⟨states, clients, h, hI⟩
    have hbooked : Booked office workers (c.scene.later elapsed).machine (states.map (·.entry)) :=
      h.booked.congr rfl rfl rfl
    exact ⟨states, clients, ⟨h.entries, hbooked, h.held, h.sees.later elapsed, h.agree⟩, hI⟩

/-- When all is over every job has ended. -/
theorem hasEnded {c : Course σ ρ} (h : c.Attended office workers client Q states clients)
    (hover : c.scene.isOver = true) {i : Nat} {job : JobState} (hjob : states[i]? = some job) :
    job.HasEnded := by
  obtain ⟨t, ht, hpasses⟩ := h.sees.jobs.exists_task hjob
  rw [Scene.isOver, Bool.and_eq_true] at hover
  have hended := List.all_eq_true.mp hover.1 t (List.mem_of_getElem? ht)
  cases t with
  | result a => exact hpasses
  | perform a next => cases hended

/-- When all is over every request has its answer, and ends as it may. -/
theorem exists_answer {c : Course σ ρ} (h : c.Attended office workers client Q states clients)
    (hover : c.scene.isOver = true) {i : Nat} {r : R} (hr : clients[i]? = some r) :
    ∃ answer, c.scene.answers[i]? = some (some answer) ∧ Q answer r := by
  obtain ⟨t, ht, hpasses⟩ := h.sees.clients.exists_task hr
  rw [Scene.isOver, Bool.and_eq_true] at hover
  have hended := List.all_eq_true.mp hover.2 t (List.mem_of_getElem? ht)
  cases t with
  | result answer =>
    refine ⟨answer, ?_, hpasses⟩
    rw [Scene.answers, List.getElem?_map, ht]
    rfl
  | perform a next => cases hended

end Attended

end Course

end LayerPress
