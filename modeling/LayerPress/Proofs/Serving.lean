import LayerPress.Admin.Handlers
import LayerPress.Proofs.SoundStore

/-!
# Tasks served alone

A task that runs to its end while no other moves goes on where its first part has stopped. On the
site its work runs as it would without any jobs, and in a sound record store a statement that the
tables do not refuse is executed. Handling one id of a list after another keeps whatever the
handling of one id keeps.
-/

namespace LayerPress

open Admin Admin.Handling

namespace Machine

variable {σ α β : Type} {office : Office σ} {m m' : Machine σ} {who : Actor}

/-! ## Parts of a task -/

/-- A sequence goes on where its first part has stopped. -/
theorem serve_bind {t : Task α} {a : α} (h : m.serve office who t = (some a, m'))
    (k : α → Task β) : m.serve office who (t >>= k) = m'.serve office who (k a) := by
  induction t generalizing m with
  | result a =>
    cases h
    rfl
  | perform a next ih =>
    change m.serve office who (.perform a fun x => next x >>= k) = _
    rw [serve] at h ⊢
    cases hhandle : m.handle office who a with
    | none =>
      rw [hhandle] at h
      cases h
    | some done =>
      rw [hhandle] at h
      exact ih done.1 h

/-- Handling in sequence goes on where its first part has stopped, if that has not ended early. -/
theorem serve_bindExcept {h : Handling α} {a : α}
    (hh : m.serve office who h.run = (some (.ok a), m')) (k : α → Handling β) :
    m.serve office who (h >>= k).run = m'.serve office who (k a).run :=
  serve_bind hh _

/-- One action that need not wait. -/
theorem serve_ask {a : TaskAction} {x : a.Answer} (h : m.handle office who a = some (x, m')) :
    m.serve office who (ask a).run = (some (.ok x), m') := by
  change m.serve office who (.perform a fun x => .result (Except.ok x)) = _
  rw [serve, h]
  rfl

/-- The answer of handling that has not ended early. -/
theorem serve_answer {h : Handling Response} {r : Response}
    (hh : m.serve office who h.run = (some (.ok r), m')) :
    m.serve office who h.answer = (some r, m') :=
  serve_bind hh _

/-! ## Work on the site -/

/-- An action on the site of one task alone is done at once. -/
theorem handle_withSite (office : Office σ) (m : Machine σ) (who : Actor) (s : Site σ)
    (a : SiteAction) :
    (m.withSite who s).handle office who (.site a) =
      some ((Site.handle office.surroundings a s).1,
        m.withSite who (Site.handle office.surroundings a s).2) := by
  have hfree : (m.withSite who s).isHeldAgainst who = false := by
    unfold isHeldAgainst withSite
    cases s.working <;> simp
  cases a with
  | records a => simp only [handle, onSite, records, hfree]; rfl
  | rollback => simp only [handle, onSite, hfree]; rfl
  | _ => rfl

/-- Work of one task alone runs as on its site. -/
theorem serve_ofWork_withSite (office : Office σ) (m : Machine σ) (who : Actor) (w : Work α)
    (s : Site σ) :
    (m.withSite who s).serve office who (Task.ofWork w) =
      (some (s.run office.surroundings w).1,
        m.withSite who (s.run office.surroundings w).2) := by
  induction w generalizing s with
  | result a => rfl
  | perform a next ih =>
    change (m.withSite who s).serve office who
      (.perform (.site a) fun x => Task.ofWork (next x)) = _
    rw [serve, handle_withSite]
    exact ih _ _

/-- Without a transaction a machine is that with its own site, whoever acts. -/
theorem withSite_site (hholder : m.holder = none) (hworking : m.site.working = none)
    (who : Actor) : m.withSite who m.site = m := by
  unfold withSite
  rw [hworking, Option.map_none, ← hholder]

/-- Without a transaction work runs as on the site. -/
theorem serve_ofWork (hholder : m.holder = none) (hworking : m.site.working = none) (who : Actor)
    (w : Work α) :
    m.serve office who (Task.ofWork w) =
      (some (m.site.run office.surroundings w).1,
        m.withSite who (m.site.run office.surroundings w).2) := by
  have hserve := serve_ofWork_withSite office m who w m.site
  rwa [withSite_site hholder hworking] at hserve

/-- In a sound record store a task goes on after a statement that the tables do not refuse. -/
theorem serve_statement (hsound : office.surroundings.IsSound) (m : Machine σ) (who : Actor)
    {s : Site σ} (hclosed : s.working = none) (st : Statement) {v : st.Value} {after : Records}
    (h : s.records.execute st = .ok (v, after)) :
    ∃ outside, ∀ next : Except RecordFault st.Value → Task α,
      (m.withSite who s).serve office who (.perform (.site (.records (.statement st))) next) =
        (m.withSite who { s with records := after, outside := outside }).serve office who
          (next (.ok v)) := by
  have hvisible : s.visible = s.records := by rw [Site.visible, hclosed, Option.getD_none]
  obtain ⟨outside, hhandle⟩ := Site.handle_of_execute hsound s (hvisible ▸ h)
  have hsite : ({ s with outside := outside } : Site σ).withVisible after =
      { s with records := after, outside := outside } := by
    simp only [Site.withVisible, hclosed]
  refine ⟨outside, fun next => ?_⟩
  rw [serve, handle_withSite, hhandle, hsite]

/-- Handling executes such a statement. -/
theorem serve_execute (hsound : office.surroundings.IsSound) (m : Machine σ) (who : Actor)
    {s : Site σ} (hclosed : s.working = none) (st : Statement) {v : st.Value} {after : Records}
    (h : s.records.execute st = .ok (v, after)) :
    ∃ outside, (m.withSite who s).serve office who (execute st).run =
      (some (.ok v), m.withSite who { s with records := after, outside := outside }) := by
  obtain ⟨outside, hserve⟩ := serve_statement hsound m who hclosed st h
  exact ⟨outside, hserve fun x =>
    .result (x.mapError fun f : RecordFault => Response.error 500 f.message)⟩

/-! ## Asking for jobs -/

/-- No running import is shown for a layer that has none, wherever the site is. -/
theorem serve_runningImport {layer : Uuid} (hidle : m.jobs.active? layer = none) (who : Actor)
    (s : Site σ) :
    (m.withSite who s).serve office who (ask (.runningImport layer)).run =
      (some (.ok none), m.withSite who s) := by
  have hhandle : (m.withSite who s).handle office who (.runningImport layer) =
      some (none, m.withSite who s) := by
    change some ((m.jobs.active? layer).map (·.id), m.withSite who s) = _
    rw [hidle]
    rfl
  exact serve_ask hhandle

/-- A teardown is queued, wherever the site is. -/
theorem serve_queueTeardown (m : Machine σ) (who : Actor) (s : Site σ)
    (table entry : Option String) :
    (m.withSite who s).serve office who (ask (.queueTeardown table entry)).run =
      (some (.ok (office.jobId m.nextJob)),
        (m.queue office .teardown none fun job channel =>
          Task.teardownJob office.settings job channel table entry).2.withSite who s) :=
  serve_ask rfl

/-! ## The ids of a list -/

/-- What the handling of one id keeps, beside the ids before it and what was done about them, is
kept by the handling of a list. -/
theorem serve_forEach {one : Uuid → Handling Placement}
    {R : List Uuid → List Placement → Machine σ → Prop} {ids : List Uuid}
    (hone : ∀ earlier id placements m, earlier ++ [id] <+: ids → R earlier placements m →
      ∃ placement m', m.serve office who (one id).run = (some (.ok placement), m') ∧
        R (earlier ++ [id]) (placements ++ [placement]) m')
    (hstart : R [] [] m) :
    ∃ placements m', m.serve office who (forEach one ids).run =
      (some (.ok placements), m') ∧ R ids placements m' := by
  have hrest : ∀ rest earlier placements m, earlier ++ rest = ids → R earlier placements m →
      ∃ others m', m.serve office who (forEach one rest).run = (some (.ok others), m') ∧
        R ids (placements ++ others) m' := by
    intro rest
    induction rest with
    | nil =>
      intro earlier placements m hids hR
      rw [List.append_nil] at hids
      exact ⟨[], m, rfl, by rwa [List.append_nil, ← hids]⟩
    | cons id rest ih =>
      intro earlier placements m hids hR
      have hids' : (earlier ++ [id]) ++ rest = ids := by rw [List.append_assoc]; exact hids
      obtain ⟨placement, m₁, hserve, hR₁⟩ := hone earlier id placements m ⟨rest, hids'⟩ hR
      obtain ⟨others, m₂, hothers, hR₂⟩ := ih _ _ m₁ hids' hR₁
      refine ⟨placement :: others, m₂, ?_, ?_⟩
      · rw [forEach, serve_bindExcept hserve, serve_bindExcept hothers]
        rfl
      · rw [List.append_assoc] at hR₂
        exact hR₂
  exact hrest ids [] [] m rfl hstart

end Machine

end LayerPress
