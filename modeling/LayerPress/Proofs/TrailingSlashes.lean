import LayerPress.Admin.Router
import LayerPress.Proofs.Plain
import Mathlib.Data.List.TakeWhile

/-!
# Slashes after a path

A path leads to a place by its segments as they are written, and slashes after it are segments of
their own. So a path with slashes after it leads nowhere, wherever the path itself leads. Such a
request is answered like the one without the slashes only if that one leads nowhere either, or asks
what it may send.
-/

namespace LayerPress

namespace Text

/-- A text has a first piece. -/
theorem exists_splitAll_eq_cons (sep : Char) (cs : List Char) :
    ∃ piece more, splitAll sep cs = piece :: more := by
  cases cs with
  | nil => exact ⟨[], [], rfl⟩
  | cons c rest =>
    rw [splitAll]
    split
    · exact ⟨_, _, rfl⟩
    · split <;> exact ⟨_, _, rfl⟩

/-- A separator at the end of a text is followed by an empty piece. -/
theorem splitAll_append_singleton (sep : Char) (cs : List Char) :
    splitAll sep (cs ++ [sep]) = splitAll sep cs ++ [[]] := by
  induction cs with
  | nil => simp [splitAll]
  | cons c rest ih =>
    obtain ⟨piece, more, hrest⟩ := exists_splitAll_eq_cons sep rest
    rw [List.cons_append, splitAll, splitAll, ih, hrest]
    split <;> rfl

end Text

namespace Admin

/-! ## Where slashes lead -/

/-- A character of the path of an address. -/
def isInPath (c : Char) : Bool :=
  c != '?' && c != '#'

/-- A request with slashes after its path. -/
def Request.slashed (n : Nat) (r : Request) : Request :=
  { r with
    uri := String.ofList
      (pathOf r.uri ++ (List.replicate n '/' ++ r.uri.toList.dropWhile isInPath)) }

/-- The path of a request with slashes after it. -/
theorem pathOf_slashed (n : Nat) (r : Request) :
    pathOf (r.slashed n).uri = pathOf r.uri ++ List.replicate n '/' := by
  have hpath : ∀ c ∈ pathOf r.uri, isInPath c = true :=
    List.all_eq_true.mp (List.all_takeWhile (p := isInPath))
  have hslashes : ∀ c ∈ List.replicate n '/', isInPath c = true := fun c hc => by
    rw [List.eq_of_mem_replicate hc]
    rfl
  have hrest : (r.uri.toList.dropWhile isInPath).takeWhile isInPath = [] :=
    List.takeWhile_eq_nil_iff.mpr (List.dropWhile_get_zero_not isInPath _)
  change (String.ofList _).toList.takeWhile isInPath = _
  rw [String.toList_ofList, List.takeWhile_append_of_pos hpath,
    List.takeWhile_append_of_pos hslashes, hrest, List.append_nil]

/-- Segments of which the last is empty lead nowhere. -/
theorem Route.below_append_nil (segments : List (List Char)) : below (segments ++ [[]]) = none := by
  match segments with
  | [] => rfl
  | [a] => simp [below]
  | [a, b] => simp [below]
  | [a, b, c] => rfl
  | a :: b :: c :: d :: rest => rfl

/-- A path with a slash at its end leads nowhere. -/
theorem Route.ofPath_append_slash (path : List Char) : ofPath (path ++ ['/']) = none := by
  rw [ofPath, Text.splitAll_append_singleton]
  match Text.splitAll '/' path with
  | [] => rfl
  | [a] => cases a <;> rfl
  | [a, b] =>
    cases a with
    | nil => simp
    | cons => rfl
  | a :: api :: version :: rest =>
    cases a with
    | nil => simp [below_append_nil]
    | cons => rfl

/-- With slashes after its path a request leads nowhere. -/
theorem ofPath_slashed (n : Nat) (r : Request) :
    Route.ofPath (pathOf (r.slashed (n + 1)).uri) = none := by
  rw [pathOf_slashed, List.replicate_succ', ← List.append_assoc, Route.ofPath_append_slash]

/-! ## How requests are answered -/

/-- The answer to a request that leads nowhere: what it may send if it asks for that, and nothing
otherwise. -/
def nowhere (origins : List String) (r : Request) : Response :=
  withNoSniff (withOrigin origins r
    (if r.method == "OPTIONS" then preflight origins else Response.bare 404))

/-- With slashes after its path a request is answered at once. -/
theorem respond_slashed (origins : List String) (n : Nat) (r : Request) :
    respond origins (r.slashed (n + 1)) = pure (nowhere origins r) := by
  rw [respond, ofPath_slashed]
  rfl

/-- The headers that every answer gets leave its status and its body. -/
theorem finished_eq (origins : List String) (r : Request) (a : Response) :
    (withNoSniff (withOrigin origins r a)).status = a.status ∧
      (withNoSniff (withOrigin origins r a)).body = a.body := by
  unfold withOrigin
  split
  · split <;> exact ⟨rfl, rfl⟩
  · exact ⟨rfl, rfl⟩

/-- What a request comes to: the status and the body of its answer, unless it has to wait, and the
site, the jobs and their tasks after it. -/
structure Outcome (σ : Type) where
  answer : Option (Nat × Body)
  site : Site σ
  jobs : JobStore
  tasks : List (Task Unit)

/-- What a request comes to on a machine. -/
def outcome {σ : Type} (origins : List String) (office : Office σ) (who : Actor) (m : Machine σ)
    (r : Request) : Outcome σ :=
  let (answer, after) := m.serve office who (respond origins r)
  ⟨answer.map fun a => (a.status, a.body), after.site, after.jobs, after.tasks⟩

/-- Two requests come to the same on every machine. -/
def AnsweredAlike (origins : List String) (r r' : Request) : Prop :=
  ∀ (σ : Type) (office : Office σ) (who : Actor) (m : Machine σ),
    outcome origins office who m r = outcome origins office who m r'

/-! ## Places that answer -/

/-- A plain office whose record store answers nothing. -/
def unrecorded : Office Unit :=
  { Office.plain with
    surroundings := { Surroundings.plain with recordFault := fun _ s => (some .unavailable, s) } }

/-- A machine without layers that has one job. -/
def employed (id : JobId) : Machine Unit :=
  { Machine.start (Site.plain []) 1 with
    jobs := ⟨[Job.start id .teardown none 0 0], [], .nanoseconds⟩ }

/-- The status of the answer to a task of a client. -/
def statusOf (m : Machine Unit) (t : Task Response) : Option Nat :=
  (m.serve unrecorded (.client 0) t).1.map (·.status)

/-- The status of the answer to a request is part of what the request comes to. -/
theorem statusOf_respond (origins : List String) (m : Machine Unit) (r : Request) :
    statusOf m (respond origins r) =
      (outcome origins unrecorded (.client 0) m r).answer.map (·.1) := by
  rw [outcome, Option.map_map]
  rfl

/-- A body that holds no ids is refused with another status than an unknown place. -/
theorem status_of_bodyIds {r : Request} {a : Response} (h : bodyIds r = .error a) :
    a.status ≠ 404 := by
  unfold bodyIds at h
  split at h
  · cases h
    decide
  · split at h <;> cases h <;> decide

/-- A segment that is no layer id is refused with another status than an unknown place. -/
theorem status_of_layerId {segment : List Char} {a : Response} (h : layerId segment = .error a) :
    a.status ≠ 404 := by
  unfold layerId at h
  split at h
  · cases h
    decide
  · split at h <;> cases h
    decide

/-- A segment that is no job id is refused with another status than an unknown place. -/
theorem status_of_jobId {segment : List Char} {a : Response} (h : jobId segment = .error a) :
    a.status ≠ 404 := by
  unfold jobId at h
  split at h <;> cases h
  decide

/-- An argument that is refused is answered with the refusal. -/
theorem statusOf_withArgument {α : Type} (m : Machine Unit) {argument : Except Response α}
    {k : α → Handling Response} (hrefused : ∀ a, argument = .error a → a.status ≠ 404)
    (hk : ∀ x, argument = .ok x → statusOf m (k x).answer ≠ some 404) :
    statusOf m (withArgument argument k).answer ≠ some 404 := by
  cases argument with
  | error a => exact fun h => hrefused a rfl (Option.some.inj h)
  | ok x => exact hk x rfl

/-- The one job of a machine is found. -/
theorem get?_employed (id : JobId) :
    (employed id).jobs.get? id = some (Job.start id .teardown none 0 0) := by
  simp [employed, JobStore.get?, Job.start]

/-- The one job of a machine is shown. -/
theorem statusOf_showJob (id : JobId) :
    statusOf (employed id) (Handling.showJob id).answer = some 200 := by
  change Option.map _ (Machine.serve _ _ (Procedure.perform (TaskAction.job id) _) _).1 = _
  simp only [Machine.serve, Machine.handle, get?_employed]
  rfl

/-- The events of the one job of a machine are followed. -/
theorem statusOf_followJob (id : JobId) :
    statusOf (employed id) (Handling.followJob id).answer = some 200 := by
  change Option.map _ (Machine.serve _ _ (Procedure.perform (TaskAction.subscribe id) _) _).1 = _
  simp only [Machine.serve, Machine.handle, get?_employed]
  rfl

/-- Where a job is asked for, it is found somewhere. -/
theorem exists_statusOf_withJob (segment : List Char) {k : JobId → Handling Response}
    (hk : ∀ id, statusOf (employed id) (k id).answer = some 200) :
    ∃ m, statusOf m (withArgument (jobId segment) k).answer ≠ some 404 := by
  refine ⟨employed ((jobId segment).toOption.getD ""),
    statusOf_withArgument _ (fun _ => status_of_jobId) fun id hid => ?_⟩
  rw [hid]
  exact ne_of_eq_of_ne (hk id) (by decide)

/-- Every place has an answer somewhere that an unknown place does not give. -/
theorem exists_statusOf_handling (route : Route) (r : Request) :
    ∃ m, statusOf m (route.handling r).answer ≠ some 404 := by
  have hfound : some 200 ≠ some 404 := by decide
  have hfailed : some 500 ≠ some 404 := by decide
  cases route with
  | health => exact ⟨employed "", hfound⟩
  | layers => exact ⟨employed "", hfailed⟩
  | layersImport | layersReset =>
    refine ⟨employed "", statusOf_withArgument _ (fun _ => status_of_bodyIds) fun ids _ => ?_⟩
    cases ids with
    | nil => exact hfound
    | cons id rest => exact hfailed
  | layer segment =>
    refine ⟨employed "", statusOf_withArgument _ (fun _ => status_of_layerId) fun id _ => ?_⟩
    split <;> exact hfailed
  | layerImport segment | layerCatalog segment =>
    refine ⟨employed "", statusOf_withArgument _ (fun _ => status_of_layerId) fun id _ => ?_⟩
    exact hfailed
  | job segment => exact exists_statusOf_withJob segment statusOf_showJob
  | jobEvents segment => exact exists_statusOf_withJob segment statusOf_followJob

/-- What is done to the result of a task does not change what the task does. -/
theorem serve_map {σ α β : Type} (office : Office σ) (who : Actor) (f : α → β) (t : Task α)
    (m : Machine σ) :
    m.serve office who (t >>= fun a => pure (f a)) =
      ((m.serve office who t).1.map f, (m.serve office who t).2) := by
  induction t generalizing m with
  | result a => rfl
  | perform a next ih =>
    change m.serve office who (.perform a fun x => next x >>= fun a => pure (f a)) = _
    rw [Machine.serve, Machine.serve]
    split
    · exact ih _ _
    · rfl

/-- An answer has the status of the handling whatever headers it gets and whether its body is left
out. -/
theorem statusOf_finished (origins : List String) (r : Request) (m : Machine Unit)
    (t : Task Response) :
    statusOf m (t >>= fun a => pure (withNoSniff (withOrigin origins r
      (if r.method == "HEAD" then a.withoutBody else a)))) = statusOf m t := by
  have hstatus (a : Response) : (withNoSniff (withOrigin origins r
      (if r.method == "HEAD" then a.withoutBody else a))).status = a.status := by
    rw [(finished_eq origins r _).1]
    split <;> rfl
  rw [statusOf, serve_map, Option.map_map]
  exact congrFun (congrArg Option.map (funext hstatus)) _

/-- A request that leads to a place and does not ask what it may send has an answer somewhere that
an unknown place does not give. -/
theorem exists_statusOf_respond (origins : List String) {r : Request} {route : Route}
    (hroute : Route.ofPath (pathOf r.uri) = some route) (hmethod : r.method ≠ "OPTIONS") :
    ∃ m, statusOf m (respond origins r) ≠ some 404 := by
  have hoptions : (r.method == "OPTIONS") = false := by simpa using hmethod
  cases hallowed : route.methods.contains r.method with
  | true =>
    obtain ⟨m, hm⟩ := exists_statusOf_handling route r
    have hrespond : respond origins r = (do
        let a ← (route.handling r).answer
        return withNoSniff (withOrigin origins r
          (if r.method == "HEAD" then a.withoutBody else a))) := by
      simp only [respond, hroute, hoptions, hallowed]
      rfl
    exact ⟨m, by rwa [hrespond, statusOf_finished]⟩
  | false =>
    have hrespond : respond origins r = pure (withNoSniff (withOrigin origins r
        ((Response.bare 405).withHeader "allow" route.allow))) := by
      simp only [respond, hroute, hoptions, hallowed]
      rfl
    have hstatus : statusOf (employed "") (respond origins r) = some 405 := by
      rw [hrespond]
      exact congrArg some (finished_eq origins r _).1
    exact ⟨employed "", by rw [hstatus]; decide⟩

/-- A request that leads nowhere, or asks what it may send, is answered at once with the status and
the body of one that leads nowhere. -/
theorem exists_respond_eq (origins : List String) {r : Request}
    (h : Route.ofPath (pathOf r.uri) = none ∨ r.method = "OPTIONS") :
    ∃ a, respond origins r = pure a ∧ a.status = (nowhere origins r).status ∧
      a.body = (nowhere origins r).body := by
  cases hroute : Route.ofPath (pathOf r.uri) with
  | none =>
    refine ⟨nowhere origins r, ?_, rfl, rfl⟩
    rw [respond, hroute]
    rfl
  | some route =>
    obtain hnone | hmethod := h
    · cases hroute.symm.trans hnone
    have hoptions : (r.method == "OPTIONS") = true := by simpa using hmethod
    refine ⟨withNoSniff (withOrigin origins r ((preflight origins).withHeader "allow" route.allow)),
      ?_, ?_, ?_⟩
    · simp only [respond, hroute, hoptions]
      rfl
    · rw [nowhere, (finished_eq origins r _).1, (finished_eq origins r _).1, hoptions]
      rfl
    · rw [nowhere, (finished_eq origins r _).2, (finished_eq origins r _).2, hoptions]
      rfl

/-- With slashes after its path a request is answered as one that leads nowhere, in every state and
without any effect. So it is answered like the one without the slashes exactly if that one leads
nowhere, or asks what it may send. -/
theorem answeredAlike_slashed_iff (origins : List String) (n : Nat) (r : Request) :
    respond origins (r.slashed (n + 1)) = pure (nowhere origins r) ∧
      (AnsweredAlike origins (r.slashed (n + 1)) r ↔
        Route.ofPath (pathOf r.uri) = none ∨ r.method = "OPTIONS") := by
  refine ⟨respond_slashed origins n r, fun halike => ?_, fun h => ?_⟩
  · cases hroute : Route.ofPath (pathOf r.uri) with
    | none => exact .inl rfl
    | some route =>
      refine .inr (Decidable.byContradiction fun hmethod => ?_)
      obtain ⟨m, hm⟩ := exists_statusOf_respond origins hroute hmethod
      have hoptions : (r.method == "OPTIONS") = false := by simpa using hmethod
      have hslashed : statusOf m (respond origins (r.slashed (n + 1))) = some 404 := by
        rw [respond_slashed, nowhere, hoptions]
        exact congrArg some (finished_eq origins r _).1
      rw [statusOf_respond] at hslashed hm
      exact hm (halike Unit unrecorded (.client 0) m ▸ hslashed)
  · obtain ⟨a, hrespond, hstatus, hbody⟩ := exists_respond_eq origins h
    intro σ office who m
    rw [outcome, outcome, respond_slashed, hrespond]
    change (⟨some (_, _), _, _, _⟩ : Outcome σ) = ⟨some (a.status, a.body), _, _, _⟩
    rw [hstatus, hbody]

/-- A question whether the service is up. -/
def healthCheck : Request := ⟨"GET", "/health", [], ""⟩

/-- The question whether the service is up is not answered with a slash after it. -/
theorem not_answeredAlike_health :
    (healthCheck.slashed 1).uri = "/health/" ∧
      ¬ AnsweredAlike [] (healthCheck.slashed 1) healthCheck := by
  refine ⟨by decide +kernel, fun halike => ?_⟩
  have hstatus := congrArg (fun o => o.answer.map (·.1))
    (halike Unit Office.plain (.client 0) (Machine.start (Site.plain []) 1))
  exact absurd hstatus (by decide +kernel)

end Admin

end LayerPress
