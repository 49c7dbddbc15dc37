import LayerPress.Proofs.Publishing

/-!
# Publishing against any server

Nothing is assumed of what a server answers. Publishing is a walk over its steps, each one following
from the answer to the one before: the levels are taken from the workspace up, a resource is made
exactly if it was looked for and not found, and the walk ends at the first step that fails. What
publishing comes to is told by the answer to its last step.

A request whose address cannot be read is never sent; it counts as a step at which the transport
failed.
-/

namespace LayerPress.Catalog

/-- A step that was tried, and how it was answered. -/
structure Trial where
  step : Step
  answer : Except String Reply

/-- The exchange of a trial whose request goes to an address. -/
def Trial.exchange (c : Client) (p : Publication) (url : Url) (t : Trial) : Exchange exchange :=
  ⟨t.step.requestTo c p url, t.answer⟩

/-- A change is accepted with one of two statuses. -/
def Reply.IsAccepted (reply : Reply) : Prop :=
  reply.status = 200 ∨ reply.status = 201

instance (reply : Reply) : Decidable reply.IsAccepted :=
  inferInstanceAs (Decidable (reply.status = 200 ∨ reply.status = 201))

/-- The level that must be there before another is looked for. -/
def Level.below? : Level → Option Level
  | workspace => none
  | store => some workspace
  | type => some store

namespace Step

/-- The place of a step in the order in which steps are tried. -/
def rank : Step → Nat
  | look .workspace => 0
  | make .workspace => 1
  | look .store => 2
  | make .store => 3
  | look .type => 4
  | make .type => 5
  | update => 5

/-- A step that changes the catalog. -/
def IsChange : Step → Prop
  | look _ => False
  | make _ => True
  | update => True

/-- The step that does the last of what publishing does. -/
def final : PublishAction → Step
  | .created => make .type
  | .updated => update

/-! ## What follows an answer -/

variable {step next : Step} {answer : Except String Reply} {level : Level}

/-- A fault of the transport ends publishing at every step. -/
theorem after_error (step : Step) (text : String) :
    step.after (.error text) = .closed (.error (.catalogUnreachable text)) := by
  cases step <;> rfl

/-- What was looked for is passed or made. -/
theorem after_look (level : Level) (reply : Reply) : (look level).after (.ok reply) =
    .doing (if reply.status = 200 then past level else make level) := by
  simp [after]

/-- The statuses that a change is accepted with. -/
theorem contains_status_iff (reply : Reply) :
    [200, 201].contains reply.status = true ↔ reply.IsAccepted := by
  simp [Reply.IsAccepted]

/-- What was made is accepted or refused. -/
theorem after_make (level : Level) (reply : Reply) : (make level).after (.ok reply) =
    if reply.IsAccepted then made level
    else .closed (.error (.catalogRequestFailed reply.status reply.body)) := by
  simp only [after, contains_status_iff]

/-- An update is accepted or refused. -/
theorem after_update (reply : Reply) : update.after (.ok reply) =
    if reply.IsAccepted then .closed (.ok .updated)
    else .closed (.error (.catalogRequestFailed reply.status reply.body)) := by
  simp only [after, contains_status_iff]

/-- A step is followed by a later one. -/
theorem rank_lt_of_after (h : step.after answer = .doing next) : step.rank < next.rank := by
  cases answer with
  | error text =>
    rw [after_error] at h
    cases h
  | ok reply =>
    cases step with
    | look level =>
      rw [after_look, Stage.doing.injEq] at h
      split at h <;> cases h <;> cases level <;> decide
    | make level =>
      rw [after_make] at h
      split at h
      · cases level <;> cases h <;> decide
      · cases h
    | update =>
      rw [after_update] at h
      split at h <;> cases h

/-- A level is looked for when the one below it was found or made. -/
theorem after_eq_look_iff : step.after answer = .doing (look level) ↔
    ∃ below, level.below? = some below ∧ ∃ reply, answer = .ok reply ∧
      (step = look below ∧ reply.status = 200 ∨ step = make below ∧ reply.IsAccepted) := by
  cases answer with
  | error text => simp [after_error]
  | ok reply =>
    cases step with
    | look other => cases other <;> cases level <;> grind [after_look, past, Level.below?]
    | make other => cases other <;> cases level <;> grind [after_make, made, Level.below?]
    | update => grind [after_update]

/-- A resource is made when it was looked for and not found. -/
theorem after_eq_make_iff : step.after answer = .doing (make level) ↔
    step = look level ∧ ∃ reply, answer = .ok reply ∧ reply.status ≠ 200 := by
  cases answer with
  | error text => simp [after_error]
  | ok reply =>
    cases step with
    | look other => cases other <;> grind [after_look, past]
    | make other => cases other <;> grind [after_make, made]
    | update => grind [after_update]

/-- The feature type is updated when it was looked for and found. -/
theorem after_eq_update_iff : step.after answer = .doing update ↔
    step = look .type ∧ ∃ reply, answer = .ok reply ∧ reply.status = 200 := by
  cases answer with
  | error text => simp [after_error]
  | ok reply =>
    cases step with
    | look other => cases other <;> grind [after_look, past]
    | make other => cases other <;> grind [after_make, made]
    | update => grind [after_update]

/-- Publishing has succeeded when the feature type was made or updated. -/
theorem after_eq_ok_iff {action : PublishAction} : step.after answer = .closed (.ok action) ↔
    step = final action ∧ ∃ reply, answer = .ok reply ∧ reply.IsAccepted := by
  cases answer with
  | error text => simp [after_error]
  | ok reply =>
    cases step with
    | look other => cases action <;> grind [after_look, final]
    | make other => cases other <;> cases action <;> grind [after_make, made, final]
    | update => cases action <;> grind [after_update, final]

/-- Publishing has failed when the transport failed or a change was refused. -/
theorem after_eq_failure_iff {e : Failure} : step.after answer = .closed (.error e) ↔
    (∃ text, answer = .error text ∧ e = .catalogUnreachable text) ∨
    ∃ reply, answer = .ok reply ∧ step.IsChange ∧ ¬reply.IsAccepted ∧
      e = .catalogRequestFailed reply.status reply.body := by
  cases answer with
  | error text => simp [after_error, eq_comm]
  | ok reply =>
    cases step with
    | look other => grind [after_look, IsChange]
    | make other => cases other <;> grind [after_make, made, IsChange]
    | update => grind [after_update, IsChange]

end Step

/-! ## The walk -/

/-- The trials of publishing from a stage on, and what it comes to: each step is followed by what
its answer leads to. -/
inductive Walk : Stage → List Trial → Except Failure PublishAction → Prop
  | closed (result : Except Failure PublishAction) : Walk (.closed result) [] result
  | step (step : Step) (answer : Except String Reply) {rest : List Trial}
      {result : Except Failure PublishAction} (hrest : Walk (step.after answer) rest result) :
      Walk (.doing step) (⟨step, answer⟩ :: rest) result

namespace Walk

variable {stage : Stage} {trials : List Trial} {result : Except Failure PublishAction}
  {first : Step}

/-- A step is tried exactly if the walk begins with it or an answer leads to it. -/
theorem tried_iff (h : Walk stage trials result) (s : Step) : (∃ t ∈ trials, t.step = s) ↔
    stage = .doing s ∨ ∃ t ∈ trials, t.step.after t.answer = .doing s := by
  induction h with
  | closed result => simp
  | step step answer hrest ih =>
    simp only [List.mem_cons, or_and_right, exists_or, exists_eq_left, ih, Stage.doing.injEq]

/-- No step is tried that comes before the first. -/
theorem rank_le (h : Walk stage trials result) (hfirst : stage = .doing first) :
    ∀ t ∈ trials, first.rank ≤ t.step.rank := by
  induction h generalizing first with
  | closed result => cases hfirst
  | step step answer hrest ih =>
    cases hfirst
    intro t ht
    rcases List.mem_cons.mp ht with rfl | ht
    · exact Nat.le_refl _
    · cases hnext : step.after answer with
      | closed result =>
        rw [hnext] at hrest
        cases hrest
        cases ht
      | doing next =>
        exact (Nat.le_of_lt (Step.rank_lt_of_after hnext)).trans (ih hnext t ht)

/-- The steps of a walk are tried in their order. -/
theorem ordered (h : Walk stage trials result) :
    trials.Pairwise fun t t' => t.step.rank < t'.step.rank := by
  induction h with
  | closed result => exact .nil
  | step step answer hrest ih =>
    refine .cons (fun t ht => ?_) ih
    cases hnext : step.after answer with
    | closed result =>
      rw [hnext] at hrest
      cases hrest
      cases ht
    | doing next =>
      exact Nat.lt_of_lt_of_le (Step.rank_lt_of_after hnext) (hrest.rank_le hnext t ht)

/-- A trial that ends publishing is the last one, and tells what publishing comes to. -/
theorem getLast?_of_closed (h : Walk stage trials result) {t : Trial} (ht : t ∈ trials)
    {answer : Except Failure PublishAction} (hclosed : t.step.after t.answer = .closed answer) :
    trials.getLast? = some t ∧ result = answer := by
  induction h with
  | closed result => cases ht
  | @step step reply rest result hrest ih =>
    rcases List.mem_cons.mp ht with rfl | ht
    · rw [hclosed] at hrest
      cases hrest
      exact ⟨rfl, rfl⟩
    · obtain ⟨hlast, hresult⟩ := ih ht
      refine ⟨?_, hresult⟩
      rw [List.getLast?_cons, hlast]
      rfl

/-- A walk that has begun ends with a trial that tells what publishing comes to. -/
theorem exists_getLast? (h : Walk stage trials result) (hfirst : stage = .doing first) :
    ∃ t, trials.getLast? = some t ∧ t.step.after t.answer = .closed result := by
  induction h generalizing first with
  | closed result => cases hfirst
  | @step step answer rest result hrest ih =>
    cases hnext : step.after answer with
    | closed ending =>
      rw [hnext] at hrest
      cases hrest
      exact ⟨_, rfl, hnext⟩
    | doing next =>
      obtain ⟨t, hlast, hclosed⟩ := ih hnext
      refine ⟨t, ?_, hclosed⟩
      rw [List.getLast?_cons, hlast]
      rfl

/-- What publishing comes to is what its last trial leads to. -/
theorem result_eq_iff (h : Walk (.doing first) trials result)
    (answer : Except Failure PublishAction) :
    result = answer ↔ ∃ t, trials.getLast? = some t ∧ t.step.after t.answer = .closed answer := by
  constructor
  · rintro rfl
    exact h.exists_getLast? rfl
  · rintro ⟨t, hlast, hclosed⟩
    exact (h.getLast?_of_closed (List.mem_of_getLast? hlast) hclosed).2

end Walk

/-! ## The rules that a walk follows -/

/-- Steps were tried by the rules of publishing, and publishing has come to a result. -/
structure Protocol (trials : List Trial) (result : Except Failure PublishAction) : Prop where
  /-- The steps come in their order, and none is tried twice. -/
  ordered : trials.Pairwise fun t t' => t.step.rank < t'.step.rank
  /-- The workspace is always looked for, and another level when the one below was found or made. -/
  looked : ∀ level, (∃ t ∈ trials, t.step = .look level) ↔ level = .workspace ∨
    ∃ below, level.below? = some below ∧ ∃ reply,
      ⟨.look below, .ok reply⟩ ∈ trials ∧ reply.status = 200 ∨
        ⟨.make below, .ok reply⟩ ∈ trials ∧ reply.IsAccepted
  /-- A resource is made exactly if it was looked for and not found. -/
  made : ∀ level, (∃ t ∈ trials, t.step = .make level) ↔
    ∃ reply, ⟨.look level, .ok reply⟩ ∈ trials ∧ reply.status ≠ 200
  /-- The feature type is updated exactly if it was looked for and found. -/
  updated : (∃ t ∈ trials, t.step = .update) ↔
    ∃ reply, ⟨.look .type, .ok reply⟩ ∈ trials ∧ reply.status = 200
  /-- Nothing is tried after a fault of the transport. -/
  stopsAtFault : ∀ step text, ⟨step, .error text⟩ ∈ trials →
    trials.getLast? = some ⟨step, .error text⟩
  /-- Nothing is tried after a change that is refused. -/
  stopsAtRefusal : ∀ step reply, step.IsChange → ¬reply.IsAccepted → ⟨step, .ok reply⟩ ∈ trials →
    trials.getLast? = some ⟨step, .ok reply⟩
  /-- The feature type was updated, or created, exactly if the last exchange is its update, or its
  making, and was accepted. -/
  ok_iff : ∀ action, result = .ok action ↔
    ∃ reply, trials.getLast? = some ⟨.final action, .ok reply⟩ ∧ reply.IsAccepted
  /-- The catalog was not reached exactly if the transport failed at the last exchange. -/
  unreachable_iff : ∀ text, result = .error (.catalogUnreachable text) ↔
    ∃ step, trials.getLast? = some ⟨step, .error text⟩
  /-- Any other failure is a change that is refused, with the status and the text of the last
  reply. -/
  otherwise : ∀ e, result = .error e → (∀ text, e ≠ .catalogUnreachable text) →
    ∃ step reply, trials.getLast? = some ⟨step, .ok reply⟩ ∧ step.IsChange ∧ ¬reply.IsAccepted ∧
      e = .catalogRequestFailed reply.status reply.body

/-- A walk from the beginning follows the rules of publishing. -/
theorem Walk.protocol {trials : List Trial} {result : Except Failure PublishAction}
    (h : Walk (.doing (.look .workspace)) trials result) : Protocol trials result := by
  constructor
  case ordered => exact h.ordered
  case looked =>
    intro level
    rw [h.tried_iff, Stage.doing.injEq, Step.look.injEq, eq_comm]
    refine or_congr_right ⟨?_, ?_⟩
    · rintro ⟨⟨step, answer⟩, ht, hnext⟩
      obtain ⟨below, hbelow, reply, rfl, ⟨rfl, hfound⟩ | ⟨rfl, hmade⟩⟩ :=
        Step.after_eq_look_iff.mp hnext
      · exact ⟨below, hbelow, reply, .inl ⟨ht, hfound⟩⟩
      · exact ⟨below, hbelow, reply, .inr ⟨ht, hmade⟩⟩
    · rintro ⟨below, hbelow, reply, ⟨ht, hfound⟩ | ⟨ht, hmade⟩⟩
      · exact ⟨_, ht, Step.after_eq_look_iff.mpr ⟨below, hbelow, reply, rfl, .inl ⟨rfl, hfound⟩⟩⟩
      · exact ⟨_, ht, Step.after_eq_look_iff.mpr ⟨below, hbelow, reply, rfl, .inr ⟨rfl, hmade⟩⟩⟩
  case made =>
    intro level
    rw [h.tried_iff]
    constructor
    · rintro (hfirst | ⟨⟨step, answer⟩, ht, hnext⟩)
      · cases hfirst
      · obtain ⟨rfl, reply, rfl, hmissing⟩ := Step.after_eq_make_iff.mp hnext
        exact ⟨reply, ht, hmissing⟩
    · rintro ⟨reply, ht, hmissing⟩
      exact .inr ⟨_, ht, Step.after_eq_make_iff.mpr ⟨rfl, reply, rfl, hmissing⟩⟩
  case updated =>
    rw [h.tried_iff]
    constructor
    · rintro (hfirst | ⟨⟨step, answer⟩, ht, hnext⟩)
      · cases hfirst
      · obtain ⟨rfl, reply, rfl, hfound⟩ := Step.after_eq_update_iff.mp hnext
        exact ⟨reply, ht, hfound⟩
    · rintro ⟨reply, ht, hfound⟩
      exact .inr ⟨_, ht, Step.after_eq_update_iff.mpr ⟨rfl, reply, rfl, hfound⟩⟩
  case stopsAtFault =>
    intro step text ht
    exact (h.getLast?_of_closed ht (step.after_error text)).1
  case stopsAtRefusal =>
    intro step reply hchange hrefused ht
    exact (h.getLast?_of_closed ht
      (Step.after_eq_failure_iff.mpr (.inr ⟨reply, rfl, hchange, hrefused, rfl⟩))).1
  case ok_iff =>
    intro action
    rw [h.result_eq_iff]
    constructor
    · rintro ⟨⟨step, answer⟩, hlast, hclosed⟩
      obtain ⟨rfl, reply, rfl, haccepted⟩ := Step.after_eq_ok_iff.mp hclosed
      exact ⟨reply, hlast, haccepted⟩
    · rintro ⟨reply, hlast, haccepted⟩
      exact ⟨_, hlast, Step.after_eq_ok_iff.mpr ⟨rfl, reply, rfl, haccepted⟩⟩
  case unreachable_iff =>
    intro text
    rw [h.result_eq_iff]
    constructor
    · rintro ⟨⟨step, answer⟩, hlast, hclosed⟩
      obtain ⟨_, rfl, ⟨⟩⟩ | ⟨_, _, _, _, ⟨⟩⟩ := Step.after_eq_failure_iff.mp hclosed
      exact ⟨step, hlast⟩
    · rintro ⟨step, hlast⟩
      exact ⟨_, hlast, step.after_error text⟩
  case otherwise =>
    rintro e hresult hother
    obtain ⟨⟨step, answer⟩, hlast, hclosed⟩ := (h.result_eq_iff _).mp hresult
    obtain ⟨text, _, rfl⟩ | ⟨reply, rfl, hrefusal⟩ := Step.after_eq_failure_iff.mp hclosed
    · exact absurd rfl (hother text)
    · exact ⟨step, reply, hlast, hrefusal⟩

/-! ## Publishing is a walk -/

section
variable {c : Client} {p : Publication}

/-- What is left at a stage, with every address read, walks on from there; each trial of the walk is
an exchange with the server. -/
theorem exists_walk (urls : Step → Url)
    (hurls : ∀ step, Url.parse? (c.settings.restUrl ++ step.text p) = some (urls step))
    {σ : Type} (server : Server σ) (stage : Stage) (s : σ) :
    ∃ trials, Walk stage trials
        (Procedure.run (S := exchange) server (stage.left c p) s).1 ∧
      Procedure.transcript (S := exchange) server (stage.left c p) s =
        trials.map fun t => t.exchange c p (urls t.step) := by
  generalize hleft : stage.left c p = left
  induction left generalizing stage s with
  | result answer =>
    cases stage with
    | closed result =>
      cases hleft
      exact ⟨[], .closed _, rfl⟩
    | doing step =>
      rw [Stage.left, Step.run_dialogue_of_parse? (hurls step)] at hleft
      cases hleft
  | perform action next ih =>
    cases stage with
    | closed result => cases hleft
    | doing step =>
      rw [Stage.left, Step.run_dialogue_of_parse? (hurls step)] at hleft
      cases hleft
      set reply := server (step.requestTo c p (urls step)) s
      obtain ⟨trials, hwalk, htranscript⟩ := ih reply.1 (step.after reply.1) reply.2 rfl
      refine ⟨⟨step, reply.1⟩ :: trials, .step step reply.1 hwalk, ?_⟩
      rw [Procedure.transcript, htranscript]
      rfl

/-- A path is written with a slash at its beginning, and with its last segment at its end. -/
theorem exists_written (path : List (List Char)) {segment : List Char}
    (hsegment : ∀ c, segment.getLast? = some c → Url.isControlOrSpace c = false) :
    ∃ t, Url.written (path ++ [segment]) = '/' :: t ∧
      ∀ c, t.getLast? = some c → Url.isControlOrSpace c = false := by
  have hend : Url.written [segment] = '/' :: segment := List.flatMap_singleton ..
  cases path with
  | nil => exact ⟨segment, hend, hsegment⟩
  | cons first rest =>
    refine ⟨first ++ Url.written rest ++ '/' :: segment, ?_, ?_⟩
    · rw [Url.written, List.flatMap_append, ← Url.written, ← Url.written, hend]
      rfl
    · rw [List.getLast?_append_cons]
      exact Url.isControlOrSpace_of_slash hsegment

/-- The path of every step begins with a slash and does not end with a blank. -/
theorem Step.exists_text (p : Publication) (step : Step) :
    ∃ t, step.text p = String.ofList ('/' :: t) ∧
      ∀ c, t.getLast? = some c → Url.isControlOrSpace c = false := by
  have hpath (path : List String) (last : String) {text : String}
      (htext : text.toList = Url.written ((path ++ [last]).map String.toList))
      (hlast : last.toList.getLast?.any Url.isControlOrSpace = false) :
      ∃ t, text = String.ofList ('/' :: t) ∧
        ∀ c, t.getLast? = some c → Url.isControlOrSpace c = false := by
    rw [List.map_append] at htext
    obtain ⟨t, ht, hgood⟩ := exists_written (path.map String.toList) fun c hc => by
      rw [hc] at hlast
      exact hlast
    exact ⟨t, by rw [← ht, ← List.map_singleton, ← htext, String.ofList_toList], hgood⟩
  have hdocument (level : Level) := hpath _ _ (written_document p level)
    (by rw [String.toList_append, List.getLast?_append]; rfl)
  cases step with
  | look level => exact hdocument level
  | update => exact hdocument .type
  | make level =>
    cases level with
    | workspace => exact hpath [] "workspaces" (written_folder p .workspace) (by decide +kernel)
    | store =>
      exact hpath ["workspaces", p.workspace] "datastores" (written_folder p .store)
        (by decide +kernel)
    | type =>
      exact hpath ["workspaces", p.workspace, "datastores", p.store] "featuretypes"
        (written_folder p .type) (by decide +kernel)

/-- Either the address of every step can be read, or that of none. -/
theorem isSome_parse?_text (c : Client) (p : Publication) (step step' : Step) :
    (Url.parse? (c.settings.restUrl ++ step.text p)).isSome =
      (Url.parse? (c.settings.restUrl ++ step'.text p)).isSome := by
  obtain ⟨t, ht, hlast⟩ := step.exists_text p
  obtain ⟨t', ht', hlast'⟩ := step'.exists_text p
  have hbase (t : List Char) : c.settings.restUrl ++ String.ofList ('/' :: t) =
      trimSlashes c.settings.baseUrl ++ String.ofList ('/' :: ("rest".toList ++ '/' :: t)) := by
    have hrest : '/' :: ("rest".toList ++ '/' :: t) = "/rest".toList ++ '/' :: t := rfl
    rw [CatalogSettings.restUrl, String.append_assoc, hrest, String.ofList_append,
      String.ofList_toList]
  rw [ht, ht', hbase, hbase]
  exact Url.isSome_parse?_append (by decide +kernel) _ hlast hlast'

/-- Whatever the server answers, publishing tries its steps by the rules and comes to what its last
step was answered. Every trial is an exchange with the server, in this order; only where the
addresses cannot be read, nothing is sent and the first step fails. -/
theorem publishing_follows_protocol (c : Client) (p : Publication) {σ : Type} (server : Server σ)
    (s : σ) : ∃ trials,
      Protocol trials (converse server (c.publish p.table p.title p.workspace p.store) s).1 ∧
      ((∃ urls : Step → Url,
          (∀ step : Step,
            Url.parse? (c.settings.restUrl ++ step.text p) = some (urls step)) ∧
          Procedure.transcript (S := exchange) server
            (c.publish p.table p.title p.workspace p.store).run s =
              trials.map fun t => t.exchange c p (urls t.step)) ∨
        (∀ step : Step, Url.parse? (c.settings.restUrl ++ step.text p) = none) ∧
          Procedure.transcript (S := exchange) server
            (c.publish p.table p.title p.workspace p.store).run s = [] ∧
          trials = [⟨.look .workspace, .error "builder error"⟩]) := by
  cases hfirst : Url.parse? (c.settings.restUrl ++ (Step.look .workspace).text p) with
  | none =>
    have hnone (step : Step) : Url.parse? (c.settings.restUrl ++ step.text p) = none := by
      rw [← Option.isNone_iff_eq_none, ← Option.not_isSome, isSome_parse?_text c p step, hfirst]
      rfl
    have hrun : ((Step.look .workspace).dialogue c p).run =
        .result (.error (.catalogUnreachable "builder error")) :=
      Step.run_dialogue_of_not_parse? hfirst
    change (c.publish p.table p.title p.workspace p.store).run = _ at hrun
    have hwalk : Walk (.doing (.look .workspace)) [⟨.look .workspace, .error "builder error"⟩]
        (.error (.catalogUnreachable "builder error")) := .step _ _ (.closed _)
    refine ⟨_, ?_, .inr ⟨hnone, ?_, rfl⟩⟩
    · rw [converse, hrun]
      exact hwalk.protocol
    · rw [hrun]
      rfl
  | some url =>
    have hsome (step : Step) : (Url.parse? (c.settings.restUrl ++ step.text p)).isSome := by
      rw [isSome_parse?_text c p step, hfirst]
      rfl
    have hurls (step : Step) := (Option.some_get (hsome step)).symm
    obtain ⟨trials, hwalk, htranscript⟩ := exists_walk _ hurls server (.doing (.look .workspace)) s
    exact ⟨trials, hwalk.protocol, .inl ⟨_, hurls, htranscript⟩⟩

end

end LayerPress.Catalog
