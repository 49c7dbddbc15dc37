import LayerPress.Proofs.Survey

/-!
# Courses that are answered alike

Work asks files and services, and goes on with their answers. Two courses of one piece of work
take the same way as long as they are answered alike, whatever stands behind the answers. This is
said of the two transcripts: after the same questions and answers, the same question has the same
answer. A publication is left out, as what the catalog answers to it may differ.

Files and services that answer the same question alike wherever it is asked are a special case.
-/

namespace LayerPress

/-! ## The course to a result -/

namespace Procedure

variable {S : Signature} {W α : Type} {p : Procedure S α}

/-- A transcript leads a procedure to a result. -/
def Yields : Procedure S α → List (Exchange S) → α → Prop
  | result a, log, b => log = [] ∧ b = a
  | perform action next, log, b => ∃ x rest, log = ⟨action, x⟩ :: rest ∧ (next x).Yields rest b

/-- A procedure ends with the result to which its transcript leads. -/
theorem ensures_yields (may : (action : S.Action) → S.Answer action → W → W → Prop)
    (p : Procedure S α) (w : W) : Ensures may (fun a _ log => p.Yields log a) w p := by
  induction p generalizing w with
  | result a => exact ⟨rfl, rfl⟩
  | perform action next ih =>
    intro x w' _
    apply (ih x w').mono
    intro a _ log h
    exact ⟨x, log, rfl, h⟩

/-- Transcripts that agree in the answer to an action whenever they agree before it are the same,
with the same result. -/
theorem Yields.eq {log log' : List (Exchange S)} {a a' : α} (h : p.Yields log a)
    (h' : p.Yields log' a')
    (hsame : ∀ before e e' after after', log = before ++ e :: after → log' = before ++ e' :: after' →
      e.action = e'.action → e = e') : log = log' ∧ a = a' := by
  induction p generalizing log log' with
  | result b =>
    obtain ⟨rfl, rfl⟩ := h
    obtain ⟨rfl, rfl⟩ := h'
    exact ⟨rfl, rfl⟩
  | perform action next ih =>
    obtain ⟨x, rest, rfl, hrest⟩ := h
    obtain ⟨x', rest', rfl, hrest'⟩ := h'
    have hfirst := hsame [] ⟨action, x⟩ ⟨action, x'⟩ rest rest' rfl rfl rfl
    obtain rfl : x = x' := by simpa using hfirst
    have hlater : rest = rest' ∧ a = a' := by
      apply ih x hrest hrest'
      intro before e e' after after' hlog hlog'
      apply hsame (⟨action, x⟩ :: before) e e' after after'
      · rw [hlog, List.cons_append]
      · rw [hlog', List.cons_append]
    exact ⟨congrArg _ hlater.1, hlater.2⟩

end Procedure

/-! ## Questions and their answers -/

namespace SiteAction

/-- The action asks files or services something. -/
def isQuestion : SiteAction → Bool
  | .isFile _ | .resolve _ | .call _ => true
  | _ => false

/-- The action asks for something other than a publication, or has only one answer. -/
def isInquiry : SiteAction → Bool
  | .note _ | .release _ | .isFile _ | .resolve _ => true
  | .call (.publish ..) => false
  | .call _ => true
  | _ => false

end SiteAction

/-- Exchanges of one inquiry are the same if they are when it is a question. -/
theorem Exchange.eq_of_isInquiry {e e' : Exchange siteActions} (h : e.action.isInquiry = true)
    (haction : e.action = e'.action)
    (hanswer : e.action.isQuestion = true → e.isPublication = false → e = e') : e = e' := by
  obtain ⟨a, x⟩ := e
  obtain ⟨a', x'⟩ := e'
  obtain rfl : a = a' := haction
  cases a with
  | note | release => rfl
  | isFile | resolve => exact hanswer rfl rfl
  | call c =>
    cases c with
    | publish => cases h
    | _ => exact hanswer rfl rfl
  | _ => cases h

/-- What was asked of files and services in a transcript, with the answers. -/
def asked (log : List (Exchange siteActions)) : List (Exchange siteActions) :=
  log.filter (·.action.isQuestion)

/-- Transcripts ask one part after the other. -/
theorem asked_append (log more : List (Exchange siteActions)) :
    asked (log ++ more) = asked log ++ asked more :=
  List.filter_append log more

/-- A question is asked before the others. -/
theorem asked_cons_of_isQuestion {e : Exchange siteActions} (h : e.action.isQuestion = true)
    (log : List (Exchange siteActions)) : asked (e :: log) = e :: asked log :=
  List.filter_cons_of_pos h

/-- After the same questions and answers the same question has the same answer, unless it is a
publication. -/
def AnsweredAlike (log log' : List (Exchange siteActions)) : Prop :=
  ∀ before e e' after after', asked log = before ++ e :: after →
    asked log' = before ++ e' :: after' → e.action = e'.action → e.isPublication = false → e = e'

namespace AnsweredAlike

variable {log log' more more' : List (Exchange siteActions)}

/-- What follows the same questions and answers is answered alike. -/
theorem of_append (h : AnsweredAlike (log ++ more) (log' ++ more')) (hlog : asked log = asked log') :
    AnsweredAlike more more' := by
  intro before e e' after after' hmore hmore'
  apply h (asked log ++ before) e e' after after'
  · rw [asked_append, hmore, List.append_assoc]
  · rw [asked_append, hmore', hlog, List.append_assoc]

/-- Record actions ask nothing of files and services. -/
theorem of_records {a a' : RecordAction} {x : Except RecordFault a.Value}
    {x' : Except RecordFault a'.Value}
    (h : AnsweredAlike (⟨.records a, x⟩ :: log) (⟨.records a', x'⟩ :: log')) :
    AnsweredAlike log log' := by
  exact h

/-- Courses that are answered alike are the same, as long as there are only inquiries. -/
theorem eq_of_yields {α : Type} {p : Work α} {a a' : α}
    (h : AnsweredAlike (log ++ more) (log' ++ more')) (hlog : p.Yields log a)
    (hlog' : p.Yields log' a') (hinquiry : ∀ e ∈ log, e.action.isInquiry = true) :
    log = log' ∧ a = a' := by
  apply hlog.eq hlog'
  intro before e e' after after' hbefore hbefore' haction
  apply Exchange.eq_of_isInquiry (hinquiry e (by simp [hbefore])) haction
  intro hquestion hpublication
  have hquestion' : e'.action.isQuestion = true := haction ▸ hquestion
  apply h (asked before) e e' (asked (after ++ more)) (asked (after' ++ more')) _ _ haction
    hpublication
  · rw [hbefore, List.append_assoc, List.cons_append, asked_append,
      asked_cons_of_isQuestion hquestion]
  · rw [hbefore', List.append_assoc, List.cons_append, asked_append,
      asked_cons_of_isQuestion hquestion']

/-- Transcripts that differ only in the answer to a publication, with which they end, are answered
alike. -/
theorem of_last {common : List (Exchange siteActions)} {e e' : Exchange siteActions}
    (h : asked log = common ++ [e]) (h' : asked log' = common ++ [e'])
    (hpublication : e.isPublication = true) : AnsweredAlike log log' := by
  intro before x x' after after' hlog hlog' _ hx
  have hat : (common ++ [e])[before.length]? = some x := by simp [← h, hlog]
  have hat' : (common ++ [e'])[before.length]? = some x' := by simp [← h', hlog']
  rcases Nat.lt_or_ge before.length common.length with hearlier | hlast
  · rw [List.getElem?_append_left hearlier] at hat hat'
    exact Option.some_inj.mp (hat.symm.trans hat')
  · rw [List.getElem?_append_right hlast] at hat
    obtain rfl := List.mem_singleton.mp (List.mem_of_getElem? hat)
    rw [hpublication] at hx
    cases hx

end AnsweredAlike

/-- The same question has the same answer wherever it is asked in two transcripts. -/
def SameAnswers (log log' : List (Exchange siteActions)) : Prop :=
  ∀ e ∈ asked log, ∀ e' ∈ asked log', e.action = e'.action → e = e'

instance SiteAction.decidableEqAnswer : (a : SiteAction) → DecidableEq a.Answer
  | .isFile _ => inferInstanceAs (DecidableEq Bool)
  | .resolve _ => inferInstanceAs (DecidableEq (Except Failure ResolvedSource))
  | .call c => inferInstanceAs (DecidableEq (Except Failure c.Value))
  | .records a => inferInstanceAs (DecidableEq (Except RecordFault a.Value))
  | .now => inferInstanceAs (DecidableEq Timestamp)
  | .note _ | .release _ | .rollback | .pause _ => inferInstanceAs (DecidableEq Unit)

instance SameAnswers.decidable (log log' : List (Exchange siteActions)) :
    Decidable (SameAnswers log log') :=
  have : DecidableEq siteActions.Action := inferInstanceAs (DecidableEq SiteAction)
  have : (a : siteActions.Action) → DecidableEq (siteActions.Answer a) :=
    SiteAction.decidableEqAnswer
  inferInstanceAs (Decidable (∀ e ∈ asked log, ∀ e' ∈ asked log', e.action = e'.action → e = e'))

/-- Transcripts with the same answers are answered alike. -/
theorem SameAnswers.answeredAlike {log log' : List (Exchange siteActions)}
    (h : SameAnswers log log') : AnsweredAlike log log' := by
  intro before e e' after after' hlog hlog' haction _
  exact h e (by simp [hlog]) e' (by simp [hlog']) haction

/-! ## Surveys -/

section
variable {settings : ImportSettings} {source : Path} {table : String} {layer : Layer}
  {log : List (Exchange siteActions)}

/-- Loading only inquires. -/
theorem LoadEnd.isInquiry {result : LoadResult} (h : LoadEnd settings source table result log) :
    ∀ e ∈ log, e.action.isInquiry = true := by
  cases h with
  | unconverted | uncounted | unsampled | measured =>
    simp [SiteAction.isInquiry, ImportSettings.conversionOf]

/-- A survey only inquires. -/
theorem SurveyEnd.isInquiry {answer : Except Failure TableReport}
    (h : SurveyEnd settings layer answer log) : ∀ e ∈ log, e.action.isInquiry = true := by
  cases h with
  | nameless | missing | unresolved => simp [SiteAction.isInquiry]
  | unloaded _ hload | reported _ hload =>
    rw [List.forall_mem_append, List.forall_mem_append]
    refine ⟨⟨?_, hload.isInquiry⟩, ?_⟩
    · simp [SiteAction.isInquiry]
    · simp [SiteAction.isInquiry]

end

/-- Layers with the same slug and source file are surveyed alike. -/
theorem Work.survey_congr {settings : ImportSettings} {l l' : Layer} (hslug : l'.slug = l.slug)
    (hsource : l'.sourceFile = l.sourceFile) : survey settings l' = survey settings l := by
  unfold survey sourcePath
  rw [hslug, hsource]

end LayerPress
