import LayerPress.Proofs.ImportTrace
import Mathlib.Order.Nat

/-!
# How often an attempt is made

An attempt is repeated while its result is a failure worth another attempt and repetitions are
left. Whatever the attempt is and whatever results it has one time after another, the number of its
repetitions is the least that either is the allowed number or has a final result, and this result
is the answer. Before each repetition there is one pause, and nowhere else.

The repetitions are counted in a word of 32 bits. A loop that stops where the word would overflow
is the same procedure, so it never overflows.
-/

namespace LayerPress

/-- A result after which nothing is repeated: a value, or a failure not worth another attempt. -/
def IsFinal {α : Type} : Except Failure α → Prop
  | .ok _ => True
  | .error f => f.isRetryable = false

/-- A result that is not final is a failure worth another attempt. -/
theorem exists_of_not_isFinal {α : Type} {r : Except Failure α} (h : ¬ IsFinal r) :
    ∃ f, r = .error f ∧ f.isRetryable = true := by
  cases r with
  | ok a => exact absurd trivial h
  | error f => exact ⟨f, rfl, eq_true_of_ne_false h⟩

/-! ## The results of an attempt that is made again and again -/

namespace Site

variable {σ α : Type} {env : Surroundings σ} {attempt : Attempt α} {s : Site σ}
  {results : ℕ → Except Failure α}

/-- The site after a number of attempts, each made on the site that the one before has left. -/
def afterAttempts (env : Surroundings σ) (attempt : Attempt α) : Site σ → ℕ → Site σ
  | s, 0 => s
  | s, n + 1 => afterAttempts env attempt (s.run env attempt.run).2 n

/-- The attempt made again and again has these results, the first for the number zero. -/
def Yields (env : Surroundings σ) (attempt : Attempt α) (s : Site σ)
    (results : ℕ → Except Failure α) : Prop :=
  ∀ i, ((afterAttempts env attempt s i).run env attempt.run).1 = results i

/-- A pause before the repetition of a number. -/
def pausing (number : ℕ) : Exchange siteActions := ⟨.pause number, ()⟩

/-- What an attempt and its repetitions perform: a pause, with the number of the repetition, stands
before each of them. Some repetitions may have been made before. -/
def attemptLog (env : Surroundings σ) (attempt : Attempt α) (s : Site σ) (made repetitions : ℕ) :
    List (Exchange siteActions) :=
  s.transcript env attempt.run ++ (List.range repetitions).flatMap fun i =>
    pausing (made + i + 1) :: (afterAttempts env attempt s (i + 1)).transcript env attempt.run

/-- One repetition more is one at the front, after which the others have been made. -/
theorem attemptLog_succ (made repetitions : ℕ) :
    attemptLog env attempt s made (repetitions + 1) = s.transcript env attempt.run ++
      pausing (made + 1) ::
        attemptLog env attempt (s.run env attempt.run).2 (made + 1) repetitions := by
  have hnumber : ∀ i, made + (i + 1) + 1 = made + 1 + i + 1 := by
    intro i
    omega
  simp only [attemptLog, List.range_succ_eq_map, List.flatMap_cons, List.flatMap_map,
    Nat.succ_eq_add_one, hnumber]
  rfl

/-- The results after the first are those of the attempt made on the site that it has left. -/
theorem Yields.tail (h : Yields env attempt s results) :
    Yields env attempt (s.run env attempt.run).2 fun i => results (i + 1) :=
  fun i => h (i + 1)

/-- Surroundings that count the calls made to them and answer a count of features with the number
of calls before it. -/
def countingCalls : Surroundings ℕ where
  answer c calls :=
    match c with
    | .count _ => (.ok (calls : Int), calls + 1)
    | _ => (.error .noShapefile, calls)
  recordFault _ calls := (none, calls)
  now calls := (⟨2020, 1, 1, 0, 0, 0, 0⟩, calls)

/-- An attempt that asks for a number and has the result of that number. -/
def numberedAttempt (results : ℕ → Except Failure α) : Attempt α :=
  ExceptT.mk do
    match ← Work.call (.count "") with
    | .ok number => return results (Int.toNat number)
    | .error f => return .error f

/-- An empty site after a number of calls. -/
def afterCalls (calls : ℕ) : Site ℕ := ⟨⟨.empty, []⟩, ⟨[]⟩, ⟨[], []⟩, none, calls, []⟩

/-- Each sequence of results is that of some attempt. -/
theorem yields_numberedAttempt (results : ℕ → Except Failure α) :
    Yields countingCalls (numberedAttempt results) (afterCalls 0) results := by
  have hrun : ∀ calls, (afterCalls calls).run countingCalls (numberedAttempt results).run =
      (results calls, afterCalls (calls + 1)) := fun calls => rfl
  have hafter : ∀ n calls, afterAttempts countingCalls (numberedAttempt results)
      (afterCalls calls) n = afterCalls (calls + n) := by
    intro n
    induction n with
    | zero => exact fun calls => rfl
    | succ n ih =>
      intro calls
      rw [afterAttempts, hrun, ih, Nat.add_right_comm, Nat.add_assoc]
  intro i
  rw [hafter, hrun, Nat.zero_add]

/-- The repetitions of an attempt end with the least number that is the allowed one or has a final
result. -/
theorem Yields.run_retrying {left last : ℕ} (made : ℕ) (h : Yields env attempt s results)
    (hlast : IsLeast {i | i = left ∨ IsFinal (results i)} last) :
    s.run env (Work.retrying attempt left made) =
        (results last, afterAttempts env attempt s (last + 1)) ∧
      s.transcript env (Work.retrying attempt left made) =
        attemptLog env attempt s made last := by
  have hfirst : (s.run env attempt.run).1 = results 0 := h 0
  induction left generalizing made last s results with
  | zero =>
    obtain rfl : last = 0 := Nat.le_zero.mp (hlast.2 (.inl rfl))
    obtain ⟨hrun, hlog⟩ : s.run env (Work.retrying attempt 0 made) = s.run env attempt.run ∧
        s.transcript env (Work.retrying attempt 0 made) = s.transcript env attempt.run :=
      retrying_of_stop 0 made fun _ _ _ => rfl
    refine ⟨?_, by simp [hlog, attemptLog]⟩
    rw [hrun, ← hfirst]
    rfl
  | succ left ih =>
    by_cases hfinal : IsFinal (results 0)
    · obtain rfl : last = 0 := Nat.le_zero.mp (hlast.2 (.inr hfinal))
      have hstop : ∀ f, (s.run env attempt.run).1 = .error f → f.isRetryable = true →
          left + 1 = 0 := by
        intro f hfailed hworth
        rw [← hfirst, hfailed] at hfinal
        exact absurd (hworth.symm.trans hfinal) (by decide)
      obtain ⟨hrun, hlog⟩ := retrying_of_stop (left + 1) made hstop
      refine ⟨?_, by simp [hlog, attemptLog]⟩
      rw [hrun, ← hfirst]
      rfl
    · obtain ⟨f, hresult, hworth⟩ := exists_of_not_isFinal hfinal
      obtain ⟨hrun, hlog⟩ := retrying_of_error left made (hfirst.trans hresult) hworth
      obtain ⟨n, rfl⟩ : ∃ n, last = n + 1 := by
        apply Nat.exists_eq_succ_of_ne_zero
        rintro rfl
        rcases hlast.1 with hzero | hzero
        · cases hzero
        · exact hfinal hzero
      have hrest : IsLeast {i | i = left ∨ IsFinal (results (i + 1))} n := by
        refine ⟨hlast.1.imp Nat.succ.inj id, fun i hi => ?_⟩
        exact Nat.le_of_succ_le_succ (hlast.2 (hi.imp (congrArg Nat.succ) id))
      obtain ⟨hrun', hlog'⟩ := ih (made + 1) h.tail hrest (h 1)
      rw [hrun, hlog, hrun', hlog', attemptLog_succ]
      exact ⟨rfl, rfl⟩

end Site

/-! ## A counter of 32 bits -/

namespace Work

variable {α : Type}

/-- Repeats an attempt with the repetitions counted in a word. Where the word would overflow there
is no answer. -/
def retryingInWord (attempt : Attempt α) (maxRetries made : UInt32) :
    Work (Option (Except Failure α)) := do
  match ← attempt.run with
  | .ok a => return some (.ok a)
  | .error f =>
    if f.isRetryable then
      if hmore : made < maxRetries then
        if made.toNat + 1 < UInt32.size then do
          pause (made + 1).toNat
          retryingInWord attempt maxRetries (made + 1)
        else return none
      else return some (.error f)
    else return some (.error f)
termination_by maxRetries.toNat - made.toNat
decreasing_by
  have hbelow := UInt32.lt_iff_toNat_lt.mp hmore
  have hsize := maxRetries.toNat_lt
  rw [UInt32.toNat_add, UInt32.toNat_one]
  omega

/-- The word that counts the repetitions does not overflow. -/
theorem retryingInWord_eq (attempt : Attempt α) {maxRetries made : UInt32} {left : ℕ}
    (hleft : made.toNat + left = maxRetries.toNat) :
    retryingInWord attempt maxRetries made = some <$> retrying attempt left made.toNat := by
  induction left generalizing made with
  | zero =>
    have hdone : ¬ made < maxRetries := by
      rw [UInt32.lt_iff_toNat_lt]
      omega
    rw [retryingInWord, retrying, map_eq_pure_bind]
    refine congrArg _ (funext fun answer => ?_)
    cases answer with
    | ok a => rfl
    | error f =>
      dsimp only
      rw [dif_neg hdone, ite_self]
  | succ left ih =>
    have hsize := maxRetries.toNat_lt
    have hmore : made < maxRetries := by
      rw [UInt32.lt_iff_toNat_lt]
      omega
    have hfits : made.toNat + 1 < UInt32.size := by
      change _ < 2 ^ 32
      omega
    have hnext : (made + 1).toNat = made.toNat + 1 := by
      rw [UInt32.toNat_add, UInt32.toNat_one]
      exact Nat.mod_eq_of_lt hfits
    rw [retryingInWord, retrying, map_bind]
    refine congrArg _ (funext fun answer => ?_)
    cases answer with
    | ok a => rfl
    | error f =>
      dsimp only
      rw [dif_pos hmore, if_pos hfits, hnext, ih (by rw [hnext]; omega), hnext]
      cases f.isRetryable with
      | false => rfl
      | true => rfl

end Work

/-- For each number of allowed repetitions that a word holds and each sequence of results there is
one number of repetitions, the least that is the allowed one or has a final result. An attempt with
these results is made once and repeated as often, with a pause before each repetition, and the last
result is the answer. Some attempt has these results, and for no attempt does the word overflow in
which the repetitions are counted. -/
theorem retrying_ends_at_first_final {α : Type} (maxRetries : UInt32)
    (results : ℕ → Except Failure α) :
    ∃ last, IsLeast {i | i = maxRetries.toNat ∨ IsFinal (results i)} last ∧
      (∀ {σ : Type} (env : Surroundings σ) (attempt : Attempt α) (s : Site σ),
        Site.Yields env attempt s results →
          s.run env (Work.retrying attempt maxRetries.toNat 0) =
              (results last, Site.afterAttempts env attempt s (last + 1)) ∧
            s.transcript env (Work.retrying attempt maxRetries.toNat 0) =
              Site.attemptLog env attempt s 0 last) ∧
      (∃ (env : Surroundings ℕ) (attempt : Attempt α) (s : Site ℕ),
        Site.Yields env attempt s results) ∧
      ∀ attempt : Attempt α, Work.retryingInWord attempt maxRetries 0 =
        some <$> Work.retrying attempt maxRetries.toNat 0 := by
  have hsome : ∃ i, i = maxRetries.toNat ∨ IsFinal (results i) := ⟨_, .inl rfl⟩
  classical
  have hlast := Nat.isLeast_find hsome
  refine ⟨Nat.find hsome, hlast, fun env attempt s h => ?_,
    ⟨_, _, _, Site.yields_numberedAttempt results⟩, fun attempt => ?_⟩
  · exact h.run_retrying 0 hlast
  · exact Work.retryingInWord_eq attempt (Nat.zero_add _)

end LayerPress
