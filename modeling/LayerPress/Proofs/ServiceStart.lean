import LayerPress.Startup

/-!
# Which accepted settings start the service

Settings are refused when they ask for no workers, but not when they ask for more than a pool can
hold, nor when the wildcard is among the allowed origins. Settings that were accepted start the
service exactly if the environment asks for neither; with either of them the service crashes.
-/

namespace LayerPress

namespace Settings

variable {env : Environment} {s : Settings}

/-- The environment asks for more workers than a pool has permits for. -/
def asksTooMany (env : Environment) : Bool :=
  match env "GP_WORKERS" with
  | none => false
  | some raw =>
    match Text.readNumeral UInt64.size (Text.trimChars raw.toList) with
    | .ok workers => maxPermits < workers
    | .error _ => false

/-- The wildcard stands between two commas of the allowed origins. -/
def allowsAll (env : Environment) : Bool :=
  (env "GP_CORS_ALLOWED_ORIGINS").any fun raw =>
    (Text.splitAll ',' raw.toList).any fun piece => Text.trimChars piece == ['*']

/-- What accepted settings say about workers and origins. -/
theorem of_read (h : Settings.read env = .ok s) :
    numberOr env "GP_WORKERS" UInt64.size 4 = .ok s.workers ∧ s.workers ≠ 0 ∧
      s.corsOrigins = origins (textOr env "GP_CORS_ALLOWED_ORIGINS" "") := by
  rw [read] at h
  obtain ⟨port, -, h⟩ := bind_eq_ok.mp h
  obtain ⟨spatialPassword, -, h⟩ := bind_eq_ok.mp h
  obtain ⟨mode, -, h⟩ := bind_eq_ok.mp h
  obtain ⟨catalogPassword, -, h⟩ := bind_eq_ok.mp h
  obtain ⟨requestTimeout, -, h⟩ := bind_eq_ok.mp h
  obtain ⟨srid, -, h⟩ := bind_eq_ok.mp h
  obtain ⟨importTimeout, -, h⟩ := bind_eq_ok.mp h
  obtain ⟨workers, hworkers, h⟩ := bind_eq_ok.mp h
  by_cases hzero : workers = 0
  · rw [if_pos hzero] at h
    cases h
  rw [if_neg hzero] at h
  obtain ⟨maxRetries, -, h⟩ := bind_eq_ok.mp h
  obtain ⟨backoff, -, h⟩ := bind_eq_ok.mp h
  cases h
  exact ⟨hworkers, hzero, rfl⟩

/-- Accepted settings have more workers than permits if the environment asks for too many. -/
theorem asksTooMany_of_read (h : Settings.read env = .ok s) :
    asksTooMany env = decide (maxPermits < s.workers) := by
  obtain ⟨hworkers, -, -⟩ := of_read h
  rw [numberOr] at hworkers
  rw [asksTooMany]
  cases hraw : env "GP_WORKERS" with
  | none =>
    simp only [hraw, Except.ok.injEq] at hworkers
    rw [← hworkers]
    decide
  | some raw =>
    simp only [hraw] at hworkers
    cases hread : Text.readNumeral UInt64.size (Text.trimChars raw.toList) with
    | ok workers =>
      simp only [hread, Except.ok.injEq] at hworkers
      simp only [hread, hworkers]
    | error e =>
      simp only [hread] at hworkers
      cases hworkers

/-- A text is among the origins if it is what is left of a piece between commas. -/
theorem mem_origins {raw text : String} (htext : text.toList ≠ []) :
    text ∈ origins raw ↔
      ∃ piece ∈ Text.splitAll ',' raw.toList, Text.trimChars piece = text.toList := by
  simp only [origins, List.mem_map, List.mem_filter]
  constructor
  · rintro ⟨cs, ⟨⟨piece, hpiece, rfl⟩, -⟩, rfl⟩
    exact ⟨piece, hpiece, String.toList_ofList.symm⟩
  · rintro ⟨piece, hpiece, htrim⟩
    refine ⟨text.toList, ⟨⟨piece, hpiece, htrim⟩, ?_⟩, String.ofList_toList⟩
    rwa [Bool.not_eq_true', List.isEmpty_eq_false_iff]

/-- Accepted settings allow the wildcard if it stands between two commas. -/
theorem allowsAll_of_read (h : Settings.read env = .ok s) :
    allowsAll env = (Admin.usableOrigins s.corsOrigins).contains "*" := by
  obtain ⟨-, -, horigins⟩ := of_read h
  have husable : Admin.isHeaderText "*" = true := by decide
  have hstar : ("*" : String).toList = ['*'] := by decide
  rw [Bool.eq_iff_iff, List.contains_iff_mem, Admin.usableOrigins, List.mem_filter, horigins,
    mem_origins (by decide), hstar, textOr, allowsAll]
  cases env "GP_CORS_ALLOWED_ORIGINS" with
  | none =>
    simp only [husable]
    decide
  | some raw => simp [husable]

/-- The pool of accepted settings has a permit for each worker, unless there are too many. -/
theorem startPool_of_read (h : Settings.read env = .ok s) :
    startPool s.workers =
      if asksTooMany env then .error .tooManyPermits else .ok s.workers := by
  obtain ⟨-, hpositive, -⟩ := of_read h
  have hmax : max s.workers 1 = s.workers := by omega
  rw [startPool, hmax, asksTooMany_of_read h]
  simp only [decide_eq_true_eq]

/-- The router of accepted settings compares with the usable origins, unless the wildcard is one. -/
theorem startRouter_of_read (h : Settings.read env = .ok s) :
    startRouter s.corsOrigins =
      if allowsAll env then .error .wildcardOrigin
      else .ok (Admin.usableOrigins s.corsOrigins) := by
  rw [startRouter, allowsAll_of_read h]

/-- Accepted settings start a pool with a permit for each worker and a router exactly if the
environment neither asks for too many workers nor allows the wildcard. -/
theorem start_of_read (h : Settings.read env = .ok s) :
    s.start =
      if asksTooMany env then .error .tooManyPermits
      else if allowsAll env then .error .wildcardOrigin
      else .ok (s.workers, Admin.usableOrigins s.corsOrigins) := by
  rw [start, startPool_of_read h, startRouter_of_read h]
  cases asksTooMany env with
  | true => rfl
  | false => cases allowsAll env <;> rfl

/-- The environment of one more setting besides the two passwords. -/
def withPasswords (key value : String) : Environment := fun asked =>
  if asked = key then some value
  else if asked = "GP_SPATIAL_PASSWORD" ∨ asked = "GP_GEOSERVER_PASSWORD" then some "secret"
  else none

/-- An environment that is not refused holds settings. -/
theorem exists_read (h : (Settings.read env).isOk = true) : ∃ s, Settings.read env = .ok s := by
  cases hread : Settings.read env with
  | error _ =>
    rw [hread] at h
    cases h
  | ok s => exact ⟨s, rfl⟩

/-- As many workers as a pool has permits for are accepted, and the service starts with them. -/
theorem start_of_read_most :
    ∃ s, Settings.read (withPasswords "GP_WORKERS" "2305843009213693951") = .ok s ∧
      s.start = .ok (s.workers, Admin.usableOrigins s.corsOrigins) := by
  obtain ⟨s, hread⟩ :
      ∃ s, Settings.read (withPasswords "GP_WORKERS" "2305843009213693951") = .ok s :=
    exists_read (by decide +kernel)
  have hstart := start_of_read hread
  rw [if_neg (by decide +kernel), if_neg (by decide +kernel)] at hstart
  exact ⟨s, hread, hstart⟩

/-- One worker more is accepted, and so is the wildcard, and with either the service crashes. -/
theorem read_accepts_crash :
    (∃ s, Settings.read (withPasswords "GP_WORKERS" "2305843009213693952") = .ok s ∧
        s.start = .error .tooManyPermits) ∧
      ∃ s, Settings.read (withPasswords "GP_CORS_ALLOWED_ORIGINS" "https://a.example, *") = .ok s ∧
        s.start = .error .wildcardOrigin := by
  constructor
  · obtain ⟨s, hread⟩ :
        ∃ s, Settings.read (withPasswords "GP_WORKERS" "2305843009213693952") = .ok s :=
      exists_read (by decide +kernel)
    refine ⟨s, hread, ?_⟩
    rw [start, startPool_of_read hread, if_pos (by decide +kernel)]
    rfl
  · obtain ⟨s, hread⟩ :
        ∃ s, Settings.read (withPasswords "GP_CORS_ALLOWED_ORIGINS" "https://a.example, *") =
          .ok s :=
      exists_read (by decide +kernel)
    refine ⟨s, hread, ?_⟩
    rw [start, startPool_of_read hread, startRouter_of_read hread, if_neg (by decide +kernel),
      if_pos (by decide +kernel)]
    rfl

end Settings

end LayerPress
