import LayerPress.Proofs.ServiceStart
import LayerPress.Proofs.SettingTexts
import Mathlib.Data.List.Forall2

/-!
# Which environments are accepted

Ten settings may be refused, each by a rule of its own for the text that it may have. They are read
in one order, and an environment holds settings exactly if every rule admits what it says; else the
first that is not admitted is named. What is accepted allows the origins that stand between commas,
trimmed, and none that is empty or has a comma.
-/

namespace LayerPress

/-- The setting that a refusal names. -/
def SettingsError.key : SettingsError → String
  | .missing key => key
  | .invalid key _ => key

namespace Settings

/-! ## The rules -/

/-- What may be asked of the text of a setting. -/
inductive Rule where
  | secret
  | encryption
  | number (limit : ℕ)
  | positive (limit : ℕ)

/-- A text between blanks writes a number. -/
def Writes (raw : String) (n : ℕ) : Prop :=
  ∃ kept, Text.Trims raw.toList kept ∧ Text.IsNumeral n kept

/-- A text between blanks is a word, ASCII case aside. -/
def Says (raw word : String) : Prop :=
  ∃ kept, Text.Trims raw.toList kept ∧ kept.map Char.toLower = word.toList

/-- A rule admits what an environment says of a setting. A secret must be there and not be empty;
of other settings nothing need be said. -/
def Rule.Admits : Rule → Option String → Prop
  | secret, said => ∃ text, said = some text ∧ text ≠ ""
  | encryption, said => ∀ raw ∈ said, Says raw "disable" ∨ Says raw "prefer"
  | number limit, said => ∀ raw ∈ said, ∃ n < limit, Writes raw n
  | positive limit, said => ∀ raw ∈ said, ∃ n < limit, Writes raw n ∧ n ≠ 0

/-- The settings that may be refused, in the order in which they are read. -/
def rules : List (String × Rule) := [
  ("GP_SPATIAL_PORT", .number UInt16.size),
  ("GP_SPATIAL_PASSWORD", .secret),
  ("GP_SPATIAL_SSLMODE", .encryption),
  ("GP_GEOSERVER_PASSWORD", .secret),
  ("GP_GEOSERVER_TIMEOUT_SECS", .number UInt64.size),
  ("GP_TARGET_SRID", .number UInt32.size),
  ("GP_IMPORT_TIMEOUT_SECS", .number UInt64.size),
  ("GP_WORKERS", .positive UInt64.size),
  ("GP_MAX_RETRIES", .number UInt32.size),
  ("GP_RETRY_BACKOFF_SECS", .number UInt64.size)]

/-- Every rule of a list admits what the environment says. -/
def AdmitsAll (env : Environment) (rs : List (String × Rule)) : Prop :=
  ∀ r ∈ rs, r.2.Admits (env r.1)

/-- The first rule of a list that does not admit what the environment says is about this key. -/
def FirstRefused (env : Environment) (rs : List (String × Rule)) (key : String) : Prop :=
  ∃ before rule after, rs = before ++ (key, rule) :: after ∧ AdmitsAll env before ∧
    ¬ rule.Admits (env key)

section
variable {env : Environment} {r : String × Rule} {rs : List (String × Rule)} {key : String}

/-- The first refused rule is the first one, or the first refused behind it if it admits what is
said. -/
theorem firstRefused_cons_iff :
    FirstRefused env (r :: rs) key ↔
      (key = r.1 ∧ ¬ r.2.Admits (env r.1)) ∨
        r.2.Admits (env r.1) ∧ FirstRefused env rs key := by
  constructor
  · rintro ⟨before, rule, after, hrs, hbefore, hrefused⟩
    cases before with
    | nil =>
      obtain ⟨rfl, -⟩ := List.cons.inj hrs
      exact .inl ⟨rfl, hrefused⟩
    | cons first before =>
      obtain ⟨rfl, rfl⟩ := List.cons.inj hrs
      obtain ⟨hfirst, hbefore⟩ := List.forall_mem_cons.mp hbefore
      exact .inr ⟨hfirst, before, rule, after, rfl, hbefore, hrefused⟩
  · rintro (⟨rfl, hrefused⟩ | ⟨hadmits, before, rule, after, rfl, hbefore, hrefused⟩)
    · exact ⟨[], r.2, rs, rfl, List.forall_mem_nil _, hrefused⟩
    · exact ⟨r :: before, rule, after, rfl, List.forall_mem_cons.mpr ⟨hadmits, hbefore⟩, hrefused⟩

/-- Of no rules none is refused. -/
theorem not_firstRefused_nil : ¬ FirstRefused env [] key := by
  rintro ⟨before, rule, after, hrs, -⟩
  simp at hrs

/-- A rule is refused first only if not every rule admits what is said. -/
theorem FirstRefused.not_admitsAll (h : FirstRefused env rs key) : ¬ AdmitsAll env rs := by
  obtain ⟨before, rule, after, rfl, -, hrefused⟩ := h
  exact fun hall => hrefused (hall (key, rule) (by simp))

/-- No two keys are the first refused. -/
theorem FirstRefused.unique {key' : String} (h : FirstRefused env rs key)
    (h' : FirstRefused env rs key') : key = key' := by
  induction rs with
  | nil => exact absurd h not_firstRefused_nil
  | cons r rs ih =>
    rcases firstRefused_cons_iff.mp h with ⟨rfl, hrefused⟩ | ⟨hadmits, h⟩
    · rcases firstRefused_cons_iff.mp h' with ⟨rfl, -⟩ | ⟨hadmits, -⟩
      · rfl
      · exact absurd hadmits hrefused
    · rcases firstRefused_cons_iff.mp h' with ⟨-, hrefused⟩ | ⟨-, h'⟩
      · exact absurd hadmits hrefused
      · exact ih h h'

end

/-! ## Reading by rules -/

/-- A reading follows rules: it succeeds only if all of them admit what the environment says, and
else names the first that does not. -/
def Follows {α : Type} (env : Environment) (rs : List (String × Rule)) :
    Except SettingsError α → Prop
  | .ok _ => AdmitsAll env rs
  | .error e => FirstRefused env rs e.key

section
variable {α β : Type} {env : Environment} {r : String × Rule} {rs : List (String × Rule)}
  {raw : String} {limit n : ℕ}

/-- What succeeds follows a rule that admits what is said. -/
theorem follows_ok {a : α} (h : r.2.Admits (env r.1)) :
    Follows env [r] (.ok a : Except SettingsError α) :=
  List.forall_mem_singleton.mpr h

/-- A refusal that names its key follows a rule that does not admit what is said. -/
theorem follows_error {e : SettingsError} (hkey : e.key = r.1) (h : ¬ r.2.Admits (env r.1)) :
    Follows env [r] (.error e : Except SettingsError α) :=
  firstRefused_cons_iff.mpr (.inl ⟨hkey, h⟩)

/-- A reading that follows a rule, and then others in whatever it has read, follows all. -/
theorem Follows.bind {x : Except SettingsError α} {k : α → Except SettingsError β}
    (hx : Follows env [r] x) (hk : ∀ a, Follows env rs (k a)) :
    Follows env (r :: rs) (x >>= k) := by
  cases x with
  | error e =>
    refine firstRefused_cons_iff.mpr ((firstRefused_cons_iff.mp hx).imp id fun h => ?_)
    exact absurd h.2 not_firstRefused_nil
  | ok a =>
    have hadmits : r.2.Admits (env r.1) := hx r List.mem_cons_self
    have hrest := hk a
    change Follows env (r :: rs) (k a)
    cases hread : k a with
    | error e =>
      rw [hread] at hrest
      exact firstRefused_cons_iff.mpr (.inr ⟨hadmits, hrest⟩)
    | ok b =>
      rw [hread] at hrest
      exact List.forall_mem_cons.mpr ⟨hadmits, hrest⟩

/-- The number that a text writes is the one that is read from it. -/
theorem readNumeral_trimChars (hlimit : 0 < limit) :
    Text.readNumeral limit (Text.trimChars raw.toList) = .ok n ↔ n < limit ∧ Writes raw n := by
  rw [Text.readNumeral_eq_ok_iff hlimit, and_comm]
  refine and_congr_right fun _ => ⟨fun h => ⟨_, Text.trims_trimChars raw.toList, h⟩, ?_⟩
  rintro ⟨kept, htrims, hkept⟩
  rwa [Text.trimChars_of_trims htrims]

/-- A number is read as the environment says, or has its default where nothing is said. -/
theorem numberOr_eq_ok_iff {key : String} {default : ℕ} (hlimit : 0 < limit) :
    numberOr env key limit default = .ok n ↔
      (env key = none ∧ n = default) ∨ ∃ raw, env key = some raw ∧ n < limit ∧ Writes raw n := by
  rw [numberOr]
  cases hsaid : env key with
  | none => simp [eq_comm]
  | some raw =>
    have hiff : Text.readNumeral limit (Text.trimChars raw.toList) = .ok n ↔
        n < limit ∧ Writes raw n := readNumeral_trimChars hlimit
    cases hread : Text.readNumeral limit (Text.trimChars raw.toList) with
    | error e => simpa [hread] using hiff
    | ok m => simpa [hread] using hiff

/-- What is refused as a number is not said to be one. -/
theorem numberOr_eq_error {key : String} {default : ℕ} {e : SettingsError} (hlimit : 0 < limit)
    (h : numberOr env key limit default = .error e) :
    e.key = key ∧ ∃ raw, env key = some raw ∧ ∀ n < limit, ¬ Writes raw n := by
  rw [numberOr] at h
  cases hsaid : env key with
  | none => simp [hsaid] at h
  | some raw =>
    rw [hsaid] at h
    dsimp only at h
    cases hread : Text.readNumeral limit (Text.trimChars raw.toList) with
    | ok m => simp [hread] at h
    | error fault =>
      rw [hread] at h
      cases h
      refine ⟨rfl, raw, rfl, fun n hn hwrites => ?_⟩
      have hok := (readNumeral_trimChars hlimit).mpr ⟨hn, hwrites⟩
      rw [hread] at hok
      cases hok

/-- A number is read by its rule. -/
theorem follows_numberOr (env : Environment) (key : String) (default : ℕ) (hlimit : 0 < limit) :
    Follows env [(key, .number limit)] (numberOr env key limit default) := by
  cases hread : numberOr env key limit default with
  | ok n =>
    apply follows_ok
    rcases (numberOr_eq_ok_iff hlimit).mp hread with ⟨hnone, -⟩ | ⟨raw, hsome, hwrites⟩
    · simp [Rule.Admits, hnone]
    · simpa [Rule.Admits, hsome] using ⟨n, hwrites⟩
  | error e =>
    obtain ⟨hkey, raw, hsome, hnone⟩ := numberOr_eq_error hlimit hread
    apply follows_error hkey
    simpa [Rule.Admits, hsome] using hnone

/-- A text writes one number only. -/
theorem Writes.unique {m : ℕ} (hm : m < limit) (hn : n < limit) (hwrites : Writes raw m)
    (hwrites' : Writes raw n) : m = n := by
  have hlimit : 0 < limit := Nat.zero_lt_of_lt hm
  have hread := (readNumeral_trimChars hlimit).mpr ⟨hm, hwrites⟩
  rwa [(readNumeral_trimChars hlimit).mpr ⟨hn, hwrites'⟩, Except.ok.injEq, eq_comm] at hread

/-- A number in whose place zero is refused is read by its rule, unless its default is zero. -/
theorem follows_positive (env : Environment) (key text : String) {default : ℕ} (hlimit : 0 < limit)
    (hdefault : default ≠ 0) :
    Follows env [(key, .positive limit)] (numberOr env key limit default >>= fun n =>
      if n = 0 then .error (.invalid key text) else .ok n) := by
  cases hread : numberOr env key limit default with
  | error e =>
    obtain ⟨hkey, raw, hsome, hnone⟩ := numberOr_eq_error hlimit hread
    apply follows_error hkey
    simp only [Rule.Admits, hsome, Option.mem_def, Option.some.injEq, forall_eq']
    rintro ⟨n, hn, hwrites, -⟩
    exact hnone n hn hwrites
  | ok n =>
    change Follows env _ (if n = 0 then .error (.invalid key text) else .ok n)
    rcases (numberOr_eq_ok_iff hlimit).mp hread with ⟨hnone, rfl⟩ | ⟨raw, hsome, hn, hwrites⟩
    · rw [if_neg hdefault]
      exact follows_ok (by simp [Rule.Admits, hnone])
    · split_ifs with hzero
      · apply follows_error rfl
        simp only [Rule.Admits, hsome, Option.mem_def, Option.some.injEq, forall_eq']
        rintro ⟨m, hm, hwrites', hne⟩
        exact hne ((hwrites'.unique hm hn hwrites).trans hzero)
      · apply follows_ok
        simpa [Rule.Admits, hsome] using ⟨n, hn, hwrites, hzero⟩

/-- A reading that refuses zero, and follows rules in whatever other number it has read, follows
all. -/
theorem Follows.bindPositive {k : ℕ → Except SettingsError α} {key text : String} {default : ℕ}
    (hlimit : 0 < limit) (hdefault : default ≠ 0) (hk : ∀ n, Follows env rs (k n)) :
    Follows env ((key, .positive limit) :: rs) (numberOr env key limit default >>= fun n =>
      if n = 0 then .error (.invalid key text) else k n) := by
  have hall := (follows_positive env key text hlimit hdefault).bind hk
  have hsame : ∀ n, ((if n = 0 then .error (.invalid key text) else .ok n :
      Except SettingsError ℕ) >>= k) = if n = 0 then .error (.invalid key text) else k n := by
    intro n
    split_ifs
    · rfl
    · rfl
  rwa [bind_assoc, funext hsame] at hall

/-- A secret is read by its rule. -/
theorem follows_required (env : Environment) (key : String) :
    Follows env [(key, .secret)] (required env key) := by
  rw [required]
  cases hsaid : env key with
  | none => exact follows_error rfl (by simp [Rule.Admits, hsaid])
  | some text =>
    dsimp only
    split_ifs with hempty
    · exact follows_error rfl (by simpa [Rule.Admits, hsaid] using hempty)
    · exact follows_ok (by simpa [Rule.Admits, hsaid] using hempty)

/-- A small ASCII letter stands thirty-two places behind its capital. -/
theorem toLower_eq (c : Char) :
    c.toLower = if 'A' ≤ c ∧ c ≤ 'Z' then Char.ofNat (c.toNat + 32) else c := by
  split_ifs with hcapital
  · have hlower : c.toLower.toNat = c.toNat + 32 := by
      have hlast : c.toNat ≤ 90 := UInt32.le_iff_toNat_le.mp hcapital.2
      have hvalue : c.toLower.val = c.val + 32 := congrArg Char.val (dif_pos hcapital)
      change c.toLower.val.toNat = c.toNat + 32
      rw [hvalue, UInt32.toNat_add]
      exact Nat.mod_eq_of_lt (by change c.toNat + 32 < 2 ^ 32; omega)
    rw [← hlower, Char.ofNat_toNat]
  · exact dif_neg hcapital

/-- A text is made small character by character. -/
theorem asciiLowerText_eq (cs : List Char) :
    asciiLowerText cs = String.ofList (cs.map Char.toLower) := by
  rw [asciiLowerText, funext toLower_eq]

/-- A word is said exactly if it is what is left of the text, trimmed and made small. -/
theorem says_iff (raw word : String) :
    Says raw word ↔ asciiLowerText (Text.trimChars raw.toList) = word := by
  rw [asciiLowerText_eq, ← String.toList_inj, String.toList_ofList]
  constructor
  · rintro ⟨kept, htrims, hkept⟩
    rwa [Text.trimChars_of_trims htrims]
  · exact fun h => ⟨_, Text.trims_trimChars raw.toList, h⟩

/-- The encryption mode is read by its rule. -/
theorem follows_sslMode (env : Environment) :
    Follows env [("GP_SPATIAL_SSLMODE", .encryption)]
      (sslMode (textOr env "GP_SPATIAL_SSLMODE" "prefer")) := by
  cases hsaid : env "GP_SPATIAL_SSLMODE" with
  | none =>
    have hprefer : sslMode "prefer" = .ok .prefer := by decide +kernel
    rw [textOr, hsaid, Option.getD_none, hprefer]
    exact follows_ok (by simp [Rule.Admits, hsaid])
  | some raw =>
    rw [textOr, hsaid, Option.getD_some, sslMode]
    split_ifs with hdisable hprefer
    · exact follows_ok (by simp [Rule.Admits, hsaid, says_iff, hdisable])
    · exact follows_ok (by simp [Rule.Admits, hsaid, says_iff, hprefer])
    · exact follows_error rfl (by simp [Rule.Admits, hsaid, says_iff, hdisable, hprefer])

/-- Settings are read by their rules. -/
theorem follows_read (env : Environment) : Follows env rules (read env) := by
  have h16 : 0 < UInt16.size := by decide
  have h32 : 0 < UInt32.size := by decide
  have h64 : 0 < UInt64.size := by decide
  rw [read, rules]
  refine (follows_numberOr env _ _ h16).bind fun port => ?_
  refine (follows_required env _).bind fun spatialPassword => ?_
  refine (follows_sslMode env).bind fun mode => ?_
  refine (follows_required env _).bind fun catalogPassword => ?_
  refine (follows_numberOr env _ _ h64).bind fun requestTimeout => ?_
  refine (follows_numberOr env _ _ h32).bind fun srid => ?_
  refine (follows_numberOr env _ _ h64).bind fun importTimeout => ?_
  refine Follows.bindPositive h64 (by decide) fun workers => ?_
  refine (follows_numberOr env _ _ h32).bind fun maxRetries => ?_
  refine (follows_numberOr env _ _ h64).bind fun backoff => ?_
  exact List.forall_mem_nil _

/-! ## Origins -/

/-- The allowed origins are the pieces between commas, trimmed, but for the empty ones. -/
theorem origins_eq (raw : String) :
    ∃ trimmed, List.Forall₂ Text.Trims (raw.toList.splitOn ',') trimmed ∧
      (origins raw).map String.toList = trimmed.filter (· ≠ []) := by
  refine ⟨(raw.toList.splitOn ',').map Text.trimChars, ?_, ?_⟩
  · rw [List.forall₂_map_right_iff, List.forall₂_same]
    exact fun piece _ => Text.trims_trimChars piece
  · have hnonempty : ∀ cs : List Char, (!cs.isEmpty) = decide (cs ≠ []) := by
      intro cs
      cases cs with
      | nil => rfl
      | cons c rest => rfl
    rw [origins, Text.splitAll_eq_splitOn, List.map_map]
    simp [hnonempty]

/-- An allowed origin is not empty, has no blanks at its ends and no comma. -/
theorem of_mem_origins {origin : String} (h : origin ∈ origins raw) :
    origin ≠ "" ∧ Text.Trims origin.toList origin.toList ∧ ',' ∉ origin.toList := by
  rw [origins, Text.splitAll_eq_splitOn] at h
  simp only [List.mem_map, List.mem_filter] at h
  obtain ⟨kept, ⟨⟨piece, hpiece, rfl⟩, hsome⟩, rfl⟩ := h
  have htrims := Text.trims_trimChars piece
  obtain ⟨lead, trail, hcut, -⟩ := id htrims
  have hcomma := Text.sep_not_mem_of_mem_splitOn hpiece
  rw [hcut] at hcomma
  simp only [List.mem_append, not_or] at hcomma
  rw [String.toList_ofList]
  refine ⟨?_, htrims.self, hcomma.1.2⟩
  intro hempty
  rw [← String.toList_inj, String.toList_ofList] at hempty
  simp [hempty] at hsome

end

/-- An environment holds settings exactly if every rule admits what it says of its setting, and else
the first setting that is not admitted is named. Accepted settings allow the pieces between commas,
trimmed and in their order, but for the empty ones, so none that is empty, begins or ends with a
blank or has a comma. -/
theorem read_by_rules (env : Environment) :
    ((∃ s, read env = .ok s) ↔ AdmitsAll env rules) ∧
      (∀ key, (∃ e, read env = .error e ∧ e.key = key) ↔ FirstRefused env rules key) ∧
      ∀ s, read env = .ok s →
        (∃ trimmed, List.Forall₂ Text.Trims
            (((env "GP_CORS_ALLOWED_ORIGINS").getD "").toList.splitOn ',') trimmed ∧
          s.corsOrigins.map String.toList = trimmed.filter (· ≠ [])) ∧
        ∀ origin ∈ s.corsOrigins,
          origin ≠ "" ∧ Text.Trims origin.toList origin.toList ∧ ',' ∉ origin.toList := by
  have hfollows := follows_read env
  have horigins : ∀ s, read env = .ok s →
      s.corsOrigins = origins ((env "GP_CORS_ALLOWED_ORIGINS").getD "") :=
    fun s hread => (of_read hread).2.2
  cases hread : read env with
  | ok s =>
    rw [hread] at hfollows
    refine ⟨⟨fun _ => hfollows, fun _ => ⟨s, rfl⟩⟩, fun key => ⟨?_, ?_⟩, ?_⟩
    · rintro ⟨e, ⟨⟩, -⟩
    · exact fun hrefused => absurd hfollows hrefused.not_admitsAll
    · rintro _ ⟨⟩
      rw [horigins s hread]
      exact ⟨origins_eq _, fun origin => of_mem_origins⟩
  | error e =>
    rw [hread] at hfollows
    refine ⟨⟨?_, fun hall => absurd hall hfollows.not_admitsAll⟩, fun key => ⟨?_, ?_⟩, ?_⟩
    · rintro ⟨s, ⟨⟩⟩
    · rintro ⟨_, ⟨⟩, rfl⟩
      exact hfollows
    · exact fun hrefused => ⟨e, rfl, hfollows.unique hrefused⟩
    · rintro s ⟨⟩

end Settings

end LayerPress
