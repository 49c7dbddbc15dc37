import LayerPress.Proofs.PercentEncoding
import Mathlib.Data.List.Basic
import Mathlib.Data.List.TakeWhile

/-!
# Addresses below a base

The addresses of a service are made by writing a path after its base. Where the base has no query
and no fragment and every name in the path stands for itself, the address that is read has the
segments of the base, followed by these names; nothing that is written after the base changes how
the base itself is read.
-/

namespace LayerPress.Url

/-- A text that stands for itself as a segment of a path. -/
structure IsSegment (cs : List Char) : Prop where
  plain : ∀ c ∈ cs, encodedInPath c = false ∧ isSeparator c = false ∧ c ≠ '%'
  notSingle : cs ≠ ['.']
  notDouble : cs ≠ ['.', '.']

instance (cs : List Char) : Decidable (IsSegment cs) :=
  decidable_of_iff
    (cs.all (fun c => !encodedInPath c && !isSeparator c && c != '%') = true ∧ cs ≠ ['.'] ∧
      cs ≠ ['.', '.'])
    ⟨fun h => ⟨by simpa [and_assoc] using h.1, h.2.1, h.2.2⟩,
      fun h => ⟨by simpa [and_assoc] using h.plain, h.notSingle, h.notDouble⟩⟩

/-- An empty segment is written as it is. -/
theorem isSegment_nil : IsSegment [] := ⟨by simp, by simp, by simp⟩

/-- A path as it is written, a slash before each segment. -/
def written (path : List (List Char)) : List Char :=
  path.flatMap ('/' :: ·)

/-- The address of a path below another address, with a query or without. -/
def below (root : Url) (path : List (List Char)) (query : Option (List Char)) : Url :=
  { root with segments := root.segments ++ path, query := query }

/-- The address below which the paths are that are written after a base without query and
fragment. -/
def root? (base : String) : Option Url :=
  if '?' ∈ base.toList ∨ '#' ∈ base.toList then none
  else (parse? (base ++ "/")).map fun u => { u with segments := u.segments.dropLast }

/-- The scheme of an address, and what follows it. -/
def scheme? (cs : List Char) : Option (Bool × List Char) :=
  match afterScheme? "http".toList cs with
  | some rest => some (false, rest)
  | none => (afterScheme? "https".toList cs).map (true, ·)

/-- Reads what follows the scheme. -/
def readPlace? (secure : Bool) (rest : List Char) : Option Url :=
  let place := rest.takeWhile fun c => !isSeparator c && c != '?'
  let after := rest.dropWhile fun c => !isSeparator c && c != '?'
  if !isAuthority place then none
  else some ⟨secure, place, readPath (after.takeWhile (· != '?')),
    match after.dropWhile (· != '?') with
    | [] => none
    | _ :: q => some (encodeIf encodedInQuery q)⟩

/-- An address is read from its scheme on. -/
theorem parse?_eq (s : String) : parse? s = (scheme? (clean s.toList)).bind fun (secure, rest) =>
    readPlace? secure ((rest.dropWhile isSeparator).takeWhile (· != '#')) := by
  simp only [parse?, scheme?, readPlace?]
  cases afterScheme? "http".toList (clean s.toList) with
  | some rest =>
    simp only [Option.bind_eq_bind, Option.bind_some]
    split <;> rfl
  | none =>
    cases afterScheme? "https".toList (clean s.toList) with
    | none => rfl
    | some rest =>
      simp only [Option.bind_eq_bind, Option.bind_some, Option.map_some]
      split <;> rfl

/-! ## What is written after a base -/

section
variable {p : Char → Bool} {c : Char}

/-- What a text drops at its beginning does not depend on what follows a character that stays. -/
theorem dropWhile_append_cons (hc : p c = false) (base t : List Char) :
    (base ++ c :: t).dropWhile p = base.dropWhile p ++ c :: t := by
  induction base with
  | nil => simp [hc]
  | cons x rest ih =>
    rw [List.cons_append, List.dropWhile_cons, List.dropWhile_cons]
    split
    · exact ih
    · rfl

/-- What a text begins with does not depend on what follows a character that ends it. -/
theorem takeWhile_append_cons (hc : p c = false) (base t : List Char) :
    (base ++ c :: t).takeWhile p = base.takeWhile p := by
  induction base with
  | nil => simp [hc]
  | cons x rest ih => rw [List.cons_append, List.takeWhile_cons, List.takeWhile_cons, ih]

/-- A text that ends with no such character drops none at its end. -/
theorem dropEndWhile_append {t : List Char} (ht : ∀ c, t.getLast? = some c → p c = false)
    (hne : t ≠ []) (base : List Char) :
    ((base ++ t).reverse.dropWhile p).reverse = base ++ t := by
  have hkept : (t.reverse ++ base.reverse).dropWhile p = t.reverse ++ base.reverse := by
    cases hrev : t.reverse with
    | nil => exact absurd (List.reverse_eq_nil_iff.mp hrev) hne
    | cons x rest =>
      have hx : t.getLast? = some x := by rw [List.getLast?_eq_head?_reverse, hrev, List.head?_cons]
      simp [ht x hx]
  rw [List.reverse_append, hkept, List.reverse_append, List.reverse_reverse, List.reverse_reverse]

end

/-- A tab or a line break, which is not read. -/
def isBreak (c : Char) : Bool :=
  c == '\t' || c == '\n' || c == '\r'

/-- What is read of a text that is written after a base. -/
def heard (t : List Char) : List Char :=
  (t.filter (!isBreak ·)).takeWhile (· != '#')

/-- A character that may follow a base: neither blank nor the beginning of a fragment. -/
def mayFollow (c : Char) : Bool :=
  !isControlOrSpace c && c != '#'

/-- The base as it is read. -/
def cleanBase (base : List Char) : List Char :=
  (base.dropWhile isControlOrSpace).filter fun c => !(c == '\t' || c == '\n' || c == '\r')

section
variable {t : List Char}

/-- A text that does not end with a blank does not end with one after a slash. -/
theorem isControlOrSpace_of_slash (ht : ∀ c, t.getLast? = some c → isControlOrSpace c = false) :
    ∀ c, ('/' :: t).getLast? = some c → isControlOrSpace c = false := by
  intro c hc
  rw [List.getLast?_cons] at hc
  cases hend : t.getLast? with
  | none =>
    rw [hend] at hc
    cases hc
    rfl
  | some x =>
    rw [hend] at hc
    cases hc
    exact ht _ hend

/-- A text that does not end with a blank loses its breaks by cleaning. -/
theorem clean_append (ht : ∀ c, t.getLast? = some c → isControlOrSpace c = false)
    (base : List Char) :
    clean (base ++ '/' :: t) = cleanBase base ++ '/' :: t.filter (!isBreak ·) := by
  rw [clean, dropWhile_append_cons rfl,
    dropEndWhile_append (isControlOrSpace_of_slash ht) (List.cons_ne_nil _ _), List.filter_append,
    cleanBase]
  rfl

/-- A character that may follow a base is neither a break nor the beginning of a fragment. -/
theorem isBreak_of_mayFollow {c : Char} (h : mayFollow c = true) : isBreak c = false ∧ c ≠ '#' := by
  refine ⟨?_, ?_⟩
  · refine Decidable.byContradiction fun hbreak => ?_
    simp only [isBreak, Bool.not_eq_false, Bool.or_eq_true, beq_iff_eq] at hbreak
    rcases hbreak with (rfl | rfl) | rfl <;> cases h
  · rintro rfl
    cases h

/-- A text without breaks and without a fragment is read as it is. -/
theorem heard_eq_self (ht : ∀ c ∈ t, isBreak c = false ∧ c ≠ '#') : heard t = t := by
  have hkept : t.filter (!isBreak ·) = t :=
    List.filter_eq_self.mpr fun c hc => by simp [(ht c hc).1]
  rw [heard, hkept, List.takeWhile_eq_self_iff]
  intro c hc
  simp [(ht c hc).2]

/-- What may follow a base does not end with a blank. -/
theorem isControlOrSpace_of_mayFollow (ht : ∀ c ∈ t, mayFollow c = true) :
    ∀ c, t.getLast? = some c → isControlOrSpace c = false := by
  intro c hc
  have hfollow := ht c (List.mem_of_getLast? hc)
  rw [mayFollow, Bool.and_eq_true, Bool.not_eq_true'] at hfollow
  exact hfollow.1

/-- What follows a slash is not read as part of a scheme. -/
theorem afterScheme?_append {scheme : List Char} (hscheme : '/' ∉ scheme) (base t : List Char) :
    afterScheme? scheme (base ++ '/' :: t) = (afterScheme? scheme base).map (· ++ '/' :: t) := by
  simp only [afterScheme?]
  rcases Nat.lt_trichotomy scheme.length base.length with hlt | heq | hgt
  · rw [List.take_append_of_le_length (Nat.le_of_lt hlt),
      List.drop_append_of_le_length (Nat.le_of_lt hlt)]
    split
    · cases hdrop : base.drop scheme.length with
      | nil =>
        have := List.drop_eq_nil_iff.mp hdrop
        omega
      | cons x rest =>
        rw [List.cons_append]
        split
        · next h => cases h; rfl
        · next h =>
          split
          · next h' => cases h'; exact absurd rfl (h _)
          · rfl
    · rfl
  · rw [heq, List.take_left' rfl, List.drop_left' rfl, List.drop_length, List.take_length]
    split <;> rfl
  · have hslash : '/' ∈ (base ++ '/' :: t).take scheme.length := by
      rw [List.take_append, List.mem_append]
      right
      cases h : scheme.length - base.length with
      | zero => omega
      | succ n => simp
    rw [if_neg, if_neg]
    · rfl
    · intro h
      have := congrArg List.length h
      simp at this
      omega
    · intro h
      apply hscheme
      rw [← h]
      exact List.mem_map.mpr ⟨'/', hslash, rfl⟩

/-- What follows a slash does not change the scheme. -/
theorem scheme?_append (base t : List Char) :
    scheme? (base ++ '/' :: t) =
      (scheme? base).map fun (secure, rest) => (secure, rest ++ '/' :: t) := by
  rw [scheme?, afterScheme?_append (by decide), afterScheme?_append (by decide), scheme?]
  cases afterScheme? "http".toList base with
  | some rest => rfl
  | none => cases afterScheme? "https".toList base <;> rfl

/-- What follows a scheme is part of the text. -/
theorem mem_of_scheme? {cs rest : List Char} {secure : Bool}
    (h : scheme? cs = some (secure, rest)) :
    ∀ c ∈ rest, c ∈ cs := by
  have hafter : ∀ {scheme rest : List Char}, afterScheme? scheme cs = some rest →
      ∀ c ∈ rest, c ∈ cs := by
    intro scheme rest h c hc
    simp only [afterScheme?] at h
    split at h
    · split at h
      · next hdrop =>
        cases h
        exact List.mem_of_mem_drop (hdrop ▸ List.mem_cons_of_mem _ hc)
      · cases h
    · cases h
  simp only [scheme?] at h
  split at h
  · next hfound => cases h; exact hafter hfound
  · obtain ⟨r, hfound, heq⟩ := Option.map_eq_some_iff.mp h
    cases heq
    exact hafter hfound

/-- What follows a slash is part of the path or of the query. -/
theorem readPlace?_append (secure : Bool) {place : List Char} (hplace : '?' ∉ place)
    (t : List Char) : readPlace? secure (place ++ '/' :: t) =
      if !isAuthority (place.takeWhile fun c => !isSeparator c && c != '?') then none
      else some ⟨secure, place.takeWhile fun c => !isSeparator c && c != '?',
        readPath ((place.dropWhile fun c => !isSeparator c && c != '?') ++
          '/' :: t.takeWhile (· != '?')),
        match t.dropWhile (· != '?') with
        | [] => none
        | _ :: q => some (encodeIf encodedInQuery q)⟩ := by
  have hpath : ∀ c ∈ (place.dropWhile fun c => !isSeparator c && c != '?') ++ ['/'],
      (c != '?') = true := by
    intro c hc
    rw [List.mem_append, List.mem_singleton] at hc
    rw [bne_iff_ne]
    rcases hc with hc | rfl
    · rintro rfl
      exact hplace ((List.dropWhile_sublist _).subset hc)
    · decide
  simp only [readPlace?]
  rw [takeWhile_append_cons (by decide), dropWhile_append_cons (by decide),
    ← List.singleton_append, ← List.append_assoc, List.takeWhile_append_of_pos hpath,
    List.dropWhile_append_of_pos hpath, List.append_assoc, List.singleton_append]

end

/-! ## Paths -/

section
variable {path : List (List Char)} {segment : List Char}

/-- A text has at least one piece. -/
theorem splitPath_ne_nil (cs : List Char) : splitPath cs ≠ [] := by
  cases cs with
  | nil => simp [splitPath]
  | cons c rest =>
    simp only [splitPath]
    split
    · exact List.cons_ne_nil _ _
    · split <;> exact List.cons_ne_nil _ _

/-- A slash separates the pieces before it from those after it. -/
theorem splitPath_append (cs t : List Char) :
    splitPath (cs ++ '/' :: t) = splitPath cs ++ splitPath t := by
  induction cs with
  | nil => rfl
  | cons c rest ih =>
    rw [List.cons_append, splitPath, splitPath, ih]
    split
    · rfl
    · cases hsplit : splitPath rest with
      | nil => exact absurd hsplit (splitPath_ne_nil rest)
      | cons piece more => rfl

/-- A segment is one piece. -/
theorem IsSegment.splitPath (h : IsSegment segment) : splitPath segment = [segment] := by
  have hplain := h.plain
  clear h
  induction segment with
  | nil => rfl
  | cons c rest ih =>
    rw [List.forall_mem_cons] at hplain
    rw [Url.splitPath, hplain.1.2.1, ih hplain.2]
    rfl

/-- The pieces of a path that is written are its segments. -/
theorem splitPath_written (hsegment : IsSegment segment) (hpath : ∀ s ∈ path, IsSegment s) :
    splitPath (segment ++ written path) = segment :: path := by
  induction path generalizing segment with
  | nil =>
    rw [written, List.flatMap_nil, List.append_nil, hsegment.splitPath]
  | cons first rest ih =>
    rw [List.forall_mem_cons] at hpath
    have hrest := ih hpath.1 hpath.2
    change splitPath (segment ++ '/' :: (first ++ written rest)) = _
    rw [splitPath_append, hsegment.splitPath, hrest]
    rfl

/-- A text without escapes has no encoded dots. -/
theorem plainDots_of_not_hasEscape {cs : List Char} (h : Text.Percent.hasEscape cs = false) :
    plainDots cs = cs := by
  induction cs with
  | nil => rfl
  | cons c rest ih =>
    rw [Text.Percent.hasEscape, Bool.or_eq_false_iff] at h
    rw [plainDots, ih h.2]
    · rintro more rfl rfl
      cases h.1
    · rintro more rfl rfl
      cases h.1

/-- A segment is not changed by encoding. -/
theorem IsSegment.encodeIf (h : IsSegment segment) : encodeIf encodedInPath segment = segment := by
  have hplain := h.plain
  clear h
  induction segment with
  | nil => rfl
  | cons c rest ih =>
    rw [List.forall_mem_cons] at hplain
    have hrest := ih hplain.2
    simp only [Url.encodeIf] at hrest ⊢
    rw [List.flatMap_cons, hrest, hplain.1.1]
    rfl

/-- Segments are added to those passed. -/
theorem resolveDots_segments (passed : List (List Char)) (hpath : ∀ s ∈ path, IsSegment s) :
    resolveDots passed path = passed ++ path := by
  induction path generalizing passed with
  | nil => simp [resolveDots]
  | cons s rest ih =>
    rw [List.forall_mem_cons] at hpath
    have hdots : plainDots s = s := plainDots_of_not_hasEscape <|
      Text.Percent.hasEscape_of_not_mem fun hmem => (hpath.1.plain _ hmem).2.2 rfl
    rw [resolveDots, isDoubleDot, isSingleDot, hdots, beq_false_of_ne hpath.1.notDouble,
      beq_false_of_ne hpath.1.notSingle, hpath.1.encodeIf]
    simp only [Bool.false_eq_true, if_false]
    rw [ih _ hpath.2, List.append_assoc, List.singleton_append]

/-- What the first pieces of a path come to does not depend on the others. -/
theorem exists_resolveDots (first passed : List (List Char)) :
    ∃ reached, ∀ rest, rest ≠ [] →
      resolveDots passed (first ++ rest) = resolveDots reached rest := by
  induction first generalizing passed with
  | nil => exact ⟨passed, fun _ _ => rfl⟩
  | cons s more ih =>
    have hmore : ∀ rest : List (List Char), rest ≠ [] → (more ++ rest).isEmpty = false := by
      intro rest hrest
      simp [hrest]
    by_cases hdouble : isDoubleDot s = true
    · obtain ⟨reached, h⟩ := ih (passed.dropLast ++ [])
      refine ⟨reached, fun rest hrest => ?_⟩
      rw [← h rest hrest, List.cons_append, resolveDots, if_pos hdouble, hmore rest hrest]
      rfl
    · by_cases hsingle : isSingleDot s = true
      · obtain ⟨reached, h⟩ := ih (passed ++ [])
        refine ⟨reached, fun rest hrest => ?_⟩
        rw [← h rest hrest, List.cons_append, resolveDots, if_neg hdouble, if_pos hsingle,
          hmore rest hrest]
        rfl
      · obtain ⟨reached, h⟩ := ih (passed ++ [Url.encodeIf encodedInPath s])
        refine ⟨reached, fun rest hrest => ?_⟩
        rw [← h rest hrest, List.cons_append, resolveDots, if_neg hdouble, if_neg hsingle]

/-- The segments before a slash do not depend on what follows it. -/
theorem exists_readPath (cs : List Char) :
    ∃ reached, ∀ t, readPath (cs ++ '/' :: t) = resolveDots reached (splitPath t) := by
  cases cs with
  | nil => exact ⟨[], fun _ => rfl⟩
  | cons c rest =>
    obtain ⟨reached, h⟩ := exists_resolveDots (splitPath rest) []
    refine ⟨reached, fun t => ?_⟩
    rw [← h (splitPath t) (splitPath_ne_nil t), ← splitPath_append]
    rfl

/-- What stands in a segment may follow a base, and does not begin a query. -/
theorem IsSegment.mayFollow (h : IsSegment segment) :
    ∀ c ∈ segment, mayFollow c = true ∧ (c != '?') = true := by
  intro c hc
  obtain ⟨⟨hlow, -⟩, hspace, -, hhash, -, -, hquery, -⟩ :=
    by simpa [encodedInPath, isOutside] using (h.plain c hc).1
  have hcode : c.toNat ≠ 0x20 := fun hcode => hspace (Char.toNat_inj.mp hcode)
  refine ⟨?_, by simpa using hquery⟩
  simp only [Url.mayFollow, isControlOrSpace, Bool.and_eq_true, Bool.not_eq_true',
    decide_eq_false_iff_not, bne_iff_ne, ne_eq]
  exact ⟨by omega, hhash⟩

/-- What is written of a path may follow a base, and does not begin a query. -/
theorem mayFollow_written (hpath : ∀ s ∈ path, IsSegment s) :
    ∀ c ∈ written path, mayFollow c = true ∧ (c != '?') = true := by
  intro c hc
  obtain ⟨s, hs, hmem⟩ := List.mem_flatMap.mp hc
  rcases List.mem_cons.mp hmem with rfl | hmem
  · decide
  · exact (hpath s hs).mayFollow c hmem

end

/-! ## The address of a path -/

section
variable {base : String} {root : Url} {path : List (List Char)}

/-- What is read of a base is part of it. -/
theorem mem_of_cleanBase {cs : List Char} {c : Char} (h : c ∈ cleanBase cs) : c ∈ cs :=
  (List.dropWhile_sublist _).subset (List.mem_filter.mp h).1

/-- An address is read from its scheme on, whatever follows the base. -/
theorem parse?_append {t : List Char} (ht : ∀ c, t.getLast? = some c → isControlOrSpace c = false)
    (base : String) : parse? (base ++ String.ofList ('/' :: t)) =
      (scheme? (cleanBase base.toList)).bind fun (secure, rest) => readPlace? secure
        (((rest ++ '/' :: t.filter (!isBreak ·)).dropWhile isSeparator).takeWhile (· != '#')) := by
  rw [parse?_eq, String.toList_append, String.toList_ofList, clean_append ht, scheme?_append,
    Option.bind_map]
  rfl

/-- Where something other than slashes follows the scheme, it is the place. -/
theorem afterSlashes_append {rest : List Char} (hplace : rest.dropWhile isSeparator ≠ [])
    (hrest : '#' ∉ rest) (t : List Char) :
    ((rest ++ '/' :: t).dropWhile isSeparator).takeWhile (· != '#') =
      rest.dropWhile isSeparator ++ '/' :: t.takeWhile (· != '#') := by
  have hplain : ∀ c ∈ rest.dropWhile isSeparator ++ ['/'], (c != '#') = true := by
    intro c hc
    rw [bne_iff_ne]
    rintro rfl
    rcases List.mem_append.mp hc with hc | hc
    · exact hrest ((List.dropWhile_sublist _).subset hc)
    · cases List.mem_singleton.mp hc
  rw [List.dropWhile_append, if_neg (by simpa using hplace), ← List.singleton_append,
    ← List.append_assoc, List.takeWhile_append_of_pos hplain, List.append_assoc,
    List.singleton_append]

/-- An address is read exactly if its place is well formed. -/
theorem isSome_readPlace? (secure : Bool) (rest : List Char) :
    (readPlace? secure rest).isSome =
      isAuthority (rest.takeWhile fun c => !isSeparator c && c != '?') := by
  cases h : isAuthority (rest.takeWhile fun c => !isSeparator c && c != '?') <;>
    simp [readPlace?, h]

/-- Whether an address is read does not depend on what follows the first segment after its base. -/
theorem isSome_parse?_append {first : List Char}
    (hfirst : (first.filter (!isBreak ·)).dropWhile isSeparator ≠ []) (base : String)
    {t t' : List Char} (ht : ∀ c, t.getLast? = some c → isControlOrSpace c = false)
    (ht' : ∀ c, t'.getLast? = some c → isControlOrSpace c = false) :
    (parse? (base ++ String.ofList ('/' :: (first ++ '/' :: t)))).isSome =
      (parse? (base ++ String.ofList ('/' :: (first ++ '/' :: t')))).isSome := by
  have hslashes (rest t : List Char) :
      (rest ++ '/' :: (first ++ '/' :: t).filter (!isBreak ·)).dropWhile isSeparator =
        (rest ++ '/' :: first.filter (!isBreak ·)).dropWhile isSeparator ++
          '/' :: t.filter (!isBreak ·) := by
    have hne : ((rest ++ '/' :: first.filter (!isBreak ·)).dropWhile isSeparator).isEmpty = false := by
      rw [List.isEmpty_eq_false_iff]
      intro hnil
      apply hfirst
      rw [List.dropWhile_eq_nil_iff] at hnil ⊢
      exact fun c hc => hnil c (List.mem_append_right _ (List.mem_cons_of_mem _ hc))
    have hslash : ('/' :: t).filter (!isBreak ·) = '/' :: t.filter (!isBreak ·) := rfl
    rw [List.filter_append, hslash, ← List.cons_append, ← List.append_assoc,
      List.dropWhile_append, hne]
    rfl
  -- What is read depends on the place, and that ends at the slash after the first segment.
  have hread {t : List Char} (ht : ∀ c, t.getLast? = some c → isControlOrSpace c = false) :
      (parse? (base ++ String.ofList ('/' :: (first ++ '/' :: t)))).isSome =
        (scheme? (cleanBase base.toList)).any fun (_, rest) => isAuthority
          (((rest ++ '/' :: first.filter (!isBreak ·)).dropWhile isSeparator).takeWhile fun c =>
            (!isSeparator c && c != '?') && c != '#') := by
    have hlast : ∀ c, (first ++ '/' :: t).getLast? = some c → isControlOrSpace c = false := by
      rw [List.getLast?_append_cons]
      exact isControlOrSpace_of_slash ht
    rw [parse?_append hlast]
    cases scheme? (cleanBase base.toList) with
    | none => rfl
    | some found =>
      rw [Option.bind_some, Option.any_some]
      change (readPlace? _ _).isSome = _
      rw [isSome_readPlace?, hslashes, List.takeWhile_takeWhile]
      simp only [Bool.decide_and, Bool.decide_eq_true]
      rw [takeWhile_append_cons rfl]
  rw [hread ht, hread ht']

/-- An address is read from its base and from what is read of the text that is written after it. -/
theorem parse?_heard (hroot : root? base = some root) {t : List Char}
    (ht : ∀ c, t.getLast? = some c → isControlOrSpace c = false) :
    parse? (base ++ String.ofList ('/' :: t)) = some { root with
      segments := resolveDots root.segments (splitPath ((heard t).takeWhile (· != '?')))
      query := match (heard t).dropWhile (· != '?') with
        | [] => none
        | _ :: q => some (Url.encodeIf encodedInQuery q) } := by
  rw [root?] at hroot
  split at hroot
  · cases hroot
  next hmarks =>
  rw [not_or] at hmarks
  obtain ⟨u, hu, rfl⟩ := Option.map_eq_some_iff.mp hroot
  have hslash : parse? (base ++ String.ofList ('/' :: [])) = some u := hu
  rw [parse?_append (by simp)] at hslash
  rw [parse?_append ht]
  obtain ⟨⟨secure, rest⟩, hscheme, hplace⟩ := Option.bind_eq_some_iff.mp hslash
  rw [hscheme, Option.bind_some]
  change readPlace? secure _ = _ at hplace
  change readPlace? secure _ = _
  have hrest : ∀ c ∈ rest, c ∈ base.toList := fun c hc =>
    mem_of_cleanBase (mem_of_scheme? hscheme c hc)
  have hhash : '#' ∉ rest := fun h => hmarks.2 (hrest _ h)
  by_cases hnone : rest.dropWhile isSeparator = []
  · -- Without a place there is no address.
    rw [List.dropWhile_append, if_pos (by simpa using hnone)] at hplace
    cases hplace
  have hquery : '?' ∉ rest.dropWhile isSeparator := fun h =>
    hmarks.1 (hrest _ ((List.dropWhile_sublist _).subset h))
  rw [afterSlashes_append hnone hhash, readPlace?_append secure hquery] at hplace
  rw [afterSlashes_append hnone hhash, readPlace?_append secure hquery]
  split at hplace
  · cases hplace
  next hauthority =>
  obtain ⟨reached, hreached⟩ := exists_readPath
    ((rest.dropWhile isSeparator).dropWhile fun c => !isSeparator c && c != '?')
  rw [if_neg hauthority, hreached]
  rw [hreached] at hplace
  have hempty : resolveDots reached (splitPath []) = reached ++ [[]] :=
    resolveDots_segments reached (List.forall_mem_singleton.mpr isSegment_nil)
  cases hplace
  simp [hempty, heard]

/-- An address is read from its base and from what may be written after it. -/
theorem parse?_of_root? (hroot : root? base = some root) {t : List Char}
    (ht : ∀ c ∈ t, mayFollow c = true) :
    parse? (base ++ String.ofList ('/' :: t)) = some { root with
      segments := resolveDots root.segments (splitPath (t.takeWhile (· != '?')))
      query := match t.dropWhile (· != '?') with
        | [] => none
        | _ :: q => some (Url.encodeIf encodedInQuery q) } := by
  rw [parse?_heard hroot (isControlOrSpace_of_mayFollow ht),
    heard_eq_self fun c hc => isBreak_of_mayFollow (ht c hc)]

/-- What is written after a base is a path, up to where a query begins. -/
theorem parse?_written (hroot : root? base = some root) (hne : path ≠ [])
    (hpath : ∀ s ∈ path, IsSegment s) (suffix : List Char)
    (hsuffix : ∀ c ∈ suffix, mayFollow c = true) (hquery : suffix.takeWhile (· != '?') = []) :
    parse? (base ++ String.ofList (written path ++ suffix)) = some (root.below path
      (match suffix.dropWhile (· != '?') with
        | [] => none
        | _ :: q => some (Url.encodeIf encodedInQuery q))) := by
  cases path with
  | nil => exact absurd rfl hne
  | cons first rest =>
    have hwritten := mayFollow_written hpath
    rw [show written (first :: rest) = '/' :: (first ++ written rest) from rfl] at hwritten ⊢
    have hplain := (List.forall_mem_cons.mp hwritten).2
    have hfollow : ∀ c ∈ first ++ written rest ++ suffix, mayFollow c = true := by
      rw [List.forall_mem_append]
      exact ⟨fun c hc => (hplain c hc).1, hsuffix⟩
    have hpieces : splitPath (first ++ written rest) = first :: rest :=
      splitPath_written (hpath first List.mem_cons_self) fun s hs =>
        hpath s (List.mem_cons_of_mem _ hs)
    rw [List.cons_append, parse?_of_root? hroot hfollow,
      List.takeWhile_append_of_pos fun c hc => (hplain c hc).2,
      List.dropWhile_append_of_pos fun c hc => (hplain c hc).2, hquery, List.append_nil, hpieces,
      resolveDots_segments _ hpath, below]

/-- The address of a path that is written after a base. -/
theorem parse?_path (hroot : root? base = some root) (hne : path ≠ [])
    (hpath : ∀ s ∈ path, IsSegment s) :
    parse? (base ++ String.ofList (written path)) = some (root.below path none) := by
  have h := parse?_written hroot hne hpath [] (by simp) rfl
  rwa [List.append_nil] at h

/-- The address of a path that is written after a base, with a query. -/
theorem parse?_path_query (hroot : root? base = some root) (hne : path ≠ [])
    (hpath : ∀ s ∈ path, IsSegment s) {q : List Char} (hq : q.all mayFollow = true) :
    parse? (base ++ String.ofList (written path ++ '?' :: q)) =
      some (root.below path (some (Url.encodeIf encodedInQuery q))) :=
  parse?_written hroot hne hpath ('?' :: q)
    (List.forall_mem_cons.mpr ⟨by decide, List.all_eq_true.mp hq⟩) rfl

/-- Names after the root of a catalog. -/
example : root? "http://localhost:8080/geoserver/rest" = some
    ⟨false, "localhost:8080".toList, ["geoserver".toList, "rest".toList], none⟩ := by
  decide +kernel

end

end LayerPress.Url
