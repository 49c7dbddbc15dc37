import LayerPress.Proofs.Addresses
import Mathlib.Algebra.GroupWithZero.Nat
import Mathlib.Data.List.Basic

/-!
# Names in an address

Names that are written after a base with slashes between them are the segments of the address if
each of them stands for itself: nothing in it separates segments, ends the path or is dropped, no
percent sign begins an escape, and it is not one dot or two. No other names are read as they were
meant. For what is dropped, cut off or resolved leaves fewer bytes than the names have, so that all
of them are found again only if nothing was.
-/

namespace LayerPress.Url

open Text.Percent (bytesOf decode hasEscape)

/-- A name that is read as one segment and stands for itself there. -/
structure IsAddressable (cs : List Char) : Prop where
  unsplit : ∀ c ∈ cs, isSeparator c = false
  unbroken : ∀ c ∈ cs, isBreak c = false
  uncut : ∀ c ∈ cs, c ≠ '?' ∧ c ≠ '#'
  literal : hasEscape cs = false
  notSingle : cs ≠ ['.']
  notDouble : cs ≠ ['.', '.']

instance (cs : List Char) : Decidable (IsAddressable cs) :=
  decidable_of_iff
    (cs.all (fun c => !isSeparator c && !isBreak c && c != '?' && c != '#') = true ∧
      hasEscape cs = false ∧ cs ≠ ['.'] ∧ cs ≠ ['.', '.'])
    ⟨fun h => by
      have hplain : ∀ c ∈ cs, ((isSeparator c = false ∧ isBreak c = false) ∧ ¬c = '?') ∧ ¬c = '#' := by
        simpa using h.1
      exact ⟨fun c hc => (hplain c hc).1.1.1, fun c hc => (hplain c hc).1.1.2,
        fun c hc => ⟨(hplain c hc).1.2, (hplain c hc).2⟩, h.2.1, h.2.2.1, h.2.2.2⟩,
    fun h => ⟨List.all_eq_true.mpr fun c hc => by
        simp [h.unsplit c hc, h.unbroken c hc, (h.uncut c hc).1, (h.uncut c hc).2],
      h.literal, h.notSingle, h.notDouble⟩⟩

/-- A piece of a path that is neither a dot segment nor has an escape. -/
structure IsLiteral (piece : List Char) : Prop where
  notSingle : isSingleDot piece = false
  notDouble : isDoubleDot piece = false
  noEscape : hasEscape piece = false

/-- The bytes that segments stand for, and one more for each. -/
def weight (segments : List (List Char)) : Nat :=
  (segments.map fun s => (decode s).length + 1).sum

/-- The bytes of names, and one more for each. -/
def span (names : List (List Char)) : Nat :=
  (names.map fun n => (bytesOf n).length + 1).sum

section
variable {cs q : List Char} {passed pieces names : List (List Char)} {piece first : List Char}

/-! ## Pieces -/

/-- A separator is one byte. -/
theorem length_bytesOf_of_isSeparator {c : Char} (h : isSeparator c = true) :
    (String.utf8EncodeChar c).length = 1 := by
  simp only [isSeparator, Bool.or_eq_true, beq_iff_eq] at h
  rcases h with rfl | rfl <;> decide

/-- The pieces of a path have its bytes, and one more for all. -/
theorem span_splitPath (cs : List Char) : span (splitPath cs) = (bytesOf cs).length + 1 := by
  induction cs with
  | nil => rfl
  | cons c rest ih =>
    rw [splitPath, bytesOf, List.flatMap_cons, List.length_append]
    split
    · next hc =>
      rw [length_bytesOf_of_isSeparator hc]
      simp only [span, List.map_cons, List.sum_cons] at ih ⊢
      rw [ih]
      simp only [bytesOf, List.flatMap_nil, List.length_nil]
      omega
    · cases hrest : splitPath rest with
      | nil => exact absurd hrest (splitPath_ne_nil rest)
      | cons piece more =>
        rw [hrest] at ih
        simp only [span, List.map_cons, List.sum_cons, bytesOf, List.flatMap_cons,
          List.length_append] at ih ⊢
        omega

/-- A path has one piece more than separators. -/
theorem length_splitPath (cs : List Char) :
    (splitPath cs).length = cs.countP isSeparator + 1 := by
  induction cs with
  | nil => rfl
  | cons c rest ih =>
    rw [splitPath, List.countP_cons]
    split
    · rw [List.length_cons, ih]
    · cases hrest : splitPath rest with
      | nil => exact absurd hrest (splitPath_ne_nil rest)
      | cons piece more =>
        rw [hrest] at ih
        simpa using ih

/-- A text without separators is one piece. -/
theorem splitPath_of_unsplit (h : ∀ c ∈ cs, isSeparator c = false) : splitPath cs = [cs] := by
  induction cs with
  | nil => rfl
  | cons c rest ih =>
    rw [List.forall_mem_cons] at h
    rw [splitPath, h.1, ih h.2]
    rfl

/-- The pieces of names without separators are the names. -/
theorem splitPath_names (hfirst : ∀ c ∈ first, isSeparator c = false)
    (hnames : ∀ n ∈ names, ∀ c ∈ n, isSeparator c = false) :
    splitPath (first ++ written names) = first :: names := by
  induction names generalizing first with
  | nil => rw [written, List.flatMap_nil, List.append_nil, splitPath_of_unsplit hfirst]
  | cons next rest ih =>
    rw [List.forall_mem_cons] at hnames
    change splitPath (first ++ '/' :: (next ++ written rest)) = _
    rw [splitPath_append, splitPath_of_unsplit hfirst, ih hnames.1 hnames.2]
    rfl

/-- Names have the bytes of what is written of them, and one more. -/
theorem span_names (first : List Char) (names : List (List Char)) :
    span (first :: names) = (bytesOf (first ++ written names)).length + 1 := by
  induction names generalizing first with
  | nil => simp [span, written]
  | cons next rest ih =>
    have hrest := ih next
    change _ = (bytesOf (first ++ '/' :: (next ++ written rest))).length + 1
    have hslash : (bytesOf ('/' :: (next ++ written rest))).length =
        (bytesOf (next ++ written rest)).length + 1 := by
      rw [bytesOf, List.flatMap_cons, List.length_append, Nat.add_comm]
      rfl
    rw [Text.Percent.bytesOf_append, List.length_append, hslash, ← hrest]
    simp only [span, List.map_cons, List.sum_cons]
    omega

/-- What is written of names has a separator before each but the first, and those in the names. -/
theorem countP_names (first : List Char) (names : List (List Char)) :
    (first ++ written names).countP isSeparator =
      names.length + ((first :: names).map (·.countP isSeparator)).sum := by
  induction names generalizing first with
  | nil => simp [written]
  | cons next rest ih =>
    have hrest := ih next
    change (first ++ '/' :: (next ++ written rest)).countP isSeparator = _
    rw [List.countP_append, List.countP_cons_of_pos rfl, hrest]
    simp only [List.map_cons, List.sum_cons, List.length_cons]
    omega

/-! ## Dot segments -/

/-- An addressable name is literal. -/
theorem IsAddressable.isLiteral (h : IsAddressable piece) : IsLiteral piece where
  notSingle := by
    rw [isSingleDot, plainDots_of_not_hasEscape h.literal]
    exact beq_false_of_ne h.notSingle
  notDouble := by
    rw [isDoubleDot, plainDots_of_not_hasEscape h.literal]
    exact beq_false_of_ne h.notDouble
  noEscape := h.literal

/-- Literal pieces are added to the segments that were passed. -/
theorem resolveDots_of_isLiteral (h : ∀ p ∈ pieces, IsLiteral p) (passed : List (List Char)) :
    resolveDots passed pieces = passed ++ pieces.map (encodeIf encodedInPath) := by
  induction pieces generalizing passed with
  | nil => exact (List.append_nil passed).symm
  | cons p rest ih =>
    rw [List.forall_mem_cons] at h
    rw [resolveDots, h.1.notDouble, h.1.notSingle]
    simp only [Bool.false_eq_true, if_false]
    rw [ih h.2, List.append_assoc, List.map_cons, List.singleton_append]

/-- The weight of segments in two parts. -/
theorem weight_append (segments more : List (List Char)) :
    weight (segments ++ more) = weight segments + weight more := by
  rw [weight, List.map_append, List.sum_append]
  rfl

/-- Without the last segment the weight is no more. -/
theorem weight_dropLast_le (segments : List (List Char)) :
    weight segments.dropLast ≤ weight segments := by
  obtain ⟨last, hlast⟩ := segments.dropLast_prefix
  have hweight := weight_append segments.dropLast last
  rw [hlast] at hweight
  omega

/-- A path weighs no more than the segments before it and the bytes of its pieces, and as much only
if all of them are literal. -/
theorem weight_resolveDots (passed pieces : List (List Char)) :
    weight (resolveDots passed pieces) ≤ weight passed + span pieces ∧
      (weight passed + span pieces ≤ weight (resolveDots passed pieces) →
        ∀ p ∈ pieces, IsLiteral p) := by
  induction pieces generalizing passed with
  | nil => exact ⟨Nat.le_refl _, fun _ => by simp⟩
  | cons p rest ih =>
    have hspan : span (p :: rest) = (bytesOf p).length + 1 + span rest := rfl
    -- What a dot segment leaves weighs less than the bytes of the segment.
    have hdots : ∀ kept, p ≠ [] → weight kept ≤ weight passed →
        weight (resolveDots (kept ++ if rest.isEmpty then [[]] else []) rest) <
          weight passed + span (p :: rest) := by
      intro kept hne hkept
      obtain ⟨c, more, rfl⟩ := List.exists_cons_of_ne_nil hne
      have hbytes := Text.Percent.length_bytesOf_cons c more
      have hend : weight (if rest.isEmpty then [[]] else []) ≤ 1 := by
        split <;> decide
      have hrest := (ih (kept ++ if rest.isEmpty then [[]] else [])).1
      rw [weight_append] at hrest
      omega
    rw [resolveDots]
    cases hdouble : isDoubleDot p with
    | true =>
      have hlt := hdots passed.dropLast (by rintro rfl; cases hdouble) (weight_dropLast_le passed)
      exact ⟨Nat.le_of_lt hlt, fun hle => absurd hlt (Nat.not_lt.mpr hle)⟩
    | false =>
      cases hsingle : isSingleDot p with
      | true =>
        have hlt := hdots passed (by rintro rfl; cases hsingle) (Nat.le_refl _)
        exact ⟨Nat.le_of_lt hlt, fun hle => absurd hlt (Nat.not_lt.mpr hle)⟩
      | false =>
        obtain ⟨hle, hall⟩ := ih (passed ++ [encodeIf encodedInPath p])
        have hone : weight [encodeIf encodedInPath p] = (decode p).length + 1 := by
          simp [weight, Text.Percent.decode_encodeIf Text.Percent.sparesEscapes_encodedInPath]
        obtain ⟨hdecode, hescape⟩ := Text.Percent.length_decode_le p
        rw [weight_append, hone] at hle hall
        simp only [Bool.false_eq_true, if_false]
        refine ⟨by omega, fun hge => List.forall_mem_cons.mpr ⟨⟨hsingle, hdouble, ?_⟩, ?_⟩⟩
        · refine Bool.eq_false_iff.mpr fun hp => ?_
          have := hescape hp
          omega
        · exact hall (by omega)

/-! ## What is kept of a path -/

/-- Characters that are left out of a text have bytes. -/
theorem length_bytesOf_of_sublist {kept : List Char} (h : kept.Sublist cs) :
    (bytesOf kept).length ≤ (bytesOf cs).length ∧
      ((bytesOf cs).length ≤ (bytesOf kept).length → kept = cs) := by
  induction h with
  | slnil => exact ⟨Nat.le_refl _, fun _ => rfl⟩
  | @cons kept rest c _ ih =>
    have hc := Text.Percent.length_bytesOf_cons c rest
    exact ⟨by omega, fun hle => by omega⟩
  | @cons_cons kept rest c _ ih =>
    obtain ⟨hle, heq⟩ := ih
    simp only [bytesOf, List.flatMap_cons, List.length_append] at hle heq ⊢
    exact ⟨by omega, fun hge => by rw [heq (by omega)]⟩

/-- The path that is read where a query follows what is written. -/
def keptPath (cs : List Char) : List Char :=
  (cs.filter (!isBreak ·)).takeWhile fun c => c != '?' && c != '#'

/-- A path that is written before a query ends where it is cut off, or where the query begins. -/
theorem takeWhile_heard (cs q : List Char) :
    (heard (cs ++ '?' :: q)).takeWhile (· != '?') = keptPath cs := by
  have hstop : (fun c => decide ((c != '?') = true ∧ (c != '#') = true)) =
      fun c : Char => c != '?' && c != '#' := by
    funext c
    rw [Bool.eq_iff_iff]
    simp
  rw [heard, List.takeWhile_takeWhile, hstop, List.filter_append, List.filter_cons_of_pos (by rfl),
    takeWhile_append_cons (by rfl), keptPath]

/-- A path is kept as it is written if nothing in it is dropped or ends it. -/
theorem keptPath_eq_self_iff : keptPath cs = cs ↔
    ∀ c ∈ cs, isBreak c = false ∧ c ≠ '?' ∧ c ≠ '#' := by
  constructor
  · intro h c hc
    rw [← h, keptPath] at hc
    have hbreak := (List.mem_filter.mp ((List.takeWhile_sublist _).subset hc)).2
    have hcut := List.mem_takeWhile_imp hc
    simp only [Bool.and_eq_true, bne_iff_ne] at hcut
    exact ⟨by simpa using hbreak, hcut⟩
  · intro h
    have hfilter : cs.filter (!isBreak ·) = cs :=
      List.filter_eq_self.mpr fun c hc => by simp [(h c hc).1]
    rw [keptPath, hfilter, List.takeWhile_eq_self_iff]
    intro c hc
    simp [(h c hc).2]

/-- A kept path has the characters of what is written, some left out. -/
theorem keptPath_sublist (cs : List Char) : (keptPath cs).Sublist cs :=
  (List.takeWhile_sublist _).trans List.filter_sublist

/-! ## Names below a base -/

/-- An address has the segments that stand for some names below a base. -/
def Names (root u : Url) (names : List (List Char)) (query : List Char) : Prop :=
  ∃ segments, u = root.below segments (some query) ∧ segments.map decode = names.map bytesOf

/-- The characters of what is written of names are theirs, and slashes. -/
theorem forall_mem_names {P : Char → Prop} (hslash : P '/') :
    (∀ c ∈ first ++ written names, P c) ↔ ∀ n ∈ first :: names, ∀ c ∈ n, P c := by
  induction names generalizing first with
  | nil => simp [written]
  | cons next rest ih =>
    change (∀ c ∈ first ++ '/' :: (next ++ written rest), P c) ↔ _
    rw [List.forall_mem_append, List.forall_mem_cons, ih, List.forall_mem_cons (l := next :: rest)]
    exact and_congr_right fun _ => and_iff_right hslash

/-- What is written of addressable names is kept, and its pieces are the names. -/
theorem keptPath_of_isAddressable (h : ∀ n ∈ first :: names, IsAddressable n) :
    keptPath (first ++ written names) = first ++ written names ∧
      splitPath (first ++ written names) = first :: names := by
  refine ⟨keptPath_eq_self_iff.mpr ((forall_mem_names (by decide)).mpr fun n hn c hc =>
    ⟨(h n hn).unbroken c hc, (h n hn).uncut c hc⟩), ?_⟩
  rw [List.forall_mem_cons] at h
  exact splitPath_names h.1.unsplit fun n hn => (h.2 n hn).unsplit

/-- Where what is written of names has no more pieces than there are names, no name is taken apart. -/
theorem unsplit_of_length_le (h : (splitPath (first ++ written names)).length ≤ names.length + 1) :
    ∀ n ∈ first :: names, ∀ c ∈ n, isSeparator c = false := by
  intro n hn c hc
  rw [length_splitPath, countP_names] at h
  have hnone : ((first :: names).map (·.countP isSeparator)).sum = 0 := by omega
  have hzero : n.countP isSeparator = 0 :=
    List.sum_eq_zero_iff_forall_eq_nat.mp hnone _ (List.mem_map_of_mem hn)
  simpa using List.countP_eq_zero.mp hzero c hc

/-- Where the segments of an address stand for all the names that were written, nothing was dropped,
cut off or resolved: the names are addressable. -/
theorem isAddressable_of_resolveDots {segments : List (List Char)}
    (h : resolveDots passed (splitPath (keptPath (first ++ written names))) = passed ++ segments)
    (hnames : segments.map decode = (first :: names).map bytesOf) :
    ∀ n ∈ first :: names, IsAddressable n := by
  have hweight : weight segments = span (first :: names) := by
    have hlengths := congrArg (fun l => (l.map fun b : List UInt8 => b.length + 1).sum) hnames
    simpa [weight, span, Function.comp_def] using hlengths
  obtain ⟨hle, hliteral⟩ :=
    weight_resolveDots passed (splitPath (keptPath (first ++ written names)))
  rw [h, weight_append, hweight, span_names, span_splitPath] at hle hliteral
  -- So much is found again only if nothing was dropped or cut off, and no piece was resolved.
  have hkept : keptPath (first ++ written names) = first ++ written names :=
    (length_bytesOf_of_sublist (keptPath_sublist _)).2 (by omega)
  rw [hkept] at h hliteral
  have hpieces := hliteral (Nat.le_refl _)
  have hunsplit : ∀ n ∈ first :: names, ∀ c ∈ n, isSeparator c = false := by
    refine unsplit_of_length_le (Nat.le_of_eq ?_)
    rw [resolveDots_of_isLiteral hpieces, List.append_cancel_left_eq] at h
    rw [← List.length_map (f := encodeIf encodedInPath), h]
    simpa using congrArg List.length hnames
  rw [splitPath_names (List.forall_mem_cons.mp hunsplit).1 (List.forall_mem_cons.mp hunsplit).2]
    at hpieces
  have hplain := (forall_mem_names (by decide)).mp (keptPath_eq_self_iff.mp hkept)
  intro n hn
  exact {
    unsplit := hunsplit n hn
    unbroken := fun c hc => (hplain n hn c hc).1
    uncut := fun c hc => (hplain n hn c hc).2
    literal := (hpieces n hn).noEscape
    notSingle := by
      rintro rfl
      cases (hpieces _ hn).notSingle
    notDouble := by
      rintro rfl
      cases (hpieces _ hn).notDouble }

/-- A segment that is written as it is is addressable. -/
theorem IsSegment.isAddressable (h : IsSegment cs) : IsAddressable cs where
  unsplit c hc := (h.plain c hc).2.1
  unbroken c hc := (isBreak_of_mayFollow (h.mayFollow c hc).1).1
  uncut c hc := ⟨by simpa using (h.mayFollow c hc).2, (isBreak_of_mayFollow (h.mayFollow c hc).1).2⟩
  literal := Text.Percent.hasEscape_of_not_mem fun hmem => (h.plain _ hmem).2.2 rfl
  notSingle := h.notSingle
  notDouble := h.notDouble

/-- A path with a query ends with neither a control character nor a space. -/
theorem isControlOrSpace_of_query (cs : List Char) (hq : ∀ c ∈ q, mayFollow c = true) :
    ∀ c, (cs ++ '?' :: q).getLast? = some c → isControlOrSpace c = false := by
  rw [List.getLast?_append_of_ne_nil _ (List.cons_ne_nil _ _)]
  exact isControlOrSpace_of_mayFollow (List.forall_mem_cons.mpr ⟨by decide, hq⟩)

/-- Addressable names with a query are heard as they are written. -/
theorem heard_of_isAddressable (hq : ∀ c ∈ q, mayFollow c = true)
    (h : ∀ n ∈ first :: names, IsAddressable n) :
    heard (first ++ written names ++ '?' :: q) = first ++ written names ++ '?' :: q ∧
      (first ++ written names ++ '?' :: q).dropWhile (· != '?') = '?' :: q := by
  have hplain := keptPath_eq_self_iff.mp (keptPath_of_isAddressable h).1
  constructor
  · refine heard_eq_self (List.forall_mem_append.mpr ⟨fun c hc => ?_, ?_⟩)
    · exact ⟨(hplain c hc).1, (hplain c hc).2.2⟩
    · exact List.forall_mem_cons.mpr ⟨by decide, fun c hc => isBreak_of_mayFollow (hq c hc)⟩
  · rw [List.dropWhile_append_of_pos fun c hc => by simp [(hplain c hc).2.1]]
    rfl

/-- The names that are written after a base with a query are the segments of the address exactly if
all of them are addressable; then the segments are the names, encoded. -/
theorem names_iff {base : String} {root : Url} (hroot : root? base = some root)
    (first : List Char) (names : List (List Char)) (hq : ∀ c ∈ q, mayFollow c = true) :
    ∃ u, parse? (base ++ String.ofList (written (first :: names) ++ '?' :: q)) = some u ∧
      (Names root u (first :: names) (encodeIf encodedInQuery q) ↔
        ∀ n ∈ first :: names, IsAddressable n) ∧
      ((∀ n ∈ first :: names, IsAddressable n) →
        u = root.below ((first :: names).map (encodeIf encodedInPath))
          (some (encodeIf encodedInQuery q))) := by
  have hparse := parse?_heard hroot (isControlOrSpace_of_query (first ++ written names) hq)
  rw [takeWhile_heard] at hparse
  -- Addressable names are found again, encoded.
  have hfound : (∀ n ∈ first :: names, IsAddressable n) →
      parse? (base ++ String.ofList (written (first :: names) ++ '?' :: q)) =
        some (root.below ((first :: names).map (encodeIf encodedInPath))
          (some (encodeIf encodedInQuery q))) := by
    intro h
    obtain ⟨hkept, hpieces⟩ := keptPath_of_isAddressable h
    obtain ⟨hheard, hquery⟩ := heard_of_isAddressable hq h
    refine hparse.trans ?_
    rw [hkept, hpieces, hheard, hquery, resolveDots_of_isLiteral fun n hn => (h n hn).isLiteral]
    rfl
  refine ⟨_, hparse, ⟨?_, fun h => ?_⟩, fun h => ?_⟩
  · rintro ⟨segments, hbelow, hnames⟩
    exact isAddressable_of_resolveDots (congrArg Url.segments hbelow) hnames
  · refine ⟨_, Option.some_inj.mp (hparse.symm.trans (hfound h)), ?_⟩
    rw [List.map_map]
    refine List.map_congr_left fun n hn => ?_
    rw [Function.comp_apply,
      Text.Percent.decode_encodeIf Text.Percent.sparesEscapes_encodedInPath,
      Text.Percent.decode_of_not_hasEscape (h n hn).literal]
  · exact Option.some_inj.mp (hparse.symm.trans (hfound h))

end

end LayerPress.Url
