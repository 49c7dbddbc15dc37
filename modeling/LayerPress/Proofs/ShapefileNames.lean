import LayerPress.Proofs.ScratchFolders
import LayerPress.Proofs.TextDecoding

/-!
# Names of shapefiles

A search for shapefiles passes over names that are no text, over resource forks and over the folder
of those, and takes a name for that of a shapefile by what follows its last dot. A path that ends
with such a name is that of a shapefile by its format, too.
-/

namespace LayerPress

/-- A name that a search looks at is that of a text, begins no resource fork, and is not that of the
folder of those. -/
structure IsLookedAt (n : FileName) : Prop where
  text : ∃ s, n = Text.Utf8.encode s
  noFork : ¬Text.Utf8.encode "._" <+: n
  noForks : n ≠ Text.Utf8.encode "__MACOSX"

/-- In a name of a shapefile the last dot, which is not its beginning, is followed by the letters of
`shp` in either case. -/
def IsNamedShapefile (n : FileName) : Prop :=
  ∃ stem ext, n = stem ++ Path.dot :: ext ∧ stem ≠ [] ∧ Path.dot ∉ ext ∧
    ext.map asciiLower = Text.Utf8.encode "shp"

variable {n : FileName} {ext : List UInt8} {p : Path} {pos : Position}

/-! ## What is looked at -/

/-- The names that are visible are those that a search looks at. -/
theorem isVisible_iff : Listing.isVisible n = true ↔ IsLookedAt n := by
  have htext : (Text.Utf8.decode? n).isSome = true ↔ ∃ s, n = Text.Utf8.encode s := by
    rw [Option.isSome_iff_exists]
    exact exists_congr fun s => Text.Utf8.decode?_eq_some_iff
  have hfork : n.take 2 ≠ Text.Utf8.encode "._" ↔ ¬Text.Utf8.encode "._" <+: n := by
    have hlength : (Text.Utf8.encode "._").length = 2 := by decide +kernel
    rw [List.prefix_iff_eq_take, hlength, eq_comm (b := n.take 2)]
  rw [Listing.isVisible, Bool.and_eq_true, Bool.and_eq_true, htext, bne_iff_ne, bne_iff_ne, hfork]
  constructor
  · rintro ⟨⟨htext, hfork⟩, hforks⟩
    exact ⟨htext, hfork, hforks⟩
  · exact fun h => ⟨⟨h.text, h.noFork⟩, h.noForks⟩

/-! ## Extensions -/

/-- Up to the first dot stands what has none. -/
theorem takeWhile_dot {bytes : List UInt8} (h : Path.dot ∉ bytes) (rest : List UInt8) :
    (bytes ++ Path.dot :: rest).takeWhile (· != Path.dot) = bytes := by
  have hbytes : ∀ b ∈ bytes, (b != Path.dot) = true := fun b hb =>
    bne_iff_ne.mpr (ne_of_mem_of_not_mem hb h)
  rw [List.takeWhile_append_of_pos hbytes, List.takeWhile_cons_of_neg (by simp), List.append_nil]

/-- The extension of a name follows its last dot, unless the name begins with that. -/
theorem extensionOf_eq_some_iff : Path.extensionOf n = some ext ↔
    ∃ stem, n = stem ++ Path.dot :: ext ∧ stem ≠ [] ∧ Path.dot ∉ ext := by
  constructor
  · intro h
    rw [Path.extensionOf] at h
    split at h
    · next hdot =>
      rw [List.contains_iff_mem] at hdot
      obtain ⟨back, front, hsplit, hfree⟩ :=
        List.eq_append_cons_of_mem (List.mem_reverse.mpr hdot)
      have hn : n = front.reverse ++ Path.dot :: back.reverse := by
        rw [← List.reverse_reverse n, hsplit]
        simp
      have hafter : n.reverse.takeWhile (· != Path.dot) = back := by
        rw [hsplit, takeWhile_dot hfree]
      simp only [hafter] at h
      split at h
      · cases h
      · next hlength =>
        cases h
        refine ⟨front.reverse, hn, ?_, by simpa using hfree⟩
        intro hempty
        rw [hn, hempty] at hlength
        simp at hlength
    · cases h
  · rintro ⟨stem, rfl, hstem, hfree⟩
    have hafter : (stem ++ Path.dot :: ext).reverse.takeWhile (· != Path.dot) = ext.reverse := by
      rw [List.reverse_append, List.reverse_cons, List.append_assoc, List.singleton_append,
        takeWhile_dot (by simpa using hfree)]
    have hlength : 0 < stem.length := List.length_pos_of_ne_nil hstem
    simp only [Path.extensionOf, hafter, List.reverse_reverse]
    rw [if_pos (by simp), if_neg (by simp; omega)]

/-- The names of shapefiles are told by their extension. -/
theorem isShapefileName_iff : Listing.isShapefileName n = true ↔ IsNamedShapefile n := by
  have hext : Listing.isShapefileName n = true ↔
      ∃ ext, Path.extensionOf n = some ext ∧ ext.map asciiLower = Text.Utf8.encode "shp" := by
    rw [Listing.isShapefileName]
    cases Path.extensionOf n <;> simp
  rw [hext]
  constructor
  · rintro ⟨ext, hn, hshp⟩
    obtain ⟨stem, hsplit, hstem, hfree⟩ := extensionOf_eq_some_iff.mp hn
    exact ⟨stem, ext, hsplit, hstem, hfree, hshp⟩
  · rintro ⟨stem, ext, hsplit, hstem, hfree, hshp⟩
    exact ⟨ext, extensionOf_eq_some_iff.mpr ⟨stem, hsplit, hstem, hfree⟩, hshp⟩

/-! ## Paths -/

/-- The last name of a path is the one that was joined to it last. -/
theorem fileName?_join (hp : p.bytes ≠ []) (hn : IsName n) : (p.join ⟨n⟩).fileName? = some n := by
  have hlast : (p.join ⟨n⟩).components.getLast? = some (.name n) := by
    have hkept : ∀ cs : List Path.Component,
        ((cs ++ [Path.Component.name n]).filter (· != Path.Component.here)).getLast? =
          some (.name n) := by
      intro cs
      rw [List.filter_append]
      exact List.getLast?_concat
    rw [Path.components, Path.steps_join hp hn]
    rcases p.steps with _ | ⟨_ | _ | k, cs⟩
    · exact hkept []
    · simp only [List.cons_append]
      split
      · exact hkept cs
      · rw [List.getLast?_cons, hkept]
        rfl
    · exact hkept (.up :: cs)
    · exact hkept (.name k :: cs)
  rw [Path.fileName?, hlast]

/-- A path below another is not empty. -/
theorem below_ne_nil (hp : p.bytes ≠ []) (hpos : ∀ n ∈ pos, IsName n) :
    (p.below pos).bytes ≠ [] := by
  induction pos generalizing p with
  | nil => exact hp
  | cons n rest ih =>
    rw [List.forall_mem_cons] at hpos
    refine ih ?_ hpos.2
    change (p.join ⟨n⟩).bytes ≠ []
    rw [Path.join_eq hp (Path.isAbsolute_name hpos.1)]
    exact List.append_ne_nil_of_right_ne_nil _ hpos.1.notEmpty

/-- A path that ends with the name of a shapefile is that of a shapefile. -/
theorem ofPath_below (hp : p.bytes ≠ []) (hpos : ∀ n ∈ pos, IsName n)
    (hlast : ∃ n ∈ pos.getLast?, IsNamedShapefile n) :
    SourceFormat.ofPath (p.below pos) = .shapefile := by
  obtain ⟨n, hn, stem, ext, hsplit, hstem, hfree, hshp⟩ := hlast
  obtain ⟨above, rfl⟩ := List.getLast?_eq_some_iff.mp hn
  rw [List.forall_mem_append, List.forall_mem_singleton] at hpos
  have hjoined : p.below (above ++ [n]) = (p.below above).join ⟨n⟩ := by
    rw [Path.below, List.foldl_append]
    rfl
  have hext : Path.extensionOf n = some ext :=
    extensionOf_eq_some_iff.mpr ⟨stem, hsplit, hstem, hfree⟩
  rw [SourceFormat.ofPath, hjoined, Path.extension?, fileName?_join (below_ne_nil hp hpos.1) hpos.2,
    Option.bind_some, hext]
  simp only [SourceFormat.ofExtension, hshp]
  decide +kernel

end LayerPress
