import LayerPress.Proofs.ArchiveExtraction
import LayerPress.Proofs.TextBytes
import LayerPress.Source.Resolve

/-!
# Scratch folders

An archive is extracted into a folder that is new below the scratch root. Whatever has been written
into it, the root has this one entry more than before, and to discard the folder is to bring back
the disk as it was. The shapefile that is found is a file in it, and the path that is returned for
it leads there.
-/

namespace LayerPress

/-! ## The shapefile of a folder -/

namespace Listing

variable {room : Nat} {l : Listing} {n : FileName} {e : Entry} {a : FileName × Position}

/-- A candidate leads to a file. -/
def LeadsToFile (l : Listing) (a : FileName × Position) : Prop :=
  ∃ c, l.get? (a.1 :: a.2) = some (.file c)

/-- A candidate of a folder stays one when another entry stands in front. -/
theorem LeadsToFile.cons (h : l.LeadsToFile a) (hn : n ∉ l.names) (e : Entry) :
    (Listing.cons n e l).LeadsToFile a := by
  obtain ⟨c, hc⟩ := h
  rw [get?_cons] at hc
  obtain ⟨x, hfind, hx⟩ := Option.bind_eq_some_iff.mp hc
  have hne : n ≠ a.1 := fun heq => hn (heq ▸ mem_names_of_find? hfind)
  exact ⟨c, by rw [get?_cons, find?_cons, if_neg hne, hfind, Option.bind_some, hx]⟩

/-- The smaller of two candidates is one of them. -/
theorem smaller_eq (a : FileName × Position) (other : Option (FileName × Position)) :
    smaller a other = a ∨ other = some (smaller a other) := by
  cases other with
  | none => exact .inl rfl
  | some b =>
    rw [smaller]
    split
    · exact .inr rfl
    · exact .inl rfl

/-- The smaller of two candidates leads to a file if both do. -/
theorem leadsToFile_smaller {other : Option (FileName × Position)} (ha : l.LeadsToFile a)
    (hother : ∀ b, other = some b → l.LeadsToFile b) : l.LeadsToFile (smaller a other) := by
  rcases smaller_eq a other with heq | heq
  · exact heq.symm ▸ ha
  · exact hother _ heq

/-- The candidate that stands first. -/
def first? (l : Listing) : Option (FileName × Position) :=
  l.candidates.1.or l.candidates.2

/-- The shapefile of a folder is its first candidate. -/
theorem shapefile?_eq (l : Listing) : l.shapefile? = l.first?.map fun a => a.1 :: a.2 := by
  rw [shapefile?, first?]
  rcases l.candidates with ⟨_ | a, _ | b⟩ <;> rfl

/-- The candidates of a folder with a file in front. -/
theorem candidates_file (n : FileName) (c : Content) (rest : Listing) :
    (file n c rest).candidates =
      if isVisible n && isShapefileName n then
        (some (smaller (n, []) rest.candidates.1), rest.candidates.2)
      else rest.candidates := rfl

/-- The candidates of a folder with a subfolder in front. -/
theorem candidates_folder (n : FileName) (inside rest : Listing) :
    (folder n inside rest).candidates =
      if isVisible n then
        (rest.candidates.1, (inside.first?.map fun a => smaller (n, a.1 :: a.2) rest.candidates.2).or
          rest.candidates.2)
      else rest.candidates := by
  rw [candidates, first?]
  rcases inside.candidates with ⟨_ | a, _ | b⟩ <;> rfl

/-- Every candidate of a folder in which no two names are the same leads to a file. -/
theorem Fits.leadsToFile (h : l.Fits room) :
    (∀ a, l.candidates.1 = some a → l.LeadsToFile a) ∧
      ∀ a, l.candidates.2 = some a → l.LeadsToFile a := by
  induction l generalizing room with
  | empty => exact ⟨nofun, nofun⟩
  | file n c rest ih =>
    obtain ⟨⟨-, -, hn⟩, hrest⟩ := h
    obtain ⟨hdirect, hdeep⟩ := ih hrest
    have hkept : ∀ a, rest.LeadsToFile a → (file n c rest).LeadsToFile a :=
      fun a ha => ha.cons hn (.file c)
    have hself : (file n c rest).LeadsToFile (n, []) := ⟨c, by simp [get?, find?]⟩
    rw [candidates_file]
    split
    · refine ⟨fun a ha => ?_, fun a ha => hkept a (hdeep a ha)⟩
      obtain rfl := Option.some_inj.mp ha
      exact leadsToFile_smaller hself fun b hb => hkept b (hdirect b hb)
    · exact ⟨fun a ha => hkept a (hdirect a ha), fun a ha => hkept a (hdeep a ha)⟩
  | folder n inside rest ihInside ih =>
    obtain ⟨⟨-, -, hn⟩, hinside, hrest⟩ := h
    obtain ⟨hdirect, hdeep⟩ := ih hrest
    obtain ⟨hinDirect, hinDeep⟩ := ihInside hinside
    have hkept : ∀ a, rest.LeadsToFile a → (folder n inside rest).LeadsToFile a :=
      fun a ha => ha.cons hn (.folder inside)
    -- A candidate of the subfolder follows its name.
    have hbelow : ∀ b, inside.LeadsToFile b →
        (folder n inside rest).LeadsToFile (n, b.1 :: b.2) := by
      rintro b ⟨c, hc⟩
      exact ⟨c, by simpa [get?, find?] using hc⟩
    have hfirst : ∀ b, inside.first? = some b → inside.LeadsToFile b := by
      intro b hb
      rcases Option.or_eq_some_iff.mp hb with hb | ⟨-, hb⟩
      · exact hinDirect b hb
      · exact hinDeep b hb
    rw [candidates_folder]
    split
    · refine ⟨fun a ha => hkept a (hdirect a ha), fun a ha => ?_⟩
      rcases Option.or_eq_some_iff.mp ha with ha | ⟨-, ha⟩
      · obtain ⟨b, hb, rfl⟩ := Option.map_eq_some_iff.mp ha
        exact leadsToFile_smaller (hbelow b (hfirst b hb)) fun b hb => hkept b (hdeep b hb)
      · exact hkept a (hdeep a ha)
    · exact ⟨fun a ha => hkept a (hdirect a ha), fun a ha => hkept a (hdeep a ha)⟩

/-- The shapefile of a folder is a file in it. -/
theorem Fits.get?_of_shapefile? {pos : Position} (h : l.Fits room) (hpos : l.shapefile? = some pos) :
    ∃ c, l.get? pos = some (.file c) := by
  obtain ⟨hdirect, hdeep⟩ := h.leadsToFile
  rw [shapefile?_eq] at hpos
  obtain ⟨a, ha, rfl⟩ := Option.map_eq_some_iff.mp hpos
  rcases Option.or_eq_some_iff.mp ha with ha | ⟨-, ha⟩
  · exact hdirect a ha
  · exact hdeep a ha

end Listing

/-! ## Paths below a folder -/

/-- The path of a position below the folder of a path. -/
def Path.below (p : Path) (pos : Position) : Path :=
  pos.foldl (fun p n => p.join ⟨n⟩) p

/-- The bytes of a path that does not end in a slash are opened by one. -/
theorem Path.opened_of_getLast? {b : List UInt8} (hb : b ≠ []) (hlast : b.getLast? ≠ some slash) :
    (mk b).opened = b ++ [slash] := by
  have hempty : (mk []).isAbsolute = false := rfl
  rw [opened, join, hempty]
  simp [hlast, hb]

/-- A name that is joined to a path takes the room that it needs with its slash. -/
theorem Path.room_join {p : Path} {n : FileName} (hp : p.bytes ≠ []) (hn : IsName n) :
    (p.join ⟨n⟩).room = p.room - (n.length + 1) := by
  have hlast : (p.opened ++ n).getLast? ≠ some slash := by
    rw [List.getLast?_append_of_ne_nil _ hn.notEmpty]
    exact fun h => hn.notSlash (List.mem_of_getLast? h)
  rw [room, room, join_eq hp (isAbsolute_name hn),
    opened_of_getLast? (List.append_ne_nil_of_right_ne_nil _ hn.notEmpty) hlast,
    List.length_append, List.length_append, List.length_singleton]
  omega

namespace Disk

section
variable {d : Disk} {p : Path} {place : Position} {inside : Listing} {n : FileName} {e : Entry}

/-- The system accepts a path below another if there is room for it. -/
theorem check_join (h : check p = .ok ()) (hn : IsName n) (hroom : n.length + 1 ≤ p.room) :
    check (p.join ⟨n⟩) = .ok () := by
  obtain ⟨hnul, hgiven, -⟩ := check_eq_ok.mp h
  rw [Path.join_eq hgiven (Path.isAbsolute_name hn)]
  refine check_eq_ok.mpr ⟨?_, List.append_ne_nil_of_right_ne_nil _ hn.notEmpty, ?_⟩
  · obtain ⟨a, hopened, -, hwithin⟩ := Path.exists_opened hgiven
    rw [List.mem_append, hopened, List.mem_append, List.mem_singleton]
    rintro ((ha | hslash) | hname)
    · exact hnul (hwithin.subset ha)
    · cases hslash
    · exact hn.notNul hname
  · rw [Path.room] at hroom
    rw [List.length_append]
    omega

/-- What a folder has under a name is located there. -/
theorem locate_join (h : d.locate p = .ok (place, .folder inside)) (hn : IsFileName n)
    (hroom : n.length + 1 ≤ p.room) (hfind : inside.find? n = some e) :
    d.locate (p.join ⟨n⟩) = .ok (place ++ [n], e) := by
  have hat := isAt_of_locate h
  obtain ⟨hcheck, -, hget⟩ := locate_eq_ok.mp h
  have hfurther : d.root.get? (place ++ [n]) = some e := by
    rw [Listing.get?_append_of_folder hget, Listing.get?_cons, hfind]
    cases e <;> rfl
  refine locate_eq_ok.mpr ⟨check_join hcheck hn.toIsName hroom, ?_, hfurther⟩
  have hasks : asksFolder (p.join ⟨n⟩) = false := by
    rw [asksFolder, Path.join_eq hat.given (Path.isAbsolute_name hn.toIsName),
      List.getLast?_append_of_ne_nil _ hn.notEmpty]
    exact beq_false_of_ne fun heq => hn.notSlash (List.mem_of_getLast? heq)
  have hstart : d.start (p.join ⟨n⟩) = d.start p := by
    rw [start, start, Path.isAbsolute_join hat.given hn.toIsName]
  rw [hasks, hstart, Path.steps_join hat.given hn.toIsName]
  simp only [Bool.false_eq_true, if_false, List.append_nil]
  exact walk_append_eq_ok.mpr ⟨place, hat.reached,
    walk_cons_eq_ok.mpr ⟨hat.folder, hn.short, rfl⟩⟩

/-- What can be reached below a folder is located by the path of its position. -/
theorem locate_below {pos : Position} (h : d.locate p = .ok (place, .folder inside))
    (hfits : inside.Fits p.room) (hget : inside.get? pos = some e) :
    d.locate (p.below pos) = .ok (place ++ pos, e) := by
  induction pos generalizing p place inside with
  | nil =>
    cases hget
    rw [List.append_nil]
    exact h
  | cons n rest ih =>
    rw [Listing.get?_cons] at hget
    obtain ⟨x, hfind, hx⟩ := Option.bind_eq_some_iff.mp hget
    obtain ⟨hn, hroom, hfurther⟩ := hfits.of_find? hfind
    have hnext := locate_join h hn hroom hfind
    change d.locate ((p.join ⟨n⟩).below rest) = _
    cases x with
    | folder deeper =>
      rw [← Path.room_join (isAt_of_locate h).given hn.toIsName] at hfurther
      rw [ih hnext hfurther hx, List.append_assoc, List.singleton_append]
    | file c =>
      rw [Entry.get?] at hx
      split at hx
      · next hempty =>
        cases hx
        rw [List.isEmpty_iff] at hempty
        subst hempty
        exact hnext
      · cases hx

end

/-! ## A new folder below the scratch root -/

/-- A name that the scratch root has not used yet can be used below it. -/
structure Offers (d : Disk) (root : Path) (place : Position) (inside : Listing) (n : FileName) :
    Prop where
  located : d.locate root = .ok (place, .folder inside)
  unused : n ∉ inside.names
  name : IsFileName n
  enough : n.length + 1 ≤ root.room

/-- The disk with a scratch folder of some contents. -/
def withScratch (d : Disk) (place : Position) (inside : Listing) (n : FileName)
    (scratch : Listing) : Disk :=
  d.refill place (inside.put n (.folder scratch))

section
variable {d made : Disk} {root target p q : Path} {place : Position} {inside scratch : Listing}
  {n : FileName}

namespace Offers

/-- No folder is lost to a scratch folder. -/
theorem folders (h : d.Offers root place inside n) (scratch : Listing) (pos : Position)
    (hpos : d.HasFolder pos) : (d.withScratch place inside n scratch).HasFolder pos := by
  obtain ⟨-, -, hget⟩ := locate_eq_ok.mp h.located
  refine hpos.refill_put hget ?_ (.folder scratch)
  rintro ⟨there, hthere⟩
  rw [Listing.get?_append_of_folder hget, Listing.get?_cons,
    Listing.find?_eq_none_iff.mpr h.unused] at hthere
  cases hthere

/-- The scratch root has the scratch folder as its last entry. -/
theorem locate_root (h : d.Offers root place inside n) (scratch : Listing) :
    (d.withScratch place inside n scratch).locate root =
      .ok (place, .folder (inside.put n (.folder scratch))) := by
  obtain ⟨hcheck, -, hget⟩ := locate_eq_ok.mp h.located
  exact ((isAt_of_locate h.located).fills (h.folders scratch) rfl).locate hcheck
    (Listing.get?_refill hget _)

/-- The path of the scratch folder leads to it. -/
theorem locate_scratch (h : d.Offers root place inside n) (scratch : Listing) :
    (d.withScratch place inside n scratch).locate (root.join ⟨n⟩) =
      .ok (place ++ [n], .folder scratch) :=
  locate_join (h.locate_root scratch) h.name h.enough (by rw [Listing.find?_put, if_pos rfl])

/-- To discard the scratch folder is to bring back the disk. -/
theorem discard_withScratch (h : d.Offers root place inside n) (scratch : Listing) :
    (d.withScratch place inside n scratch).discard (root.join ⟨n⟩) = d := by
  obtain ⟨-, -, hget⟩ := locate_eq_ok.mp h.located
  have herase : (d.withScratch place inside n scratch).root.erase (place ++ [n]) = d.root := by
    rw [withScratch, refill, Listing.erase_append (Listing.get?_refill hget _),
      Listing.refill_refill hget, Listing.erase, Listing.remove_put h.unused,
      Listing.refill_self hget]
  rw [discard, h.locate_scratch scratch]
  simp only [herase]
  rfl

/-- What is extracted into the scratch folder changes nothing but its contents. -/
theorem extractArchive (h : d.Offers root place inside n) (archive : Path) :
    ∃ scratch, scratch.Fits (root.join ⟨n⟩).room ∧
      ((d.withScratch place inside n .empty).extractArchive archive (root.join ⟨n⟩)).2 =
        d.withScratch place inside n scratch := by
  have hlocated := h.locate_scratch .empty
  obtain ⟨-, -, hget⟩ := locate_eq_ok.mp h.located
  obtain ⟨-, -, hempty⟩ := locate_eq_ok.mp hlocated
  obtain ⟨scratch, hafter, hfits⟩ :=
    ((isAt_of_locate hlocated).fills_extractArchive archive).filled .empty hempty
  refine ⟨scratch, hfits trivial, ?_⟩
  rw [hafter, withScratch, withScratch, refill, refill, refill, Listing.refill,
    Listing.set_concat (Listing.get?_refill hget _), Listing.refill_refill hget, Listing.put_put]

/-- A shapefile that is found in the scratch folder is a file in it. -/
theorem locate_of_findShapefile (h : d.Offers root place inside n)
    (hfits : scratch.Fits (root.join ⟨n⟩).room)
    (hfound : (d.withScratch place inside n scratch).findShapefile (root.join ⟨n⟩) = .ok q) :
    ∃ rel c, (d.withScratch place inside n scratch).locate q = .ok (place ++ n :: rel, .file c) := by
  have hlocated := h.locate_scratch scratch
  rw [findShapefile, hlocated] at hfound
  simp only at hfound
  split at hfound
  · next rel hrel =>
    cases hfound
    obtain ⟨c, hc⟩ := hfits.get?_of_shapefile? hrel
    refine ⟨rel, c, ?_⟩
    have hbelow := locate_below hlocated hfits hc
    rw [List.append_assoc, List.singleton_append] at hbelow
    exact hbelow
  · cases hfound

end Offers

/-- The name of a fresh folder is one. -/
theorem isName_freshName (l : Listing) : IsName (freshName l) := by
  rw [freshName]
  generalize Option.getD _ 0 = k
  have hstem : scratchStem = [108, 97, 121, 101, 114, 45, 105, 109, 112, 111, 114, 116, 45] := by
    decide +kernel
  have hbytes : ∀ b : UInt8, b ∉ scratchStem → b.toNat < 0x30 → b ∉ scratchName k := by
    intro b hb hlow hmem
    rcases List.mem_append.mp hmem with hmem | hmem
    · exact hb hmem
    · have := (Text.Utf8.mem_encode_repr hmem).1
      omega
  have hfirst : ∀ b rest, scratchName k = b :: rest → b = 108 := by
    intro b rest heq
    rw [scratchName, hstem] at heq
    exact (List.cons_eq_cons.mp heq).1.symm
  exact {
    notEmpty := by simp [scratchName, hstem]
    notSlash := hbytes _ (by rw [hstem]; decide) (by decide)
    notNul := hbytes _ (by rw [hstem]; decide) (by decide)
    notDot := fun heq => absurd (hfirst _ _ heq) (by decide)
    notDots := fun heq => absurd (hfirst _ _ heq) (by decide) }

/-- A scratch folder is made empty, under a name that the scratch root offers. -/
theorem offers_of_makeScratch (h : d.makeScratch root = .ok (target, made)) :
    ∃ place inside n, d.Offers root place inside n ∧ target = root.join ⟨n⟩ ∧
      made = d.withScratch place inside n .empty := by
  obtain ⟨⟨place, e⟩, hlocated, hrest⟩ := bind_eq_ok.mp h
  cases e with
  | file c => cases hrest
  | folder inside =>
    obtain ⟨after, hmade, hanswer⟩ := bind_eq_ok.mp hrest
    cases hanswer
    obtain ⟨pos, n, ⟨hcheck, ⟨init, hsteps, hwalk⟩, -, hshort⟩, hnone, rfl⟩ :=
      places_of_makeFolder hmade
    have hat := isAt_of_locate hlocated
    obtain ⟨-, -, hget⟩ := locate_eq_ok.mp hlocated
    have hname := isName_freshName inside
    rw [Path.steps_join hat.given hname] at hsteps
    obtain ⟨rfl, hsame⟩ := List.append_inj' hsteps rfl
    obtain rfl : freshName inside = n := by simpa using hsame
    rw [start, Path.isAbsolute_join hat.given hname] at hwalk
    obtain rfl := Except.ok.inj (hat.reached.symm.trans hwalk)
    have hunused : freshName inside ∉ inside.names := by
      rw [← Listing.find?_eq_none_iff]
      rw [Listing.get?_append_of_folder hget, Listing.get?_cons, Option.bind_eq_none_iff] at hnone
      cases hfind : inside.find? (freshName inside) with
      | none => rfl
      | some e => cases e <;> cases hnone _ hfind
    refine ⟨place, inside, freshName inside, ⟨hlocated, hunused, ⟨hname, hshort⟩, ?_⟩, rfl, ?_⟩
    · have hlong := (check_eq_ok.mp hcheck).2.2
      rw [Path.join_eq hat.given (Path.isAbsolute_name hname), List.length_append] at hlong
      rw [Path.room]
      omega
    · rw [withScratch, refill, ← Listing.set_concat hget]

end

end Disk

end LayerPress
