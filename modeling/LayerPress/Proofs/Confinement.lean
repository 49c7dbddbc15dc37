import LayerPress.Archive.Extraction
import LayerPress.Proofs.Filling

/-!
# Extraction stays in its folder

The names that an archive may use never lead above the folder that they are joined to: at no point
of such a name are there more double dots than names before them. So every step of the path to an
entry, and of the paths to the folders above it, stays below the target folder, and all that is
made on the way is made there. An entry with another name is passed over.
-/

namespace LayerPress

/-! ## Names that stay below -/

namespace ArchiveEntry

/-- The depth after two parts of a name is that of the second after the first. -/
theorem depthAfter?_append (depth : Nat) (cs more : List Path.Component) :
    depthAfter? depth (cs ++ more) = (depthAfter? depth cs).bind (depthAfter? · more) := by
  induction cs generalizing depth with
  | nil => rfl
  | cons c rest ih =>
    cases c with
    | here => exact ih depth
    | name n => exact ih (depth + 1)
    | up =>
      cases depth with
      | zero => rfl
      | succ depth => exact ih depth

/-- A name that stays below does so from its beginning on. -/
theorem isSome_depthAfter?_of_prefix {depth : Nat} {cs more : List Path.Component}
    (h : cs <+: more) (hmore : (depthAfter? depth more).isSome = true) :
    (depthAfter? depth cs).isSome = true := by
  obtain ⟨rest, rfl⟩ := h
  rw [depthAfter?_append] at hmore
  exact Option.isSome_of_isSome_bind hmore

end ArchiveEntry

namespace Path

/-- The place that a component leads to. -/
def Component.lead : Component → Position → Position
  | .here, pos => pos
  | .up, pos => pos.dropLast
  | .name n, pos => pos ++ [n]

/-- A name has at most the length that the system takes. -/
def Component.IsShort : Component → Prop
  | .name n => n.length ≤ Disk.maxName
  | .here | .up => True

/-- The bytes that names below a folder may take, with a slash before each. -/
def room (p : Path) : Nat := Disk.maxPath - p.opened.length

/-- The steps of a path go no further than those of a target, or lead on from it and stay below. -/
def StaysBelow (target p : Path) : Prop :=
  p.isAbsolute = target.isAbsolute ∧
    (p.steps <+: target.steps ∨ ∃ b, p = ⟨target.opened ++ b⟩ ∧
      (ArchiveEntry.depthAfter? 0 (mk b).steps).isSome = true)

/-- The folder of a path that stays below a target does so too. -/
theorem StaysBelow.parent {target p q : Path} (htarget : target.bytes ≠ [])
    (h : target.StaysBelow p) (hq : p.parent? = some q) : target.StaysBelow q := by
  obtain ⟨habsolute, hp | ⟨b, rfl, hdepth⟩⟩ := h
  · obtain ⟨-, hsteps, hsame⟩ := parent?_prefix hq
    exact ⟨hsame.trans habsolute, .inl (hsteps.trans hp)⟩
  · obtain ⟨hsame, hsteps | ⟨c, -, hsteps, rfl⟩⟩ := parent?_opened_append htarget hq
    · exact ⟨hsame, .inl hsteps⟩
    · exact ⟨hsame, .inr ⟨c, rfl, ArchiveEntry.isSome_depthAfter?_of_prefix hsteps hdepth⟩⟩

end Path

namespace Disk

open LayerPress.Path (StaysBelow)

/-! ## Walking -/

section
variable {d d' : Disk} {pos next place rel : Position} {c : Path.Component}
  {cs : List Path.Component}

/-- A component leads on from a folder, if it is not too long. -/
theorem step_eq_ok : d.step pos c = .ok next ↔
    d.HasFolder pos ∧ c.IsShort ∧ next = c.lead pos := by
  unfold step
  rw [bind_eq_ok]
  constructor
  · rintro ⟨_, henter, hnext⟩
    refine ⟨enter_eq_ok.mp henter, ?_⟩
    cases c with
    | here => cases hnext; exact ⟨trivial, rfl⟩
    | up => cases hnext; exact ⟨trivial, rfl⟩
    | name n =>
      simp only at hnext
      split at hnext
      · cases hnext
      · next hshort => cases hnext; exact ⟨Nat.not_lt.mp hshort, rfl⟩
  · rintro ⟨hfolder, hshort, rfl⟩
    refine ⟨(), enter_eq_ok.mpr hfolder, ?_⟩
    cases c with
    | here => rfl
    | up => rfl
    | name n =>
      simp only
      rw [if_neg (Nat.not_lt.mpr hshort)]
      rfl

/-- The components of a path are followed one after another. -/
theorem walk_cons_eq_ok : d.walk pos (c :: cs) = .ok next ↔
    d.HasFolder pos ∧ c.IsShort ∧ d.walk (c.lead pos) cs = .ok next := by
  rw [walk, List.foldlM_cons, bind_eq_ok]
  constructor
  · rintro ⟨after, hstep, hrest⟩
    obtain ⟨hfolder, hshort, rfl⟩ := step_eq_ok.mp hstep
    exact ⟨hfolder, hshort, hrest⟩
  · rintro ⟨hfolder, hshort, hrest⟩
    exact ⟨_, step_eq_ok.mpr ⟨hfolder, hshort, rfl⟩, hrest⟩

/-- The parts of a path are followed one after another. -/
theorem walk_append_eq_ok {more : List Path.Component} : d.walk pos (cs ++ more) = .ok next ↔
    ∃ between, d.walk pos cs = .ok between ∧ d.walk between more = .ok next := by
  rw [walk, List.foldlM_append, bind_eq_ok]
  rfl

/-- A path can be followed as before while no folder is gone. -/
theorem walk_mono (hfolders : ∀ pos, d.HasFolder pos → d'.HasFolder pos)
    (h : d.walk pos cs = .ok next) : d'.walk pos cs = .ok next := by
  induction cs generalizing pos with
  | nil => exact h
  | cons c rest ih =>
    obtain ⟨hfolder, hshort, hrest⟩ := walk_cons_eq_ok.mp h
    exact walk_cons_eq_ok.mpr ⟨hfolders pos hfolder, hshort, ih hrest⟩

/-- Components that never outnumber the names before them with double dots stay below the place
that they are followed from. -/
theorem walk_below {depth : Nat} (h : d.walk (place ++ rel) cs = .ok next)
    (hdepth : ArchiveEntry.depthAfter? rel.length cs = some depth) :
    ∃ reached, next = place ++ reached ∧ reached.length = depth ∧
      Position.span reached ≤ Position.span rel + (cs.map Path.Component.span).sum := by
  induction cs generalizing rel with
  | nil =>
    cases h
    cases hdepth
    exact ⟨rel, rfl, rfl, Nat.le_refl _⟩
  | cons c rest ih =>
    obtain ⟨-, -, hrest⟩ := walk_cons_eq_ok.mp h
    rw [List.map_cons, List.sum_cons]
    cases c with
    | here =>
      obtain ⟨reached, hreached, hlength, hspan⟩ := ih hrest hdepth
      exact ⟨reached, hreached, hlength, by omega⟩
    | up =>
      rcases List.eq_nil_or_concat' rel with rfl | ⟨init, last, rfl⟩
      · cases hdepth
      · have hlead : Path.Component.lead .up (place ++ (init ++ [last])) = place ++ init := by
          rw [Path.Component.lead, ← List.append_assoc, List.dropLast_concat]
        rw [List.length_append, List.length_singleton] at hdepth
        rw [hlead] at hrest
        obtain ⟨reached, hreached, hlength, hspan⟩ := ih hrest hdepth
        refine ⟨reached, hreached, hlength, ?_⟩
        simp only [Position.span, List.map_append, List.sum_append] at hspan ⊢
        omega
    | name n =>
      rw [Path.Component.lead, List.append_assoc] at hrest
      have hdeeper : ArchiveEntry.depthAfter? (rel ++ [n]).length rest = some depth := by
        rw [List.length_append]
        exact hdepth
      obtain ⟨reached, hreached, hlength, hspan⟩ := ih hrest hdeeper
      refine ⟨reached, hreached, hlength, ?_⟩
      simp only [Position.span, List.map_append, List.sum_append, List.map_cons, List.map_nil,
        List.sum_cons, List.sum_nil, Path.Component.span] at hspan ⊢
      omega

end

/-! ## Where a path leads -/

/-- A path leads to a folder. -/
structure IsAt (d : Disk) (target : Path) (place : Position) : Prop where
  given : target.bytes ≠ []
  reached : d.walk (d.start target) target.steps = .ok place
  folder : d.HasFolder place

/-- A path names a file or a folder in a folder of the disk. -/
structure Places (d : Disk) (p : Path) (pos : Position) (n : FileName) : Prop where
  accepted : check p = .ok ()
  way : ∃ init, p.steps = init ++ [.name n] ∧ d.walk (d.start p) init = .ok pos
  folder : d.HasFolder pos
  short : n.length ≤ maxName

section
variable {d d' : Disk} {target p : Path} {place pos : Position} {n : FileName} {room : Nat}

/-- What is located is reached by the steps of its path. -/
theorem locate_eq_ok {e : Entry} : d.locate p = .ok (pos, e) ↔
    check p = .ok () ∧
      d.walk (d.start p) (p.steps ++ if asksFolder p then [.here] else []) = .ok pos ∧
      d.root.get? pos = some e := by
  rw [locate, bind_eq_ok]
  constructor
  · rintro ⟨_, hcheck, hrest⟩
    obtain ⟨reached, hwalk, hget⟩ := bind_eq_ok.mp hrest
    split at hget
    · next x hx =>
      cases hget
      exact ⟨hcheck, hwalk, hx⟩
    · cases hget
  · rintro ⟨hcheck, hwalk, hget⟩
    refine ⟨(), hcheck, bind_eq_ok.mpr ⟨pos, hwalk, ?_⟩⟩
    rw [hget]
    rfl

/-- A path that the system accepts is not empty and not too long, and has no NUL. -/
theorem check_eq_ok : check p = .ok () ↔ 0 ∉ p.bytes ∧ p.bytes ≠ [] ∧ p.bytes.length < maxPath := by
  rw [check]
  split
  · next hnul =>
    rw [List.contains_iff_mem] at hnul
    simp [hnul]
  · next hnul =>
    rw [List.contains_iff_mem] at hnul
    split
    · next hempty => simp_all
    · next hempty =>
      split
      · next hlong => simp [Nat.not_lt.mpr hlong]
      · next hshort => simp_all

/-- A path whose folder is located leads to it. -/
theorem isAt_of_locate {inside : Listing} (h : d.locate target = .ok (place, .folder inside)) :
    d.IsAt target place := by
  obtain ⟨hcheck, hwalk, hget⟩ := locate_eq_ok.mp h
  obtain ⟨reached, hsteps, hlast⟩ := walk_append_eq_ok.mp hwalk
  refine ⟨(check_eq_ok.mp hcheck).2.1, ?_, inside, hget⟩
  split at hlast
  · obtain ⟨-, -, hrest⟩ := walk_cons_eq_ok.mp hlast
    cases hrest
    exact hsteps
  · cases hlast
    exact hsteps

/-- A folder is located where a path that the system accepts leads to it. -/
theorem IsAt.locate {inside : Listing} (h : d.IsAt target place) (hcheck : check target = .ok ())
    (hget : d.root.get? place = some (.folder inside)) :
    d.locate target = .ok (place, .folder inside) := by
  refine locate_eq_ok.mpr ⟨hcheck, walk_append_eq_ok.mpr ⟨place, h.reached, ?_⟩, hget⟩
  split
  · exact walk_cons_eq_ok.mpr ⟨h.folder, trivial, rfl⟩
  · rfl

/-- Paths lead where they led as long as folders are only filled. -/
theorem IsAt.fills (h : d.IsAt target place) (hfolders : ∀ pos, d.HasFolder pos → d'.HasFolder pos)
    (hworking : d'.working = d.working) : d'.IsAt target place where
  given := h.given
  reached := by
    have hstart : d'.start target = d.start target := by rw [start, start, hworking]
    rw [hstart]
    exact walk_mono hfolders h.reached
  folder := hfolders place h.folder

/-- The folder of a path, and the last component of the path. -/
theorem before_eq_ok {last : Option Path.Component} : d.before p = .ok (pos, last) ↔
    check p = .ok () ∧ d.walk (d.start p) p.steps.dropLast = .ok pos ∧ d.HasFolder pos ∧
      p.steps.getLast? = last := by
  rw [before, bind_eq_ok]
  constructor
  · rintro ⟨_, hcheck, hrest⟩
    obtain ⟨reached, hwalk, hrest⟩ := bind_eq_ok.mp hrest
    obtain ⟨_, henter, hlast⟩ := bind_eq_ok.mp hrest
    cases hlast
    exact ⟨hcheck, hwalk, enter_eq_ok.mp henter, rfl⟩
  · rintro ⟨hcheck, hwalk, hfolder, rfl⟩
    exact ⟨(), hcheck, bind_eq_ok.mpr ⟨pos, hwalk, bind_eq_ok.mpr ⟨(), enter_eq_ok.mpr hfolder, rfl⟩⟩⟩

/-- A path that names something in a folder places it there. -/
theorem places_of_before (h : d.before p = .ok (pos, some (.name n))) (hshort : n.length ≤ maxName) :
    d.Places p pos n := by
  obtain ⟨hcheck, hwalk, hfolder, hlast⟩ := before_eq_ok.mp h
  have hsteps : p.steps = p.steps.dropLast ++ [.name n] := by
    obtain ⟨init, hinit⟩ := List.getLast?_eq_some_iff.mp hlast
    rw [hinit, List.dropLast_concat]
  exact {
    accepted := hcheck
    way := ⟨p.steps.dropLast, hsteps, hwalk⟩
    folder := hfolder
    short := hshort }

/-- A new folder stands where its path places it and nothing was. -/
theorem places_of_makeFolder (h : d.makeFolder p = .ok d') :
    ∃ pos n, d.Places p pos n ∧ d.root.get? (pos ++ [n]) = none ∧
      d' = { d with root := d.root.set (pos ++ [n]) (.folder .empty) } := by
  obtain ⟨⟨pos, last⟩, hbefore, hrest⟩ := bind_eq_ok.mp h
  split at hrest
  · next reached n heq =>
    cases heq
    by_cases hlong : maxName < n.length
    · rw [if_pos hlong] at hrest
      cases hrest
    rw [if_neg hlong] at hrest
    split at hrest
    · cases hrest
    · next hnone =>
      cases hrest
      exact ⟨pos, n, places_of_before hbefore (Nat.not_lt.mp hlong), hnone, rfl⟩
  · cases hrest

/-- A file that was written stands where its path places it and no folder was. -/
theorem places_of_writeFile {content : Content} (h : d.writeFile p content = .ok d') :
    ∃ pos n, d.Places p pos n ∧ ¬d.HasFolder (pos ++ [n]) ∧
      d' = { d with root := d.root.set (pos ++ [n]) (.file content) } := by
  obtain ⟨⟨pos, last⟩, hbefore, hrest⟩ := bind_eq_ok.mp h
  split at hrest
  · next reached n heq =>
    cases heq
    by_cases hfolder : asksFolder p = true
    · rw [if_pos hfolder] at hrest
      cases hrest
    by_cases hlong : maxName < n.length
    · rw [if_neg hfolder, if_pos hlong] at hrest
      cases hrest
    rw [if_neg hfolder, if_neg hlong] at hrest
    split at hrest
    · cases hrest
    · next hnot =>
      cases hrest
      refine ⟨pos, n, places_of_before hbefore (Nat.not_lt.mp hlong), ?_, rfl⟩
      rintro ⟨inside, hinside⟩
      exact hnot inside hinside
  · cases hrest

/-- Where a path goes on after a name, or ends with it at a folder, a folder stands. -/
theorem hasFolder_of_walk {start : Position} {init more : List Path.Component}
    (hinit : d.walk start init = .ok pos)
    (h : d.walk start (init ++ .name n :: more) = .ok place) (hplace : d.HasFolder place) :
    d.HasFolder (pos ++ [n]) := by
  obtain ⟨between, hbetween, hrest⟩ := walk_append_eq_ok.mp h
  obtain rfl := Except.ok.inj (hinit.symm.trans hbetween)
  obtain ⟨-, -, hmore⟩ := walk_cons_eq_ok.mp hrest
  cases more with
  | nil =>
    cases hmore
    exact hplace
  | cons c more => exact (walk_cons_eq_ok.mp hmore).1

/-- What a path that stays below a target places anew is placed below it. -/
theorem IsAt.below (h : d.IsAt target place) (hp : target.StaysBelow p) (hplaces : d.Places p pos n)
    (hnew : ¬d.HasFolder (pos ++ [n])) :
    ∃ rel, pos = place ++ rel ∧ IsFileName n ∧ Position.span rel + n.length + 1 ≤ target.room := by
  obtain ⟨haccepted, ⟨init, hsteps, hwalk⟩, -, hshort⟩ := hplaces
  obtain ⟨hnul, -, hlength⟩ := check_eq_ok.mp haccepted
  obtain ⟨habsolute, hp⟩ := hp
  have hstart : d.start p = d.start target := by rw [start, start, habsolute]
  rw [hstart] at hwalk
  -- Of the steps to the target none is new.
  have hfurther : ¬p.steps <+: target.steps := by
    rintro ⟨more, hmore⟩
    rw [hsteps, List.append_assoc, List.singleton_append] at hmore
    exact hnew (hasFolder_of_walk hwalk (hmore ▸ h.reached) h.folder)
  obtain ⟨b, rfl, hdepth⟩ := hp.resolve_left hfurther
  have hname : IsFileName n :=
    Path.isFileName_of_mem_steps (by rw [hsteps]; simp) hnul hshort
  have hspan := Path.span_steps_le b
  rw [Path.steps_opened_append h.given] at hsteps hfurther
  rcases List.eq_nil_or_concat' (Path.mk b).steps with hnil | ⟨more, last, hlast⟩
  · rw [hnil, List.append_nil] at hfurther
    exact absurd List.prefix_rfl hfurther
  rw [hlast, ← List.append_assoc] at hsteps
  obtain ⟨rfl, hsame⟩ := List.append_inj' hsteps rfl
  obtain rfl := List.singleton_inj.mp hsame
  obtain ⟨between, hbetween, hmore⟩ := walk_append_eq_ok.mp hwalk
  obtain rfl := Except.ok.inj (h.reached.symm.trans hbetween)
  have hdepth' := ArchiveEntry.isSome_depthAfter?_of_prefix (List.prefix_append more [.name n])
    (hlast ▸ hdepth)
  obtain ⟨depth, hdepth'⟩ := Option.isSome_iff_exists.mp hdepth'
  rw [← List.append_nil place] at hmore
  obtain ⟨rel, hrel, -, hreach⟩ := walk_below hmore hdepth'
  refine ⟨rel, hrel, hname, ?_⟩
  rw [hlast, List.map_append, List.sum_append] at hspan
  simp only [Position.span, List.map_nil, List.sum_nil, List.map_cons, List.sum_cons,
    Path.Component.span, List.length_append, Path.room] at hreach hspan hlength ⊢
  omega

end

/-! ## Filling the target -/

section
variable {d d' : Disk} {target p : Path} {place : Position}

/-- Filling a folder leaves every path where it leads. -/
theorem FillsIn.isAt (h : FillsIn target.room place d d') (hat : d.IsAt target place) :
    d'.IsAt target place := by
  obtain ⟨inside, hinside⟩ := hat.folder
  obtain ⟨after, rfl, -⟩ := h.filled inside hinside
  exact hat.fills h.folders rfl

/-- A folder is made below the target, if anywhere. -/
theorem IsAt.fills_makeFolder (h : d.IsAt target place) (hp : target.StaysBelow p)
    (hmade : d.makeFolder p = .ok d') : FillsIn target.room place d d' := by
  obtain ⟨pos, n, hplaces, hnone, rfl⟩ := places_of_makeFolder hmade
  have hnew : ¬d.HasFolder (pos ++ [n]) := by
    rintro ⟨inside, hinside⟩
    rw [hinside] at hnone
    cases hnone
  obtain ⟨rel, rfl, hn, hroom⟩ := h.below hp hplaces hnew
  have hfolder := hplaces.folder
  rw [List.append_assoc] at hnew ⊢
  exact FillsIn.add hfolder hnew hn hroom fun _ => trivial

/-- A file is written below the target, if anywhere. -/
theorem IsAt.fills_writeFile {content : Content} (h : d.IsAt target place)
    (hp : target.StaysBelow p) (hwritten : d.writeFile p content = .ok d') :
    FillsIn target.room place d d' := by
  obtain ⟨pos, n, hplaces, hnew, rfl⟩ := places_of_writeFile hwritten
  obtain ⟨rel, rfl, hn, hroom⟩ := h.below hp hplaces hnew
  have hfolder := hplaces.folder
  rw [List.append_assoc] at hnew ⊢
  exact FillsIn.add hfolder hnew hn hroom fun _ => trivial

/-- A folder that need not be made is left alone. -/
theorem IsAt.fills_makeOrKeep (h : d.IsAt target place) (hp : target.StaysBelow p) :
    FillsIn target.room place d (d.makeOrKeep p).2 := by
  rw [makeOrKeep]
  split
  · next after hmade => exact h.fills_makeFolder hp hmade
  · split <;> exact .refl _ _ _

/-- The folders above a path are made below the target too. -/
theorem IsAt.fills_makeFoldersWithin (fuel : Nat) (h : d.IsAt target place)
    (hp : target.StaysBelow p) :
    FillsIn target.room place d (makeFoldersWithin fuel d p).2 := by
  induction fuel generalizing p with
  | zero => exact .refl _ _ _
  | succ fuel ih =>
    rw [makeFoldersWithin]
    split
    · exact .refl _ _ _
    · split
      · split
        · exact .refl _ _ _
        · next above habove =>
          have hmade := ih (hp.parent h.given habove)
          split
          · next made heq =>
            rw [heq] at hmade
            exact hmade.trans ((hmade.isAt h).fills_makeOrKeep hp)
          · next heq =>
            rw [heq] at hmade
            exact hmade
      · exact h.fills_makeOrKeep hp

end

end Disk

end LayerPress
