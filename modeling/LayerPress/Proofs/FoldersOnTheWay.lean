import LayerPress.Proofs.DiskViews
import LayerPress.Proofs.ParentPaths

/-!
# Making the folders of a path, and files in them

All folders that a path leads through are made, unless a file is in the way. Those above the last
are made first, and they are the folders of the folder of the path. Of a path that ends in single
dots after a name this is not the folder of that name: it is not made, and the path is not either,
unless that folder is there or has been passed through on the way.
-/

namespace LayerPress

open LayerPress.Path (Component follow way trimHere)

variable {d d' made : Disk} {p q : Path} {pos next x : Position} {cs more init : List Component}
  {c : Component} {n : FileName} {f : Fault}

namespace Path

/-- Components end in single dots after a name. -/
def DotsAfter (init : List Component) (n : FileName) (cs : List Component) : Prop :=
  ∃ heres, heres ≠ [] ∧ (∀ c ∈ heres, c = .here) ∧ cs = init ++ .name n :: heres

/-- Without the single dots the components end in the name. -/
theorem DotsAfter.trimHere_eq (h : DotsAfter init n cs) : trimHere cs = init ++ [.name n] := by
  obtain ⟨heres, -, hheres, rfl⟩ := h
  have hname : Component.name n ≠ .here := by simp
  rw [List.append_cons, trimHere_append_here hheres, trimHere_concat hname]

/-- The name comes before the last component. -/
theorem DotsAfter.isPrefix (h : DotsAfter init n cs) : init ++ [.name n] <+: cs.dropLast := by
  obtain ⟨heres, hne, -, rfl⟩ := h
  rw [List.append_cons init (.name n) heres, List.dropLast_append_of_ne_nil hne]
  exact List.prefix_append _ _

/-- Without the single dots there are fewer components. -/
theorem DotsAfter.trimHere_ne (h : DotsAfter init n cs) : trimHere cs ≠ cs := by
  have hlength := h.isPrefix.length_le
  rw [h.trimHere_eq]
  rintro rfl
  rw [List.dropLast_concat, List.length_append, List.length_singleton] at hlength
  omega

/-- The folder of a path leads through what comes before the last component that is no single
dot. -/
theorem mem_way_parent {above : List Component} (hq : p.parent? = some q)
    (htrim : trimHere p.steps = above ++ [c]) : x ∈ way pos q.steps ↔ x ∈ way pos above := by
  obtain ⟨c', -, above', htrim', hsteps⟩ := steps_of_parent? hq
  obtain ⟨rfl, -⟩ := List.append_inj' (htrim.symm.trans htrim') rfl
  obtain ⟨heres, habove, hheres⟩ := exists_trimHere_append above
  conv_rhs => rw [habove]
  rw [hsteps, mem_way_append_here hheres]

end Path

namespace Disk

/-! ## Paths that the system takes -/

/-- The system takes a path, or would do so if it were not empty. -/
structure Takes (p : Path) : Prop where
  noNul : 0 ∉ p.bytes
  short : p.bytes.length < maxPath
  shortNames : ∀ c ∈ p.steps, c.IsShort

/-- A path that the system takes is accepted, unless it is empty. -/
theorem Takes.check (h : Takes p) (hgiven : p.bytes ≠ []) : check p = .ok () :=
  check_eq_ok.mpr ⟨h.noNul, hgiven, h.short⟩

/-- The system takes the folder of a path that it takes. -/
theorem Takes.parent (h : Takes p) (hq : p.parent? = some q) : Takes q := by
  obtain ⟨hbytes, hsteps, -⟩ := Path.parent?_prefix hq
  exact {
    noNul := fun hmem => h.noNul (hbytes.subset hmem)
    short := Nat.lt_of_le_of_lt hbytes.length_le h.short
    shortNames := fun c hc => h.shortNames c (hsteps.subset hc) }

/-! ## Following a path -/

/-- Components are followed to a folder exactly if none is too long and all folders on the way are
there. -/
theorem walk_opens : d.walk pos cs = .ok next ∧ d.HasFolder next ↔
    (∀ c ∈ cs, c.IsShort) ∧ d.Opens pos cs ∧ next = follow pos cs := by
  induction cs generalizing pos with
  | nil =>
    constructor
    · rintro ⟨⟨⟩, hfolder⟩
      refine ⟨by simp, fun x hx => ?_, rfl⟩
      rwa [Path.mem_way_nil.mp hx]
    · rintro ⟨-, hopens, rfl⟩
      exact ⟨rfl, hopens _ Path.start_mem_way⟩
  | cons c rest ih =>
    rw [walk_cons_eq_ok, and_assoc, and_assoc, ih, List.forall_mem_cons]
    constructor
    · rintro ⟨hfolder, hshort, hrest, hopens, rfl⟩
      refine ⟨⟨hshort, hrest⟩, fun x hx => ?_, rfl⟩
      rcases Path.mem_way_cons.mp hx with rfl | hx
      · exact hfolder
      · exact hopens x hx
    · rintro ⟨⟨hshort, hrest⟩, hopens, rfl⟩
      exact ⟨hopens pos Path.start_mem_way, hshort, hrest,
        fun x hx => hopens x (Path.mem_way_cons.mpr (.inr hx)), rfl⟩

/-- Components lead where they are followed to. -/
theorem eq_follow_of_walk (h : d.walk pos cs = .ok next) : next = follow pos cs := by
  induction cs generalizing pos with
  | nil => exact (Except.ok.inj h).symm
  | cons c rest ih => exact ih (walk_cons_eq_ok.mp h).2.2

/-- A path does not go on from a position because nothing is there, or because a file is. -/
theorem enter_eq_error (h : d.enter pos = .error f) : f = .notFound ∨ d.HasFile pos := by
  rw [enter] at h
  split at h
  · cases h
  · next content hcontent => exact .inr ⟨content, view_eq_file.mpr hcontent⟩
  · cases h
    exact .inl rfl

/-- Components that are not too long cannot be followed because something is missing, or because a
file is on the way. -/
theorem walk_eq_error (hshort : ∀ c ∈ cs, c.IsShort) (h : d.walk pos cs = .error f) :
    f = .notFound ∨ ∃ x ∈ way pos cs, d.HasFile x := by
  induction cs generalizing pos with
  | nil => cases h
  | cons c rest ih =>
    rw [List.forall_mem_cons] at hshort
    rw [walk, List.foldlM_cons] at h
    cases henter : d.enter pos with
    | error g =>
      have hstep : d.step pos c = .error g := by unfold step; rw [henter]; rfl
      rw [hstep] at h
      cases h
      exact (enter_eq_error henter).imp_right fun hfile => ⟨pos, Path.start_mem_way, hfile⟩
    | ok _ =>
      have hstep : d.step pos c = .ok (c.lead pos) :=
        step_eq_ok.mpr ⟨enter_eq_ok.mp henter, hshort.1, rfl⟩
      rw [hstep] at h
      obtain hnone | ⟨x, hx, hfile⟩ := ih hshort.2 h
      · exact .inl hnone
      · exact .inr ⟨x, Path.mem_way_cons.mpr (.inr hx), hfile⟩

/-- A path leads to a folder exactly if the system takes it and all folders on the way are there. -/
theorem isFolder_iff :
    d.isFolder p = true ↔ p.bytes ≠ [] ∧ Takes p ∧ d.Opens (d.start p) p.steps := by
  have hends : ∀ b : Bool, ∀ c ∈ (if b then [Component.here] else []), c = .here := by
    intro b
    split <;> simp
  have hlocate : d.isFolder p = true ↔ ∃ pos inside, d.locate p = .ok (pos, .folder inside) := by
    rw [isFolder]
    split <;> simp_all
  rw [hlocate]
  constructor
  · rintro ⟨pos, inside, h⟩
    obtain ⟨hcheck, hwalk, hget⟩ := locate_eq_ok.mp h
    obtain ⟨hnul, hgiven, hlength⟩ := check_eq_ok.mp hcheck
    obtain ⟨hshort, hopens, -⟩ := walk_opens.mp ⟨hwalk, inside, hget⟩
    refine ⟨hgiven, ⟨hnul, hlength, fun c hc => hshort c (List.mem_append_left _ hc)⟩, ?_⟩
    exact hopens.of_isPrefix (List.prefix_append _ _)
  · rintro ⟨hgiven, htakes, hopens⟩
    have hall : d.Opens (d.start p) (p.steps ++ if asksFolder p then [.here] else []) :=
      fun x hx => hopens x ((Path.mem_way_append_here (hends _)).mp hx)
    have hshort : ∀ c ∈ p.steps ++ (if asksFolder p then [.here] else []), c.IsShort := by
      intro c hc
      rcases List.mem_append.mp hc with hc | hc
      · exact htakes.shortNames c hc
      · rw [hends _ c hc]
        trivial
    obtain ⟨hwalk, inside, hget⟩ := walk_opens.mpr ⟨hshort, hall, rfl⟩
    exact ⟨_, inside, locate_eq_ok.mpr ⟨htakes.check hgiven, hwalk, hget⟩⟩

/-- Above the last component of a path stand the folders of its other components. -/
theorem before_eq_of_opens (htakes : Takes p) (hgiven : p.bytes ≠ [])
    (hopens : d.Opens (d.start p) p.steps.dropLast) :
    d.before p = .ok (follow (d.start p) p.steps.dropLast, p.steps.getLast?) := by
  have hshort : ∀ c ∈ p.steps.dropLast, c.IsShort := fun c hc =>
    htakes.shortNames c (List.dropLast_subset _ hc)
  obtain ⟨hwalk, hfolder⟩ := walk_opens.mpr ⟨hshort, hopens, rfl⟩
  exact before_eq_ok.mpr ⟨htakes.check hgiven, hwalk, hfolder, rfl⟩

/-- A path whose last component leads to no folder, although those above are there, ends in a
name. -/
theorem Opens.exists_name (h : d.Opens pos cs.dropLast) (hnot : ¬d.HasFolder (follow pos cs)) :
    ∃ n, cs = cs.dropLast ++ [.name n] ∧ follow pos cs = follow pos cs.dropLast ++ [n] := by
  rcases List.eq_nil_or_concat' cs with rfl | ⟨init, c, rfl⟩
  · exact absurd h.hasFolder hnot
  · rw [List.dropLast_concat] at h ⊢
    rw [Path.follow_concat] at hnot ⊢
    cases c with
    | here => exact absurd h.hasFolder hnot
    | up => exact absurd h.hasFolder.dropLast hnot
    | name n => exact ⟨n, rfl, rfl⟩

/-! ## One folder -/

/-- A name that is not too long is made a folder, unless something has it. -/
theorem makeFolder_of_before (h : d.before p = .ok (pos, some (.name n)))
    (hshort : n.length ≤ maxName) :
    d.makeFolder p = match d.root.get? (pos ++ [n]) with
      | some _ => .error .exists
      | none => .ok { d with root := d.root.set (pos ++ [n]) (.folder .empty) } := by
  unfold makeFolder
  rw [h]
  simp only [bind, Except.bind, if_neg (Nat.not_lt.mpr hshort)]
  cases d.root.get? (pos ++ [n]) <;> rfl

/-- A folder is made where nothing is, in a folder that is there. -/
theorem exists_makeFolder (htakes : Takes p) (hgiven : p.bytes ≠ [])
    (hopens : d.Opens (d.start p) p.steps.dropLast)
    (hnone : d.view (follow (d.start p) p.steps) = none) :
    ∃ d', d.makeFolder p = .ok d' ∧ d.MakesFolders [follow (d.start p) p.steps] d' := by
  have hnot : ¬d.HasFolder (follow (d.start p) p.steps) := by
    simp [← view_eq_folder, hnone]
  obtain ⟨n, hsteps, hfollow⟩ := hopens.exists_name hnot
  rw [hfollow] at hnone hnot ⊢
  have hbefore := before_eq_of_opens htakes hgiven hopens
  rw [show p.steps.getLast? = some (.name n) by rw [hsteps, List.getLast?_concat]] at hbefore
  have hshort : n.length ≤ maxName :=
    htakes.shortNames (.name n) (by rw [hsteps]; exact List.mem_concat_self)
  refine ⟨{
    d with root := d.root.set (follow (d.start p) p.steps.dropLast ++ [n]) (.folder .empty) },
    ?_, rfl, fun x => ?_⟩
  · rw [makeFolder_of_before hbefore hshort, view_eq_none.mp hnone]
  · rw [view_set (e := .folder .empty) hopens.hasFolder hnot
      fun m rest => Listing.get?_cons .empty m rest]
    simp only [List.mem_singleton]
    rfl

/-- No folder is made where something is. -/
theorem makeFolder_of_view (htakes : Takes p) (hgiven : p.bytes ≠ [])
    (hopens : d.Opens (d.start p) p.steps.dropLast)
    (hsome : d.view (follow (d.start p) p.steps) ≠ none) : d.makeFolder p = .error .exists := by
  have hbefore := before_eq_of_opens htakes hgiven hopens
  cases hlast : p.steps.getLast? with
  | none =>
    unfold makeFolder
    rw [hbefore, hlast]
    rfl
  | some c =>
    cases c with
    | name n =>
      obtain ⟨init, hsteps⟩ := List.getLast?_eq_some_iff.mp hlast
      rw [hlast, hsteps, List.dropLast_concat] at hbefore
      rw [hsteps, Path.follow_concat, Component.lead, Ne, view_eq_none] at hsome
      obtain ⟨e, he⟩ := Option.ne_none_iff_exists'.mp hsome
      have hshort : n.length ≤ maxName :=
        htakes.shortNames (.name n) (by rw [hsteps]; exact List.mem_concat_self)
      rw [makeFolder_of_before hbefore hshort, he]
    | _ =>
      unfold makeFolder
      rw [hbefore, hlast]
      rfl

/-- A path that places a name is one that the system takes, and the folders above it are there. -/
theorem Places.opens (h : d.Places p pos n) : Takes p ∧ d.Opens (d.start p) p.steps.dropLast ∧
    follow (d.start p) p.steps = pos ++ [n] := by
  obtain ⟨hcheck, ⟨init, hsteps, hwalk⟩, hfolder, hshort⟩ := h
  obtain ⟨hnul, -, hlength⟩ := check_eq_ok.mp hcheck
  obtain ⟨hshorts, hopens, rfl⟩ := walk_opens.mp ⟨hwalk, hfolder⟩
  refine ⟨⟨hnul, hlength, ?_⟩, ?_, ?_⟩
  · rw [hsteps, List.forall_mem_append, List.forall_mem_singleton]
    exact ⟨hshorts, hshort⟩
  · rwa [hsteps, List.dropLast_concat]
  · rw [hsteps, Path.follow_concat]
    rfl

/-- A path can be made a folder: the folders above it are there, and no file has its place. -/
structure CanAdd (d : Disk) (p : Path) : Prop where
  given : p.bytes ≠ []
  takes : Takes p
  opens : d.Opens (d.start p) p.steps.dropLast
  free : ¬d.HasFile (follow (d.start p) p.steps)

/-- A path that can be made a folder is one afterwards, and nothing else changes. -/
theorem CanAdd.makeOrKeep (h : d.CanAdd p) : (d.makeOrKeep p).1 = .ok () ∧
    d.MakesFolders [follow (d.start p) p.steps] (d.makeOrKeep p).2 := by
  obtain ⟨hgiven, htakes, hopens, hfree⟩ := h
  by_cases hnone : d.view (follow (d.start p) p.steps) = none
  · obtain ⟨d', hmade, hmakes⟩ := exists_makeFolder htakes hgiven hopens hnone
    rw [Disk.makeOrKeep, hmade]
    exact ⟨rfl, hmakes⟩
  · have hthere : d.HasFolder (follow (d.start p) p.steps) :=
      Classical.byContradiction fun hnot => hnone (view_eq_none_of_not hnot hfree)
    have hall : d.Opens (d.start p) p.steps := fun x hx =>
      (Path.mem_way_dropLast.mp hx).elim (hopens x) fun heq => heq ▸ hthere
    rw [Disk.makeOrKeep, makeFolder_of_view htakes hgiven hopens hnone]
    dsimp only
    rw [if_pos (isFolder_iff.mpr ⟨hgiven, htakes, hall⟩)]
    exact ⟨rfl, .refl fun x hx => by rwa [List.mem_singleton.mp hx]⟩

/-- A folder is only made where it can be and nothing is. -/
theorem canAdd_of_makeFolder (h : d.makeFolder p = .ok d') :
    d.CanAdd p ∧ d.view (follow (d.start p) p.steps) = none := by
  obtain ⟨pos, n, hplaces, hnone, -⟩ := places_of_makeFolder h
  obtain ⟨htakes, hopens, hfollow⟩ := hplaces.opens
  have hview : d.view (follow (d.start p) p.steps) = none := hfollow ▸ view_eq_none.mpr hnone
  refine ⟨⟨(check_eq_ok.mp hplaces.accepted).2.1, htakes, hopens, ?_⟩, hview⟩
  rintro ⟨content, hcontent⟩
  rw [hview] at hcontent
  cases hcontent

/-- A folder is made or kept exactly if this can be done. -/
theorem makeOrKeep_eq_ok : (d.makeOrKeep p).1 = .ok () ↔ d.CanAdd p := by
  refine ⟨fun h => ?_, fun h => h.makeOrKeep.1⟩
  rw [makeOrKeep] at h
  split at h
  · next d' hmade => exact (canAdd_of_makeFolder hmade).1
  · split at h
    · next hthere =>
      obtain ⟨hgiven, htakes, hopens⟩ := isFolder_iff.mp hthere
      exact ⟨hgiven, htakes, hopens.of_isPrefix (List.dropLast_prefix _),
        hopens.hasFolder.not_hasFile⟩
    · cases h

/-! ## All folders of a path -/

/-- A path ends in single dots after a name, but the folder of that name is not there, nor has it
been passed through on the way. -/
def Lacks (d : Disk) (pos : Position) (cs : List Component) : Prop :=
  ∃ init n, Path.DotsAfter init n cs ∧ follow pos (init ++ [.name n]) ∉ way pos init ∧
    ¬d.HasFolder (follow pos (init ++ [.name n]))

/-- All folders of a path can be made: no file is in the way, and where the path ends in single dots
after a name, the folder of that name is not lacking. -/
structure CanMake (d : Disk) (p : Path) : Prop where
  takes : Takes p
  free : ∀ x ∈ way (d.start p) p.steps, ¬d.HasFile x
  based : ¬d.Lacks (d.start p) p.steps

/-- If the last folder of a path can be made with those above it being there, all can be made. -/
theorem CanAdd.canMake (h : d.CanAdd p) : d.CanMake p where
  takes := h.takes
  free x hx := by
    rcases Path.mem_way_dropLast.mp hx with hx | rfl
    · exact (h.opens x hx).not_hasFile
    · exact h.free
  based := by
    rintro ⟨init, n, hdots, -, hnot⟩
    exact hnot (h.opens _ (Path.mem_way_of_isPrefix hdots.isPrefix Path.follow_mem_way))

/-- The folder above the last component of a path is not reached because something is missing, or
because a file is on the way. -/
theorem before_eq_error (htakes : Takes p) (hgiven : p.bytes ≠ []) (h : d.before p = .error f) :
    f = .notFound ∨ ∃ x ∈ way (d.start p) p.steps, d.HasFile x := by
  have hshort : ∀ c ∈ p.steps.dropLast, c.IsShort := fun c hc =>
    htakes.shortNames c (List.dropLast_subset _ hc)
  have hway : ∀ x ∈ way (d.start p) p.steps.dropLast, x ∈ way (d.start p) p.steps := fun x hx =>
    Path.mem_way_of_isPrefix (List.dropLast_prefix _) hx
  rw [before, htakes.check hgiven] at h
  simp only [bind, Except.bind] at h
  cases hwalk : d.walk (d.start p) p.steps.dropLast with
  | error g =>
    rw [hwalk] at h
    cases h
    obtain hnone | ⟨x, hx, hfile⟩ := walk_eq_error hshort hwalk
    · exact .inl hnone
    · exact .inr ⟨x, hway x hx, hfile⟩
  | ok reached =>
    rw [hwalk] at h
    cases henter : d.enter reached with
    | error g =>
      simp only [henter] at h
      cases h
      refine (enter_eq_error henter).imp_right fun hfile => ⟨reached, hway _ ?_, hfile⟩
      rw [eq_follow_of_walk hwalk]
      exact Path.follow_mem_way
    | ok _ =>
      simp only [henter] at h
      cases h

/-- If all folders of a path can be made and the last cannot fail for want of another, those above
it are there. -/
theorem CanMake.canAdd (h : d.CanMake p) (hgiven : p.bytes ≠ [])
    (hmade : d.makeFolder p ≠ .error .notFound) : d.CanAdd p := by
  refine ⟨hgiven, h.takes, ?_, h.free _ Path.follow_mem_way⟩
  cases hbefore : d.before p with
  | error f =>
    rcases before_eq_error h.takes hgiven hbefore with rfl | ⟨x, hx, hfile⟩
    · refine absurd ?_ hmade
      unfold makeFolder
      rw [hbefore]
      rfl
    · exact absurd hfile (h.free x hx)
  | ok reached =>
    obtain ⟨-, hwalk, hfolder, -⟩ := before_eq_ok.mp hbefore
    exact (walk_opens.mp ⟨hwalk, hfolder⟩).2.1

/-- A folder starts where its path does. -/
theorem start_parent (d : Disk) (hq : p.parent? = some q) : d.start q = d.start p := by
  rw [start, start, (Path.parent?_prefix hq).2.2]

/-- The folder of a path does not end in single dots. -/
theorem not_lacks_parent (hq : p.parent? = some q) : ¬d.Lacks pos q.steps := by
  rintro ⟨init, n, hdots, -⟩
  obtain ⟨c, -, above, -, hsteps⟩ := Path.steps_of_parent? hq
  exact hdots.trimHere_ne (hsteps ▸ Path.trimHere_trimHere above)

/-- If all folders of a path can be made, so can those of its folder. -/
theorem CanMake.parent (h : d.CanMake p) (hq : p.parent? = some q) : d.CanMake q := by
  refine ⟨h.takes.parent hq, fun x hx => ?_, not_lacks_parent hq⟩
  rw [start_parent d hq] at hx
  exact h.free x (Path.mem_way_of_isPrefix (Path.parent?_prefix hq).2.1 hx)

/-- With the folders of its folder those above the last component of a path are there, if all can be
made. -/
theorem CanMake.opens_dropLast (h : d.CanMake p) (hq : p.parent? = some q)
    (hmade : d.MakesFolders (way (d.start p) q.steps) made) :
    made.Opens (d.start p) p.steps.dropLast := by
  obtain ⟨c, hc, above, htrim, -⟩ := Path.steps_of_parent? hq
  obtain ⟨heres, hp, hheres⟩ := Path.exists_trimHere_append p.steps
  rw [htrim] at hp
  have hthere : made.Opens (d.start p) above := fun x hx =>
    hmade.hasFolder.mpr (.inl ((Path.mem_way_parent hq htrim).mpr hx))
  rw [hp]
  rcases List.eq_nil_or_concat' heres with rfl | ⟨init, last, rfl⟩
  · rw [List.append_nil, List.dropLast_concat]
    exact hthere
  rw [← List.append_assoc, List.dropLast_concat]
  rw [List.forall_mem_append] at hheres
  intro x hx
  rw [Path.mem_way_append_here hheres.1, Path.mem_way_concat, Path.follow_concat] at hx
  rcases hx with hx | rfl
  · exact hthere x hx
  cases c with
  | here => exact absurd rfl hc
  | up => exact hthere.hasFolder.dropLast
  | name n =>
    -- The path ends in single dots after the name, whose folder is not lacking.
    refine Classical.byContradiction fun hnot => h.based ⟨above, n, ?_, ?_, ?_⟩
    · refine ⟨init ++ [last], by simp, List.forall_mem_append.mpr hheres, ?_⟩
      rw [hp, List.append_assoc, List.singleton_append]
    · rw [Path.follow_concat]
      exact fun hx => hnot (hthere _ hx)
    · rw [Path.follow_concat]
      exact fun hfolder => hnot (hmade.hasFolder.mpr (.inr hfolder))

/-- With the folders of its folder all folders of a path can be made, if the last one can. -/
theorem canAdd_iff_canMake (hq : p.parent? = some q) (hgiven : p.bytes ≠ []) (hcan : d.CanMake q)
    (hmade : d.MakesFolders (way (d.start p) q.steps) made) : made.CanAdd p ↔ d.CanMake p := by
  have hstart : made.start p = d.start p := by rw [start, start, hmade.working]
  constructor
  · intro hadd
    refine ⟨hadd.takes, fun x hx hfile => ?_, ?_⟩
    · by_cases hxq : x ∈ way (d.start p) q.steps
      · exact hcan.free x (start_parent d hq ▸ hxq) hfile
      · exact hadd.canMake.free x (hstart ▸ hx) (hmade.hasFile.mpr ⟨hxq, hfile⟩)
    · rintro ⟨init, n, hends, hnew, hnot⟩
      have hfolder : made.HasFolder (follow (d.start p) (init ++ [.name n])) :=
        hadd.opens _ (hstart ▸ Path.mem_way_of_isPrefix hends.isPrefix Path.follow_mem_way)
      rcases hmade.hasFolder.mp hfolder with hx | hx
      · exact hnew ((Path.mem_way_parent hq hends.trimHere_eq).mp hx)
      · exact hnot hx
  · intro h
    refine ⟨hgiven, h.takes, ?_, ?_⟩
    · rw [hstart]
      exact h.opens_dropLast hq hmade
    · rw [hstart, hmade.hasFile, not_and]
      exact fun _ => h.free _ Path.follow_mem_way

/-- A path without a folder is the start, with single dots at most. -/
theorem not_canMake_of_parent? (hq : p.parent? = none) (hgiven : p.bytes ≠ [])
    (hstart : d.HasFolder (d.start p)) (hmissing : d.makeFolder p = .error .notFound) :
    ¬d.CanMake p := by
  intro h
  obtain ⟨heres, hsteps, hheres⟩ := Path.exists_trimHere_append p.steps
  rw [Path.trimHere_of_parent?_eq_none hq] at hsteps
  have hopens : d.Opens (d.start p) p.steps := by
    intro x hx
    rw [hsteps, Path.mem_way_append_here hheres, Path.mem_way_nil] at hx
    rwa [hx]
  have hthere : d.makeFolder p = .error .exists := by
    refine makeFolder_of_view h.takes hgiven (hopens.of_isPrefix (List.dropLast_prefix _)) ?_
    simp [view_eq_folder.mpr hopens.hasFolder]
  rw [hthere] at hmissing
  cases hmissing

/-- With the last folder of a path those above it are there. -/
theorem CanAdd.makesFolders (h : d.CanAdd p) :
    d.MakesFolders (way (d.start p) p.steps) (d.makeOrKeep p).2 := by
  obtain ⟨-, hlast⟩ := h.makeOrKeep
  have hnone : d.MakesFolders [] d := .refl (by simp)
  refine hnone.trans hlast ?_ fun x hx => ?_
  · intro x hx
    obtain rfl := List.mem_singleton.mp (hx.resolve_left List.not_mem_nil)
    exact Path.follow_mem_way
  · rw [hlast.hasFolder, List.mem_singleton]
    exact (Path.mem_way_dropLast.mp hx).symm.imp_right (h.opens x)

/-- Nothing need be made for the empty path. -/
theorem canMake_of_bytes_eq_nil (hempty : p.bytes = []) (hstart : d.HasFolder (d.start p)) :
    d.CanMake p ∧ d.MakesFolders (way (d.start p) p.steps) d := by
  have hsteps : p.steps = [] := by
    rw [Path.steps, hempty]
    rfl
  have hopens : ∀ x ∈ way (d.start p) p.steps, d.HasFolder x := by
    intro x hx
    rw [hsteps, Path.mem_way_nil] at hx
    rwa [hx]
  refine ⟨⟨⟨by simp [hempty], by simp [hempty, maxPath], by simp [hsteps]⟩,
    fun x hx => (hopens x hx).not_hasFile, ?_⟩, .refl hopens⟩
  rintro ⟨init, n, ⟨heres, -, -, hends⟩, -⟩
  simp [hsteps] at hends

/-- Only where something is missing the folders above the last are made first. -/
theorem makeFoldersWithin_of_ne (fuel : Nat) (hgiven : p.bytes ≠ [])
    (hmade : d.makeFolder p ≠ .error .notFound) :
    makeFoldersWithin (fuel + 1) d p = d.makeOrKeep p := by
  rw [makeFoldersWithin, if_neg (mt List.isEmpty_iff.mp hgiven)]
  split
  · contradiction
  · rfl

/-- All folders of a path are made, and nothing else, if they can be made. -/
theorem makeFoldersWithin_spec {fuel : Nat} (hfuel : p.bytes.length < fuel)
    (hstart : d.HasFolder (d.start p)) :
    ((makeFoldersWithin fuel d p).1 = .ok () ↔ d.CanMake p) ∧
      (d.CanMake p →
        d.MakesFolders (way (d.start p) p.steps) (makeFoldersWithin fuel d p).2) := by
  induction fuel generalizing p with
  | zero => exact absurd hfuel (Nat.not_lt_zero _)
  | succ fuel ih =>
    by_cases hempty : p.bytes = []
    · obtain ⟨hcan, hmakes⟩ := canMake_of_bytes_eq_nil hempty hstart
      rw [makeFoldersWithin, if_pos (List.isEmpty_iff.mpr hempty)]
      exact ⟨iff_of_true rfl hcan, fun _ => hmakes⟩
    by_cases hmissing : d.makeFolder p = .error .notFound
    · rw [makeFoldersWithin, if_neg (mt List.isEmpty_iff.mp hempty), hmissing]
      dsimp only
      cases hq : p.parent? with
      | none =>
        have hnot := not_canMake_of_parent? hq hempty hstart hmissing
        exact ⟨iff_of_false (by simp) hnot, fun h => absurd h hnot⟩
      | some q =>
        have hstart' := start_parent d hq
        have hshorter := Path.length_of_parent? hq
        obtain ⟨hanswer, hmakes⟩ := ih (by omega) (hstart'.symm ▸ hstart)
        dsimp only
        generalize makeFoldersWithin fuel d q = above at hanswer hmakes
        obtain ⟨_ | _, made⟩ := above
        · have hnot : ¬d.CanMake p := by
            intro h
            cases hanswer.mpr (h.parent hq)
          exact ⟨iff_of_false (by simp) hnot, fun h => absurd h hnot⟩
        · have hcan := hanswer.mp rfl
          have hmade := hmakes hcan
          rw [hstart'] at hmade
          have hiff := canAdd_iff_canMake hq hempty hcan hmade
          refine ⟨makeOrKeep_eq_ok.trans hiff, fun h => ?_⟩
          have hlast := (hiff.mpr h).makesFolders
          rw [show made.start p = d.start p by rw [start, start, hmade.working]] at hlast
          refine hmade.trans hlast ?_ fun x hx => hlast.hasFolder.mpr (.inl hx)
          exact fun x hx => hx.elim (Path.mem_way_of_isPrefix (Path.parent?_prefix hq).2.1) id
    · rw [makeFoldersWithin_of_ne fuel hempty hmissing]
      have hiff : d.CanAdd p ↔ d.CanMake p := ⟨CanAdd.canMake, fun h => h.canAdd hempty hmissing⟩
      exact ⟨makeOrKeep_eq_ok.trans hiff, fun h => (hiff.mpr h).makesFolders⟩

/-- All folders of a path are made exactly if they can be made. -/
theorem makeFolders_eq_ok (hstart : d.HasFolder (d.start p)) :
    (d.makeFolders p).1 = .ok () ↔ d.CanMake p :=
  (makeFoldersWithin_spec (Nat.lt_succ_self _) hstart).1

/-- Where all folders of a path can be made nothing else changes. -/
theorem CanMake.makesFolders (h : d.CanMake p) (hstart : d.HasFolder (d.start p)) :
    d.MakesFolders (way (d.start p) p.steps) (d.makeFolders p).2 :=
  (makeFoldersWithin_spec (Nat.lt_succ_self _) hstart).2 h

/-- After folders that are there no other folder is lacking. -/
theorem lacks_append (hopens : d.Opens pos cs) :
    d.Lacks pos (cs ++ more) ↔ d.Lacks (follow pos cs) more := by
  constructor
  · rintro ⟨init, n, ⟨heres, hne, hheres, hends⟩, hnew, hnot⟩
    have hwithin : ¬init ++ [.name n] <+: cs := fun hprefix =>
      hnot (hopens _ (Path.mem_way_of_isPrefix hprefix Path.follow_mem_way))
    have hsplit : ∃ rest, init = cs ++ rest ∧ more = rest ++ .name n :: heres := by
      rcases List.append_eq_append_iff.mp hends with ⟨rest, hinit, hmore⟩ | ⟨rest, hcs, hmore⟩
      · exact ⟨rest, hinit, hmore⟩
      · cases rest with
        | nil => exact ⟨[], by simpa using hcs.symm, hmore.symm⟩
        | cons c rest =>
          obtain ⟨rfl, -⟩ := List.cons.inj hmore
          exact absurd ⟨rest, by rw [hcs, List.append_assoc, List.singleton_append]⟩ hwithin
    obtain ⟨rest, rfl, rfl⟩ := hsplit
    rw [List.append_assoc, Path.follow_append] at hnew hnot
    refine ⟨rest, n, ⟨heres, hne, hheres, rfl⟩, fun hx => ?_, hnot⟩
    exact hnew (Path.mem_way_append.mpr (.inr hx))
  · rintro ⟨init, n, ⟨heres, hne, hheres, rfl⟩, hnew, hnot⟩
    rw [← Path.follow_append, ← List.append_assoc] at hnew hnot
    refine ⟨cs ++ init, n, ⟨heres, hne, hheres, (List.append_assoc ..).symm⟩, fun hx => ?_, hnot⟩
    exact (Path.mem_way_append.mp hx).elim (fun hx => hnot (hopens _ hx)) hnew

/-! ## Writing a file -/

/-- A file can be written: the folders above it are there, its path ends in its name, and no folder
has its place. -/
structure CanWrite (d : Disk) (p : Path) : Prop where
  takes : Takes p
  opens : d.Opens (d.start p) p.steps.dropLast
  named : ∃ n, p.steps.getLast? = some (.name n)
  file : asksFolder p = false
  vacant : ¬d.HasFolder (follow (d.start p) p.steps)

/-- A file is only written if it can be. -/
theorem canWrite_of_writeFile {content : Content} (h : d.writeFile p content = .ok d') :
    d.CanWrite p := by
  obtain ⟨pos, n, hplaces, hvacant, -⟩ := places_of_writeFile h
  obtain ⟨htakes, hopens, hfollow⟩ := hplaces.opens
  obtain ⟨init, hsteps, -⟩ := hplaces.way
  refine ⟨htakes, hopens, ⟨n, by rw [hsteps, List.getLast?_concat]⟩, ?_, hfollow ▸ hvacant⟩
  obtain ⟨⟨pos, last⟩, -, hrest⟩ := bind_eq_ok.mp h
  cases hasks : asksFolder p with
  | false => rfl
  | true =>
    rw [hasks] at hrest
    split at hrest <;> cases hrest

/-- A file that can be written is there afterwards, and nothing else changes. -/
theorem CanWrite.exists_writeFile (h : d.CanWrite p) (content : Content) :
    ∃ d', d.writeFile p content = .ok d' ∧ d'.working = d.working ∧
      ∀ x, d'.view x =
        if x = follow (d.start p) p.steps then some (some content) else d.view x := by
  obtain ⟨htakes, hopens, ⟨n, hlast⟩, hfile, hvacant⟩ := h
  have hgiven : p.bytes ≠ [] := by
    intro hempty
    rw [Path.steps, hempty] at hlast
    cases hlast
  have hbefore := before_eq_of_opens htakes hgiven hopens
  obtain ⟨init, hsteps⟩ := List.getLast?_eq_some_iff.mp hlast
  rw [hlast, hsteps, List.dropLast_concat] at hbefore
  rw [hsteps, List.dropLast_concat] at hopens
  rw [hsteps, Path.follow_concat, Component.lead] at hvacant ⊢
  have hshort : n.length ≤ maxName :=
    htakes.shortNames (.name n) (by rw [hsteps]; exact List.mem_concat_self)
  refine ⟨{ d with root := d.root.set (follow (d.start p) init ++ [n]) (.file content) }, ?_, rfl,
    fun x => ?_⟩
  · unfold writeFile
    rw [hbefore, hfile]
    simp only [bind, Except.bind, if_neg (Nat.not_lt.mpr hshort)]
    cases hget : d.root.get? (follow (d.start p) init ++ [n]) with
    | none => rfl
    | some e =>
      cases e with
      | file c => rfl
      | folder inside => exact absurd ⟨inside, hget⟩ hvacant
  · exact view_set (e := .file content) hopens.hasFolder hvacant (fun m rest => rfl) x

end Disk

end LayerPress
