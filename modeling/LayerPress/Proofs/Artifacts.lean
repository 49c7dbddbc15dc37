import LayerPress.Proofs.Course

/-!
# Tables and entries made and unmade

What an import makes outside the record store are a table and a catalog entry; a teardown
unmakes them. Who made or unmade an artifact, and in which order, is read off the deeds: only
calls that succeeded count, and the last of them tells whether the artifact is there.
-/

namespace LayerPress

/-- A table of the spatial database or an entry of the catalog, by name. -/
inductive Artifact where
  | table (name : String)
  | entry (name : String)
  deriving DecidableEq, Repr

/-- What a call does to an artifact. -/
inductive Touch where
  | made
  | unmade
  deriving DecidableEq, Repr

namespace ServiceCall

/-- The artifact a call is for and what it does to it; the table a conversion writes is its sixth
argument. -/
def touches? : ServiceCall → Option (Artifact × Touch)
  | .run _ (_ :: _ :: _ :: _ :: _ :: table :: _) _ => some (.table table, .made)
  | .publish table _ workspace _ => some (.entry (workspace ++ ":" ++ table), .made)
  | .drop table => some (.table table, .unmade)
  | .unpublish name workspace _ => some (.entry (workspace ++ ":" ++ name), .unmade)
  | _ => none

/-- The call did what it is for; a program must also have ended well. -/
def hasSucceeded : (c : ServiceCall) → Except Failure c.Value → Bool
  | .run .., .ok output => output.success
  | _, .ok _ => true
  | _, .error _ => false

end ServiceCall

/-- The artifact a deed touched and how. -/
def Deed.touch? : Deed → Option (Artifact × Touch)
  | ⟨_, .site (.call c), answer⟩ => if c.hasSucceeded answer then c.touches? else none
  | _ => none

/-- The touch of one artifact by a deed. -/
def Deed.touchOf? (d : Deed) (x : Artifact) : Option (Actor × Touch) :=
  match d.touch? with
  | some (y, how) => if y = x then some (d.actor, how) else none
  | none => none

/-- Who touched an artifact and how, the earliest first. -/
def touches (x : Artifact) (deeds : List Deed) : List (Actor × Touch) :=
  deeds.filterMap (·.touchOf? x)

/-- Who touched an artifact last and how. -/
def lastTouch? (x : Artifact) (deeds : List Deed) : Option (Actor × Touch) :=
  (touches x deeds).getLast?

/-- What a record says is there. -/
def Layer.artifacts (l : Layer) : List Artifact :=
  l.tableName.toList.map .table ++ l.catalogEntry.toList.map .entry

variable {x : Artifact} {deeds : List Deed} {d : Deed} {who : Actor} {how : Touch}

/-- The touch of an artifact is that of the deed. -/
theorem touchOf?_eq_some_iff :
    d.touchOf? x = some (who, how) ↔ d.actor = who ∧ d.touch? = some (x, how) := by
  unfold Deed.touchOf?
  cases htouch : d.touch? with
  | none => simp
  | some touched =>
    obtain ⟨y, how'⟩ := touched
    by_cases hy : y = x
    · simp [hy]
    · simp [hy]

/-- One more deed adds the touch it makes. -/
theorem touches_concat (x : Artifact) (deeds : List Deed) (d : Deed) :
    touches x (deeds ++ [d]) = touches x deeds ++ (d.touchOf? x).toList := by
  rw [touches, List.filterMap_append]
  cases htouch : d.touchOf? x <;> simp [touches, htouch]

/-- What was touched stays touched. -/
theorem mem_touches_concat (h : (who, how) ∈ touches x deeds) (d : Deed) :
    (who, how) ∈ touches x (deeds ++ [d]) := by
  rw [touches_concat]
  exact List.mem_append_left _ h

/-- A touch is an earlier one or that of the last deed. -/
theorem of_mem_touches_concat (h : (who, how) ∈ touches x (deeds ++ [d])) :
    (who, how) ∈ touches x deeds ∨ d.actor = who ∧ d.touch? = some (x, how) := by
  rw [touches_concat] at h
  rcases List.mem_append.mp h with h | h
  · exact .inl h
  · exact .inr (touchOf?_eq_some_iff.mp (Option.mem_toList.mp h))

/-- The last deed has touched what it touches. -/
theorem mem_touches_of_touch? (h : d.touch? = some (x, how)) :
    (d.actor, how) ∈ touches x (deeds ++ [d]) := by
  rw [touches_concat, touchOf?_eq_some_iff.mpr ⟨rfl, h⟩]
  exact List.mem_append_right _ (List.mem_singleton_self _)

/-- Who touched an artifact last has touched it. -/
theorem mem_touches_of_lastTouch? (h : lastTouch? x deeds = some (who, how)) :
    (who, how) ∈ touches x deeds :=
  List.mem_of_getLast? h

/-- The last touch is that of the last deed, if it made one. -/
theorem lastTouch?_concat (x : Artifact) (deeds : List Deed) (d : Deed) :
    lastTouch? x (deeds ++ [d]) = (d.touchOf? x).or (lastTouch? x deeds) := by
  rw [lastTouch?, touches_concat]
  cases d.touchOf? x <;> simp [lastTouch?]

/-- The names of a record are its artifacts. -/
theorem Layer.mem_artifacts {l : Layer} :
    x ∈ l.artifacts ↔ (∃ t, l.tableName = some t ∧ x = .table t) ∨
      ∃ e, l.catalogEntry = some e ∧ x = .entry e := by
  simp only [artifacts, List.mem_append, List.mem_map, Option.mem_toList]
  constructor
  · rintro (⟨t, ht, rfl⟩ | ⟨e, he, rfl⟩)
    · exact .inl ⟨t, ht, rfl⟩
    · exact .inr ⟨e, he, rfl⟩
  · rintro (⟨t, ht, rfl⟩ | ⟨e, he, rfl⟩)
    · exact .inl ⟨t, ht, rfl⟩
    · exact .inr ⟨e, he, rfl⟩

end LayerPress
