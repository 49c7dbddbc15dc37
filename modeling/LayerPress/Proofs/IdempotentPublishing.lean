import LayerPress.Proofs.Publishing

/-!
# Publishing is an idempotent ensure

Alone with a conforming catalog, publishing a table makes sure that the workspace and the datastore
are there and leaves the feature type as published, whatever was there before. It never asks for
something to be created that is there. Publishing again changes nothing, and so does deleting the
feature type and publishing it again.
-/

namespace LayerPress

namespace Catalog

variable {c : Client} {root : Url} {p : Publication} {server : Server Holdings} {h : Holdings}

/-- Nothing is asked to be created that is there. -/
def CreatesMissing {α : Type} (root : Url) (server : Server Holdings)
    (left : Procedure exchange (Except Failure α)) (h : Holdings) : Prop :=
  ∀ visit ∈ Procedure.visits (S := exchange) server left h, ∀ (r : Resource) (d : r.Details),
    visit.1.Creates root r d → visit.2 r = none

/-- What is left of publishing comes to an answer and leaves these holdings, and never creates what
is there. -/
structure Brings (c : Client) (root : Url) (p : Publication) (server : Server Holdings)
    (h : Holdings) (stage : Stage) (answer : Except Failure PublishAction) (last : Holdings) :
    Prop where
  run : Procedure.run (S := exchange) server (stage.left c p) h = (answer, last)
  creates : CreatesMissing root server (stage.left c p) h

/-- Publishing that is over stays as it is. -/
theorem Brings.closed (answer : Except Failure PublishAction) :
    Brings c root p server h (.closed answer) answer h :=
  ⟨rfl, by simp [CreatesMissing, Stage.left, Procedure.visits]⟩

/-- Only making a resource is a request to create one. -/
theorem Step.missing_of_creates {s : Step}
    (hmade : ∀ level, s = .make level → h (p.resource level) = none) (r : Resource) (d : r.Details)
    (hcreates : (s.request c root p).Creates root r d) : h r = none := by
  cases s with
  | look level => exact absurd hcreates.1 (by simp [request])
  | update => exact absurd hcreates.1 (by simp [request])
  | make level =>
    obtain rfl := hcreates.eq (Step.creates_make c root p level)
    exact hmade level rfl

section
variable (hroot : Url.root? c.settings.restUrl = some root) (hplain : p.IsPlain)
include hroot hplain

/-- One step, and then the rest. -/
theorem Brings.step {s : Step} {reply : Reply} {after : Holdings}
    (hanswer : server (s.request c root p) h = (.ok reply, after))
    (hmade : ∀ level, s = .make level → h (p.resource level) = none)
    {answer : Except Failure PublishAction} {last : Holdings}
    (hrest : Brings c root p server after (s.after (.ok reply)) answer last) :
    Brings c root p server h (.doing s) answer last := by
  have hleft : (Stage.doing s).left c p = Procedure.perform (S := exchange) (s.request c root p)
      fun answer => (s.after answer).left c p := s.run_dialogue hroot hplain
  refine ⟨?_, ?_⟩
  · rw [hleft, Procedure.run, hanswer]
    exact hrest.run
  · rw [CreatesMissing, hleft, Procedure.visits, hanswer, List.forall_mem_cons]
    exact ⟨Step.missing_of_creates hmade, hrest.creates⟩

variable (hserver : Conforms root server)
include hserver

/-- A level that is missing is made. -/
theorem Brings.make {level : Level} (hfounded : p.Founded h level)
    (hmissing : h (p.resource level) = none) {answer : Except Failure PublishAction}
    {last : Holdings}
    (hrest : Brings c root p server (p.put c h level) (Step.made level) answer last) :
    Brings c root p server h (.doing (.make level)) answer last := by
  obtain ⟨reply, after, hanswer, hserved⟩ :=
    hserver.exists_served c (s := .make level) hfounded
  cases hserved with
  | refused has => exact absurd hmissing has.ne_none
  | made _ status =>
    refine Brings.step hroot hplain hanswer (fun other hother => ?_) ?_
    · cases hother
      exact hmissing
    · rw [Step.after, status]
      exact hrest

/-- A level that is looked for is passed if it is there, and made if it is not. -/
theorem Brings.look {level : Level} (hfounded : p.Founded h level)
    {answer : Except Failure PublishAction} {last : Holdings}
    (hpast : h.Has (p.resource level) →
      Brings c root p server h (.doing (Step.past level)) answer last)
    (hmade : h (p.resource level) = none →
      Brings c root p server (p.put c h level) (Step.made level) answer last) :
    Brings c root p server h (.doing (.look level)) answer last := by
  obtain ⟨reply, after, hanswer, hserved⟩ :=
    hserver.exists_served c (s := .look level) hfounded
  refine Brings.step hroot hplain hanswer nofun ?_
  cases hserved with
  | found has status =>
    rw [Step.after, status]
    exact hpast has
  | missing missing status =>
    rw [Step.after, if_neg (by simpa using status)]
    exact Brings.make hroot hplain hserver hfounded missing (hmade missing)

/-- A feature type that is there is updated. -/
theorem Brings.update (hfounded : p.Founded h .type) (hhas : h.Has (p.resource .type)) :
    Brings c root p server h (.doing .update) (.ok .updated) (p.put c h .type) := by
  obtain ⟨reply, after, hanswer, hserved⟩ :=
    hserver.exists_served c (s := .update) ⟨hfounded, hhas⟩
  cases hserved with
  | updated _ status =>
    refine Brings.step hroot hplain hanswer nofun ?_
    rw [Step.after, status]
    exact .closed _

end

/-- The feature type is updated if it is there, and created if it is not. -/
def Publication.action (p : Publication) (h : Holdings) : PublishAction :=
  if (h (p.resource .type)).isSome then .updated else .created

/-- The holdings with everything a publication needs, and with its feature type as published. -/
def Publication.ensured (c : Client) (p : Publication) (h : Holdings) : Holdings :=
  p.put c (p.put c (p.put c h .workspace) .store) .type

/-- Making the workspace or the datastore does not change what is to be done about the feature
type. -/
theorem Publication.action_put {level : Level} (hlevel : level ≠ .type) (c : Client)
    (p : Publication) (h : Holdings) : p.action (p.put c h level) = p.action h := by
  rw [action, put_of_ne (p.type_ne_resource hlevel), action]

section
variable (hroot : Url.root? c.settings.restUrl = some root) (hplain : p.IsPlain)
  (hserver : Conforms root server)
include hroot hplain hserver

/-- Publishing from where the feature type is looked for. -/
theorem brings_type (hfounded : p.Founded h .type) :
    Brings c root p server h (.doing (.look .type)) (.ok (p.action h)) (p.put c h .type) := by
  refine Brings.look hroot hplain hserver hfounded (fun hhas => ?_) fun hmissing => ?_
  · have hsome : (h (p.resource .type)).isSome = true := hhas
    rw [Publication.action, if_pos hsome]
    exact Brings.update hroot hplain hserver hfounded hhas
  · rw [Publication.action, hmissing]
    exact .closed _

/-- Publishing from where the datastore is looked for. -/
theorem brings_store (hfounded : p.Founded h .store) :
    Brings c root p server h (.doing (.look .store)) (.ok (p.action h))
      (p.put c (p.put c h .store) .type) := by
  have hworkspace := Publication.founded_store.mp hfounded
  refine Brings.look hroot hplain hserver hfounded (fun hhas => ?_) fun _ => ?_
  · rw [Publication.put_of_has (by decide) hhas]
    exact brings_type hroot hplain hserver (Publication.founded_type.mpr ⟨hworkspace, hhas⟩)
  · rw [← p.action_put (show Level.store ≠ .type by decide) c h]
    exact brings_type hroot hplain hserver (Publication.founded_type.mpr
      ⟨Publication.has_put_of_has hworkspace c p .store, p.has_put c h .store⟩)

/-- Publishing from its beginning. -/
theorem brings_workspace (h : Holdings) :
    Brings c root p server h (.doing (.look .workspace)) (.ok (p.action h)) (p.ensured c h) := by
  refine Brings.look hroot hplain hserver (p.founded_workspace h) (fun hhas => ?_) fun _ => ?_
  · rw [Publication.ensured, Publication.put_of_has (by decide) hhas]
    exact brings_store hroot hplain hserver (Publication.founded_store.mpr hhas)
  · rw [← p.action_put (show Level.workspace ≠ .type by decide) c h]
    exact brings_store hroot hplain hserver (Publication.founded_store.mpr
      (p.has_put c h .workspace))

end

/-! ## Deleting -/

/-- Deleting a feature type is one exchange. -/
theorem Client.run_delete (hroot : Url.root? c.settings.restUrl = some root) (hplain : p.IsPlain) :
    (c.delete p.table p.workspace p.store).run = Procedure.perform (S := exchange)
      ⟨"DELETE", (p.resource .type).wholeUrl root, c.authorization, none⟩
      (onReply fun reply => (Client.accept [200, 204] reply).run) := by
  have hpath : ∀ s ∈ ((p.resource .type).folder ++ [(p.resource .type).name]).map String.toList,
      Url.IsSegment s := by
    rw [List.map_append, List.forall_mem_append]
    exact ⟨hplain.folder .type, List.forall_mem_singleton.mpr (hplain.name .type)⟩
  have htext : (featureTypesPath p.workspace p.store ++ "/" ++ p.table ++ "?recurse=true").toList =
      Url.written (((p.resource .type).folder ++ [(p.resource .type).name]).map String.toList) ++
        '?' :: "recurse=true".toList := by
    simp [Publication.resource, Resource.folder, Resource.name, Url.written, featureTypesPath]
  have hurl : Url.parse? (c.settings.restUrl ++
      (featureTypesPath p.workspace p.store ++ "/" ++ p.table ++ "?recurse=true")) =
      some ((p.resource .type).wholeUrl root) := by
    rw [← String.ofList_toList (s := _ ++ "?recurse=true"), htext,
      Url.parse?_path_query hroot (by simp) hpath (by decide +kernel)]
    rfl
  exact run_exchange_bind (c.run_send_of_parse? hurl "DELETE" none) _

/-- A feature type that is there is deleted. -/
theorem converse_delete (hroot : Url.root? c.settings.restUrl = some root) (hplain : p.IsPlain)
    (hserver : Conforms root server) (hhas : h.Has (p.resource .type)) :
    converse server (c.delete p.table p.workspace p.store) h =
      (.ok (), Function.update h (p.resource .type) none) := by
  obtain ⟨reply, hanswer, hstatus⟩ := hserver.delete
    ⟨"DELETE", (p.resource .type).wholeUrl root, c.authorization, none⟩ h p.workspace p.store
    p.table rfl rfl hhas
  rw [converse, Client.run_delete hroot hplain, Procedure.run, hanswer]
  change Procedure.run (S := exchange) server (Client.accept [200, 204] reply).run _ = _
  rw [Client.accept, hstatus]
  rfl

/-- What follows a dialogue that has ended well goes on from where it ended. -/
theorem converse_bind {α β : Type} {d : Dialogue α} {a : α} {after : Holdings}
    (hd : converse server d h = (.ok a, after)) (k : α → Dialogue β) :
    converse server (d >>= k) h = converse server (k a) after := by
  change Procedure.run (S := exchange) server (d.run >>= _) h = _
  rw [Procedure.run_bind]
  rw [converse] at hd
  rw [hd]
  rfl

/-! ## Publishing, publishing again, and deleting in between -/

/-- The holdings after a publication: its workspace and its datastore are there, its feature type is
as published, and everything else is as it was before. -/
structure Publication.Ensures (c : Client) (p : Publication) (before after : Holdings) : Prop where
  workspace : after.Has (.workspace p.workspace)
  store : after.Has (.store p.workspace p.store)
  type : after (.type p.workspace p.store p.table) = some ⟨p.title, c.srs, true⟩
  others : ∀ r, r ≠ .workspace p.workspace → r ≠ .store p.workspace p.store →
    r ≠ .type p.workspace p.store p.table → after r = before r

/-- A publication has ensured what it needs. -/
theorem Publication.ensures_ensured (c : Client) (p : Publication) (h : Holdings) :
    p.Ensures c h (p.ensured c h) where
  workspace := has_put_of_has (has_put_of_has (p.has_put c h .workspace) c p .store) c p .type
  store := has_put_of_has (p.has_put c _ .store) c p .type
  type := Function.update_self ..
  others := by
    intro r hworkspace hstore htype
    have hnone (level : Level) : r ≠ p.resource level := by
      cases level with
      | workspace => exact hworkspace
      | store => exact hstore
      | type => exact htype
    rw [ensured, put_of_ne (hnone .type), put_of_ne (hnone .store), put_of_ne (hnone .workspace)]

/-- Where all else is there, only the feature type is put. -/
theorem Publication.ensured_of_has (hworkspace : h.Has (p.resource .workspace))
    (hstore : h.Has (p.resource .store)) (c : Client) : p.ensured c h = p.put c h .type := by
  rw [ensured, put_of_has (by decide) hworkspace, put_of_has (by decide) hstore]

/-- A publication that is there is not changed by being published. -/
theorem Publication.put_ensured (c : Client) (p : Publication) (h : Holdings) :
    p.put c (p.ensured c h) .type = p.ensured c h := by
  rw [ensured, put, put, Function.update_idem]

/-- What has been ensured is ensured again without a change. -/
theorem Publication.ensured_ensured (c : Client) (p : Publication) (h : Holdings) :
    p.ensured c (p.ensured c h) = p.ensured c h := by
  have hensures := p.ensures_ensured c h
  rw [ensured_of_has hensures.workspace hensures.store, put_ensured]

/-- What has been ensured is ensured again when the feature type has been deleted. -/
theorem Publication.ensured_deleted (c : Client) (p : Publication) (h : Holdings) :
    p.ensured c (Function.update (p.ensured c h) (p.resource .type) none) = p.ensured c h := by
  have hensures := p.ensures_ensured c h
  have hkept : ∀ level, level ≠ .type → (p.ensured c h).Has (p.resource level) →
      Holdings.Has (Function.update (p.ensured c h) (p.resource .type) none)
        (p.resource level) := by
    intro level hlevel hhas
    rw [Holdings.Has, Function.update_of_ne (p.type_ne_resource hlevel).symm]
    exact hhas
  rw [ensured_of_has (hkept .workspace (by decide) hensures.workspace)
    (hkept .store (by decide) hensures.store), put, Function.update_idem]
  exact p.put_ensured c h

/-- Publishing against a conforming catalog always succeeds and ensures what is published, creates
nothing that is there, and says whether the feature type was there; publishing again is an update
that changes nothing; and deleting the feature type and publishing it again creates it as it
was. -/
theorem publishing_ensures (c : Client) {root : Url}
    (hroot : Url.root? c.settings.restUrl = some root) {server : Server Holdings}
    (hserver : Conforms root server) (p : Publication) (hplain : p.IsPlain) (h : Holdings) :
    ∃ last, converse server (c.publish p.table p.title p.workspace p.store) h =
        (.ok (if (h (.type p.workspace p.store p.table)).isSome then .updated else .created), last) ∧
      p.Ensures c h last ∧
      CreatesMissing root server (c.publish p.table p.title p.workspace p.store).run h ∧
      converse server (c.publish p.table p.title p.workspace p.store) last = (.ok .updated, last) ∧
      converse server (c.delete p.table p.workspace p.store) last =
        (.ok (), Function.update last (.type p.workspace p.store p.table) none) ∧
      converse server (do
        c.delete p.table p.workspace p.store
        c.publish p.table p.title p.workspace p.store) last = (.ok .created, last) := by
  have hbrings := brings_workspace (c := c) hroot hplain hserver
  have hensures := p.ensures_ensured c h
  have hthere : p.action (p.ensured c h) = .updated := by
    rw [Publication.action, show p.ensured c h (p.resource .type) = _ from hensures.type]
    rfl
  have hdeleted : converse server (c.delete p.table p.workspace p.store) (p.ensured c h) =
      (.ok (), Function.update (p.ensured c h) (p.resource .type) none) :=
    converse_delete hroot hplain hserver (p.has_put c _ .type)
  have hgone : p.action (Function.update (p.ensured c h) (p.resource .type) none) = .created := by
    rw [Publication.action, Function.update_self]
    rfl
  refine ⟨p.ensured c h, (hbrings h).run, hensures, (hbrings h).creates, ?_, hdeleted, ?_⟩
  · have hagain := (hbrings (p.ensured c h)).run
    rw [hthere, p.ensured_ensured] at hagain
    exact hagain
  · have hrestored := (hbrings (Function.update (p.ensured c h) (p.resource .type) none)).run
    rw [hgone, p.ensured_deleted] at hrestored
    exact (converse_bind hdeleted _).trans hrestored

/-- A client of a catalog near by. -/
def Client.plain : Client where
  settings := ⟨"http://localhost:8080/geoserver/", "admin", "geoserver", "gis", "postgis", 30⟩
  spatial := ⟨"localhost", 5432, "gis", "loader", "secret", "public", .disable⟩
  targetSrid := 4326

/-- The root of the catalog near by. -/
def plainRoot : Url :=
  ⟨false, "localhost:8080".toList, ["geoserver".toList, "rest".toList], none⟩

/-- A table that is published into a workspace. -/
def Publication.plain (table : String) : Publication := ⟨table, "A table", "gis", "postgis"⟩

/-- The root of the catalog near by is read off the client's settings. -/
theorem root?_plain : Url.root? Client.plain.settings.restUrl = some plainRoot := by decide +kernel

/-- The plain names stand for themselves. -/
theorem Publication.isPlain_plain {table : String} (htable : Url.IsSegment table.toList) :
    (Publication.plain table).IsPlain := by
  have hworkspace : Url.IsSegment "gis".toList := by decide +kernel
  have hstore : Url.IsSegment "postgis".toList := by decide +kernel
  exact ⟨htable, hworkspace, hstore⟩

/-- A table is published into an empty catalog, and again after it has been deleted. -/
theorem publishing_ensures_plain :
    Url.root? Client.plain.settings.restUrl = some plainRoot ∧
      Conforms plainRoot (plainServer plainRoot) ∧ (Publication.plain "roads").IsPlain ∧
      ∃ last, converse (plainServer plainRoot)
          (Client.plain.publish "roads" "A table" "gis" "postgis") (fun _ => none) =
            (.ok .created, last) ∧
        (Publication.plain "roads").Ensures Client.plain (fun _ => none) last ∧
        converse (plainServer plainRoot) (do
          Client.plain.delete "roads" "gis" "postgis"
          Client.plain.publish "roads" "A table" "gis" "postgis") last = (.ok .created, last) := by
  have hserver := conforms_plainServer plainRoot
  have hplain : (Publication.plain "roads").IsPlain :=
    Publication.isPlain_plain (by decide +kernel)
  obtain ⟨last, hpublished, hensures, -, -, -, hrestored⟩ :=
    publishing_ensures Client.plain root?_plain hserver (Publication.plain "roads") hplain
      fun _ => none
  exact ⟨root?_plain, hserver, hplain, last, hpublished, hensures, hrestored⟩

end Catalog

end LayerPress
