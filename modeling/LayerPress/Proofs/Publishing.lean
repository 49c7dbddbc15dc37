import LayerPress.Proofs.Holdings
import LayerPress.Proofs.Transcript

/-!
# Publishing step by step

The dialogue that publishes a table looks for the workspace, the datastore and the feature type in
this order and makes each that it does not find, or updates the feature type if it finds it. What is
left of the dialogue at each step is given here in closed form: one request, and the step that
follows each answer. A conforming catalog answers every step, so that the dialogue comes to its end
and what it leaves is known.
-/

namespace LayerPress.Catalog

/-- A table that is to be published. -/
structure Publication where
  table : String
  title : String
  workspace : String
  store : String
  deriving DecidableEq, Repr

/-- The three levels of a catalog. -/
inductive Level where
  | workspace
  | store
  | type
  deriving DecidableEq, Repr

/-- A step of publishing: a resource is looked for or made, or the feature type is updated. -/
inductive Step where
  | look (level : Level)
  | make (level : Level)
  | update
  deriving DecidableEq, Repr

/-- Where publishing stands. -/
inductive Stage where
  | doing (step : Step)
  | closed (answer : Except Failure PublishAction)

namespace Publication

/-- The resource that a publication needs on a level. -/
def resource (p : Publication) : Level → Resource
  | .workspace => .workspace p.workspace
  | .store => .store p.workspace p.store
  | .type => .type p.workspace p.store p.table

/-- The feature type of a published table. -/
def featureType (c : Client) (p : Publication) : FeatureType := ⟨p.title, c.srs, true⟩

/-- What a publication makes of the resource on a level. -/
def details (c : Client) (p : Publication) : (level : Level) → (p.resource level).Details
  | .workspace => ()
  | .store => ()
  | .type => p.featureType c

/-- The document that makes the resource on a level. -/
def document (c : Client) (p : Publication) : Level → Json
  | .workspace => Client.workspaceDocument p.workspace
  | .store => c.datastoreDocument p.store
  | .type => c.createDocument p.table p.title

/-- The names of a publication stand for themselves in an address. -/
structure IsPlain (p : Publication) : Prop where
  table : Url.IsSegment p.table.toList
  workspace : Url.IsSegment p.workspace.toList
  store : Url.IsSegment p.store.toList

/-- The dialogue that publishes a table. -/
def dialogue (c : Client) (p : Publication) : Dialogue PublishAction :=
  c.publish p.table p.title p.workspace p.store

end Publication

namespace Step

/-- The request of a step. -/
def request (c : Client) (root : Url) (p : Publication) : Step → Request
  | look level => ⟨"GET", (p.resource level).documentUrl root, c.authorization, none⟩
  | make level =>
    ⟨"POST", (p.resource level).folderUrl root, c.authorization, some (p.document c level)⟩
  | update =>
    ⟨"PUT", (p.resource .type).documentUrl root, c.authorization,
      some (c.updateDocument p.table p.title)⟩

/-- Where publishing stands when a level is there. -/
def past : Level → Step
  | .workspace => look .store
  | .store => look .type
  | .type => update

/-- Where publishing stands when a resource on a level has been made. -/
def made : Level → Stage
  | .workspace => .doing (look .store)
  | .store => .doing (look .type)
  | .type => .closed (.ok .created)

/-- Where publishing stands after an answer. -/
def after : Step → Except String Reply → Stage
  | _, .error e => .closed (.error (.catalogUnreachable e))
  | look level, .ok reply => .doing (if reply.status == 200 then past level else make level)
  | make level, .ok reply =>
    if [200, 201].contains reply.status then made level
    else .closed (.error (.catalogRequestFailed reply.status reply.body))
  | update, .ok reply =>
    if [200, 201].contains reply.status then .closed (.ok .updated)
    else .closed (.error (.catalogRequestFailed reply.status reply.body))

end Step

/-- What is left of a dialogue when the datastore is there. -/
def Publication.typeDialogue (c : Client) (p : Publication) : Dialogue PublishAction := do
  let types := Client.featureTypesPath p.workspace p.store
  let own := types ++ "/" ++ p.table ++ ".json"
  if ← c.isThere own then
    c.change "PUT" own (c.updateDocument p.table p.title)
    return .updated
  else
    c.change "POST" types (c.createDocument p.table p.title)
    return .created

/-- What is left of a dialogue when the workspace is there. -/
def Publication.storeDialogue (c : Client) (p : Publication) : Dialogue PublishAction := do
  c.ensureDatastore p.store p.workspace
  p.typeDialogue c

/-- What is left of a dialogue when the resource on a level has been made. -/
def Publication.madeDialogue (c : Client) (p : Publication) : Level → Dialogue PublishAction
  | .workspace => p.storeDialogue c
  | .store => p.typeDialogue c
  | .type => return .created

/-- The path of the folder of a resource, as it is written after the root. -/
def Publication.folderText (p : Publication) : Level → String
  | .workspace => "/workspaces"
  | .store => "/workspaces/" ++ p.workspace ++ "/datastores"
  | .type => Client.featureTypesPath p.workspace p.store

/-- The path of the document of a resource, as it is written after the root. -/
def Publication.documentText (p : Publication) : Level → String
  | .workspace => "/workspaces/" ++ p.workspace ++ ".json"
  | .store => "/workspaces/" ++ p.workspace ++ "/datastores" ++ "/" ++ p.store ++ ".json"
  | .type => Client.featureTypesPath p.workspace p.store ++ "/" ++ p.table ++ ".json"

/-- What is left of a dialogue at a step. -/
def Step.dialogue (c : Client) (p : Publication) : Step → Dialogue PublishAction
  | look .workspace => p.dialogue c
  | look .store => p.storeDialogue c
  | look .type => p.typeDialogue c
  | make level => do
    c.change "POST" (p.folderText level) (p.document c level)
    p.madeDialogue c level
  | update => do
    c.change "PUT" (p.documentText .type) (c.updateDocument p.table p.title)
    return .updated

/-- What is left of a dialogue at a stage. -/
def Stage.left (c : Client) (p : Publication) :
    Stage → Procedure exchange (Except Failure PublishAction)
  | doing step => (step.dialogue c p).run
  | closed answer => .result answer

/-- The method of a step. -/
def Step.method : Step → String
  | look _ => "GET"
  | make _ => "POST"
  | update => "PUT"

/-- The path of a step, as it is written after the root. -/
def Step.text (p : Publication) : Step → String
  | look level => p.documentText level
  | make level => p.folderText level
  | update => p.documentText .type

/-- The document that is sent at a step. -/
def Step.body (c : Client) (p : Publication) : Step → Option Json
  | look _ => none
  | make level => some (p.document c level)
  | update => some (c.updateDocument p.table p.title)

/-- The request of a step, to an address. -/
def Step.requestTo (c : Client) (p : Publication) (step : Step) (url : Url) : Request :=
  ⟨step.method, url, c.authorization, step.body c p⟩

/-! ## What is left at each step -/

/-- Goes on with a reply; a fault of the transport ends a dialogue. -/
def onReply {α : Type} (k : Reply → Procedure exchange (Except Failure α)) :
    Except String Reply → Procedure exchange (Except Failure α)
  | .ok reply => k reply
  | .error e => .result (.error (.catalogUnreachable e))

section
variable {c : Client} {root : Url} {p : Publication}

/-- A name that stands for itself does so with the ending of a document. -/
theorem isSegment_document {name : String} (h : Url.IsSegment name.toList) :
    Url.IsSegment (name ++ ".json").toList := by
  have hjson : Url.IsSegment ".json".toList := by decide +kernel
  rw [String.toList_append]
  have hlength : 5 ≤ (name.toList ++ ".json".toList).length := by
    rw [List.length_append]
    exact Nat.le_add_left 5 _
  refine ⟨?_, fun h => ?_, fun h => ?_⟩
  · rw [List.forall_mem_append]
    exact ⟨h.plain, hjson.plain⟩
  · rw [h] at hlength
    exact absurd hlength (by decide)
  · rw [h] at hlength
    exact absurd hlength (by decide)

/-- The folders of a publication are written as they are. -/
theorem Publication.IsPlain.folder (h : p.IsPlain) (level : Level) :
    ∀ s ∈ (p.resource level).folder.map String.toList, Url.IsSegment s := by
  have hworkspaces : Url.IsSegment "workspaces".toList := by decide +kernel
  have hdatastores : Url.IsSegment "datastores".toList := by decide +kernel
  have htypes : Url.IsSegment "featuretypes".toList := by decide +kernel
  rw [List.forall_mem_map]
  cases level with
  | workspace => exact List.forall_mem_singleton.mpr hworkspaces
  | store =>
    simp only [resource, Resource.folder, List.forall_mem_cons]
    exact ⟨hworkspaces, h.workspace, hdatastores, by simp⟩
  | type =>
    simp only [resource, Resource.folder, List.forall_mem_cons]
    exact ⟨hworkspaces, h.workspace, hdatastores, h.store, htypes, by simp⟩

/-- The name of a resource of a publication is written as it is. -/
theorem Publication.IsPlain.name (h : p.IsPlain) (level : Level) :
    Url.IsSegment (p.resource level).name.toList := by
  cases level with
  | workspace => exact h.workspace
  | store => exact h.store
  | type => exact h.table

/-- Sending a request to an address that can be read is one exchange. -/
theorem Client.run_send_of_parse? {text : String} {url : Url}
    (hurl : Url.parse? (c.settings.restUrl ++ text) = some url) (method : String)
    (body : Option Json) : (c.send method text body).run = Procedure.perform (S := exchange)
      ⟨method, url, c.authorization, body⟩ fun answer =>
        .result (answer.mapError Failure.catalogUnreachable) := by
  rw [Client.send, hurl]
  rfl

/-- What follows one exchange goes on with the reply, unless the transport failed. -/
theorem run_exchange_bind {d : Dialogue Reply} {request : Request}
    (hd : d.run = Procedure.perform (S := exchange) request fun answer =>
      .result (answer.mapError Failure.catalogUnreachable)) {α : Type} (k : Reply → Dialogue α) :
    (d >>= k).run =
      Procedure.perform (S := exchange) request (onReply fun reply => (k reply).run) := by
  change d.run.andThen _ = _
  rw [hd]
  refine congrArg (Procedure.perform (S := exchange) request) (funext fun answer => ?_)
  cases answer <;> rfl

/-- At each step one request is sent, and its reply decides what is left. -/
theorem Step.dialogue_eq (c : Client) (p : Publication) (step : Step) :
    step.dialogue c p = c.send step.method (step.text p) (step.body c p) >>= fun reply =>
      ExceptT.mk ((step.after (.ok reply)).left c p) := by
  cases step with
  | look level =>
    cases level with
    | workspace =>
      change (c.ensureWorkspace p.workspace >>= fun _ => p.storeDialogue c) = _
      simp only [Client.ensureWorkspace, Client.isThere, bind_assoc, pure_bind]
      refine bind_congr fun reply => ?_
      simp only [after]
      split
      · rw [pure_bind]; rfl
      · rfl
    | store =>
      change (c.ensureDatastore p.store p.workspace >>= fun _ => p.typeDialogue c) = _
      simp only [Client.ensureDatastore, Client.isThere, bind_assoc, pure_bind]
      refine bind_congr fun reply => ?_
      simp only [after]
      split
      · rw [pure_bind]; rfl
      · rfl
    | type =>
      change p.typeDialogue c = _
      simp only [Publication.typeDialogue, Client.isThere, bind_assoc, pure_bind]
      refine bind_congr fun reply => ?_
      simp only [after]
      split <;> rfl
  | make level =>
    simp only [dialogue, Client.change, bind_assoc, method, text, body]
    refine bind_congr fun reply => ?_
    simp only [after, Client.accept]
    split
    · rw [pure_bind]
      cases level <;> rfl
    · rfl
  | update =>
    simp only [dialogue, Client.change, bind_assoc, method, text, body]
    refine bind_congr fun reply => ?_
    simp only [after, Client.accept]
    split
    · rw [pure_bind]; rfl
    · rfl

/-- A step whose address can be read is one exchange. -/
theorem Step.run_dialogue_of_parse? {step : Step} {url : Url}
    (hurl : Url.parse? (c.settings.restUrl ++ step.text p) = some url) :
    (step.dialogue c p).run = Procedure.perform (S := exchange) (step.requestTo c p url)
      fun answer => (step.after answer).left c p := by
  rw [step.dialogue_eq, run_exchange_bind (c.run_send_of_parse? hurl _ _), requestTo]
  refine congrArg (Procedure.perform (S := exchange) _) (funext fun answer => ?_)
  cases answer with
  | ok reply => rfl
  | error e => cases step <;> rfl

/-- A step whose address cannot be read fails before anything is sent. -/
theorem Step.run_dialogue_of_not_parse? {step : Step}
    (hurl : Url.parse? (c.settings.restUrl ++ step.text p) = none) :
    (step.dialogue c p).run = (step.after (.error "builder error")).left c p := by
  rw [step.dialogue_eq, Client.send, hurl]
  cases step <;> rfl

/-- The folder of a resource is written after the root. -/
theorem written_folder (p : Publication) (level : Level) : (p.folderText level).toList =
    Url.written ((p.resource level).folder.map String.toList) := by
  cases level <;>
    simp only [Publication.folderText, Publication.resource, Resource.folder, Url.written,
      Client.featureTypesPath, String.toList_append, List.map_cons, List.map_nil,
      List.append_assoc, List.flatMap_cons, List.flatMap_nil] <;>
    rfl

/-- The document of a resource is written after the root. -/
theorem written_document (p : Publication) (level : Level) : (p.documentText level).toList =
    Url.written (((p.resource level).folder ++ [(p.resource level).name ++ ".json"]).map
      String.toList) := by
  rw [List.map_append, Url.written, List.flatMap_append, ← Url.written, ← written_folder]
  cases level <;>
    simp only [Publication.documentText, Publication.folderText, Publication.resource,
      Resource.name, Client.featureTypesPath, String.toList_append, List.map_cons, List.map_nil,
      List.append_assoc, List.append_nil, List.flatMap_cons, List.flatMap_nil] <;>
    rfl

/-- A path with a document is not empty. -/
theorem document_ne_nil (r : Resource) : r.folder ++ [r.name ++ ".json"] ≠ [] := by simp

/-- A folder is not empty. -/
theorem folder_ne_nil (r : Resource) : r.folder ≠ [] := by cases r <;> simp [Resource.folder]

/-- The documents of a publication are written as they are. -/
theorem Publication.IsPlain.document (h : p.IsPlain) (level : Level) :
    ∀ s ∈ ((p.resource level).folder ++ [(p.resource level).name ++ ".json"]).map String.toList,
      Url.IsSegment s := by
  rw [List.map_append, List.forall_mem_append]
  exact ⟨h.folder level, List.forall_mem_singleton.mpr (isSegment_document (h.name level))⟩

/-- Where the names stand for themselves, a step goes to the address of its resource. -/
theorem Step.parse?_text (hroot : Url.root? c.settings.restUrl = some root) (hplain : p.IsPlain)
    (step : Step) :
    Url.parse? (c.settings.restUrl ++ step.text p) = some (step.request c root p).url := by
  have hpath {path : List String} (hne : path ≠ [])
      (hsegments : ∀ s ∈ path.map String.toList, Url.IsSegment s) {text : String}
      (htext : text.toList = Url.written (path.map String.toList)) :
      Url.parse? (c.settings.restUrl ++ text) =
        some (root.below (path.map String.toList) none) := by
    rw [← String.ofList_toList (s := text), htext]
    exact Url.parse?_path hroot (by simpa using hne) hsegments
  cases step with
  | look level =>
    exact hpath (document_ne_nil _) (hplain.document level) (written_document p level)
  | make level => exact hpath (folder_ne_nil _) (hplain.folder level) (written_folder p level)
  | update => exact hpath (document_ne_nil _) (hplain.document .type) (written_document p .type)

/-- At each step one request is left, and what follows its answer. -/
theorem Step.run_dialogue (hroot : Url.root? c.settings.restUrl = some root) (hplain : p.IsPlain)
    (s : Step) : (s.dialogue c p).run = Procedure.perform (S := exchange) (s.request c root p)
      fun answer => (s.after answer).left c p := by
  have hrequest : s.request c root p = s.requestTo c p (s.request c root p).url := by
    cases s <;> rfl
  rw [hrequest]
  exact run_dialogue_of_parse? (s.parse?_text hroot hplain)

/-! ## What a conforming catalog answers -/

/-- The resources that a level belongs to are there. -/
def Publication.Founded (p : Publication) (h : Holdings) (level : Level) : Prop :=
  ∀ parent ∈ (p.resource level).parents, h.Has parent

/-- What a step needs of the catalog. -/
def Step.Ready (p : Publication) (h : Holdings) : Step → Prop
  | look level => p.Founded h level
  | make level => p.Founded h level
  | update => p.Founded h .type ∧ h.Has (p.resource .type)

/-- The holdings with what a publication makes of the resource on a level. -/
def Publication.put (c : Client) (p : Publication) (h : Holdings) (level : Level) : Holdings :=
  Function.update h (p.resource level) (some (p.details c level))

/-- What a conforming catalog may reply to a step, and what it holds afterwards. -/
inductive Served (c : Client) (p : Publication) (h : Holdings) : Step → Reply → Holdings → Prop
  | found {level : Level} {reply : Reply} (has : h.Has (p.resource level))
      (status : reply.status = 200) : Served c p h (.look level) reply h
  | missing {level : Level} {reply : Reply} (missing : h (p.resource level) = none)
      (status : reply.status ≠ 200) : Served c p h (.look level) reply h
  | made {level : Level} {reply : Reply} (missing : h (p.resource level) = none)
      (status : reply.status = 201) : Served c p h (.make level) reply (p.put c h level)
  | refused {level : Level} {reply : Reply} (has : h.Has (p.resource level))
      (status : reply.status ≠ 200 ∧ reply.status ≠ 201) : Served c p h (.make level) reply h
  | updated {reply : Reply} (has : h.Has (p.resource .type)) (status : reply.status = 200) :
      Served c p h .update reply (p.put c h .type)

/-- What is not held is missing. -/
theorem Holdings.eq_none {h : Holdings} {r : Resource} (hmissing : ¬h.Has r) : h r = none := by
  simpa [Has] using hmissing

/-- What is held is not missing. -/
theorem Holdings.Has.ne_none {h : Holdings} {r : Resource} (hhas : h.Has r) : h r ≠ none := by
  intro hmissing
  rw [Has, hmissing] at hhas
  cases hhas

/-- The documents of a publication describe its resources. -/
theorem Publication.describes (c : Client) (p : Publication) (level : Level) :
    (p.resource level).Describes (p.details c level) (p.document c level) := by
  cases level <;> exact ⟨_, rfl, rfl, rfl⟩

/-- The document of an update describes the feature type. -/
theorem Publication.describes_update (c : Client) (p : Publication) :
    (p.resource .type).Describes (p.featureType c) (c.updateDocument p.table p.title) :=
  ⟨_, rfl, rfl, rfl⟩

/-- Making a resource is a request to create it. -/
theorem Step.creates_make (c : Client) (root : Url) (p : Publication) (level : Level) :
    ((make level).request c root p).Creates root (p.resource level) (p.details c level) :=
  ⟨rfl, rfl, _, rfl, p.describes c level⟩

/-- Nothing is below a workspace. -/
theorem Publication.founded_workspace (p : Publication) (h : Holdings) :
    p.Founded h .workspace := by
  simp [Founded, resource, Resource.parents]

/-- Below a datastore there is its workspace. -/
theorem Publication.founded_store {h : Holdings} :
    p.Founded h .store ↔ h.Has (p.resource .workspace) := by
  simp [Founded, resource, Resource.parents]

/-- Below a feature type there are its workspace and its datastore. -/
theorem Publication.founded_type {h : Holdings} : p.Founded h .type ↔
    h.Has (p.resource .workspace) ∧ h.Has (p.resource .store) := by
  simp [Founded, resource, Resource.parents]

/-- What has been put is held. -/
theorem Publication.has_put (c : Client) (p : Publication) (h : Holdings) (level : Level) :
    (p.put c h level).Has (p.resource level) := by
  simp [put, Holdings.Has]

/-- What was held is held when something has been put. -/
theorem Publication.has_put_of_has {h : Holdings} {r : Resource} (hhas : h.Has r) (c : Client)
    (p : Publication) (level : Level) : (p.put c h level).Has r := by
  by_cases hr : r = p.resource level
  · rw [hr]
    exact p.has_put c h level
  · rw [Holdings.Has, put, Function.update_of_ne hr]
    exact hhas

/-- Only the resource of its level is put. -/
theorem Publication.put_of_ne {r : Resource} {level : Level} (hr : r ≠ p.resource level)
    (c : Client) (h : Holdings) : p.put c h level r = h r :=
  Function.update_of_ne hr _ h

/-- The resources of publications are told by their levels. -/
theorem Publication.level_of_resource {p' : Publication} {level level' : Level}
    (hr : p.resource level = p'.resource level') : level = level' := by
  cases level <;> cases level' <;> simp_all [resource]

/-- The feature type of a publication is not on another level. -/
theorem Publication.type_ne_resource (p : Publication) {level : Level} (hlevel : level ≠ .type) :
    p.resource .type ≠ p.resource level :=
  fun hsame => hlevel (level_of_resource hsame).symm

/-- A resource of which nothing but that it is there is held stays as it is. -/
theorem Publication.put_of_has {h : Holdings} {level : Level} (hlevel : level ≠ .type)
    (hhas : h.Has (p.resource level)) (c : Client) : p.put c h level = h := by
  obtain ⟨d, hd⟩ := Option.isSome_iff_exists.mp hhas
  have hsame : p.details c level = d := by
    cases level with
    | workspace | store => rfl
    | type => exact absurd rfl hlevel
  rw [put, hsame, ← hd, Function.update_eq_self]

/-- Every step is served as it may be. -/
theorem Conforms.exists_served {server : Server Holdings} (hserver : Conforms root server)
    (c : Client) {h : Holdings} {s : Step} (hready : s.Ready p h) :
    ∃ reply after, server (s.request c root p) h = (.ok reply, after) ∧
      Served c p h s reply after := by
  cases s with
  | look level =>
    obtain ⟨reply, hreply, hstatus⟩ :=
      hserver.look ((Step.look level).request c root p) h (p.resource level) rfl rfl
    refine ⟨reply, h, hreply, ?_⟩
    by_cases hhas : h.Has (p.resource level)
    · exact .found hhas (hstatus.mpr hhas)
    · exact .missing (Holdings.eq_none hhas) fun h200 => hhas (hstatus.mp h200)
  | make level =>
    by_cases hhas : h.Has (p.resource level)
    · obtain ⟨reply, hreply, hstatus⟩ :=
        hserver.refuse _ h _ _ (Step.creates_make c root p level) hhas
      exact ⟨reply, h, hreply, .refused hhas hstatus⟩
    · have hmissing := Holdings.eq_none hhas
      obtain ⟨reply, hreply, hstatus⟩ :=
        hserver.create _ h _ _ (Step.creates_make c root p level) hready hmissing
      exact ⟨reply, _, hreply, .made hmissing hstatus⟩
  | update =>
    obtain ⟨reply, hreply, hstatus⟩ := hserver.update (Step.update.request c root p) h
      (p.resource .type) (p.featureType c) _ rfl rfl rfl (p.describes_update c) hready.2
    exact ⟨reply, _, hreply, .updated hready.2 hstatus⟩

end

end LayerPress.Catalog
