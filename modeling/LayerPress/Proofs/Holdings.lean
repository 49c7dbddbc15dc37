import LayerPress.Catalog.Client
import LayerPress.Proofs.Addresses
import Mathlib.Logic.Function.Basic

/-!
# Conforming catalogs

A catalog holds workspaces, datastores in workspaces and feature types in datastores. It conforms if
looking a resource up is answered with 200 exactly if it is held, and creating one that is missing,
updating one that is held and deleting a feature type that is held are answered with success and
done; creating one that is held is refused and changes nothing. What a catalog answers to anything
else, which status it refuses with and the texts of its answers are left open.
-/

namespace LayerPress.Catalog

/-- What a catalog holds of a feature type. -/
structure FeatureType where
  title : String
  srs : String
  enabled : Bool
  deriving DecidableEq, Repr

/-- A resource of a catalog, with the names of those it belongs to. -/
inductive Resource where
  | workspace (name : String)
  | store (workspace name : String)
  | type (workspace store name : String)
  deriving DecidableEq, Repr

namespace Resource

/-- What is held of a resource. -/
abbrev Details : Resource → Type
  | workspace _ => Unit
  | store .. => Unit
  | type .. => FeatureType

/-- The resources that a resource belongs to. -/
def parents : Resource → List Resource
  | workspace _ => []
  | store w _ => [workspace w]
  | type w s _ => [workspace w, store w s]

/-- The path of the resources of a kind that belong together. -/
def folder : Resource → List String
  | workspace _ => ["workspaces"]
  | store w _ => ["workspaces", w, "datastores"]
  | type w s _ => ["workspaces", w, "datastores", s, "featuretypes"]

/-- The name of a resource in its folder. -/
def name : Resource → String
  | workspace n => n
  | store _ n => n
  | type _ _ n => n

/-- The field of a document that describes a resource of this kind. -/
def kind : Resource → String
  | workspace _ => "workspace"
  | store .. => "dataStore"
  | type .. => "featureType"

/-- A resource is told by its folder and its name. -/
theorem ext {r r' : Resource} (hfolder : r.folder = r'.folder) (hname : r.name = r'.name) :
    r = r' := by
  cases r <;> cases r' <;> simp_all [folder, name]

/-- What the fields of a document say of a resource. -/
def detailsIn? : (r : Resource) → List (String × Json) → Option r.Details
  | workspace _, _ => some ()
  | store .., _ => some ()
  | type .., fields =>
    match fields.lookup "title", fields.lookup "srs", fields.lookup "enabled" with
    | some (.string title), some (.string srs), some (.bool enabled) => some ⟨title, srs, enabled⟩
    | _, _, _ => none

/-- The document describes a resource with these details. -/
def Describes (r : Resource) (d : r.Details) (document : Json) : Prop :=
  ∃ fields, document = .object [(r.kind, .object fields)] ∧
    fields.lookup "name" = some (.string r.name) ∧ r.detailsIn? fields = some d

/-- The address of the folder of a resource. -/
def folderUrl (root : Url) (r : Resource) : Url :=
  root.below (r.folder.map String.toList) none

/-- The address of the document of a resource. -/
def documentUrl (root : Url) (r : Resource) : Url :=
  root.below ((r.folder ++ [r.name ++ ".json"]).map String.toList) none

/-- The address of a resource with all that is built on it. -/
def wholeUrl (root : Url) (r : Resource) : Url :=
  root.below ((r.folder ++ [r.name]).map String.toList) (some "recurse=true".toList)

end Resource

/-- The resources that a catalog holds. -/
abbrev Holdings := (r : Resource) → Option r.Details

/-- The resource is held. -/
def Holdings.Has (h : Holdings) (r : Resource) : Prop := (h r).isSome = true

/-- The request is to create the resource with these details. -/
def Request.Creates (root : Url) (request : Request) (r : Resource) (d : r.Details) : Prop :=
  request.method = "POST" ∧ request.url = r.folderUrl root ∧
    ∃ document, request.body = some document ∧ r.Describes d document

/-- The server is a conforming catalog below a root. -/
structure Conforms (root : Url) (server : Server Holdings) : Prop where
  look : ∀ (request : Request) (h : Holdings) (r : Resource), request.method = "GET" →
    request.url = r.documentUrl root →
      ∃ reply, server request h = (.ok reply, h) ∧ (reply.status = 200 ↔ h.Has r)
  create : ∀ (request : Request) (h : Holdings) (r : Resource) (d : r.Details),
    request.Creates root r d → (∀ parent ∈ r.parents, h.Has parent) → h r = none →
      ∃ reply, server request h = (.ok reply, Function.update h r (some d)) ∧ reply.status = 201
  refuse : ∀ (request : Request) (h : Holdings) (r : Resource) (d : r.Details),
    request.Creates root r d → h.Has r →
      ∃ reply, server request h = (.ok reply, h) ∧ reply.status ≠ 200 ∧ reply.status ≠ 201
  update : ∀ (request : Request) (h : Holdings) (r : Resource) (d : r.Details) (document : Json),
    request.method = "PUT" → request.url = r.documentUrl root → request.body = some document →
      r.Describes d document → h.Has r →
        ∃ reply, server request h = (.ok reply, Function.update h r (some d)) ∧ reply.status = 200
  delete : ∀ (request : Request) (h : Holdings) (workspace store name : String),
    request.method = "DELETE" → request.url = (Resource.type workspace store name).wholeUrl root →
      h.Has (.type workspace store name) →
        ∃ reply, server request h = (.ok reply, Function.update h (.type workspace store name) none) ∧
          reply.status = 200

/-! ## What a request creates -/

section
variable {root : Url} {request : Request} {r r' : Resource} {d : r.Details} {d' : r'.Details}

/-- Paths below a root are told by their addresses. -/
theorem below_inj {path path' : List String} {query query' : Option (List Char)}
    (h : root.below (path.map String.toList) query = root.below (path'.map String.toList) query') :
    path = path' := by
  simp only [Url.below, Url.mk.injEq, List.append_cancel_left_eq] at h
  exact (List.map_inj_right fun _ _ => String.toList_inj.mp).mp h.2.2.1

/-- A document describes one resource of a folder. -/
theorem Resource.Describes.eq {document : Json} (h : r.Describes d document)
    (h' : r'.Describes d' document) (hfolder : r.folder = r'.folder) : r = r' := by
  obtain ⟨fields, rfl, hname, -⟩ := h
  obtain ⟨fields', hsame, hname', -⟩ := h'
  simp only [Json.object.injEq, List.cons.injEq, Prod.mk.injEq, and_true] at hsame
  obtain ⟨-, rfl⟩ := hsame
  exact Resource.ext hfolder (by simpa using hname.symm.trans hname')

/-- A request creates one resource. -/
theorem Request.Creates.eq (h : request.Creates root r d) (h' : request.Creates root r' d') :
    r = r' := by
  obtain ⟨-, hurl, document, hbody, hdescribes⟩ := h
  obtain ⟨-, hurl', document', hbody', hdescribes'⟩ := h'
  obtain rfl := Option.some.inj (hbody.symm.trans hbody')
  exact hdescribes.eq hdescribes' (below_inj (hurl.symm.trans hurl'))

end

/-! ## A plain catalog -/

/-- The path of an address below another. -/
def pathBelow? (root url : Url) : Option (List String) :=
  if url.secure = root.secure ∧ url.authority = root.authority ∧
      url.segments.take root.segments.length = root.segments then
    some ((url.segments.drop root.segments.length).map String.ofList)
  else none

/-- The resource of a path. -/
def Resource.ofPath? : List String → Option Resource
  | ["workspaces", w] => some (.workspace w)
  | ["workspaces", w, "datastores", s] => some (.store w s)
  | ["workspaces", w, "datastores", s, "featuretypes", t] => some (.type w s t)
  | _ => none

/-- The name of a document without its ending. -/
def stem? (document : String) : Option String :=
  if document.toList.reverse.take 5 = ".json".toList.reverse then
    some (String.ofList (document.toList.reverse.drop 5).reverse)
  else none

/-- The resource whose document has a path. -/
def Resource.ofDocument? (path : List String) : Option Resource :=
  (path.getLast?.bind stem?).bind fun name => ofPath? (path.dropLast ++ [name])

/-- The kind, the name and the fields that a document gives. -/
def readDocument? : Option Json → Option (String × String × List (String × Json))
  | some (.object [(kind, .object fields)]) =>
    match fields.lookup "name" with
    | some (.string name) => some (kind, name, fields)
    | _ => none
  | _ => none

/-- The catalog with the details of a resource that a document gives, if it describes it. -/
def Holdings.put? (h : Holdings) (r : Resource) (kind : String) (fields : List (String × Json)) :
    Option Holdings :=
  if kind = r.kind then (r.detailsIn? fields).map fun d => Function.update h r (some d) else none

/-- The answer of a plain catalog to a request for a resource that it has, has not or refuses. -/
def answered (h : Holdings) (status : Nat) : Except String Reply × Holdings :=
  (.ok ⟨status, ""⟩, h)

/-- A plain catalog below a root, which answers everything it does not understand with 400. -/
def plainServer (root : Url) : Server Holdings := fun request h =>
  match pathBelow? root request.url with
  | none => answered h 404
  | some path =>
    if request.method = "GET" then
      match Resource.ofDocument? path with
      | some r => answered h (if (h r).isSome then 200 else 404)
      | none => answered h 404
    else if request.method = "POST" then
      match readDocument? request.body with
      | none => answered h 400
      | some (kind, name, fields) =>
        match Resource.ofPath? (path ++ [name]) with
        | none => answered h 404
        | some r =>
          if (h r).isSome then answered h 409
          else
            match h.put? r kind fields with
            | some after => answered after 201
            | none => answered h 400
    else if request.method = "PUT" then
      match Resource.ofDocument? path, readDocument? request.body with
      | some r, some (kind, _, fields) =>
        match h.put? r kind fields with
        | some after => answered after 200
        | none => answered h 400
      | _, _ => answered h 404
    else if request.method = "DELETE" then
      match Resource.ofPath? path with
      | some r => answered (Function.update h r none) (if (h r).isSome then 200 else 404)
      | none => answered h 404
    else answered h 400

section
variable {root : Url} {request : Request} {r : Resource} {d : r.Details} {h : Holdings}

/-- A path is found again below its root. -/
theorem pathBelow?_below (root : Url) (path : List String) (query : Option (List Char)) :
    pathBelow? root (root.below (path.map String.toList) query) = some path := by
  have hpath : (path.map String.toList).map String.ofList = path := by
    rw [List.map_map]
    exact (List.map_congr_left fun s _ => String.ofList_toList).trans (List.map_id _)
  simp only [pathBelow?, Url.below, List.take_left', List.drop_left', hpath]
  simp

/-- A resource is found by its path. -/
theorem Resource.ofPath?_self (r : Resource) : ofPath? (r.folder ++ [r.name]) = some r := by
  cases r <;> rfl

/-- A resource is found by the path of its document. -/
theorem Resource.ofDocument?_self (r : Resource) :
    ofDocument? (r.folder ++ [r.name ++ ".json"]) = some r := by
  have hstem : stem? (r.name ++ ".json") = some r.name := by
    have hname : (r.name ++ ".json").toList.reverse =
        ".json".toList.reverse ++ r.name.toList.reverse := by
      rw [String.toList_append, List.reverse_append]
    have hlength : ".json".toList.reverse.length = 5 := by decide
    rw [stem?, hname, List.take_left' hlength, List.drop_left' hlength, if_pos rfl,
      List.reverse_reverse, String.ofList_toList]
  rw [ofDocument?, List.getLast?_concat, List.dropLast_concat, Option.bind_some, hstem,
    Option.bind_some, ofPath?_self]

/-- A document that describes a resource is read as it is meant. -/
theorem Resource.Describes.read {document : Json} (hd : r.Describes d document) :
    ∃ fields, readDocument? (some document) = some (r.kind, r.name, fields) ∧
      ∀ h : Holdings, h.put? r r.kind fields = some (Function.update h r (some d)) := by
  obtain ⟨fields, rfl, hname, hdetails⟩ := hd
  refine ⟨fields, ?_, fun h => ?_⟩
  · simp [readDocument?, hname]
  · simp [Holdings.put?, hdetails]

/-- The plain catalog conforms. -/
theorem conforms_plainServer (root : Url) : Conforms root (plainServer root) where
  look := by
    intro request h r hmethod hurl
    refine ⟨⟨if (h r).isSome then 200 else 404, ""⟩, ?_, ?_⟩
    · simp only [plainServer, hurl, Resource.documentUrl, pathBelow?_below, hmethod, if_true,
        Resource.ofDocument?_self, answered]
    · cases hr : h r <;> simp [Holdings.Has, hr]
  create := by
    intro request h r d hcreates hparents hmissing
    obtain ⟨hmethod, hurl, document, hbody, hdescribes⟩ := hcreates
    obtain ⟨fields, hread, hput⟩ := hdescribes.read
    refine ⟨⟨201, ""⟩, ?_, rfl⟩
    have hpost : ("POST" : String) ≠ "GET" := by decide
    simp only [plainServer, hurl, Resource.folderUrl, pathBelow?_below, hmethod, hpost, if_false,
      if_true, hbody, hread, Resource.ofPath?_self, hmissing, Option.isSome_none,
      Bool.false_eq_true, hput, answered]
  refuse := by
    intro request h r d hcreates hhas
    obtain ⟨hmethod, hurl, document, hbody, hdescribes⟩ := hcreates
    obtain ⟨fields, hread, -⟩ := hdescribes.read
    refine ⟨⟨409, ""⟩, ?_, by decide, by decide⟩
    have hpost : ("POST" : String) ≠ "GET" := by decide
    have hhas : (h r).isSome = true := hhas
    simp only [plainServer, hurl, Resource.folderUrl, pathBelow?_below, hmethod, hpost, if_false,
      if_true, hbody, hread, Resource.ofPath?_self, hhas, answered]
  update := by
    intro request h r d document hmethod hurl hbody hdescribes hhas
    obtain ⟨fields, hread, hput⟩ := hdescribes.read
    refine ⟨⟨200, ""⟩, ?_, rfl⟩
    have hget : ("PUT" : String) ≠ "GET" := by decide
    have hpost : ("PUT" : String) ≠ "POST" := by decide
    simp only [plainServer, hurl, Resource.documentUrl, pathBelow?_below, hmethod, hget, hpost,
      if_false, if_true, hbody, hread, Resource.ofDocument?_self, hput, answered]
  delete := by
    intro request h workspace store name hmethod hurl hhas
    refine ⟨⟨200, ""⟩, ?_, rfl⟩
    have hget : ("DELETE" : String) ≠ "GET" := by decide
    have hpost : ("DELETE" : String) ≠ "POST" := by decide
    have hput : ("DELETE" : String) ≠ "PUT" := by decide
    have hhas : (h (.type workspace store name)).isSome = true := hhas
    simp only [plainServer, hurl, Resource.wholeUrl, pathBelow?_below, hmethod, hget, hpost, hput,
      if_false, if_true, Resource.ofPath?_self, hhas, answered]

end

end LayerPress.Catalog
