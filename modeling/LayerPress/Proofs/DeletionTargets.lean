import LayerPress.Naming
import LayerPress.Proofs.IdempotentPublishing
import LayerPress.Proofs.NamedSegments

/-!
# What a deletion is aimed at

Deleting a feature type is one request, whose address is made by writing the names of the workspace,
the datastore and the feature type between slashes. It is the address of that feature type exactly
if all three names are addressable. Other names are taken apart where the address is read, and then
the deletion, which is recursive, is aimed at something else: at a whole datastore, for one.
-/

namespace LayerPress.Catalog

open Text.Percent (bytesOf decode)
open Url (IsAddressable)

/-- The address at which the feature type of some names is deleted with all that is built on it. -/
def IsDeletionOf (root : Url) (workspace store name : String) (u : Url) : Prop :=
  ∃ w d n, u = root.below ["workspaces".toList, w, "datastores".toList, d, "featuretypes".toList, n]
      (some "recurse=true".toList) ∧
    decode w = Text.Utf8.encode workspace ∧ decode d = Text.Utf8.encode store ∧
      decode n = Text.Utf8.encode name

/-- The names that are written to delete a feature type, the first of them apart. -/
def deletionNames (workspace store name : String) : List (List Char) :=
  [workspace.toList, "datastores".toList, store.toList, "featuretypes".toList, name.toList]

section
variable {root u : Url} (workspace store name : String)

/-- The path of a deletion is written of its names. -/
theorem deletionPath_eq : Client.featureTypesPath workspace store ++ "/" ++ name ++ "?recurse=true" =
    String.ofList (Url.written ("workspaces".toList :: deletionNames workspace store name) ++
      '?' :: "recurse=true".toList) := by
  rw [← String.toList_inj]
  simp [Client.featureTypesPath, deletionNames, Url.written]

/-- The names between those that are given, and the query, are written as they are. -/
theorem isSegment_deletion : Url.IsSegment "workspaces".toList ∧
    Url.IsSegment "datastores".toList ∧ Url.IsSegment "featuretypes".toList ∧
      Url.encodeIf Url.encodedInQuery "recurse=true".toList = "recurse=true".toList := by
  decide +kernel

/-- The names of a deletion are addressable if the three of them are that are given. -/
theorem isAddressable_deletionNames :
    (∀ n ∈ "workspaces".toList :: deletionNames workspace store name, IsAddressable n) ↔
      IsAddressable workspace.toList ∧ IsAddressable store.toList ∧ IsAddressable name.toList := by
  obtain ⟨hworkspaces, hdatastores, htypes, -⟩ := isSegment_deletion
  simp only [deletionNames, List.forall_mem_cons, hworkspaces.isAddressable,
    hdatastores.isAddressable, htypes.isAddressable, true_and]
  simp

variable {workspace store name}

/-- An address that deletes a feature type stands for its names. -/
theorem IsDeletionOf.names (h : IsDeletionOf root workspace store name u) :
    Url.Names root u ("workspaces".toList :: deletionNames workspace store name)
      (Url.encodeIf Url.encodedInQuery "recurse=true".toList) := by
  obtain ⟨w, d, n, rfl, hw, hd, hn⟩ := h
  obtain ⟨hworkspaces, hdatastores, htypes, hquery⟩ := isSegment_deletion
  have hdecode : ∀ cs, Url.IsSegment cs → decode cs = bytesOf cs := fun cs hcs =>
    Text.Percent.decode_of_not_hasEscape hcs.isAddressable.literal
  refine ⟨_, by rw [hquery], ?_⟩
  simp only [deletionNames, List.map_cons, List.map_nil, hdecode _ hworkspaces,
    hdecode _ hdatastores, hdecode _ htypes, hw, hd, hn, Text.Percent.encode_eq_bytesOf]

/-- The address of addressable names deletes their feature type. -/
theorem isDeletionOf_of_isAddressable (hworkspace : IsAddressable workspace.toList)
    (hstore : IsAddressable store.toList) (hname : IsAddressable name.toList)
    (hu : u = root.below
      (("workspaces".toList :: deletionNames workspace store name).map
        (Url.encodeIf Url.encodedInPath))
      (some (Url.encodeIf Url.encodedInQuery "recurse=true".toList))) :
    IsDeletionOf root workspace store name u := by
  obtain ⟨hworkspaces, hdatastores, htypes, hquery⟩ := isSegment_deletion
  have hdecode : ∀ s : String, IsAddressable s.toList →
      decode (Url.encodeIf Url.encodedInPath s.toList) = Text.Utf8.encode s := by
    intro s hs
    rw [Text.Percent.decode_encodeIf Text.Percent.sparesEscapes_encodedInPath,
      Text.Percent.decode_of_not_hasEscape hs.literal, Text.Percent.encode_eq_bytesOf]
  refine ⟨_, _, _, ?_, hdecode workspace hworkspace, hdecode store hstore, hdecode name hname⟩
  rw [hu, hquery]
  simp only [deletionNames, List.map_cons, List.map_nil, hworkspaces.encodeIf,
    hdatastores.encodeIf, htypes.encodeIf]

end

/-- Accepting an answer sends nothing. -/
theorem transcript_accept (statuses : List Nat) {σ : Type} (server : Server σ) (s : σ)
    (answer : Except String Reply) :
    Procedure.transcript (S := exchange) server
      (onReply (fun reply => (Client.accept statuses reply).run) answer) s = [] := by
  cases answer with
  | error text => rfl
  | ok reply =>
    rw [onReply, Client.accept]
    split <;> rfl

/-- A deletion is one exchange, at the address that is read of the names it is written of. -/
theorem run_delete_of_parse? (c : Client) {name workspace store : String} {url : Url}
    (hurl : Url.parse? (c.settings.restUrl ++
      String.ofList (Url.written ("workspaces".toList :: deletionNames workspace store name) ++
        '?' :: "recurse=true".toList)) = some url) :
    (c.delete name workspace store).run = Procedure.perform (S := exchange)
      ⟨"DELETE", url, c.authorization, none⟩
      (onReply fun reply => (Client.accept [200, 204] reply).run) := by
  rw [← deletionPath_eq] at hurl
  exact run_exchange_bind (c.run_send_of_parse? hurl "DELETE" none) _

/-- To delete a feature type one request is sent, to the address of that feature type exactly if the
names of the workspace, the datastore and the feature type are addressable. -/
theorem deletion_targets_iff (c : Client) {root : Url}
    (hroot : Url.root? c.settings.restUrl = some root) (name workspace store : String) :
    ∃ url, (∀ (σ : Type) (server : Server σ) (s : σ),
        Procedure.transcript (S := exchange) server (c.delete name workspace store).run s =
          [⟨⟨"DELETE", url, c.authorization, none⟩,
            (server ⟨"DELETE", url, c.authorization, none⟩ s).1⟩]) ∧
      (IsDeletionOf root workspace store name url ↔ IsAddressable workspace.toList ∧
        IsAddressable store.toList ∧ IsAddressable name.toList) := by
  have hfollow : "recurse=true".toList.all Url.mayFollow = true := by decide +kernel
  obtain ⟨url, hurl, hnames, hencoded⟩ := Url.names_iff hroot "workspaces".toList
    (deletionNames workspace store name) (List.all_eq_true.mp hfollow)
  refine ⟨url, fun σ server s => ?_, fun h => ?_, fun h => ?_⟩
  · rw [run_delete_of_parse? c hurl, Procedure.transcript, transcript_accept]
  · exact (isAddressable_deletionNames workspace store name).mp (hnames.mp h.names)
  · exact isDeletionOf_of_isAddressable h.1 h.2.1 h.2.2
      (hencoded ((isAddressable_deletionNames workspace store name).mpr h))

/-- A feature type with a blank in its name is deleted at its address. -/
theorem deletion_targets_iff_plain :
    Url.root? Client.plain.settings.restUrl = some plainRoot ∧
      ∃ url, (∀ (σ : Type) (server : Server σ) (s : σ),
          Procedure.transcript (S := exchange) server
            (Client.plain.delete "old town" "gis" "postgis").run s =
              [⟨⟨"DELETE", url, Client.plain.authorization, none⟩,
                (server ⟨"DELETE", url, Client.plain.authorization, none⟩ s).1⟩]) ∧
        IsDeletionOf plainRoot "gis" "postgis" "old town" url := by
  obtain ⟨url, hrequest, htarget⟩ :=
    deletion_targets_iff Client.plain root?_plain "old town" "gis" "postgis"
  have hworkspace : IsAddressable "gis".toList := by decide +kernel
  have hstore : IsAddressable "postgis".toList := by decide +kernel
  have hname : IsAddressable "old town".toList := by decide +kernel
  exact ⟨root?_plain, url, hrequest, htarget.mpr ⟨hworkspace, hstore, hname⟩⟩

/-- The name of a catalog entry may lead back to the datastore, which is then deleted with all that
is in it. -/
theorem deletion_of_a_datastore :
    Naming.splitEntry "gis:../../postgis" = some ("gis", "../../postgis") ∧
      ∃ url, (∀ (σ : Type) (server : Server σ) (s : σ),
          Procedure.transcript (S := exchange) server
            (Client.plain.delete "../../postgis" "gis" "postgis").run s =
              [⟨⟨"DELETE", url, Client.plain.authorization, none⟩,
                (server ⟨"DELETE", url, Client.plain.authorization, none⟩ s).1⟩]) ∧
        url = plainRoot.below ["workspaces".toList, "gis".toList, "datastores".toList,
          "postgis".toList] (some "recurse=true".toList) ∧
        ¬IsDeletionOf plainRoot "gis" "postgis" "../../postgis" url := by
  have hurl : Url.parse? (Client.plain.settings.restUrl ++
      String.ofList (Url.written ("workspaces".toList ::
        deletionNames "gis" "postgis" "../../postgis") ++ '?' :: "recurse=true".toList)) =
      some (plainRoot.below ["workspaces".toList, "gis".toList, "datastores".toList,
        "postgis".toList] (some "recurse=true".toList)) := by decide +kernel
  refine ⟨by decide +kernel, _, fun σ server s => ?_, rfl, ?_⟩
  · rw [run_delete_of_parse? Client.plain hurl, Procedure.transcript, transcript_accept]
  · rintro ⟨w, d, n, hu, -⟩
    have hlengths := congrArg (fun u : Url => u.segments.length) hu
    simp [Url.below] at hlengths

end LayerPress.Catalog
