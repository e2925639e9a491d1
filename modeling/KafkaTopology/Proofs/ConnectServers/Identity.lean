import KafkaTopology.Proofs.ConnectServers.Places
import KafkaTopology.Proofs.Host.FileTree
/-!
# Identity of connectors

A connector is created from a definition file and deleted by the name of its artefact. The server
takes the name of a new connector from the definition, which is sent as it stands in the file, so
that the two requests are about one connector only if the file says the name that the deletion leads
to. For a name that is a segment of a path this is the artefact's name.

* `ConnectServers.sameConnector_iff` — when the requests are about the same connector.
* `Bare.created_without_name` — a definition without a name.
-/
namespace KafkaTopology

/-- Whether one request makes the connector that the other one deletes: a definition is posted to a
list of connectors, and what is deleted is the entry of the list under the name in it. -/
def Request.SameConnector : Request → Request → Prop
  | .post url definition, r =>
    ∃ name, definition.get? "name" = some (.text name) ∧
      ∃ u, Url.ofText url = .ok u ∧ r.Deletes u.path (Url.octets name.toList)
  | .delete _, _ => False

namespace ConnectServers

open Url

variable {servers : ConnectServers} {a : Artefact} {base : String} {h : Host} {r : Request}

/-- **One connector.** Let an artefact have a server, and let creating it send a request. What is
posted is what the file of the artefact holds, whatever that is, and what deleting it sends, on any
host on which it sends a request, is a deletion of what stands under its name. Where the base URL of
the server ends in a path, the deletion is about the connector that was created if and only if the
file holds an object with the name that the deletion leads to. If the artefact's name is a segment
of a path, that is its name. -/
theorem sameConnector_iff (hserver : servers.get? a.server = some base)
    (hcreate : (servers.createConnector a).Sends h r) :
    ∃ text definition, h.files.readText a.path = .ok text ∧
      Document.ofJson? text = some definition ∧
      r = .post (trimSlashes base ++ "/connectors") definition ∧
      ∀ h' r', (servers.deleteConnector a).Sends h' r' →
        r' = .delete (trimSlashes base ++ "/connectors" ++ "/" ++ a.name) ∧
          ∀ u, IsBase base u →
            (r.SameConnector r' ↔
              ∃ name, definition.get? "name" = some (.text name) ∧
                '/' ∉ beforeQuery a.name.toList ∧
                decoded (beforeQuery a.name.toList) = octets name.toList) ∧
            (IsSegment a.name.toList →
              (r.SameConnector r' ↔ definition.get? "name" = some (.text a.name))) := by
  obtain ⟨text, definition, htext, hjson, hurl, rfl⟩ :=
    (createConnector_sends_iff hserver).1 hcreate
  refine ⟨text, definition, htext, hjson, rfl, fun h' r' hdelete => ?_⟩
  refine ⟨((deleteConnector_sends_iff hserver).1 hdelete).2, fun u hbase => ?_⟩
  obtain ⟨sent, hsent⟩ := Except.isOk_iff.1 hurl
  have hlist : sent.path = u.connectors := congrArg Address.list (listAt_post hbase hsent)
  have hsame : (Request.post (trimSlashes base ++ "/connectors") definition).SameConnector r' ↔
      ∃ name, definition.get? "name" = some (.text name) ∧ '/' ∉ beforeQuery a.name.toList ∧
        decoded (beforeQuery a.name.toList) = octets name.toList := by
    simp only [Request.SameConnector, hsent, Except.ok.injEq, exists_eq_left', hlist,
      deletes_iff_of_sends hserver hbase hdelete]
  refine ⟨hsame, fun hname => ?_⟩
  obtain ⟨-, hslash, hdecoded⟩ := isSegment_iff.1 hname
  rw [hsame]
  constructor
  · rintro ⟨name, hdefinition, -, hleads⟩
    have hnames := octets_injective (hdecoded.symm.trans hleads)
    rw [hdefinition, String.toList_injective hnames]
  · exact fun hdefinition => ⟨a.name, hdefinition, hslash, hdecoded⟩

end ConnectServers

/-! ## A definition without a name -/

namespace Bare

/-- A definition with a name. -/
def named : String := "\x7b\"name\": \"sink\"\x7d"

/-- A definition that is a configuration alone. -/
def bare : String := "\x7b\"connector.class\": \"FileStreamSink\"\x7d"

/-- A definition that is no object. -/
def list : String := "[]"

/-- A host with the definitions in files, and a server that takes every request. -/
def host : Host where
  files := ⟨[(["named.json"], .file (.text named) false),
    (["bare.json"], .file (.text bare) false), (["list.json"], .file (.text list) false)]⟩
  environment := ⟨[], none⟩
  searchPath := []
  tools := fun _ _ => .failure "timed out"
  servers := fun _ _ => .status 201
  clock := default
  consent := none
  output := ""
  calls := []

/-- One server, by its alias. -/
def servers : ConnectServers := .ofPairs [("primary", "http://connect:8083/")]

/-- A connector of that server, with its definition in a file. -/
def sink (path : String) : Artefact := ⟨"primary", "sink", path⟩

theorem get?_servers (path : String) :
    OrderedMap.get? servers (sink path).server = some "http://connect:8083/" := by
  show OrderedMap.get? servers "primary" = _
  decide

theorem readText_host {path text : String} (hplain : FileTree.isPlain path = true)
    (hentry : host.files.entries.lookup [path] = some (.file (.text text) false)) :
    host.files.readText path = .ok text := by
  rw [FileTree.readText_plain _ hplain, hentry]

theorem ofJson?_named : Document.ofJson? named = some (.mapping [("name", .text "sink")]) := by
  cbv

theorem ofJson?_bare :
    Document.ofJson? bare = some (.mapping [("connector.class", .text "FileStreamSink")]) := by
  cbv

theorem ofJson?_list : Document.ofJson? list = some (.list []) := by cbv

/-- What is sent to make the connector. -/
def post (definition : Document) : Request := .post "http://connect:8083/connectors" definition

/-- What is sent to delete the connector. -/
def delete : Request := .delete "http://connect:8083/connectors/sink"

theorem create_sends {path text : String} {definition : Document}
    (htext : host.files.readText path = .ok text)
    (hjson : Document.ofJson? text = some definition) :
    (servers.createConnector (sink path)).Sends host (post definition) := by
  have hurl : ConnectServers.trimSlashes "http://connect:8083/" ++ "/connectors" =
      "http://connect:8083/connectors" := by decide
  rw [ConnectServers.createConnector_sends_iff (get?_servers path), hurl]
  exact ⟨text, definition, htext, hjson, by decide +kernel, rfl⟩

theorem delete_sends (path : String) :
    (servers.deleteConnector (sink path)).Sends host delete := by
  have hurl : ConnectServers.trimSlashes "http://connect:8083/" ++ "/connectors" ++ "/" ++
      (sink path).name = "http://connect:8083/connectors/sink" := by
    show _ ++ "/connectors" ++ "/" ++ "sink" = _
    decide
  rw [ConnectServers.deleteConnector_sends_iff (get?_servers path), hurl]
  exact ⟨by decide +kernel, rfl⟩

/-- Whether a definition without a name is posted from a file, so that the connector that is made
is not the one that is deleted. -/
def IsParted (path : String) : Prop :=
  OrderedMap.get? servers (sink path).server = some "http://connect:8083/" ∧
    ∃ definition, (servers.createConnector (sink path)).Sends host (post definition) ∧
      (servers.deleteConnector (sink path)).Sends host delete ∧
      definition.get? "name" = none ∧ ¬(post definition).SameConnector delete

theorem isParted {path text : String} {definition : Document}
    (htext : host.files.readText path = .ok text) (hjson : Document.ofJson? text = some definition)
    (hname : definition.get? "name" = none) : IsParted path := by
  refine ⟨get?_servers path, definition, create_sends htext hjson, delete_sends path, hname, ?_⟩
  rintro ⟨name, hsome, -⟩
  rw [hname] at hsome
  cases hsome

/-- A configuration alone is posted without a name, and so is what is no object at all. -/
theorem created_without_name : IsParted "bare.json" ∧ IsParted "list.json" :=
  ⟨isParted (readText_host (by decide) rfl) ofJson?_bare rfl,
    isParted (readText_host (by decide) rfl) ofJson?_list rfl⟩

end Bare

/-- A definition with the name of the artefact: what is made is what is deleted. -/
theorem ConnectServers.sameConnector_iff_named :
    OrderedMap.get? Bare.servers (Bare.sink "named.json").server = some "http://connect:8083/" ∧
      (∃ u, Url.IsBase "http://connect:8083/" u) ∧ Url.IsSegment "sink".toList ∧
      ∃ definition,
        (Bare.servers.createConnector (Bare.sink "named.json")).Sends Bare.host
          (Bare.post definition) ∧
        (Bare.servers.deleteConnector (Bare.sink "named.json")).Sends Bare.host Bare.delete ∧
        (Bare.post definition).SameConnector Bare.delete := by
  have htext : Bare.host.files.readText "named.json" = .ok Bare.named :=
    Bare.readText_host (by decide) rfl
  have hcreate := Bare.create_sends htext Bare.ofJson?_named
  have hdelete := Bare.delete_sends "named.json"
  have hbase : Url.IsBase "http://connect:8083/" ⟨"http", "connect:8083", "/"⟩ :=
    ⟨Except.toOption_eq_some_iff.1 (by decide +kernel), by decide, by decide⟩
  have hsegment : Url.IsSegment "sink".toList := by decide
  refine ⟨Bare.get?_servers _, ⟨_, hbase⟩, hsegment, _, hcreate, hdelete, ?_⟩
  obtain ⟨text, definition, -, -, hpost, hall⟩ := sameConnector_iff (Bare.get?_servers _) hcreate
  have hiff := ((hall _ _ hdelete).2 _ hbase).2 hsegment
  have hdefinition : definition = .mapping [("name", .text "sink")] :=
    (Request.post.inj hpost).2.symm
  exact hiff.2 (by rw [hdefinition]; rfl)

end KafkaTopology
