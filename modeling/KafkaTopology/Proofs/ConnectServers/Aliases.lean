import KafkaTopology.Proofs.Calls
import KafkaTopology.Proofs.OrderedMap
import KafkaTopology.Proofs.Planner.Ownership
import KafkaTopology.Proofs.Topology.Declared
import KafkaTopology.Proofs.Topology.Union
/-!
# Aliases of Connect servers

An artefact names its server by an alias, and a configuration says which aliases there are. A
document is read against the aliases, so what it declares can be created; what is recorded was
declared under some earlier configuration, and its alias may be gone by the time it is deleted.

* `Topology.exists_server` — every artefact of an accepted topology names a known alias.
* `ConnectServers.lacksServer_deleteConnector_iff` — when a deletion fails for want of a server.
* `Plan.creates_reach_servers` — both, for the steps of a plan.
-/
namespace KafkaTopology

/-! ## Known aliases -/

/-- A key has no value exactly if it is not among the keys. -/
theorem OrderedMap.get?_eq_none_iff {κ β : Type} [Ord κ] [Std.LawfulEqOrd κ]
    {m : OrderedMap κ β} {key : κ} : m.get? key = none ↔ key ∉ m.keys := by
  rw [get?, Option.map_eq_none_iff, List.find?_eq_none, keys, List.mem_map, not_exists]
  refine forall_congr' fun e => ?_
  rw [not_and, beq_iff_eq, Std.LawfulEqOrd.compare_eq_iff_eq, eq_comm]

namespace Topology

variable {naming : Naming} {d : Document} {t : Topology}

theorem server_of_declaresArtefact {a : Artefact} (h : DeclaresArtefact naming d a) :
    a.server ∈ naming.servers := by
  obtain ⟨w, -, hchecked⟩ := h
  rw [checkArtefact] at hchecked
  split at hchecked
  · split at hchecked
    · next hknown =>
      cases hchecked
      rwa [OrderedSet.contains_eq_isSome, OrderedSet.isSome_find?_iff] at hknown
    · cases hchecked
  · cases hchecked

theorem servers_of_declaresConnectors {s : ConnectorSection}
    (h : DeclaresConnectors naming d s) : ∀ a ∈ s.artefacts, a.server ∈ naming.servers := by
  intro a ha
  cases d with
  | mapping entries =>
    obtain ⟨-, items, -, hitems⟩ := h
    obtain ⟨item, -, hitem⟩ := hitems.exists_left ha
    exact server_of_declaresArtefact hitem
  | _ =>
    rw [h.2] at ha
    cases ha

/-- Every artefact of an accepted topology names a known server, whatever project it stands in and
however the project spells its artefacts. -/
theorem exists_server (h : ofDocument naming d = .ok t) :
    ∀ a ∈ t.artefacts, a.server ∈ naming.servers := by
  intro a ha
  obtain ⟨p, hp, ha⟩ := mem_artefacts.1 ha
  obtain ⟨root, -, -, -, -, -, -, hprojects, -⟩ := ofDocument_eq_ok_iff.1 h
  obtain ⟨items, -, hitems⟩ := readProjects_eq_ok_iff.1 hprojects
  obtain ⟨item, -, hitem⟩ := Except.exists_of_mem_mapM hitems hp
  obtain ⟨entries, -, -, -, -, -, -, -, hconnectors, -⟩ := readProject_eq_ok_iff.1 hitem
  rw [readConnectors_eq_ok_iff] at hconnectors
  rw [Project.artefacts] at ha
  cases hpresent : present? entries Role.connectors.key with
  | none =>
    rw [hpresent, rel_none_iff] at hconnectors
    rw [hconnectors] at ha
    cases ha
  | some declared =>
    rw [hpresent, rel_some_iff] at hconnectors
    obtain ⟨s, hs, hsome⟩ := hconnectors
    rw [hsome] at ha
    exact servers_of_declaresConnectors hs a ha

end Topology

/-- An alias that a configuration knows has a server. -/
theorem Config.mem_servers_iff (c : Config) (label : String) :
    label ∈ c.naming.servers ↔ label ∈ c.connectServers.keys := OrderedSet.mem_ofList

/-! ## Failing for want of a server -/

namespace ConnectError

/-- What the message of an error begins with. -/
def initial : ConnectError → Char
  | .unknownServer _ => 'n'
  | .unreadable .. => 'f'
  | .malformed _ => 'i'
  | .refused .. => 'K'
  | .unusable _ | .unreachable _ => 'r'

theorem head?_append {s t : String} (c : Char) (h : s.toList.head? = some c) :
    (s ++ t).toList.head? = some c := by
  rw [String.toList_append, List.head?_append, h, Option.some_or]

theorem head?_message (e : ConnectError) : e.failure.message.toList.head? = some e.initial := by
  cases e with
  | unknownServer label => exact head?_append 'n' (head?_append _ (by decide +kernel))
  | unreadable path reason =>
    exact head?_append 'f' (head?_append _ (head?_append _ (by decide +kernel)))
  | malformed path => exact head?_append 'i' (by decide +kernel)
  | refused code url =>
    exact head?_append 'K' (head?_append _ (head?_append _ (by decide +kernel)))
  | unusable reason => exact head?_append 'r' (by decide +kernel)
  | unreachable reason => exact head?_append 'r' (by decide +kernel)

theorem initial_eq_iff {e : ConnectError} : e.initial = 'n' ↔ ∃ label, e = .unknownServer label := by
  cases e <;> simp [initial]

end ConnectError

/-- Whether a failed step reports an alias that has no server. -/
def Failure.LacksServer (f : Failure) : Prop :=
  ∃ label message, f = (ConnectError.unknownServer label).failure.within message

/-- No other error reads like one of an unknown alias. -/
theorem ConnectError.lacksServer_within_iff {e : ConnectError} {message : String} :
    (e.failure.within message).LacksServer ↔ ∃ label, e = .unknownServer label := by
  constructor
  · rintro ⟨label, other, heq⟩
    simp only [Failure.within, Failure.chain, Failure.mk.injEq, List.cons.injEq] at heq
    have hinitial : some e.initial = some (unknownServer label).initial := by
      rw [← head?_message, ← head?_message, heq.2.1]
    exact initial_eq_iff.1 (Option.some.inj hinitial)
  · rintro ⟨label, rfl⟩
    exact ⟨label, message, rfl⟩

namespace ConnectServers

variable {servers : ConnectServers} {a : Artefact} {h : Host}

/-- An attempt fails for want of a server exactly if its exchange does. -/
theorem attempt_lacksServer_iff {message : String} {exchange : Exchange Unit} :
    (∃ f, ((attempt message exchange).on h).1 = .error f ∧ f.LacksServer) ↔
      ∃ label, (exchange.run.run h).1 = .error (.unknownServer label) := by
  rw [attempt_on]
  rcases (exchange.run.run h).1 with e | _
  · simp only [Except.mapError_error, Except.error.injEq, exists_eq_left']
    exact ConnectError.lacksServer_within_iff
  · simp [Except.mapError_ok]

theorem send_ne_unknownServer (r : Request) (url : String) (done : Nat) (label : String) :
    ((send r url done).run.run h).1 ≠ .error (.unknownServer label) := by
  rw [send_run]
  cases Url.ofText url with
  | error reason => exact nofun
  | ok _ =>
    dsimp only
    cases h.servers h.calls r with
    | unreachable reason => exact nofun
    | status code =>
      dsimp only
      split <;> exact nofun

theorem connectorsUrl_eq_ok {base : String} (hbase : servers.get? a.server = some base) :
    servers.connectorsUrl a = .ok (trimSlashes base ++ "/connectors") := by
  rw [connectorsUrl, hbase]

theorem connectorUrl_eq_ok {base : String} (hbase : servers.get? a.server = some base) :
    servers.connectorUrl a = .ok (trimSlashes base ++ "/connectors" ++ "/" ++ a.name) := by
  rw [connectorUrl, connectorsUrl_eq_ok hbase]
  rfl

/-- With a server for its alias an artefact is not refused for want of one. -/
theorem not_lacksServer_createConnector {base : String}
    (hbase : servers.get? a.server = some base) :
    ¬∃ f, ((servers.createConnector a).on h).1 = .error f ∧ f.LacksServer := by
  rw [createConnector, attempt_lacksServer_iff, create_run, connectorsUrl_eq_ok hbase]
  rcases h.files.readText a.path with reason | text
  · rintro ⟨label, hlabel⟩
    cases hlabel
  · dsimp only
    rcases Document.ofJson? text with _ | definition
    · rintro ⟨label, hlabel⟩
      cases hlabel
    · rintro ⟨label, hlabel⟩
      exact send_ne_unknownServer _ _ _ label hlabel

/-- A deletion fails for want of a server exactly if there is none for the alias. -/
theorem lacksServer_deleteConnector_iff :
    (∃ f, ((servers.deleteConnector a).on h).1 = .error f ∧ f.LacksServer) ↔
      servers.get? a.server = none := by
  rw [deleteConnector, attempt_lacksServer_iff, delete_run]
  cases hbase : servers.get? a.server with
  | none =>
    rw [connectorUrl, connectorsUrl, hbase]
    exact ⟨fun _ => rfl, fun _ => ⟨a.server, rfl⟩⟩
  | some base =>
    rw [connectorUrl_eq_ok hbase]
    constructor
    · rintro ⟨label, hlabel⟩
      exact absurd hlabel (send_ne_unknownServer _ _ _ label)
    · intro hnone
      cases hnone

end ConnectServers

namespace Topology

variable {t : Topology} {options : PlanOptions} {recorded : State} {a : Artefact}

theorem mem_of_createArtefact (h : .createArtefact a ∈ t.actions options recorded) :
    a ∈ t.artefacts := by
  rcases mem_actions h with ⟨_, -, h⟩ | ⟨-, h⟩ | h | h | ⟨_, -, h⟩ | ⟨x, hx, h⟩ | ⟨-, h⟩ | ⟨-, h⟩
  case inr.inr.inr.inr.inr.inl =>
    cases h
    exact (OrderedSet.mem_create.1 hx).1
  all_goals exact Action.noConfusion h

theorem mem_of_deleteArtefact (h : .deleteArtefact a ∈ t.actions options recorded) :
    a ∈ recorded.artefacts := by
  rcases mem_actions h with ⟨_, -, h⟩ | ⟨-, h⟩ | h | h | ⟨x, hx, h⟩ | ⟨_, -, h⟩ | ⟨-, h⟩ | ⟨-, h⟩
  case inr.inr.inr.inr.inl =>
    cases h
    exact (OrderedSet.mem_delete.1 hx).1
  all_goals exact Action.noConfusion h

end Topology

/-- **Targets are configured.** A plan is populated over any state for a topology that is accepted
under a configuration, and its steps reach the servers of that configuration. Creating an artefact
never fails for want of a server. An artefact that is deleted is one of the state, and deleting it
fails for want of a server exactly if the configuration does not have its alias any more. -/
theorem Plan.creates_reach_servers {c : Config} {d : Document} {t : Topology}
    (ht : Topology.ofDocument c.naming d = .ok t) (environment : Variables)
    (options : PlanOptions) {p : Plan Host} (hp : p.steps = []) (h : Host) :
    ∀ step ∈ (p.populate (c.admin environment) options t).steps,
      (∀ a, step.effect = .createArtefact a →
        ¬∃ f, (step.run.on h).1 = .error f ∧ f.LacksServer) ∧
      ∀ a, step.effect = .deleteArtefact a →
        a ∈ p.state.artefacts ∧
          ((∃ f, (step.run.on h).1 = .error f ∧ f.LacksServer) ↔
            a.server ∉ c.connectServers.keys) := by
  intro step hstep
  have hsteps : (p.populate (c.admin environment) options t).steps =
      (t.actions options p.state).map (·.toStep (c.admin environment)) := by
    show p.steps ++ _ = _
    rw [hp, List.nil_append]
  rw [hsteps] at hstep
  obtain ⟨action, haction, rfl⟩ := List.mem_map.1 hstep
  constructor
  · intro a ha
    obtain rfl : action = .createArtefact a := by
      cases action <;> cases ha
      rfl
    have hknown := (c.mem_servers_iff a.server).1
      (Topology.exists_server ht a (Topology.mem_of_createArtefact haction))
    cases hbase : OrderedMap.get? c.connectServers a.server with
    | none => exact absurd hknown (OrderedMap.get?_eq_none_iff.1 hbase)
    | some base => exact ConnectServers.not_lacksServer_createConnector hbase
  · intro a ha
    obtain rfl : action = .deleteArtefact a := by
      cases action <;> cases ha
      rfl
    refine ⟨Topology.mem_of_deleteArtefact haction, ?_⟩
    rw [← OrderedMap.get?_eq_none_iff]
    exact ConnectServers.lacksServer_deleteConnector_iff

/-! ## A server that is gone -/

namespace Moved

/-- One server is known. -/
def config : Config :=
  { Config.standard with connectServers := .ofPairs [("main", "http://connect:8083")] }

/-- A topology as it is written, with one artefact on that server. -/
def document : Document := .mapping [
  ("context", .text "acme"),
  ("projects", .list [.mapping [
    ("name", .text "orders"),
    ("topics", .list []),
    ("connectors", .mapping [("artefacts", .list [.mapping [
      ("path", .text "sink.json"), ("server", .text "main"), ("name", .text "sink")]])])]])]

/-- The artefact of the document. -/
def sink : Artefact := ⟨"main", "sink", "sink.json"⟩

/-- An artefact on a server that is not known any more. -/
def source : Artefact := ⟨"old", "source", "source.json"⟩

/-- The topology of the document. -/
def topology : Topology where
  context := "acme"
  attributes := []
  separator := "."
  platform := .empty
  projects := [{
    name := "orders"
    qualifiedName := "acme.orders"
    order := ["context"]
    consumers := none
    producers := none
    streams := none
    connectors := some ⟨[], [sink]⟩
    schemas := none
    rbac := ∅
    topics := [] }]

/-- A plan over a state with the other artefact. -/
def plan : Plan Host :=
  let state : State := { State.empty with artefacts := .ofList [source] }
  ⟨[], ⟨state, none⟩, .unlimited, state⟩

/-- The plan for the topology. -/
def populated : Plan Host := plan.populate (config.admin ⟨[], none⟩) ⟨false, false⟩ topology

/-- A host without files, on which nothing can be reached. -/
def host : Host where
  files := ⟨[]⟩
  environment := ⟨[], none⟩
  searchPath := []
  tools := fun _ _ => .failure "timed out"
  servers := fun _ _ => .unreachable "timed out"
  clock := default
  consent := none
  output := ""
  calls := []

end Moved

/-- An artefact moves to a server that is known, so the old one cannot be deleted, and the new one
does not fail for this reason. -/
theorem Plan.creates_reach_servers_moved :
    Topology.ofDocument Moved.config.naming Moved.document = .ok Moved.topology ∧
      Moved.plan.steps = [] ∧
      Moved.populated.steps.map (·.effect) =
        [.deleteArtefact Moved.source, .createArtefact Moved.sink] ∧
      ∀ step ∈ Moved.populated.steps,
        (step.effect = .deleteArtefact Moved.source →
          ∃ f, (step.run.on Moved.host).1 = .error f ∧ f.LacksServer) ∧
        (step.effect = .createArtefact Moved.sink →
          ¬∃ f, (step.run.on Moved.host).1 = .error f ∧ f.LacksServer) := by
  have hread : Topology.ofDocument Moved.config.naming Moved.document = .ok Moved.topology := rfl
  have hunknown : Moved.source.server ∉ Moved.config.connectServers.keys := by decide +kernel
  refine ⟨hread, rfl, by decide +kernel, fun step hstep => ?_⟩
  obtain ⟨hcreate, hdelete⟩ := creates_reach_servers hread ⟨[], none⟩ ⟨false, false⟩
    (p := Moved.plan) rfl Moved.host step hstep
  exact ⟨fun h => (hdelete _ h).2.2 hunknown, hcreate _⟩

end KafkaTopology
