import KafkaTopology.Proofs.Topology.Isolation
import KafkaTopology.Proofs.Topology.Union
import Mathlib.Tactic.MkIffOfInductiveProp
/-!
# What members and instances are entitled to

The rules by which a member of a project or an instance of the platform is granted bindings, one
constructor for each rule. A rule names the operations that it allows, the resource that they are
allowed on, and whether the name of the resource stands for itself or for all names that begin with
it. `Topology.mem_bindings_iff_entitles` says that a topology asks for the bindings that these rules
entitle someone to, and for no others. There is no rule for schemas, nor for role assignments.
-/
namespace KafkaTopology

open Acl

/-! ## Rules -/

/-- Whether a binding allows a principal one of some operations on a resource, from any host. -/
structure Acl.Binding.Allows (b : Binding) (principal : String) (operations : List Operation)
    (resource : Resource) (pattern : Pattern) (name : String) : Prop where
  principal_eq : b.principal = principal
  operation_mem : b.operation ∈ operations
  resource_eq : b.resource = resource
  pattern_eq : b.pattern = pattern
  name_eq : b.name = name
  host_eq : b.host = "*"

/-- A consumer reads and describes the topics of its project. It reads as its group, or as any if it
has none. -/
@[mk_iff]
inductive Consumer.Entitled (start : String) (m : Consumer) (b : Binding) : Prop
  | topics : b.Allows m.principal [.read, .describe] .topic .prefixed start → m.Entitled start b
  | group : b.Allows m.principal [.read] .group .literal (m.group.getD "*") → m.Entitled start b

/-- A producer writes and describes the topics of its project, and the transactions under its id if
it has one. It writes idempotently on the cluster if it says so. -/
@[mk_iff]
inductive Producer.Entitled (start : String) (m : Producer) (b : Binding) : Prop
  | topics : b.Allows m.principal [.write, .describe] .topic .prefixed start → m.Entitled start b
  | transactions (id : String) : m.transactionId = some id →
    b.Allows m.principal [.write, .describe] .transactionalId .literal id → m.Entitled start b
  | idempotence : m.idempotence = some true →
    b.Allows m.principal [.idempotentWrite] .cluster .literal "kafka-cluster" → m.Entitled start b

/-- A member reads and writes the topics that it names. -/
@[mk_iff]
inductive TopicAccess.Entitled (principal : String) (a : TopicAccess) (b : Binding) : Prop
  | read (topic : String) : topic ∈ a.read →
    b.Allows principal [.read] .topic .literal topic → a.Entitled principal b
  | write (topic : String) : topic ∈ a.write →
    b.Allows principal [.write] .topic .literal topic → a.Entitled principal b

/-- A stream application works with the topics that it names. It does everything with the topics and
groups of its id, which is the name of the project unless it has one. -/
@[mk_iff]
inductive StreamApp.Entitled (start : String) (m : StreamApp) (b : Binding) : Prop
  | named : m.topics.Entitled m.principal b → m.Entitled start b
  | topics : b.Allows m.principal [.all] .topic .prefixed (m.applicationId.getD start) →
    m.Entitled start b
  | groups : b.Allows m.principal [.all] .group .prefixed (m.applicationId.getD start) →
    m.Entitled start b

/-- A connector works with the topics that it names, and reads as the groups of connectors. -/
@[mk_iff]
inductive ConnectorMember.Entitled (m : ConnectorMember) (b : Binding) : Prop
  | named : m.topics.Entitled m.principal b → m.Entitled b
  | groups : b.Allows m.principal [.read] .group .prefixed "connect-" → m.Entitled b

/-- Connect workers read as their group, create topics, and read and write their three topics. -/
@[mk_iff]
inductive ConnectInstance.Entitled (i : ConnectInstance) (b : Binding) : Prop
  | group : b.Allows i.principal [.read] .group .literal (i.group.getD "connect-cluster") →
    i.Entitled b
  | cluster : b.Allows i.principal [.create] .cluster .literal "kafka-cluster" → i.Entitled b
  | status : b.Allows i.principal [.read, .write] .topic .literal
      (i.statusTopic.getD "connect-status") → i.Entitled b
  | offsets : b.Allows i.principal [.read, .write] .topic .literal
      (i.offsetTopic.getD "connect-offsets") → i.Entitled b
  | configs : b.Allows i.principal [.read, .write] .topic .literal
      (i.configsTopic.getD "connect-configs") → i.Entitled b

/-- A schema registry describes, reads and writes its topic, and reads as its group. -/
@[mk_iff]
inductive RegistryInstance.Entitled (i : RegistryInstance) (b : Binding) : Prop
  | topic : b.Allows i.principal [.describe, .read, .write] .topic .literal
      (i.topic.getD "_schemas") → i.Entitled b
  | group : b.Allows i.principal [.read] .group .literal (i.group.getD "schema-registry") →
    i.Entitled b

/-- A control center does everything with the topics and groups of its id, and describes the
cluster. -/
@[mk_iff]
inductive ControlCenterInstance.Entitled (i : ControlCenterInstance) (b : Binding) : Prop
  | topics : b.Allows i.principal [.all] .topic .prefixed
      (i.appId.getD "_confluent-controlcenter") → i.Entitled b
  | groups : b.Allows i.principal [.all] .group .prefixed
      (i.appId.getD "_confluent-controlcenter") → i.Entitled b
  | cluster : b.Allows i.principal [.describe] .cluster .literal "kafka-cluster" → i.Entitled b

/-- Whether some member of a project is entitled to a binding, where the names of the project's
topics begin with `start`. -/
inductive Project.Entitles (start : String) (p : Project) (b : Binding) : Prop
  | consumer (m : Consumer) : m ∈ p.consumers.getD [] → m.Entitled start b → p.Entitles start b
  | producer (m : Producer) : m ∈ p.producers.getD [] → m.Entitled start b → p.Entitles start b
  | stream (m : StreamApp) : m ∈ p.streams.getD [] → m.Entitled start b → p.Entitles start b
  | connector (m : ConnectorMember) : m ∈ p.connectorMembers → m.Entitled b → p.Entitles start b

/-- Whether some instance of a platform is entitled to a binding. -/
inductive Platform.Entitles (p : Platform) (b : Binding) : Prop
  | connect (i : ConnectInstance) : i ∈ p.kafkaConnect.getD [] → i.Entitled b → p.Entitles b
  | registry (i : RegistryInstance) : i ∈ p.schemaRegistry.getD [] → i.Entitled b → p.Entitles b
  | controlCenter (i : ControlCenterInstance) : i ∈ p.controlCenter.getD [] → i.Entitled b →
    p.Entitles b

/-- Whether someone is entitled to a binding by a topology. The names of a project's topics begin
with the full context and the name of the project. -/
def Topology.Entitles (t : Topology) (b : Binding) : Prop :=
  (∃ p ∈ t.projects, p.Entitles (t.fullContext ++ t.separator ++ p.name) b) ∨
    t.platform.Entitles b

/-! ## Members and instances -/

theorem Acl.Binding.allows_iff {b : Binding} {principal name : String}
    {operations : List Operation} {resource : Resource} {pattern : Pattern} :
    b.Allows principal operations resource pattern name ↔
      ∃ operation ∈ operations, b = ⟨resource, name, pattern, principal, operation, "*"⟩ := by
  constructor
  · rintro ⟨rfl, hoperation, rfl, rfl, rfl, hhost⟩
    exact ⟨b.operation, hoperation, by rw [← hhost]⟩
  · rintro ⟨operation, hoperation, rfl⟩
    exact ⟨rfl, hoperation, rfl, rfl, rfl, rfl⟩

section
variable {start : String} {b : Binding}

theorem Consumer.mem_bindings_iff {m : Consumer} :
    b ∈ m.bindings start ↔ m.Entitled start b := by
  simp [bindings, entitled_iff, Binding.allows_iff, Binding.startingWith, Binding.literal, or_assoc]

theorem Producer.mem_bindings_iff {m : Producer} :
    b ∈ m.bindings start ↔ m.Entitled start b := by
  simp only [bindings, List.mem_append, entitled_iff, Binding.allows_iff, or_assoc]
  refine or_congr (by simp [Binding.startingWith]) (or_congr ?_ ?_)
  · cases m.transactionId <;> simp [Binding.literal]
  · rcases m.idempotence with - | - | - <;> simp [Binding.literal, clusterName]

theorem TopicAccess.mem_bindings_iff {principal : String} {a : TopicAccess} :
    b ∈ a.bindings principal ↔ a.Entitled principal b := by
  simp [bindings, entitled_iff, Binding.allows_iff, Binding.literal, eq_comm]

theorem StreamApp.mem_bindings_iff {m : StreamApp} :
    b ∈ m.bindings start ↔ m.Entitled start b := by
  rw [bindings, List.mem_append, m.topics.mem_bindings_iff, entitled_iff]
  simp [Binding.allows_iff, Binding.startingWith]

theorem ConnectorMember.mem_bindings_iff {m : ConnectorMember} :
    b ∈ m.bindings ↔ m.Entitled b := by
  rw [bindings, List.mem_append, m.topics.mem_bindings_iff, entitled_iff]
  simp [Binding.allows_iff, Binding.startingWith]

theorem ConnectInstance.mem_bindings_iff {i : ConnectInstance} :
    b ∈ i.bindings ↔ i.Entitled b := by
  simp [bindings, entitled_iff, Binding.allows_iff, Binding.literal, clusterName, or_assoc]

theorem RegistryInstance.mem_bindings_iff {i : RegistryInstance} :
    b ∈ i.bindings ↔ i.Entitled b := by
  simp [bindings, entitled_iff, Binding.allows_iff, Binding.literal, or_assoc]

theorem ControlCenterInstance.mem_bindings_iff {i : ControlCenterInstance} :
    b ∈ i.bindings ↔ i.Entitled b := by
  simp [bindings, entitled_iff, Binding.allows_iff, Binding.literal, Binding.startingWith,
    clusterName]

/-! ## Projects and platforms -/

theorem Project.mem_bindings_iff {p : Project} :
    b ∈ p.bindings ↔ p.Entitles p.qualifiedName b := by
  simp only [bindings, List.mem_append, List.mem_flatMap, Consumer.mem_bindings_iff,
    Producer.mem_bindings_iff, StreamApp.mem_bindings_iff, ConnectorMember.mem_bindings_iff]
  constructor
  · rintro (((⟨m, hm, h⟩ | ⟨m, hm, h⟩) | ⟨m, hm, h⟩) | ⟨m, hm, h⟩)
    · exact .consumer m hm h
    · exact .producer m hm h
    · exact .stream m hm h
    · exact .connector m hm h
  · rintro (⟨m, hm, h⟩ | ⟨m, hm, h⟩ | ⟨m, hm, h⟩ | ⟨m, hm, h⟩)
    · exact .inl (.inl (.inl ⟨m, hm, h⟩))
    · exact .inl (.inl (.inr ⟨m, hm, h⟩))
    · exact .inl (.inr ⟨m, hm, h⟩)
    · exact .inr ⟨m, hm, h⟩

theorem Platform.mem_bindings_iff {p : Platform} : b ∈ p.bindings ↔ p.Entitles b := by
  simp only [bindings, List.mem_append, List.mem_flatMap, ConnectInstance.mem_bindings_iff,
    RegistryInstance.mem_bindings_iff, ControlCenterInstance.mem_bindings_iff]
  constructor
  · rintro ((⟨i, hi, h⟩ | ⟨i, hi, h⟩) | ⟨i, hi, h⟩)
    · exact .connect i hi h
    · exact .registry i hi h
    · exact .controlCenter i hi h
  · rintro (⟨i, hi, h⟩ | ⟨i, hi, h⟩ | ⟨i, hi, h⟩)
    · exact .inl (.inl ⟨i, hi, h⟩)
    · exact .inl (.inr ⟨i, hi, h⟩)
    · exact .inr ⟨i, hi, h⟩

end

namespace Topology

variable {naming : Naming} {d : Document} {t : Topology}

/-- The topology with other members for schemas and other role assignments, in its projects and on
its brokers. -/
def reassign (t : Topology) (schemas : Project → Option (List SchemaMember))
    (rbac : Project → OrderedMap String (List String)) (roles : Option KafkaRoles) : Topology :=
  { t with
    projects := t.projects.map fun p => { p with schemas := schemas p, rbac := rbac p }
    platform := { t.platform with kafka := roles } }

theorem bindings_reassign (t : Topology) (schemas : Project → Option (List SchemaMember))
    (rbac : Project → OrderedMap String (List String)) (roles : Option KafkaRoles) :
    (t.reassign schemas rbac roles).bindings = t.bindings := by
  rw [bindings, bindings, reassign, List.flatMap_map]
  rfl

/-- **Exactly the grants of the rules.** An accepted topology asks for a binding if and only if a
member of one of its projects or an instance of its platform is entitled to it. Members for schemas
and role assignments grant nothing: with any others the topology asks for the same bindings. -/
theorem mem_bindings_iff_entitles (h : ofDocument naming d = .ok t) :
    (∀ b, b ∈ t.bindings ↔ t.Entitles b) ∧
    ∀ schemas rbac roles, (t.reassign schemas rbac roles).bindings = t.bindings := by
  obtain ⟨-, -, -, -, -, hseparator, -⟩ := ofDocument_eq_ok_iff.1 h
  refine ⟨fun b => ?_, t.bindings_reassign⟩
  rw [mem_bindings, Platform.mem_bindings_iff, Entitles]
  refine or_congr_left (exists_congr fun p => and_congr_right fun hp => ?_)
  rw [Project.mem_bindings_iff, qualifiedName_eq h hp, hseparator]

end Topology

/-! ## A registrar without grants -/

namespace Registrar

/-- A list of one principal. -/
def principals (name : String) : Document := .list [.mapping [("principal", .text name)]]

/-- A producer with transactions, a control center, a member for schemas, and two role
assignments. -/
def document : Document := .mapping [
  ("context", .text "prod"),
  ("platform", .mapping [
    ("kafka", .mapping [("rbac", .mapping [("Operator", principals "User:root")])]),
    ("control_center", .mapping [("instances", principals "User:control")])]),
  ("projects", .list [.mapping [
    ("name", .text "pay"),
    ("producers", .list [
      .mapping [("principal", .text "User:app"), ("transactionId", .text "wages")]]),
    ("schemas", principals "User:registrar"),
    ("rbac", .mapping [("Owner", principals "User:ann")]),
    ("topics", .list [])]])]

/-- The topology of the document. -/
def topology : Topology where
  context := "prod"
  attributes := []
  separator := "."
  platform := {
    kafka := some ⟨.ofPairs [("Operator", ["User:root"])]⟩
    kafkaConnect := none
    schemaRegistry := none
    controlCenter := some [⟨"User:control", none⟩] }
  projects := [{
    name := "pay"
    qualifiedName := "prod.pay"
    order := ["context"]
    consumers := none
    producers := some [⟨"User:app", some "wages", none⟩]
    streams := none
    connectors := none
    schemas := some [⟨"User:registrar", []⟩]
    rbac := .ofPairs [("Owner", ["User:ann"])]
    topics := [] }]

theorem read_document : Topology.ofDocument ⟨∅, "."⟩ document = .ok topology := by
  rfl

end Registrar

/-- The producer and the control center are granted what the rules say. The registrar is granted
nothing, and the topology would ask for the same bindings without role assignments. -/
theorem Topology.mem_bindings_iff_entitles_registrar :
    ofDocument ⟨∅, "."⟩ Registrar.document = .ok Registrar.topology ∧
      ⟨.topic, "prod.pay", .prefixed, "User:app", .describe, "*"⟩ ∈ Registrar.topology.bindings ∧
      ⟨.transactionalId, "wages", .literal, "User:app", .write, "*"⟩ ∈
        Registrar.topology.bindings ∧
      ⟨.group, "_confluent-controlcenter", .prefixed, "User:control", .all, "*"⟩ ∈
        Registrar.topology.bindings ∧
      (∀ b ∈ Registrar.topology.bindings, b.principal ≠ "User:registrar") ∧
      (Registrar.topology.reassign (fun _ => none) (fun _ => ∅) none).bindings =
        Registrar.topology.bindings := by
  obtain ⟨hentitles, hsame⟩ := mem_bindings_iff_entitles Registrar.read_document
  have hstart : Registrar.topology.fullContext ++ Registrar.topology.separator ++ "pay" =
      "prod.pay" := by decide +kernel
  have hnone : ∀ b ∈ Registrar.topology.bindings.toList, b.principal ≠ "User:registrar" := by
    decide +kernel
  refine ⟨Registrar.read_document, (hentitles _).2 (.inl ?_), (hentitles _).2 (.inl ?_),
    (hentitles _).2 (.inr ?_), hnone, hsame _ _ _⟩
  · refine ⟨_, List.mem_cons_self, .producer _ List.mem_cons_self (.topics ?_)⟩
    exact ⟨rfl, by decide, rfl, rfl, hstart.symm, rfl⟩
  · refine ⟨_, List.mem_cons_self, .producer _ List.mem_cons_self (.transactions _ rfl ?_)⟩
    exact ⟨rfl, by decide, rfl, rfl, rfl, rfl⟩
  · refine .controlCenter _ List.mem_cons_self (.groups ?_)
    exact ⟨rfl, by decide, rfl, rfl, rfl, rfl⟩

end KafkaTopology
