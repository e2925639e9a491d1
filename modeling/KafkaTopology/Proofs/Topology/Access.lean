import KafkaTopology.Proofs.Topology.Entitlement
import KafkaTopology.Proofs.Topology.Names
/-!
# Members can use the topics of their project

The grants of a member go by the qualified name of the project, and the names of the topics are put
together from it one by one. Both come to the same start of a name, so that the grants cover every
topic of the project (`members_reach_topics`).
-/
namespace KafkaTopology

open Acl

/-- Whether a binding lets a principal do an operation on a topic, from any host. -/
structure Acl.Binding.Lets (b : Binding) (principal : String) (operation : Operation)
    (topic : String) : Prop where
  resource_eq : b.resource = .topic
  principal_eq : b.principal = principal
  operation_eq : b.operation = operation
  covers : b.Covers topic
  host_eq : b.host = "*"

/-! ## Grants by the start of a name -/

section
variable {start topic : String}

theorem Acl.Binding.lets_startingWith (h : start.toList <+: topic.toList) (principal : String)
    (operation : Operation) :
    (startingWith .topic start principal operation).Lets principal operation topic :=
  ⟨rfl, rfl, rfl, h, rfl⟩

/-- Whoever is granted operations on all topics whose names begin with a text may do each of them on
a topic whose name does. -/
theorem Acl.Binding.exists_lets_of_allows {bindings : List Binding} {principal : String}
    {operations : List Operation} (h : start.toList <+: topic.toList)
    (hbindings : ∀ b : Binding,
      b.Allows principal operations .topic .prefixed start → b ∈ bindings) :
    ∀ operation ∈ operations, ∃ b ∈ bindings, b.Lets principal operation topic :=
  fun operation hoperation => ⟨startingWith .topic start principal operation,
    hbindings _ ⟨rfl, hoperation, rfl, rfl, rfl, rfl⟩, lets_startingWith h principal operation⟩

theorem Consumer.exists_lets (m : Consumer) (h : start.toList <+: topic.toList) :
    ∀ operation ∈ [Operation.read, .describe],
      ∃ b ∈ m.bindings start, b.Lets m.principal operation topic :=
  Binding.exists_lets_of_allows h fun _ hb => mem_bindings_iff.2 (.topics hb)

theorem Producer.exists_lets (m : Producer) (h : start.toList <+: topic.toList) :
    ∀ operation ∈ [Operation.write, .describe],
      ∃ b ∈ m.bindings start, b.Lets m.principal operation topic :=
  Binding.exists_lets_of_allows h fun _ hb => mem_bindings_iff.2 (.topics hb)

/-- An application with an id is granted the topics of its id instead. -/
theorem StreamApp.exists_lets {m : StreamApp} (hid : m.applicationId = none)
    (h : start.toList <+: topic.toList) :
    ∀ operation ∈ [Operation.all], ∃ b ∈ m.bindings start, b.Lets m.principal operation topic := by
  refine Binding.exists_lets_of_allows h fun _ hb => mem_bindings_iff.2 (.topics ?_)
  rwa [hid]

end

/-! ## Topologies -/

namespace Topology

variable {naming : Naming} {d : Document} {t : Topology}

/-- The name of a topic begins with the name that the grants of its project's members go by. -/
theorem qualifiedName_prefix (h : ofDocument naming d = .ok t) {p : Project} (hp : p ∈ t.projects)
    {topic : Topic} (htopic : topic ∈ p.topics) :
    p.qualifiedName.toList <+: topic.fullName.toList := by
  have hstart := qualifiedName_prefix_fullName h hp htopic
  rw [String.toList_append] at hstart
  exact (List.prefix_append _ _).trans hstart

/-- Whether a topology asks for a binding, on behalf of a member with some bindings, that lets a
principal do each of some operations on a topic. -/
def Grants (t : Topology) (bindings : List Binding) (principal : String)
    (operations : List Operation) (topic : Topic) : Prop :=
  ∀ operation ∈ operations, ∃ b ∈ t.bindings, b ∈ bindings ∧
    b.Lets principal operation topic.fullName

/-- **Members can use the topics of their project.** An accepted topology asks for bindings that let
each consumer of a project read and describe every topic of the project, and each producer write and
describe it. Each stream application without an id may do everything with it. -/
theorem members_reach_topics (h : ofDocument naming d = .ok t) {p : Project} (hp : p ∈ t.projects)
    {topic : Topic} (htopic : topic ∈ p.topics) :
    (∀ m ∈ p.consumers.getD [],
      t.Grants (m.bindings p.qualifiedName) m.principal [.read, .describe] topic) ∧
    (∀ m ∈ p.producers.getD [],
      t.Grants (m.bindings p.qualifiedName) m.principal [.write, .describe] topic) ∧
    ∀ m ∈ p.streams.getD [], m.applicationId = none →
      t.Grants (m.bindings p.qualifiedName) m.principal [.all] topic := by
  have hstart := qualifiedName_prefix h hp htopic
  have hasked {b : Binding} (hb : p.Entitles p.qualifiedName b) : b ∈ t.bindings :=
    mem_bindings.2 (.inl ⟨p, hp, Project.mem_bindings_iff.2 hb⟩)
  refine ⟨fun m hm operation hoperation => ?_, fun m hm operation hoperation => ?_,
    fun m hm hid operation hoperation => ?_⟩
  · obtain ⟨b, hb, hlets⟩ := m.exists_lets hstart operation hoperation
    exact ⟨b, hasked (.consumer m hm (Consumer.mem_bindings_iff.1 hb)), hb, hlets⟩
  · obtain ⟨b, hb, hlets⟩ := m.exists_lets hstart operation hoperation
    exact ⟨b, hasked (.producer m hm (Producer.mem_bindings_iff.1 hb)), hb, hlets⟩
  · obtain ⟨b, hb, hlets⟩ := StreamApp.exists_lets hid hstart operation hoperation
    exact ⟨b, hasked (.stream m hm (StreamApp.mem_bindings_iff.1 hb)), hb, hlets⟩

end Topology

/-! ## A crew -/

namespace Crew

/-- A consumer, a producer and two stream applications, one of which has an id. -/
def document : Document := .mapping [
  ("context", .text "prod"),
  ("zone", .text "eu"),
  ("projects", .list [.mapping [
    ("name", .text "pay"),
    ("consumers", .list [.mapping [("principal", .text "User:clerk")]]),
    ("producers", .list [.mapping [("principal", .text "User:payer")]]),
    ("streams", .list [
      .mapping [("principal", .text "User:audit")],
      .mapping [("principal", .text "User:trace"), ("application_id", .text "trace")]]),
    ("topics", .list [.mapping [("name", .text "wages"), ("dataType", .text "json")]])]])]

def clerk : Consumer := ⟨"User:clerk", none⟩

def payer : Producer := ⟨"User:payer", none, none⟩

def audit : StreamApp := ⟨"User:audit", none, ⟨[], []⟩⟩

def trace : StreamApp := ⟨"User:trace", some "trace", ⟨[], []⟩⟩

def wages : Topic := ⟨"wages", some "json", ∅, "prod.eu.pay.wages.json"⟩

def pay : Project :=
  { (default : Project) with
    name := "pay"
    qualifiedName := "prod.eu.pay"
    order := ["context", "zone"]
    consumers := some [clerk]
    producers := some [payer]
    streams := some [audit, trace]
    rbac := ∅
    topics := [wages] }

/-- The topology of the document. -/
def topology : Topology := ⟨"prod", [("zone", .text "eu")], ".", .empty, [pay]⟩

theorem read_document : Topology.ofDocument ⟨∅, "."⟩ document = .ok topology := by rfl

end Crew

/-- All members of the project can use its topic but the stream application with an id, which is
granted the topics of that. -/
theorem Topology.members_reach_topics_crew :
    ofDocument ⟨∅, "."⟩ Crew.document = .ok Crew.topology ∧
      Crew.pay ∈ Crew.topology.projects ∧ Crew.wages ∈ Crew.pay.topics ∧
      Crew.audit.applicationId = none ∧
      Crew.topology.Grants (Crew.clerk.bindings "prod.eu.pay") "User:clerk" [.read, .describe]
        Crew.wages ∧
      Crew.topology.Grants (Crew.payer.bindings "prod.eu.pay") "User:payer" [.write, .describe]
        Crew.wages ∧
      Crew.topology.Grants (Crew.audit.bindings "prod.eu.pay") "User:audit" [.all] Crew.wages ∧
      ∀ b ∈ Crew.trace.bindings "prod.eu.pay", ¬b.Covers "prod.eu.pay.wages.json" := by
  have hpay : Crew.pay ∈ Crew.topology.projects := List.mem_cons_self
  have hwages : Crew.wages ∈ Crew.pay.topics := List.mem_cons_self
  obtain ⟨hconsumers, hproducers, hstreams⟩ :=
    members_reach_topics Crew.read_document hpay hwages
  exact ⟨Crew.read_document, hpay, hwages, rfl, hconsumers _ List.mem_cons_self,
    hproducers _ List.mem_cons_self, hstreams _ List.mem_cons_self rfl, by decide +kernel⟩

end KafkaTopology
