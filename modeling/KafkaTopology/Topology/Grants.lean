import KafkaTopology.Topology
import KafkaTopology.State
/-!
# Desired state of a topology (specification, section 10.4)

The bindings, accounts, topics and artefacts that a topology asks for. Bindings follow from the
roles of the members of each project and from the instances of the platform; members for schemas
and role assignments grant none.
-/
namespace KafkaTopology

open Acl

def clusterName : String := "kafka-cluster"

/-- Reads and describes the topics of the project, and reads as its group. -/
def Consumer.bindings (qualifiedName : String) (c : Consumer) : List Binding := [
  .startingWith .topic qualifiedName c.principal .read,
  .startingWith .topic qualifiedName c.principal .describe,
  .literal .group (c.group.getD "*") c.principal .read]

/-- Writes and describes the topics of the project, in transactions and idempotently on demand. -/
def Producer.bindings (qualifiedName : String) (p : Producer) : List Binding :=
  [.startingWith .topic qualifiedName p.principal .write,
    .startingWith .topic qualifiedName p.principal .describe] ++
  (match p.transactionId with
    | some id => [
      .literal .transactionalId id p.principal .write,
      .literal .transactionalId id p.principal .describe]
    | none => []) ++
  (if p.idempotence.getD false then [.literal .cluster clusterName p.principal .idempotentWrite]
    else [])

/-- Reads and writes the named topics. -/
def TopicAccess.bindings (principal : String) (a : TopicAccess) : List Binding :=
  a.read.map (fun t => .literal .topic t principal .read) ++
    a.write.map (fun t => .literal .topic t principal .write)

/-- Does everything with the topics and groups of the application, which is the project unless it
has an id. -/
def StreamApp.bindings (qualifiedName : String) (s : StreamApp) : List Binding :=
  let app := s.applicationId.getD qualifiedName
  s.topics.bindings s.principal ++ [
    .startingWith .topic app s.principal .all,
    .startingWith .group app s.principal .all]

/-- Reads and writes the named topics, and reads as the groups of connectors. -/
def ConnectorMember.bindings (c : ConnectorMember) : List Binding :=
  c.topics.bindings c.principal ++ [.startingWith .group "connect-" c.principal .read]

def Project.bindings (p : Project) : List Binding :=
  (p.consumers.getD []).flatMap (·.bindings p.qualifiedName) ++
    (p.producers.getD []).flatMap (·.bindings p.qualifiedName) ++
    (p.streams.getD []).flatMap (·.bindings p.qualifiedName) ++
    p.connectorMembers.flatMap (·.bindings)

/-- Reads as the workers' group, creates topics, and works with the three internal topics. -/
def ConnectInstance.bindings (i : ConnectInstance) : List Binding :=
  [.literal .group (i.group.getD "connect-cluster") i.principal .read,
    .literal .cluster clusterName i.principal .create] ++
  [i.statusTopic.getD "connect-status", i.offsetTopic.getD "connect-offsets",
    i.configsTopic.getD "connect-configs"].flatMap fun topic => [
      .literal .topic topic i.principal .read,
      .literal .topic topic i.principal .write]

/-- Works with the topic of the schemas, and reads as the registry's group. -/
def RegistryInstance.bindings (i : RegistryInstance) : List Binding :=
  let topic := i.topic.getD "_schemas"
  [.literal .topic topic i.principal .describe,
    .literal .topic topic i.principal .read,
    .literal .topic topic i.principal .write,
    .literal .group (i.group.getD "schema-registry") i.principal .read]

/-- Does everything with the topics and groups of the application, and describes the cluster. -/
def ControlCenterInstance.bindings (i : ControlCenterInstance) : List Binding :=
  let app := i.appId.getD "_confluent-controlcenter"
  [.startingWith .topic app i.principal .all,
    .startingWith .group app i.principal .all,
    .literal .cluster clusterName i.principal .describe]

def Platform.bindings (p : Platform) : List Binding :=
  (p.kafkaConnect.getD []).flatMap (·.bindings) ++
    (p.schemaRegistry.getD []).flatMap (·.bindings) ++
    (p.controlCenter.getD []).flatMap (·.bindings)

def Platform.principals (p : Platform) : List String :=
  (p.kafkaConnect.getD []).map (·.principal) ++
    (p.schemaRegistry.getD []).map (·.principal) ++
    (p.controlCenter.getD []).map (·.principal)

namespace Topology

/-- Every binding that the topology asks for. -/
def bindings (t : Topology) : OrderedSet Binding :=
  .ofList (t.projects.flatMap (·.bindings) ++ t.platform.bindings)

/-- Every principal that a member or an instance acts for. -/
def accounts (t : Topology) : OrderedSet Account :=
  .ofList ((t.projects.flatMap (·.principals) ++ t.platform.principals).map .ofPrincipal)

def topicSet (t : Topology) : OrderedSet String := .ofList t.topicNames

def artefacts (t : Topology) : OrderedSet Artefact := .ofList (t.projects.flatMap (·.artefacts))

end Topology

/-- What has to be created and what has to be deleted. -/
structure Difference (α : Type) where
  create : List α
  delete : List α

/-- The steps from a recorded set to a desired one. -/
def OrderedSet.difference {α : Type} [Ord α] (desired recorded : OrderedSet α) : Difference α :=
  ⟨(desired.diff recorded).toList, (recorded.diff desired).toList⟩

end KafkaTopology
