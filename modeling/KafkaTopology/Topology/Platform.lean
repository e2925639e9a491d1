import KafkaTopology.Topology.Member
import KafkaTopology.OrderedSet
/-!
# Platform components (specification, section 3)

The parts of a platform that all projects share; each of them may be absent.
-/
namespace KafkaTopology

/-- Role assignments on the brokers: the principals of each role. -/
structure KafkaRoles where
  rbac : OrderedMap String (List String)
deriving DecidableEq, Inhabited

/-- A group of Kafka Connect workers with its internal topics. -/
structure ConnectInstance where
  principal : String
  group : Option String
  statusTopic : Option String
  offsetTopic : Option String
  configsTopic : Option String
deriving DecidableEq, Repr, Inhabited

/-- A schema registry with its topic and group. -/
structure RegistryInstance where
  principal : String
  topic : Option String
  group : Option String
deriving DecidableEq, Repr, Inhabited

/-- A control center with its application id. -/
structure ControlCenterInstance where
  principal : String
  appId : Option String
deriving DecidableEq, Repr, Inhabited

/-- The components of a platform. -/
structure Platform where
  kafka : Option KafkaRoles
  kafkaConnect : Option (List ConnectInstance)
  schemaRegistry : Option (List RegistryInstance)
  controlCenter : Option (List ControlCenterInstance)
deriving DecidableEq, Inhabited

def Platform.isEmpty (p : Platform) : Bool :=
  p.kafka.isNone && p.kafkaConnect.isNone && p.schemaRegistry.isNone && p.controlCenter.isNone

def Platform.empty : Platform := ⟨none, none, none, none⟩

def principalSchema : Schema String where
  name := "PrincipalRef"
  blank := ""
  fields := [.mandatory "principal" Decoder.text fun v _ => v]

def KafkaRoles.schema : Schema KafkaRoles where
  name := "Kafka"
  blank := ⟨∅⟩
  fields := [
    .defaulted "rbac" [] (Decoder.pairs (Decoder.list principalSchema.decode))
      fun v _ => ⟨OrderedMap.ofPairs v⟩]

/-- A component that is a list of instances. -/
def instancesSchema {α : Type} (name : String) (decode : Decoder α) : Schema (List α) where
  name := name
  blank := []
  fields := [.defaulted "instances" [] (Decoder.list decode) fun v _ => v]

def ConnectInstance.schema : Schema ConnectInstance where
  name := "ConnectInstance"
  blank := ⟨"", none, none, none, none⟩
  fields := [
    .mandatory "principal" Decoder.text fun v i => { i with principal := v },
    .defaulted "group" [] optionalText fun v i => { i with group := v },
    .defaulted "status_topic" [] optionalText fun v i => { i with statusTopic := v },
    .defaulted "offset_topic" [] optionalText fun v i => { i with offsetTopic := v },
    .defaulted "configs_topic" [] optionalText fun v i => { i with configsTopic := v }]

def RegistryInstance.schema : Schema RegistryInstance where
  name := "SchemaRegistryInstance"
  blank := ⟨"", none, none⟩
  fields := [
    .mandatory "principal" Decoder.text fun v i => { i with principal := v },
    .defaulted "topic" [] optionalText fun v i => { i with topic := v },
    .defaulted "group" [] optionalText fun v i => { i with group := v }]

def ControlCenterInstance.schema : Schema ControlCenterInstance where
  name := "ControlCenterInstance"
  blank := ⟨"", none⟩
  fields := [
    .mandatory "principal" Decoder.text fun v i => { i with principal := v },
    .defaulted "appId" ["app_id"] optionalText fun v i => { i with appId := v }]

end KafkaTopology
