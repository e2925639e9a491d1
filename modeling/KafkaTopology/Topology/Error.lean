import KafkaTopology.Decode
import KafkaTopology.Topology.Member
/-!
# Why a document is no topology (specification, section 7)

One constructor per cause; the wording of all of them is `TopologyError.message`.
-/
namespace KafkaTopology

/-- The language that a topology is written in. -/
inductive Format where
  | yaml
  | json
  | toml
deriving DecidableEq, Repr, Inhabited

def Format.name : Format → String
  | .yaml => "YAML"
  | .json => "JSON"
  | .toml => "TOML"

/-- A component of the platform. -/
inductive Component where
  | kafka
  | kafkaConnect
  | schemaRegistry
  | controlCenter
deriving DecidableEq, Repr, Inhabited

def Component.key : Component → String
  | .kafka => "kafka"
  | .kafkaConnect => "kafka_connect"
  | .schemaRegistry => "schema_registry"
  | .controlCenter => "control_center"

/-- A part of a document that has to have a certain shape. -/
inductive Section where
  | root
  | context
  | component (c : Component)
  | projects
  | project
  | members (role : Role) (project : String)
  | artefacts (project : String)
  | topics (project : String)
  | topicConfig (topic project : String)
  | rbac (project : String)
  | rbacRole (role project : String)
deriving DecidableEq, Repr

/-- What is wrong with the shape of a section. -/
inductive SectionFault where
  | rootIsNoMapping
  | contextIsNoText
  | projectsAreNoList
  | projectIsNoMapping
  | rbacHoldsNoMapping
  | rbacIsNeither
  | roleIsNoList
  | configIsNoScalar (key : String)
  | undecodable (cause : DecodeError)
deriving DecidableEq, Repr

/-- An entity that lacks a required field. -/
inductive Entity where
  | project
  | topic (project : String)
  | rbacRole (role project : String)
deriving DecidableEq, Repr

/-- Why there is no topology. -/
inductive TopologyError where
  | missingKeys (keys : List String)
  | missingField (entity : Entity) (field : String)
  | missingTopics (project : String)
  | incompleteArtefact
  | unknownServer (label : String)
  | illegalTopicName (name : String)
  | invalidSection (part : Section) (fault : SectionFault)
  | malformed (format : Format)
  | unreadable (path : String) (reason : String)
deriving DecidableEq, Repr

def Section.message : Section → String
  | .root => "topology"
  | .context => "context"
  | .component c => "platform." ++ c.key
  | .projects => "projects"
  | .project => "project"
  | .members role p => role.key ++ " of project " ++ p
  | .artefacts p => "artefacts of project " ++ p
  | .topics p => "topics of project " ++ p
  | .topicConfig topic p => "config of topic " ++ topic ++ " in project " ++ p
  | .rbac p => "rbac of project " ++ p
  | .rbacRole role p => "rbac role " ++ role ++ " of project " ++ p

def SectionFault.message : SectionFault → String
  | .rootIsNoMapping => "expected a mapping at the document root"
  | .contextIsNoText => "must be a non-empty scalar"
  | .projectsAreNoList => "expected a list of projects"
  | .projectIsNoMapping => "expected a mapping"
  | .rbacHoldsNoMapping => "expected role mappings"
  | .rbacIsNeither => "expected a list or a mapping"
  | .roleIsNoList => "expected a list of principals"
  | .configIsNoScalar key => "value of " ++ key ++ " must be a string, number or boolean"
  | .undecodable cause => cause.message

def Entity.message : Entity → String
  | .project => "project"
  | .topic p => "topic in project " ++ p
  | .rbacRole role p => (Section.rbacRole role p).message

def TopologyError.message : TopologyError → String
  | .missingKeys keys => "missing required key(s): " ++ ", ".intercalate keys
  | .missingField entity field =>
    entity.message ++ " is missing required field '" ++ field ++ "'"
  | .missingTopics p => "topics is missing for project: " ++ p ++ ", this is a required field"
  | .incompleteArtefact =>
    "kafka connect: path, name and label are artefact mandatory fields"
  | .unknownServer label =>
    "kafka connect: server alias label " ++ label ++
      " does not exist in the provided configuration"
  | .illegalTopicName name =>
    "topic name \"" ++ name ++ "\" is illegal, it contains a character other than " ++
      "ASCII alphanumerics, '.', '_' and '-'"
  | .invalidSection part fault => "invalid " ++ part.message ++ ": " ++ fault.message
  | .malformed format => "invalid " ++ format.name
  | .unreadable path reason => "failed to read " ++ path ++ ": " ++ reason

end KafkaTopology
