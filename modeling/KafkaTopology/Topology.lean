import KafkaTopology.Topology.Platform
import KafkaTopology.Artefact
/-!
# Topologies (specification, section 3)

The desired state of a messaging platform: a context, attributes that take part in naming, the
platform and the projects. A topic's full name is the join of the context, the scalar attributes,
the project's name, the topic's name and its data type.
-/
namespace KafkaTopology

/-- The text of a scalar value; lists, mappings and null have none. -/
def Document.scalarText? : Document → Option String
  | .text s => some s
  | .integer n => some (toString n)
  | .float x => some x.text
  | .bool b => some (toString b)
  | .null | .list _ | .mapping _ => none

/-- A topic of a project. `fullName` is its name on the cluster. -/
structure Topic where
  name : String
  dataType : Option String
  config : OrderedMap String String
  fullName : String
deriving DecidableEq, Inhabited

/-- The connectors of a project: the principals that run them, and what is deployed. -/
structure ConnectorSection where
  members : List ConnectorMember
  artefacts : List Artefact
deriving DecidableEq, Inhabited

/-- A project: members by role, role assignments and topics. A role is absent unless the document
names it. -/
structure Project where
  name : String
  /-- What the full name of every topic of the project begins with. -/
  qualifiedName : String
  /-- The keys that take part in naming, as the topology has them. -/
  order : List String
  consumers : Option (List Consumer)
  producers : Option (List Producer)
  streams : Option (List StreamApp)
  connectors : Option ConnectorSection
  schemas : Option (List SchemaMember)
  rbac : OrderedMap String (List String)
  topics : List Topic
deriving DecidableEq, Inhabited

/-- A whole topology. `attributes` are the root entries without a meaning of their own. -/
structure Topology where
  context : String
  attributes : Entries
  separator : String
  platform : Platform
  projects : List Project
deriving Inhabited

/-- Joins the parts of a name. -/
def joinName (separator : String) (parts : List String) : String := separator.intercalate parts

namespace Project

def hasRole (p : Project) : Role → Bool
  | .consumers => p.consumers.isSome
  | .producers => p.producers.isSome
  | .streams => p.streams.isSome
  | .connectors => p.connectors.isSome
  | .schemas => p.schemas.isSome

def connectorMembers (p : Project) : List ConnectorMember :=
  (p.connectors.map (·.members)).getD []

def artefacts (p : Project) : List Artefact := (p.connectors.map (·.artefacts)).getD []

/-- The principal of every member, role by role. -/
def principals (p : Project) : List String :=
  (p.consumers.getD []).map (·.principal) ++ (p.producers.getD []).map (·.principal) ++
    (p.streams.getD []).map (·.principal) ++ p.connectorMembers.map (·.principal) ++
    (p.schemas.getD []).map (·.principal)

end Project

namespace Topology

/-- The context, then the attributes in document order. -/
def orderOf (attributes : Entries) : List String := "context" :: attributes.keys

/-- The keys that take part in naming. -/
def order (t : Topology) : List String := orderOf t.attributes

/-- The texts of the scalar attributes, in document order. -/
def scalarAttributes (attributes : Entries) : List String :=
  attributes.filterMap fun (_, d) => d.scalarText?

/-- The context followed by the scalar attributes. -/
def joinContext (separator context : String) (attributes : Entries) : String :=
  joinName separator (context :: scalarAttributes attributes)

/-- What the names of all projects begin with. -/
def fullContext (t : Topology) : String := joinContext t.separator t.context t.attributes

def topics (t : Topology) : List Topic := t.projects.flatMap (·.topics)

def topicNames (t : Topology) : List String := t.topics.map (·.fullName)

end Topology
end KafkaTopology
