import KafkaTopology.Topology
import KafkaTopology.Topology.Error
/-!
# Topologies of documents (specification, section 4.1)

`Topology.ofDocument` checks a document and names its topics. The checks run in a fixed order: the
required keys, the context, the platform, the projects one after the other, and at last the full
names of all topics. The first check that fails gives the error.
-/
namespace KafkaTopology

/-- What a document is read against: the aliases of the known Connect servers and the text between
the parts of a name. -/
structure Naming where
  servers : OrderedSet String
  separator : String
deriving DecidableEq, Inhabited

/-- A character that a topic name may have. -/
def isTopicNameChar (c : Char) : Bool :=
  c.isAlphanum || c == '.' || c == '_' || c == '-'

/-- Whether a cluster accepts the name of a topic. -/
def isLegalTopicName (name : String) : Bool :=
  !name.toList.isEmpty && name.toList.all isTopicNameChar

namespace Topology

/-- The result of a check. -/
abbrev Checked (α : Type) := Except TopologyError α

def refuse {α : Type} (part : Section) (fault : SectionFault) : Checked α :=
  .error (.invalidSection part fault)

/-- Decodes a value as part of a section. -/
def decodeIn {α : Type} (part : Section) (decode : Decoder α) (d : Document) : Checked α :=
  match decode .strict d with
  | .ok a => .ok a
  | .error e => refuse part (.undecodable e)

/-- The value of a key, unless it is null. -/
def present? (entries : Entries) (key : String) : Option Document :=
  match Entries.get? key entries with
  | some .null => none
  | other => other

/-! ## Root -/

def requiredKeys : List String := ["context", "projects"]

/-- The keys of a root that have a meaning of their own. -/
def knownKeys : List String := ["projects", "context", "platform"]

/-- Every required key has to have a value. -/
def checkRequiredKeys (root : Entries) : Checked Unit :=
  match requiredKeys.filter (fun k => (present? root k).isNone) with
  | [] => .ok ()
  | missing => .error (.missingKeys missing)

/-- The context is a scalar with a text. -/
def readContext (root : Entries) : Checked String :=
  match (Entries.get? "context" root).bind Document.scalarText? with
  | some s => if s.isEmpty then refuse .context .contextIsNoText else .ok s
  | none => refuse .context .contextIsNoText

/-- The entries that are kept as attributes. -/
def attributesOf (root : Entries) : Entries := root.filter (fun e => !knownKeys.contains e.1)

/-! ## Platform -/

/-- A component of the platform, unless it is absent. -/
def readComponent {α : Type} (platform : Entries) (c : Component) (decode : Decoder α) :
    Checked (Option α) :=
  match present? platform c.key with
  | none => .ok none
  | some d => do return some (← decodeIn (.component c) decode d)

/-- The platform; what is no mapping declares no component. -/
def readPlatform (d : Option Document) : Checked Platform :=
  match d with
  | some (.mapping entries) => do
    let kafka ← readComponent entries .kafka KafkaRoles.schema.decode
    let connect ← readComponent entries .kafkaConnect
      (instancesSchema "KafkaConnect" ConnectInstance.schema.decode).decode
    let registry ← readComponent entries .schemaRegistry
      (instancesSchema "SchemaRegistry" RegistryInstance.schema.decode).decode
    let control ← readComponent entries .controlCenter
      (instancesSchema "ControlCenter" ControlCenterInstance.schema.decode).decode
    return ⟨kafka, connect, registry, control⟩
  | _ => .ok .empty

/-! ## Members -/

def readMembers {α : Type} (project : String) (entries : Entries) (role : Role)
    (decode : Decoder α) : Checked (Option (List α)) :=
  match present? entries role.key with
  | none => .ok none
  | some d => do return some (← decodeIn (.members role project) (Decoder.list decode) d)

/-- An artefact as it is written. -/
structure WrittenArtefact where
  path : Option String
  server : Option String
  name : Option String
deriving DecidableEq, Inhabited

def WrittenArtefact.schema : Schema WrittenArtefact where
  name := "RawArtefact"
  blank := ⟨none, none, none⟩
  fields := [
    .omissible "path" [] optionalText fun v a => { a with path := v },
    .omissible "server" ["server_label"] optionalText fun v a => { a with server := v },
    .omissible "name" [] optionalText fun v a => { a with name := v }]

/-- An artefact has all its fields and names a known server. -/
def checkArtefact (naming : Naming) (w : WrittenArtefact) : Checked Artefact :=
  match w.path, w.server, w.name with
  | some path, some server, some name =>
    if naming.servers.contains server then .ok ⟨server, name, path⟩
    else .error (.unknownServer server)
  | _, _, _ => .error .incompleteArtefact

def readArtefacts (naming : Naming) (project : String) (d : Document) :
    Checked (List Artefact) := do
  let written ← decodeIn (.artefacts project) (Decoder.list WrittenArtefact.schema.decode) d
  written.mapM (checkArtefact naming)

/-- The spellings of the key of the artefacts; the first one with a value counts. -/
def artefactKeys : List String := ["artefacts", "artifacts"]

/-- The connectors of a project: a list of members, or a mapping with members and artefacts. -/
def readConnectors (naming : Naming) (project : String) (entries : Entries) :
    Checked (Option ConnectorSection) :=
  match present? entries Role.connectors.key with
  | none => .ok none
  | some (.mapping entries) => do
    let members ←
      match present? entries "access_control" with
      | none => pure []
      | some d =>
        decodeIn (.members .connectors project) (Decoder.list ConnectorMember.schema.decode) d
    let artefacts ←
      match artefactKeys.findSome? (present? entries) with
      | none => pure []
      | some d => readArtefacts naming project d
    return some ⟨members, artefacts⟩
  | some d => do
    let members ← decodeIn (.members .connectors project)
      (Decoder.list ConnectorMember.schema.decode) d
    return some ⟨members, []⟩

/-! ## Role assignments -/

/-- The mappings of roles to principals: one, or a list of them. -/
def rbacMappings (project : String) : Option Document → Checked (List Entries)
  | none => .ok []
  | some .null => .ok []
  | some (.mapping entries) => .ok [entries]
  | some (.list items) => items.mapM fun d =>
    match d with
    | .mapping entries => .ok entries
    | _ => refuse (.rbac project) .rbacHoldsNoMapping
  | some _ => refuse (.rbac project) .rbacIsNeither

/-- The principal of one entry of a role. -/
def readPrincipal (project role : String) (d : Document) : Checked String :=
  match (d.get? "principal").bind Document.scalarText? with
  | some s => .ok s
  | none => .error (.missingField (.rbacRole role project) "principal")

/-- Adds one role's principals to those that are already there. -/
def addRole (project : String) (rbac : OrderedMap String (List String)) (e : String × Document) :
    Checked (OrderedMap String (List String)) :=
  match e.2 with
  | .list items => do
    let names ← items.mapM (readPrincipal project e.1)
    return rbac.set e.1 ((rbac.get? e.1).getD [] ++ names)
  | _ => refuse (.rbacRole e.1 project) .roleIsNoList

/-- The role assignments of a project. -/
def readRbac (project : String) (d : Option Document) :
    Checked (OrderedMap String (List String)) := do
  let mappings ← rbacMappings project d
  mappings.flatten.foldlM (addRole project) ∅

/-! ## Topics -/

/-- A topic as it is written. -/
structure WrittenTopic where
  name : Option String
  dataType : Option String
  config : OrderedMap String Document
deriving Inhabited

def WrittenTopic.schema : Schema WrittenTopic where
  name := "RawTopic"
  blank := ⟨none, none, ∅⟩
  fields := [
    .omissible "name" [] optionalText fun v t => { t with name := v },
    .defaulted "dataType" ["data_type"] optionalText fun v t => { t with dataType := v },
    .defaulted "config" [] (Decoder.pairs Decoder.any)
      fun v t => { t with config := OrderedMap.ofPairs v }]

/-- A setting of a topic has a text. -/
def readSetting (project topic : String) (e : String × Document) : Checked (String × String) :=
  match e.2.scalarText? with
  | some s => .ok (e.1, s)
  | none => refuse (.topicConfig topic project) (.configIsNoScalar e.1)

/-- The full name of a topic. -/
def renderName (separator qualifiedName name : String) (dataType : Option String) : String :=
  joinName separator (qualifiedName :: name :: dataType.toList)

/-- A topic has a name and settings with texts. -/
def checkTopic (separator project qualifiedName : String) (w : WrittenTopic) : Checked Topic :=
  match w.name with
  | none => .error (.missingField (.topic project) "name")
  | some name => do
    let config ← w.config.toPairs.mapM (readSetting project name)
    return ⟨name, w.dataType, OrderedMap.ofPairs config,
      renderName separator qualifiedName name w.dataType⟩

def readTopics (separator project qualifiedName : String) (entries : Entries) :
    Checked (List Topic) :=
  match present? entries "topics" with
  | none => .error (.missingTopics project)
  | some d => do
    let written ← decodeIn (.topics project) (Decoder.list WrittenTopic.schema.decode) d
    written.mapM (checkTopic separator project qualifiedName)

/-! ## Projects -/

def readProject (naming : Naming) (fullContext : String) (order : List String) (d : Document) :
    Checked Project :=
  match d with
  | .mapping entries => do
    let name ←
      match (Entries.get? "name" entries).bind Document.scalarText? with
      | some s => pure s
      | none => .error (.missingField .project "name")
    let qualifiedName := joinName naming.separator [fullContext, name]
    let consumers ← readMembers name entries .consumers Consumer.schema.decode
    let producers ← readMembers name entries .producers Producer.schema.decode
    let streams ← readMembers name entries .streams StreamApp.schema.decode
    let connectors ← readConnectors naming name entries
    let schemas ← readMembers name entries .schemas SchemaMember.schema.decode
    let rbac ← readRbac name (Entries.get? "rbac" entries)
    let topics ← readTopics naming.separator name qualifiedName entries
    return ⟨name, qualifiedName, order, consumers, producers, streams, connectors, schemas, rbac,
      topics⟩
  | _ => refuse .project .projectIsNoMapping

def readProjects (naming : Naming) (fullContext : String) (order : List String) (root : Entries) :
    Checked (List Project) :=
  match Entries.get? "projects" root with
  | some (.list items) => items.mapM (readProject naming fullContext order)
  | _ => refuse .projects .projectsAreNoList

def checkTopicName (name : String) : Checked Unit :=
  if isLegalTopicName name then .ok () else .error (.illegalTopicName name)

/-- The topology that a document describes. -/
def ofDocument (naming : Naming) (d : Document) : Checked Topology :=
  match d with
  | .mapping root => do
    checkRequiredKeys root
    let context ← readContext root
    let attributes := attributesOf root
    let platform ← readPlatform (Entries.get? "platform" root)
    let projects ← readProjects naming (joinContext naming.separator context attributes)
      (orderOf attributes) root
    let topology : Topology := ⟨context, attributes, naming.separator, platform, projects⟩
    topology.topicNames.forM checkTopicName
    return topology
  | _ => refuse .root .rootIsNoMapping

end Topology
end KafkaTopology
