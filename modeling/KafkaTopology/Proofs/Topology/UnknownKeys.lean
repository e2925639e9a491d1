import KafkaTopology.Proofs.Decode.Place
import KafkaTopology.Proofs.Topology.FrontEnds
/-!
# The order of keys, and keys without a meaning

`Place.topology` says which keys a topology recognises, section by section. The keys of a document
may come in any order, at any depth, and it may have further keys wherever a key is not recognised:
it is accepted as before, as the same topology (`ofDocument_edited`). Only at the root are further
keys kept, as attributes; their order is the order in which they take part in names, so it counts.
-/
namespace KafkaTopology

open Document (Edited pruned prunedEntries)

/-! ## The places of a topology -/

namespace Place

/-- A field that is read as it is. -/
def plain (spellings : List String) : List String × Place := (spellings, .verbatim)

def consumer : Place := .record [plain ["principal"], plain ["group"]]

def producer : Place :=
  .record [plain ["principal"], plain ["transactionId", "transaction_id"], plain ["idempotence"]]

def topicAccess : Place := .record [plain ["read"], plain ["write"]]

def streamApp : Place :=
  .record [plain ["principal"], plain ["applicationId", "application_id"],
    (["topics"], topicAccess)]

def connectorMember : Place :=
  .record [plain ["principal"], (["topics"], topicAccess), plain ["connectors"]]

def schemaMember : Place := .record [plain ["principal"], plain ["subjects"]]

def principalRef : Place := .record [plain ["principal"]]

def kafkaRoles : Place := .record [(["rbac"], .keyed (.list principalRef))]

def instances (each : Place) : Place := .record [(["instances"], .list each)]

def connectInstance : Place :=
  .record [plain ["principal"], plain ["group"], plain ["status_topic"], plain ["offset_topic"],
    plain ["configs_topic"]]

def registryInstance : Place := .record [plain ["principal"], plain ["topic"], plain ["group"]]

def controlCenterInstance : Place := .record [plain ["principal"], plain ["appId", "app_id"]]

def platform : Place :=
  .record [(["kafka"], kafkaRoles), (["kafka_connect"], instances connectInstance),
    (["schema_registry"], instances registryInstance),
    (["control_center"], instances controlCenterInstance)]

def artefact : Place :=
  .record [plain ["path"], plain ["server", "server_label"], plain ["name"]]

/-- A list of members, or a mapping with members and artefacts. -/
def connectors : Place :=
  .either
    (.record [(["access_control"], .list connectorMember), (["artefacts"], .list artefact),
      (["artifacts"], .list artefact)])
    (.list connectorMember)

/-- The principals of each role. -/
def roles : Place := .keyed (.list principalRef)

def topic : Place :=
  .record [plain ["name"], plain ["dataType", "data_type"], plain ["config"]]

def project : Place :=
  .record [plain ["name"], (["consumers"], .list consumer), (["producers"], .list producer),
    (["streams"], .list streamApp), (["connectors"], connectors),
    (["schemas"], .list schemaMember), (["rbac"], .either roles (.list roles)),
    (["topics"], .list topic)]

/-- The root of a document. -/
def topology : Place :=
  .root [plain ["context"], (["platform"], platform), (["projects"], .list project)]

end Place

/-! ## Records -/

section
variable {ρ α : Type}

theorem stands_plain {f : Field ρ} {decode : Decoder α} {set : α → ρ → ρ}
    (h : f.read = fun rules d r => do return set (← decode rules d) r) :
    f.Stands (Place.plain (f.name :: f.aliases)) :=
  ⟨rfl, Field.ignores_of_read h (Decoder.ignores_verbatim decode)⟩

theorem stands_of_ignores {f : Field ρ} {decode : Decoder α} {set : α → ρ → ρ} {p : Place}
    (h : f.read = fun rules d r => do return set (← decode rules d) r) (hdecode : decode.Ignores p) :
    f.Stands (f.name :: f.aliases, p) :=
  ⟨rfl, Field.ignores_of_read h hdecode⟩

end

theorem Consumer.ignores : schema.decode.Ignores Place.consumer :=
  Schema.ignores (.cons (stands_plain rfl) (.cons (stands_plain rfl) .nil))

theorem Producer.ignores : schema.decode.Ignores Place.producer :=
  Schema.ignores
    (.cons (stands_plain rfl) (.cons (stands_plain rfl) (.cons (stands_plain rfl) .nil)))

theorem TopicAccess.ignores : schema.decode.Ignores Place.topicAccess :=
  Schema.ignores (.cons (stands_plain rfl) (.cons (stands_plain rfl) .nil))

theorem StreamApp.ignores : schema.decode.Ignores Place.streamApp :=
  Schema.ignores (.cons (stands_plain rfl) (.cons (stands_plain rfl)
    (.cons (stands_of_ignores rfl TopicAccess.ignores) .nil)))

theorem ConnectorMember.ignores : schema.decode.Ignores Place.connectorMember :=
  Schema.ignores (.cons (stands_plain rfl)
    (.cons (stands_of_ignores rfl TopicAccess.ignores) (.cons (stands_plain rfl) .nil)))

theorem SchemaMember.ignores : schema.decode.Ignores Place.schemaMember :=
  Schema.ignores (.cons (stands_plain rfl) (.cons (stands_plain rfl) .nil))

theorem ignores_principalSchema : principalSchema.decode.Ignores Place.principalRef :=
  Schema.ignores (.cons (stands_plain rfl) .nil)

theorem KafkaRoles.ignores : schema.decode.Ignores Place.kafkaRoles :=
  Schema.ignores (.cons (stands_of_ignores rfl ignores_principalSchema.list.pairs) .nil)

theorem ignores_instancesSchema {α : Type} (name : String) {decode : Decoder α} {p : Place}
    (h : decode.Ignores p) : (instancesSchema name decode).decode.Ignores (.instances p) :=
  Schema.ignores (.cons (stands_of_ignores rfl h.list) .nil)

theorem ConnectInstance.ignores : schema.decode.Ignores Place.connectInstance :=
  Schema.ignores (.cons (stands_plain rfl) (.cons (stands_plain rfl) (.cons (stands_plain rfl)
    (.cons (stands_plain rfl) (.cons (stands_plain rfl) .nil)))))

theorem RegistryInstance.ignores : schema.decode.Ignores Place.registryInstance :=
  Schema.ignores
    (.cons (stands_plain rfl) (.cons (stands_plain rfl) (.cons (stands_plain rfl) .nil)))

theorem ControlCenterInstance.ignores : schema.decode.Ignores Place.controlCenterInstance :=
  Schema.ignores (.cons (stands_plain rfl) (.cons (stands_plain rfl) .nil))

theorem Project.under_under (separator context context' : String) (order order' : List String)
    (p : Project) :
    (p.under separator context order).under separator context' order' =
      p.under separator context' order' := by
  simp only [Project.under, List.map_map]
  rfl

namespace Topology

theorem WrittenArtefact.ignores : WrittenArtefact.schema.decode.Ignores Place.artefact :=
  Schema.ignores
    (.cons (stands_plain rfl) (.cons (stands_plain rfl) (.cons (stands_plain rfl) .nil)))

theorem WrittenTopic.ignores : WrittenTopic.schema.decode.Ignores Place.topic :=
  Schema.ignores
    (.cons (stands_plain rfl) (.cons (stands_plain rfl) (.cons (stands_plain rfl) .nil)))

/-! ## Sections -/

section
variable {α : Type} {naming : Naming} {project : String} {p q : Place} {entries : Entries}

theorem present?_pruned {key : String} (h : p.under key = some q) :
    present? (prunedEntries p entries) key = (present? entries key).map (pruned q) := by
  rw [present?, present?, Document.get?_prunedEntries, h, Option.bind_some]
  rcases Entries.get? key entries with - | d
  · rfl
  · cases d <;> simp [Document.pruned]

theorem decodeIn_pruned {decode : Decoder α} (h : decode.Ignores p) (part : Section)
    (d : Document) : decodeIn part decode (d.pruned p) = decodeIn part decode d := by
  rw [decodeIn, decodeIn, h]

theorem readComponent_pruned {decode : Decoder α} (h : decode.Ignores q) {c : Component}
    (hunder : p.under c.key = some q) :
    readComponent (prunedEntries p entries) c decode = readComponent entries c decode := by
  rw [readComponent, readComponent, present?_pruned hunder]
  cases present? entries c.key with
  | none => rfl
  | some d => simp only [Option.map_some, decodeIn_pruned h]

theorem readPlatform_pruned (d : Option Document) :
    readPlatform (d.map (pruned .platform)) = readPlatform d := by
  rcases d with - | d
  · rfl
  cases d with
  | mapping entries =>
    rw [Option.map_some, Document.pruned_mapping]
    simp only [readPlatform]
    rw [readComponent_pruned KafkaRoles.ignores rfl,
      readComponent_pruned (ignores_instancesSchema _ ConnectInstance.ignores) rfl,
      readComponent_pruned (ignores_instancesSchema _ RegistryInstance.ignores) rfl,
      readComponent_pruned (ignores_instancesSchema _ ControlCenterInstance.ignores) rfl]
  | list items =>
    rw [Option.map_some, Document.pruned_list]
    rfl
  | _ => rfl

theorem readMembers_pruned {decode : Decoder α} (h : decode.Ignores q) (role : Role)
    (hunder : p.under role.key = some (.list q)) :
    readMembers project (prunedEntries p entries) role decode =
      readMembers project entries role decode := by
  rw [readMembers, readMembers, present?_pruned hunder]
  cases present? entries role.key with
  | none => rfl
  | some d => simp only [Option.map_some, decodeIn_pruned h.list]

theorem readArtefacts_pruned (d : Document) :
    readArtefacts naming project (d.pruned (.list .artefact)) = readArtefacts naming project d := by
  rw [readArtefacts, readArtefacts, decodeIn_pruned WrittenArtefact.ignores.list]

theorem readConnectors_pruned (hunder : p.under Role.connectors.key = some .connectors) :
    readConnectors naming project (prunedEntries p entries) =
      readConnectors naming project entries := by
  rw [readConnectors, readConnectors, present?_pruned hunder]
  cases present? entries Role.connectors.key with
  | none => rfl
  | some d =>
    cases d with
    | mapping parts =>
      have hartefacts : artefactKeys.findSome? (present? (prunedEntries .connectors parts)) =
          (artefactKeys.findSome? (present? parts)).map (pruned (.list .artefact)) := by
        rw [findSome?_artefactKeys, findSome?_artefactKeys,
          present?_pruned (q := .list .artefact) rfl, present?_pruned (q := .list .artefact) rfl]
        cases present? parts "artefacts" <;> rfl
      have haccess : present? (prunedEntries .connectors parts) "access_control" =
          (present? parts "access_control").map (pruned (.list .connectorMember)) :=
        present?_pruned rfl
      rw [Option.map_some, Document.pruned_mapping]
      simp only [haccess, hartefacts]
      rcases present? parts "access_control" with - | access <;>
        rcases artefactKeys.findSome? (present? parts) with - | artefacts <;>
        simp only [Option.map_none, Option.map_some, decodeIn_pruned ConnectorMember.ignores.list,
          readArtefacts_pruned]
    | list items =>
      have hmembers := decodeIn_pruned ConnectorMember.ignores.list (.members .connectors project)
        (.list items)
      rw [Option.map_some, Place.connectors, Document.pruned_either_list]
      rw [Document.pruned_list] at hmembers ⊢
      simp only [hmembers]
    | _ => rfl

/-! ## Role assignments -/

theorem readPrincipal_pruned (role : String) (d : Document) :
    readPrincipal project role (d.pruned .principalRef) = readPrincipal project role d := by
  have hprincipal : (d.pruned .principalRef).get? "principal" = d.get? "principal" := by
    cases d with
    | mapping entries =>
      rw [Document.pruned_mapping, Document.get?, Document.get?,
        Document.get?_prunedEntries (p := .principalRef)]
      show (Entries.get? "principal" entries).map (pruned .verbatim) = _
      cases Entries.get? "principal" entries with
      | none => rfl
      | some d => rw [Option.map_some, Document.pruned_verbatim]
    | list items =>
      rw [Document.pruned_list]
      rfl
    | _ => rfl
  rw [readPrincipal, readPrincipal, hprincipal]

theorem addRole_pruned (m : OrderedMap String (List String)) (e : String × Document) :
    addRole project m (e.1, e.2.pruned (.list .principalRef)) = addRole project m e := by
  obtain ⟨role, d⟩ := e
  cases d with
  | list items =>
    have hnames : items.mapM (readPrincipal project role ∘ pruned .principalRef) =
        items.mapM (readPrincipal project role) :=
      List.mapM_congr_mem fun item _ => readPrincipal_pruned role item
    rw [Document.pruned_list, Document.prunedItems_eq_map (q := .principalRef) fun _ => rfl]
    simp only [addRole, List.mapM_map, hnames]
  | mapping entries =>
    rw [Document.pruned_mapping]
    rfl
  | _ => rfl

/-- The roles of a mapping without unrecognised keys. -/
def prunedRoles (roles : Entries) : Entries :=
  roles.map fun e => (e.1, e.2.pruned (.list .principalRef))

theorem pruned_roles (roles : Entries) :
    (Document.mapping roles).pruned .roles = .mapping (prunedRoles roles) := by
  rw [Document.pruned_mapping, Document.prunedEntries_eq_map fun _ => rfl]
  rfl

theorem rbacMappings_pruned (d : Option Document) :
    rbacMappings project (d.map (pruned (.either .roles (.list .roles)))) =
      (rbacMappings project d).map (List.map prunedRoles) := by
  rcases d with - | d
  · rfl
  cases d with
  | mapping entries =>
    rw [Option.map_some, Document.pruned_either_mapping, pruned_roles]
    rfl
  | list items =>
    rw [Option.map_some, Document.pruned_either_list, Document.pruned_list,
      Document.prunedItems_eq_map (q := .roles) fun _ => rfl]
    simp only [rbacMappings, List.mapM_map, ← Except.mapM_map]
    refine List.mapM_congr_mem fun d _ => ?_
    cases d with
    | mapping entries =>
      rw [Function.comp_apply, pruned_roles]
      rfl
    | list items =>
      rw [Function.comp_apply, Document.pruned_list]
      rfl
    | _ => rfl
  | _ => rfl

theorem readRbac_pruned (d : Option Document) :
    readRbac project (d.map (pruned (.either .roles (.list .roles)))) = readRbac project d := by
  rw [readRbac, readRbac, rbacMappings_pruned]
  cases rbacMappings project d with
  | error e => rfl
  | ok mappings =>
    show (mappings.map prunedRoles).flatten.foldlM (addRole project) ∅ =
      mappings.flatten.foldlM (addRole project) ∅
    have hroles : (mappings.map prunedRoles).flatten =
        mappings.flatten.map fun e => (e.1, e.2.pruned (.list .principalRef)) :=
      List.map_flatten.symm
    rw [hroles, List.foldlM_map]
    simp only [addRole_pruned]

/-! ## Projects -/

theorem readTopics_pruned {separator qualifiedName : String}
    (hunder : p.under "topics" = some (.list .topic)) :
    readTopics separator project qualifiedName (prunedEntries p entries) =
      readTopics separator project qualifiedName entries := by
  rw [readTopics, readTopics, present?_pruned hunder]
  cases present? entries "topics" with
  | none => rfl
  | some d => simp only [Option.map_some, decodeIn_pruned WrittenTopic.ignores.list]

theorem get?_plain {key : String} (h : p.under key = some .verbatim) :
    Entries.get? key (prunedEntries p entries) = Entries.get? key entries := by
  rw [Document.get?_prunedEntries, h, Option.bind_some]
  cases Entries.get? key entries with
  | none => rfl
  | some d => rw [Option.map_some, Document.pruned_verbatim]

theorem readProject_pruned {context : String} {order : List String} (d : Document) :
    readProject naming context order (d.pruned .project) = readProject naming context order d := by
  cases d with
  | mapping entries =>
    rw [Document.pruned_mapping]
    have hname : Entries.get? "name" (prunedEntries .project entries) =
      Entries.get? "name" entries := get?_plain rfl
    have hrbac : Entries.get? "rbac" (prunedEntries .project entries) =
        (Entries.get? "rbac" entries).map (pruned (.either .roles (.list .roles))) :=
      Document.get?_prunedEntries "rbac" entries
    simp only [readProject, hname, hrbac, readMembers_pruned Consumer.ignores .consumers (p := .project) rfl,
      readMembers_pruned Producer.ignores .producers (p := .project) rfl,
      readMembers_pruned StreamApp.ignores .streams (p := .project) rfl,
      readConnectors_pruned (p := .project) rfl,
      readMembers_pruned SchemaMember.ignores .schemas (p := .project) rfl, readRbac_pruned,
      readTopics_pruned (p := .project) rfl]
  | list items =>
    rw [Document.pruned_list]
    rfl
  | _ => rfl

/-! ## The whole document -/

/-- The keys that keep their positions are those of the attributes. -/
theorem keepsOrder_topology (key : String) :
    Place.topology.keepsOrder key = !knownKeys.contains key := by
  simp only [Place.topology, Place.plain, Place.keepsOrder, knownKeys, List.any_cons, List.any_nil,
    List.contains_cons, List.contains_nil, Bool.or_false]
  cases key == "context" <;> cases key == "platform" <;> cases key == "projects" <;> rfl

theorem under_topology {key : String} (h : (!knownKeys.contains key) = true) :
    Place.topology.under key = some .verbatim := by
  simp only [knownKeys, List.contains_cons, List.contains_nil, Bool.or_false,
    Bool.not_eq_true', Bool.or_eq_false_iff] at h
  simp only [Place.topology, Place.plain, Place.under, List.find?_cons, List.contains_cons,
    List.contains_nil, Bool.or_false, h]
  rfl

theorem attributesOf_pruned (root : Entries) :
    attributesOf (prunedEntries .topology root) = attributesOf root := by
  induction root with
  | nil => rfl
  | cons e rest ih =>
    obtain ⟨key, d⟩ := e
    by_cases hkey : (!knownKeys.contains key) = true
    · rw [prunedEntries, under_topology hkey]
      simp only [attributesOf, List.filter_cons, hkey, if_true, Document.pruned_verbatim] at ih ⊢
      rw [ih]
    · rw [prunedEntries]
      show attributesOf ((key, _) :: prunedEntries .topology rest) = _
      simp only [attributesOf, List.filter_cons, hkey] at ih ⊢
      exact ih

theorem checkRequiredKeys_pruned (root : Entries) :
    checkRequiredKeys (prunedEntries .topology root) = checkRequiredKeys root := by
  have hcontext : present? (prunedEntries .topology root) "context" =
    (present? root "context").map (pruned .verbatim) := present?_pruned rfl
  have hprojects : present? (prunedEntries .topology root) "projects" =
    (present? root "projects").map (pruned (.list .project)) := present?_pruned rfl
  simp only [checkRequiredKeys, requiredKeys, List.filter_cons, hcontext, hprojects,
    Option.isNone_map]
  rfl

theorem readProjects_pruned (context : String) (order : List String) (root : Entries) :
    readProjects naming context order (prunedEntries .topology root) =
      readProjects naming context order root := by
  have hget : Entries.get? "projects" (prunedEntries .topology root) =
      (Entries.get? "projects" root).map (pruned (.list .project)) :=
    Document.get?_prunedEntries "projects" root
  rw [readProjects, readProjects, hget]
  rcases Entries.get? "projects" root with - | d
  · rfl
  cases d with
  | list items =>
    rw [Option.map_some, Document.pruned_list,
      Document.prunedItems_eq_map (q := .project) fun _ => rfl]
    show (items.map (pruned .project)).mapM (readProject naming context order) =
      items.mapM (readProject naming context order)
    rw [List.mapM_map]
    exact List.mapM_congr_mem fun item _ => readProject_pruned item
  | mapping entries =>
    rw [Option.map_some, Document.pruned_mapping]
  | _ => rfl

/-- Keys that are not recognised make no difference, not even to the error. -/
theorem ofDocument_pruned (d : Document) :
    ofDocument naming (d.pruned .topology) = ofDocument naming d := by
  cases d with
  | mapping root =>
    have hcontext : Entries.get? "context" (prunedEntries .topology root) =
      Entries.get? "context" root := get?_plain rfl
    have hplatform : Entries.get? "platform" (prunedEntries .topology root) =
        (Entries.get? "platform" root).map (pruned .platform) :=
      Document.get?_prunedEntries "platform" root
    rw [Document.pruned_mapping]
    simp only [ofDocument, checkRequiredKeys_pruned, readContext, hcontext, attributesOf_pruned,
      hplatform, readPlatform_pruned, readProjects_pruned]
  | list items =>
    rw [Document.pruned_list]
    rfl
  | _ => rfl

end

/-! ## Topologies that differ in the order of keys within attributes -/

open Document (orderedEntries)

theorem scalarAttributes_orderedEntries (attributes : Entries) :
    scalarAttributes (orderedEntries attributes) = scalarAttributes attributes := by
  rw [Document.orderedEntries_eq_map, scalarAttributes, List.filterMap_map]
  exact congrArg (List.filterMap · attributes) (funext fun e => e.2.scalarText?_ordered)

/-- What two topologies have in common if they are the same but for the order of keys within
attributes. -/
structure Same (t t' : Topology) : Prop where
  context : t.context = t'.context
  separator : t.separator = t'.separator
  platform : t.platform = t'.platform
  projects : t.projects = t'.projects
  attributes : orderedEntries t.attributes = orderedEntries t'.attributes

namespace Same

variable {t t' : Topology}

theorem order (h : t.Same t') : t.order = t'.order := by
  have hkeys := congrArg (List.map Prod.fst) h.attributes
  rw [Document.map_fst_orderedEntries, Document.map_fst_orderedEntries] at hkeys
  exact congrArg ("context" :: ·) hkeys

theorem fullContext (h : t.Same t') : t.fullContext = t'.fullContext := by
  rw [Topology.fullContext, Topology.fullContext, joinContext, joinContext, h.context, h.separator,
    ← scalarAttributes_orderedEntries, h.attributes, scalarAttributes_orderedEntries]

theorem topicNames (h : t.Same t') : t.topicNames = t'.topicNames := by
  rw [Topology.topicNames, Topology.topicNames, topics, topics, h.projects]

theorem bindings (h : t.Same t') : t.bindings = t'.bindings := by
  rw [Topology.bindings, Topology.bindings, h.projects, h.platform]

theorem accounts (h : t.Same t') : t.accounts = t'.accounts := by
  rw [Topology.accounts, Topology.accounts, h.projects, h.platform]

theorem topicSet (h : t.Same t') : t.topicSet = t'.topicSet := by
  rw [Topology.topicSet, Topology.topicSet, h.topicNames]

theorem artefacts (h : t.Same t') : t.artefacts = t'.artefacts := by
  rw [Topology.artefacts, Topology.artefacts, h.projects]

end Same

variable {naming : Naming} {d d' : Document} {t t' : Topology}

theorem keptKeys_of_ofDocument (h : ofDocument naming d = .ok t) :
    d.keptKeys .topology = t.attributes.map Prod.fst := by
  obtain ⟨root, rfl, -, -, hattributes, -⟩ := ofDocument_eq_ok_iff.1 h
  rw [hattributes, Document.keptKeys, attributesOf]
  simp only [keepsOrder_topology]

theorem nodup_of_ofDocument (hd : d.Distinct) (h : ofDocument naming d = .ok t) :
    (t.attributes.map Prod.fst).Nodup := by
  obtain ⟨root, rfl, -, -, hattributes, -⟩ := ofDocument_eq_ok_iff.1 h
  rw [hattributes]
  exact hd.nodup.sublist (List.filter_sublist.map _)

/-- The projects of a topology are named after its full context. -/
theorem under_of_ofDocument (h : ofDocument naming d = .ok t) :
    t.projects.map (·.under t.separator t.fullContext t.order) = t.projects := by
  obtain ⟨root, -, -, -, -, hseparator, -, hprojects, -⟩ := ofDocument_eq_ok_iff.1 h
  rw [hseparator]
  exact map_under_eq_self hprojects

/-- Topologies that are the same with their attributes in order are the same if their attributes
have the same order. -/
theorem same_of_inKeyOrder (hinKeyOrder : t.inKeyOrder = t'.inKeyOrder)
    (hkeys : t.attributes.map Prod.fst = t'.attributes.map Prod.fst)
    (hnodup : (t.attributes.map Prod.fst).Nodup)
    (hunder : t.projects.map (·.under t.separator t.fullContext t.order) = t.projects)
    (hunder' : t'.projects.map (·.under t'.separator t'.fullContext t'.order) = t'.projects) :
    t.Same t' := by
  obtain ⟨context, attributes, separator, platform, projects⟩ := t
  obtain ⟨context', attributes', separator', platform', projects'⟩ := t'
  simp only [inKeyOrder, Topology.mk.injEq] at hinKeyOrder
  obtain ⟨rfl, hattributes, rfl, rfl, hprojects⟩ := hinKeyOrder
  have hsame : orderedEntries attributes = orderedEntries attributes' := by
    refine Document.eq_of_perm_of_keys ?_ ?_ ?_
    · rw [Document.orderedEntries_eq_map, Document.orderedEntries_eq_map]
      exact (Document.perm_inKeyOrder hnodup).symm.trans
        (hattributes ▸ Document.perm_inKeyOrder (hkeys ▸ hnodup))
    · rwa [Document.map_fst_orderedEntries, Document.map_fst_orderedEntries]
    · rwa [Document.map_fst_orderedEntries]
  refine ⟨rfl, rfl, rfl, ?_, hsame⟩
  -- both lists of projects are what the projects under the ordered attributes are under the
  -- full context and the order, which are the same
  have hcontext : (⟨context, attributes, separator, platform, projects⟩ : Topology).fullContext =
      (⟨context, attributes', separator, platform, projects'⟩ : Topology).fullContext := by
    rw [Topology.fullContext, Topology.fullContext, joinContext, joinContext,
      ← scalarAttributes_orderedEntries, hsame, scalarAttributes_orderedEntries]
  have horder : (⟨context, attributes, separator, platform, projects⟩ : Topology).order =
      (⟨context, attributes', separator, platform, projects'⟩ : Topology).order :=
    congrArg ("context" :: ·) hkeys
  rw [← hunder, ← hunder', hcontext, horder]
  have hagain := congrArg (List.map (·.under separator
    (⟨context, attributes', separator, platform, projects'⟩ : Topology).fullContext
    (⟨context, attributes', separator, platform, projects'⟩ : Topology).order)) hprojects
  simpa only [List.map_map, Function.comp_def, Project.under_under] using hagain

/-- What edits make of an accepted document is accepted, as the same topology. -/
theorem exists_same (hd : (d.pruned .topology).Distinct) (h : Edited .topology d d')
    (ht : ofDocument naming d = .ok t) : ∃ t', ofDocument naming d' = .ok t' ∧ t.Same t' := by
  obtain ⟨hdistinct, hordered⟩ := h.alike
  have hpruned := (ofDocument_pruned d).trans ht
  have hread := (ofDocument_ordered_iff hd).2 ⟨t, hpruned, rfl⟩
  rw [hordered hd] at hread
  obtain ⟨t', hpruned', hsame⟩ := (ofDocument_ordered_iff (hdistinct.1 hd)).1 hread
  have ht' := (ofDocument_pruned d').symm.trans hpruned'
  have hkeys : t.attributes.map Prod.fst = t'.attributes.map Prod.fst := by
    rw [← keptKeys_of_ofDocument ht, ← keptKeys_of_ofDocument ht', h.keptKeys_eq]
  exact ⟨t', ht', same_of_inKeyOrder hsame.symm hkeys (nodup_of_ofDocument hd hpruned)
    (under_of_ofDocument ht) (under_of_ofDocument ht')⟩

/-- **Neither the order of keys nor unrecognised keys matter.** Let a document come from another one
by any number of edits: keys change places at any depth, all but those of the attributes at the
root, and entries with unrecognised keys come and go. Then it is accepted exactly if the other one
is. The two topologies are the same up to the order of keys within attributes: they have the same
order and full context, name and configure the same topics, and ask for the same bindings, accounts,
topics and artefacts. -/
theorem ofDocument_edited (naming : Naming) (hd : d.Distinct) (h : Edited .topology d d') :
    (ofDocument naming d).isOk = (ofDocument naming d').isOk ∧
      ∀ t t', ofDocument naming d = .ok t → ofDocument naming d' = .ok t' →
        t.Same t' ∧ t.order = t'.order ∧ t.fullContext = t'.fullContext ∧
          t.topicNames = t'.topicNames ∧ t.bindings = t'.bindings ∧ t.accounts = t'.accounts ∧
          t.topicSet = t'.topicSet ∧ t.artefacts = t'.artefacts := by
  have hpruned : (d.pruned .topology).Distinct := hd.pruned
  have hpruned' := h.alike.distinct.1 hpruned
  refine ⟨Bool.eq_iff_iff.2 ?_, fun t t' ht ht' => ?_⟩
  · rw [Except.isOk_iff, Except.isOk_iff]
    exact ⟨fun ⟨_, ht⟩ => (exists_same hpruned h ht).imp fun _ => And.left,
      fun ⟨_, ht'⟩ => (exists_same hpruned' h.symm ht').imp fun _ => And.left⟩
  · obtain ⟨u, hu, hsame⟩ := exists_same hpruned h ht
    obtain rfl : u = t' := Except.ok.inj (hu.symm.trans ht')
    exact ⟨hsame, hsame.order, hsame.fullContext, hsame.topicNames, hsame.bindings,
      hsame.accounts, hsame.topicSet, hsame.artefacts⟩

/-! ## A document with its keys shuffled -/

namespace Shuffled

def topics : Document := .list [.mapping [("name", .text "wages")]]

/-- A document with one project. -/
def document (project : Entries) : Entries :=
  [("context", .text "prod"), ("zone", .text "eu"), ("projects", .list [.mapping project])]

def project : Entries := [("name", .text "pay"), ("topics", topics)]

/-- The project with an owner, which is no key of a project. -/
def owned : Entries := [("topics", topics), ("owner", .text "ann"), ("name", .text "pay")]

/-- The document with this project, in another order. -/
def shuffled : Entries :=
  [("projects", .list [.mapping owned]), ("zone", .text "eu"), ("context", .text "prod")]

theorem distinct_document : (Document.mapping (document project)).Distinct := by
  have htopics : topics.Distinct :=
    .list (List.forall_mem_singleton.2 (.mapping (List.forall_mem_singleton.2 (.leaf rfl))
      (by decide)))
  have hproject : (Document.mapping project).Distinct := by
    refine .mapping ?_ (by decide)
    simp only [project, List.forall_mem_cons]
    exact ⟨.leaf rfl, htopics, List.forall_mem_nil _⟩
  refine .mapping ?_ (by decide)
  simp only [document, List.forall_mem_cons]
  exact ⟨.leaf rfl, .leaf rfl, .list (List.forall_mem_singleton.2 hproject), List.forall_mem_nil _⟩

/-- An edit of the project is an edit of the document. -/
theorem edit_document {entries entries' : Entries}
    (h : Document.Edit .project (.mapping entries) (.mapping entries')) :
    Document.Edit .topology (.mapping (document entries)) (.mapping (document entries')) :=
  .value (q := .list .project) [("context", .text "prod"), ("zone", .text "eu")] [] rfl
    (.item [] [] h)

theorem edited : Edited .topology (.mapping (document project)) (.mapping shuffled) := by
  have hreorder : Document.Edit .topology (.mapping (document project))
      (.mapping (document [("topics", topics), ("name", .text "pay")])) :=
    edit_document (.reorder (.swap _ _ _) rfl)
  have hdrop : Document.Edit .topology (.mapping (document owned))
      (.mapping (document [("topics", topics), ("name", .text "pay")])) :=
    edit_document (.drop [("topics", topics)] [("name", .text "pay")] _ rfl)
  have hroot : Document.Edit .topology (.mapping (document owned)) (.mapping shuffled) :=
    .reorder (List.reverse_perm (document owned)).symm rfl
  exact .trans _ _ _ (.rel _ _ hreorder) (.trans _ _ _ (.symm _ _ (.rel _ _ hdrop))
    (.rel _ _ hroot))

end Shuffled

/-- The document and the shuffled one are accepted as the same topology. -/
theorem ofDocument_edited_shuffled :
    (Document.mapping (Shuffled.document Shuffled.project)).Distinct ∧
      Edited .topology (.mapping (Shuffled.document Shuffled.project)) (.mapping Shuffled.shuffled) ∧
      ∃ t t', ofDocument ⟨∅, "."⟩ (.mapping (Shuffled.document Shuffled.project)) = .ok t ∧
        ofDocument ⟨∅, "."⟩ (.mapping Shuffled.shuffled) = .ok t' ∧ t.Same t' ∧
        t'.topicNames = ["prod.eu.pay.wages"] := by
  obtain ⟨hok, hsame⟩ := ofDocument_edited ⟨∅, "."⟩ Shuffled.distinct_document Shuffled.edited
  have hdocument : (ofDocument ⟨∅, "."⟩ (.mapping (Shuffled.document Shuffled.project))).isOk =
    true := rfl
  obtain ⟨t, ht⟩ := Except.isOk_iff.1 hdocument
  obtain ⟨t', ht'⟩ := Except.isOk_iff.1 (hok.symm.trans hdocument)
  refine ⟨Shuffled.distinct_document, Shuffled.edited, t, t', ht, ht', (hsame t t' ht ht').1, ?_⟩
  cases ht'
  rfl

end Topology
end KafkaTopology
