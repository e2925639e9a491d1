import KafkaTopology.Proofs.OrderedMap
import KafkaTopology.Proofs.Topology.Grammar
/-!
# What a document declares

Whatever an accepted document lists is in the topology, entry by entry and in the order of the
document: projects, the members of every role, artefacts, the principals of role assignments, and
topics; and of a platform that is a mapping every component. Of the two spellings of the key of the
artefacts the first one with a value counts. What is listed under the other one then is not looked
at, nor is a platform that is no mapping (`declared_and_dropped`).
-/
namespace KafkaTopology.Topology

open Except (bind_eq_ok_iff pure_eq_ok_iff mapM_eq_ok_iff)

/-! ## Lists -/

/-- Whether a document is a list with one entry for each of some values, in their order. -/
def Lists {α : Type} (r : Document → α → Prop) (d : Document) (values : List α) : Prop :=
  ∃ items, d = .list items ∧ List.Forall₂ r items values

/-- Whether a document decodes as a value. -/
def Decodes {α : Type} (decode : Decoder α) (d : Document) (a : α) : Prop :=
  decode .strict d = .ok a

theorem lists_nil_iff {α : Type} {r : Document → α → Prop} {values : List α} :
    Lists r (.list []) values ↔ [] = values := by
  simp [Lists, eq_comm]

theorem list_eq_ok_iff {α : Type} {decode : Decoder α} {d : Document} {values : List α} :
    Decoder.list decode .strict d = .ok values ↔ Lists (Decodes decode) d values := by
  cases d with
  | list items =>
    simp only [Decoder.list, Lists, mapM_eq_ok_iff]
    constructor
    · exact fun h => ⟨items, rfl, h⟩
    · rintro ⟨_, ⟨⟩, h⟩
      exact h
  | _ => simp [Decoder.list, Lists, Decoder.mismatch]

/-- What is decoded from the entries of a list and then checked. -/
theorem exists_mapM_iff {α β : Type} {r : Document → α → Prop} {check : α → Checked β}
    {d : Document} {values : List β} :
    (∃ written, Lists r d written ∧ written.mapM check = .ok values) ↔
      Lists (fun item b => ∃ a, r item a ∧ check a = .ok b) d values := by
  constructor
  · rintro ⟨written, ⟨items, rfl, hitems⟩, hcheck⟩
    refine ⟨items, rfl, ?_⟩
    induction hitems generalizing values with
    | nil =>
      cases hcheck
      exact .nil
    | cons hitem _ ih =>
      obtain ⟨b, hb, rest, hrest, rfl⟩ := Except.mapM_cons_eq_ok_iff.1 hcheck
      exact .cons ⟨_, hitem, hb⟩ (ih hrest)
  · rintro ⟨items, rfl, hitems⟩
    induction hitems with
    | nil => exact ⟨[], lists_nil_iff.2 rfl, rfl⟩
    | cons hitem _ ih =>
      obtain ⟨a, ha, hb⟩ := hitem
      obtain ⟨written, ⟨_, ⟨⟩, hwritten⟩, hcheck⟩ := ih
      exact ⟨a :: written, ⟨_, rfl, .cons ha hwritten⟩,
        Except.mapM_cons_eq_ok_iff.2 ⟨_, hb, _, hcheck, rfl⟩⟩

/-! ## Components and members -/

theorem rel_none_iff {α β : Type} {r : α → β → Prop} {v : Option β} :
    Option.Rel r none v ↔ v = none :=
  ⟨fun h => by cases h; rfl, fun h => h ▸ .none⟩

theorem rel_some_iff {α β : Type} {r : α → β → Prop} {a : α} {v : Option β} :
    Option.Rel r (some a) v ↔ ∃ b, r a b ∧ v = some b :=
  ⟨fun h => by cases h with | some h => exact ⟨_, h, rfl⟩, fun ⟨_, h, hv⟩ => hv ▸ .some h⟩

/-- A component that is declared is there. -/
theorem readComponent_eq_ok_iff {α : Type} {platform : Entries} {c : Component}
    {decode : Decoder α} {v : Option α} :
    readComponent platform c decode = .ok v ↔
      Option.Rel (Decodes decode) (present? platform c.key) v := by
  rw [readComponent]
  cases present? platform c.key with
  | none => simp [rel_none_iff, eq_comm]
  | some d =>
    simp only [rel_some_iff, bind_eq_ok_iff, pure_eq_ok_iff, decodeIn_eq_ok_iff, @eq_comm _ v]
    rfl

/-- The components of a platform that is a mapping. -/
structure KeepsPlatform (entries : Entries) (p : Platform) : Prop where
  kafka : Option.Rel (Decodes KafkaRoles.schema.decode) (present? entries Component.kafka.key)
    p.kafka
  kafkaConnect : Option.Rel
    (Decodes (instancesSchema "KafkaConnect" ConnectInstance.schema.decode).decode)
    (present? entries Component.kafkaConnect.key) p.kafkaConnect
  schemaRegistry : Option.Rel
    (Decodes (instancesSchema "SchemaRegistry" RegistryInstance.schema.decode).decode)
    (present? entries Component.schemaRegistry.key) p.schemaRegistry
  controlCenter : Option.Rel
    (Decodes (instancesSchema "ControlCenter" ControlCenterInstance.schema.decode).decode)
    (present? entries Component.controlCenter.key) p.controlCenter

theorem readPlatform_eq_ok_iff {entries : Entries} {p : Platform} :
    readPlatform (some (.mapping entries)) = .ok p ↔ KeepsPlatform entries p := by
  simp only [readPlatform, bind_eq_ok_iff, pure_eq_ok_iff, readComponent_eq_ok_iff]
  constructor
  · rintro ⟨_, hkafka, _, hconnect, _, hregistry, _, hcontrol, rfl⟩
    exact ⟨hkafka, hconnect, hregistry, hcontrol⟩
  · exact fun h => ⟨_, h.kafka, _, h.kafkaConnect, _, h.schemaRegistry, _, h.controlCenter, rfl⟩

/-- A role that is declared has one member for each entry. -/
theorem readMembers_eq_ok_iff {α : Type} {project : String} {entries : Entries} {role : Role}
    {decode : Decoder α} {members : Option (List α)} :
    readMembers project entries role decode = .ok members ↔
      Option.Rel (Lists (Decodes decode)) (present? entries role.key) members := by
  rw [readMembers]
  cases present? entries role.key with
  | none => simp [rel_none_iff, eq_comm]
  | some d =>
    simp only [rel_some_iff, bind_eq_ok_iff, pure_eq_ok_iff, decodeIn_eq_ok_iff, list_eq_ok_iff,
      @eq_comm _ members]

/-! ## Connectors -/

/-- Whether a document declares an artefact on a known server. -/
def DeclaresArtefact (naming : Naming) (d : Document) (a : Artefact) : Prop :=
  ∃ w, Decodes WrittenArtefact.schema.decode d w ∧ checkArtefact naming w = .ok a

/-- Whether a document declares a section with connectors: a list of members, or a mapping with a
list of members and a list of artefacts, of which each may be missing. -/
def DeclaresConnectors (naming : Naming) : Document → ConnectorSection → Prop
  | .mapping entries, s =>
    Lists (Decodes ConnectorMember.schema.decode)
        ((present? entries "access_control").getD (.list [])) s.members ∧
      Lists (DeclaresArtefact naming)
        ((present? entries "artefacts" <|> present? entries "artifacts").getD (.list []))
        s.artefacts
  | d, s => Lists (Decodes ConnectorMember.schema.decode) d s.members ∧ s.artefacts = []

theorem readArtefacts_eq_ok_iff {naming : Naming} {project : String} {d : Document}
    {artefacts : List Artefact} :
    readArtefacts naming project d = .ok artefacts ↔
      Lists (DeclaresArtefact naming) d artefacts := by
  simp only [readArtefacts, bind_eq_ok_iff, decodeIn_eq_ok_iff, list_eq_ok_iff]
  exact exists_mapM_iff

theorem findSome?_artefactKeys (entries : Entries) :
    artefactKeys.findSome? (present? entries) =
      (present? entries "artefacts" <|> present? entries "artifacts") := by
  rw [artefactKeys, List.findSome?_cons, List.findSome?_cons]
  rcases present? entries "artefacts" with - | d <;>
    rcases present? entries "artifacts" with - | d' <;> rfl

theorem exists_section_iff {p : List ConnectorMember → Prop} {q : List Artefact → Prop}
    {connectors : Option ConnectorSection} :
    (∃ members, p members ∧ ∃ artefacts, q artefacts ∧
      some ⟨members, artefacts⟩ = connectors) ↔
      ∃ s, (p s.members ∧ q s.artefacts) ∧ connectors = some s :=
  ⟨fun ⟨_, hp, _, hq, h⟩ => ⟨_, ⟨hp, hq⟩, h.symm⟩, fun ⟨_, ⟨hp, hq⟩, h⟩ => ⟨_, hp, _, hq, h.symm⟩⟩

theorem readConnectors_eq_ok_iff {naming : Naming} {project : String} {entries : Entries}
    {connectors : Option ConnectorSection} :
    readConnectors naming project entries = .ok connectors ↔
      Option.Rel (DeclaresConnectors naming) (present? entries Role.connectors.key) connectors := by
  rw [readConnectors]
  cases present? entries Role.connectors.key with
  | none => simp [rel_none_iff, eq_comm]
  | some d =>
    rw [rel_some_iff]
    cases d with
    | mapping parts =>
      simp only [DeclaresConnectors, findSome?_artefactKeys, ← exists_section_iff]
      rcases present? parts "access_control" with - | access <;>
        rcases present? parts "artefacts" <|> present? parts "artifacts" with - | artefacts <;>
        simp only [bind_eq_ok_iff, pure_eq_ok_iff, decodeIn_eq_ok_iff, list_eq_ok_iff,
          readArtefacts_eq_ok_iff, lists_nil_iff, Option.getD_none, Option.getD_some]
    | _ =>
      refine Iff.trans ?_ (exists_section_iff (q := (· = [])))
      simp only [bind_eq_ok_iff, pure_eq_ok_iff, decodeIn_eq_ok_iff, list_eq_ok_iff, exists_eq_left]

/-! ## Role assignments -/

/-- The mappings that role assignments are written as: one, or a list of them. -/
inductive Assigns : Option Document → List Entries → Prop
  | absent : Assigns none []
  | null : Assigns (some .null) []
  | one (mapping : Entries) : Assigns (some (.mapping mapping)) [mapping]
  | many (mappings : List Entries) : Assigns (some (.list (mappings.map .mapping))) mappings

/-- Everything that some entries list for a role, in their order. -/
def listedFor (role : String) (entries : Entries) : List Document :=
  entries.flatMap fun e =>
    match e with
    | (key, .list items) => if key = role then items else []
    | _ => []

/-- Whether a document declares a principal. -/
def DeclaresPrincipal (d : Document) (principal : String) : Prop :=
  (d.get? "principal").bind Document.scalarText? = some principal

/-- The role assignments of a project: for each role one principal for everything that is listed,
wherever the role is named. -/
structure KeepsRbac (mappings : List Entries) (rbac : OrderedMap String (List String)) : Prop where
  lists : ∀ e ∈ mappings.flatten, ∃ items, e.2 = .list items
  principals : ∀ role, List.Forall₂ DeclaresPrincipal (listedFor role mappings.flatten)
    ((rbac.get? role).getD [])

theorem assigns_of_rbacMappings {project : String} {d : Option Document} {mappings : List Entries}
    (h : rbacMappings project d = .ok mappings) : Assigns d mappings := by
  rcases d with - | d
  · cases h
    exact .absent
  cases d with
  | null =>
    cases h
    exact .null
  | mapping mapping =>
    cases h
    exact .one mapping
  | list items =>
    obtain rfl : items = mappings.map .mapping := by
      refine (List.forall₂_eq_eq_eq ▸ List.forall₂_map_right_iff.2 ?_ : _)
      refine (mapM_eq_ok_iff.1 h).imp fun d entries hd => ?_
      cases d <;> cases hd
      rfl
    exact .many mappings
  | _ => cases h

/-- Adding a role puts its principals behind those that are there already. -/
theorem principals_of_addRole {project : String} {m m' : OrderedMap String (List String)}
    {e : String × Document} (h : addRole project m e = .ok m') :
    (∃ items, e.2 = .list items) ∧ ∀ role, ∃ names,
      List.Forall₂ DeclaresPrincipal (listedFor role [e]) names ∧
        (m'.get? role).getD [] = (m.get? role).getD [] ++ names := by
  obtain ⟨key, d⟩ := e
  cases d with
  | list items =>
    obtain ⟨names, hnames, ⟨⟩⟩ := bind_eq_ok_iff.1 h
    have hprincipals : List.Forall₂ DeclaresPrincipal items names := by
      refine (mapM_eq_ok_iff.1 hnames).imp fun d s hd => ?_
      rw [readPrincipal] at hd
      rw [DeclaresPrincipal]
      split at hd
      · next s' hs =>
        cases hd
        exact hs
      · cases hd
    refine ⟨⟨items, rfl⟩, fun role => ?_⟩
    by_cases hrole : key = role
    · subst hrole
      exact ⟨names, by simpa [listedFor] using hprincipals, by simp [OrderedMap.get?_set]⟩
    · exact ⟨[], by simp [listedFor, hrole], by simp [OrderedMap.get?_set, Ne.symm hrole]⟩
  | _ => cases h

theorem principals_of_addRoles {project : String} {entries : Entries}
    {m m' : OrderedMap String (List String)} (h : entries.foldlM (addRole project) m = .ok m') :
    (∀ e ∈ entries, ∃ items, e.2 = .list items) ∧ ∀ role, ∃ names,
      List.Forall₂ DeclaresPrincipal (listedFor role entries) names ∧
        (m'.get? role).getD [] = (m.get? role).getD [] ++ names := by
  induction entries generalizing m with
  | nil =>
    cases h
    exact ⟨nofun, fun role => ⟨[], .nil, (List.append_nil _).symm⟩⟩
  | cons e entries ih =>
    obtain ⟨m₁, hfirst, hrest⟩ := bind_eq_ok_iff.1 h
    obtain ⟨hlist, hadd⟩ := principals_of_addRole hfirst
    obtain ⟨hlists, hadds⟩ := ih hrest
    refine ⟨List.forall_mem_cons.2 ⟨hlist, hlists⟩, fun role => ?_⟩
    obtain ⟨names, hnames, hget⟩ := hadd role
    obtain ⟨names', hnames', hget'⟩ := hadds role
    refine ⟨names ++ names', ?_, by rw [hget', hget, List.append_assoc]⟩
    have hlisted : listedFor role (e :: entries) =
        listedFor role [e] ++ listedFor role entries := by
      simp [listedFor]
    rw [hlisted]
    exact List.rel_append hnames hnames'

theorem keepsRbac_of_readRbac {project : String} {d : Option Document}
    {rbac : OrderedMap String (List String)} (h : readRbac project d = .ok rbac) :
    ∃ mappings, Assigns d mappings ∧ KeepsRbac mappings rbac := by
  obtain ⟨mappings, hmappings, hroles⟩ := bind_eq_ok_iff.1 h
  obtain ⟨hlists, hprincipals⟩ := principals_of_addRoles hroles
  refine ⟨mappings, assigns_of_rbacMappings hmappings, hlists, fun role => ?_⟩
  obtain ⟨names, hnames, hget⟩ := hprincipals role
  rw [hget]
  exact hnames

/-! ## Projects -/

/-- Whether a document declares a topic of a project. -/
def DeclaresTopic (separator project qualifiedName : String) (d : Document) (topic : Topic) :
    Prop :=
  ∃ w, Decodes WrittenTopic.schema.decode d w ∧
    checkTopic separator project qualifiedName w = .ok topic

/-- What a project has of what its entries declare. -/
structure KeepsProject (naming : Naming) (entries : Entries) (p : Project) : Prop where
  name : (Entries.get? "name" entries).bind Document.scalarText? = some p.name
  consumers : Option.Rel (Lists (Decodes Consumer.schema.decode))
    (present? entries Role.consumers.key) p.consumers
  producers : Option.Rel (Lists (Decodes Producer.schema.decode))
    (present? entries Role.producers.key) p.producers
  streams : Option.Rel (Lists (Decodes StreamApp.schema.decode))
    (present? entries Role.streams.key) p.streams
  connectors : Option.Rel (DeclaresConnectors naming)
    (present? entries Role.connectors.key) p.connectors
  schemas : Option.Rel (Lists (Decodes SchemaMember.schema.decode))
    (present? entries Role.schemas.key) p.schemas
  rbac : ∃ mappings, Assigns (Entries.get? "rbac" entries) mappings ∧ KeepsRbac mappings p.rbac
  topics : ∃ d, present? entries "topics" = some d ∧
    Lists (DeclaresTopic naming.separator p.name p.qualifiedName) d p.topics

theorem keepsProject_of_readProject {naming : Naming} {fullContext : String}
    {order : List String} {d : Document} {p : Project}
    (h : readProject naming fullContext order d = .ok p) :
    ∃ entries, d = .mapping entries ∧ KeepsProject naming entries p := by
  obtain ⟨entries, rfl, hname, -, -, hconsumers, hproducers, hstreams, hconnectors, hschemas, hrbac,
    htopics⟩ := readProject_eq_ok_iff.1 h
  obtain ⟨d, hd, written, hwritten, hcheck⟩ := readTopics_eq_ok_iff.1 htopics
  exact ⟨entries, rfl, hname, readMembers_eq_ok_iff.1 hconsumers,
    readMembers_eq_ok_iff.1 hproducers, readMembers_eq_ok_iff.1 hstreams,
    readConnectors_eq_ok_iff.1 hconnectors, readMembers_eq_ok_iff.1 hschemas,
    keepsRbac_of_readRbac hrbac, d, hd,
    exists_mapM_iff.1 ⟨written, list_eq_ok_iff.1 hwritten, hcheck⟩⟩

/-! ## The whole document -/

/-- What an accepted document lists in its projects is in the topology, in the order of the document,
and so are the components of a platform that is a mapping. Of the keys for artefacts this is the one
that is read. -/
theorem declared_is_kept {naming : Naming} {d : Document} {t : Topology}
    (h : ofDocument naming d = .ok t) :
    ∃ root, d = .mapping root ∧
      (∀ entries, Entries.get? "platform" root = some (.mapping entries) →
        KeepsPlatform entries t.platform) ∧
      ∃ projects, Entries.get? "projects" root = some projects ∧
        Lists (fun item p => ∃ entries, item = .mapping entries ∧ KeepsProject naming entries p)
          projects t.projects := by
  obtain ⟨root, rfl, -, -, -, -, hplatform, hprojects, -⟩ := ofDocument_eq_ok_iff.1 h
  obtain ⟨items, hitems, hread⟩ := readProjects_eq_ok_iff.1 hprojects
  refine ⟨root, rfl, fun entries hentries => ?_, .list items, hitems, items, rfl, ?_⟩
  · rw [hentries] at hplatform
    exact readPlatform_eq_ok_iff.1 hplatform
  · exact (mapM_eq_ok_iff.1 hread).imp fun _ _ => keepsProject_of_readProject

/-! ## A document that declares too much -/

namespace Lavish

/-- An artefact on the one server there is. -/
def artefact (name : String) : Document :=
  .mapping [("path", .text (name ++ ".json")), ("server", .text "main"), ("name", .text name)]

/-- Connectors with artefacts under both spellings of the key. -/
def connectors : Entries :=
  [("artefacts", .list [artefact "sink"]), ("artifacts", .list [artefact "source"])]

/-- The entries of a project with these connectors, and a role that is named twice. -/
def project : Entries := [
  ("name", .text "pay"),
  ("connectors", .mapping connectors),
  ("rbac", .list [
    .mapping [("Owner", .list [.mapping [("principal", .text "User:ann")]])],
    .mapping [("Owner", .list [.mapping [("principal", .text "User:bob")]])]]),
  ("topics", .list [.mapping [("name", .text "wages")], .mapping [("name", .text "bills")]])]

/-- A document with this project, and with a list where the platform should be. -/
def root : Entries := [
  ("context", .text "prod"),
  ("platform", .list []),
  ("projects", .list [.mapping project])]

def naming : Naming := ⟨.ofList ["main"], "."⟩

/-- The topology of the document. -/
def topology : Topology where
  context := "prod"
  attributes := []
  separator := "."
  platform := .empty
  projects := [{
    name := "pay"
    qualifiedName := "prod.pay"
    order := ["context"]
    consumers := none
    producers := none
    streams := none
    connectors := some ⟨[], [⟨"main", "sink", "sink.json"⟩]⟩
    schemas := none
    rbac := .ofPairs [("Owner", ["User:ann", "User:bob"])]
    topics := [⟨"wages", none, ∅, "prod.pay.wages"⟩, ⟨"bills", none, ∅, "prod.pay.bills"⟩] }]

theorem read_root : ofDocument naming (.mapping root) = .ok topology := by
  rfl

end Lavish

/-- The two topics and the two owners of the project are there. -/
theorem declared_is_kept_lavish :
    ofDocument Lavish.naming (.mapping Lavish.root) = .ok Lavish.topology ∧
      List.Forall₂ (KeepsProject Lavish.naming) [Lavish.project] Lavish.topology.projects := by
  obtain ⟨_, ⟨⟩, -, _, ⟨⟩, _, ⟨⟩, hprojects⟩ := declared_is_kept Lavish.read_root
  have hmap : List.Forall₂ (fun item p => ∃ entries, item = .mapping entries ∧
      KeepsProject Lavish.naming entries p) ([Lavish.project].map Document.mapping)
      Lavish.topology.projects := hprojects
  refine ⟨Lavish.read_root, (List.forall₂_map_left_iff.1 hmap).imp fun entries p hp => ?_⟩
  obtain ⟨_, ⟨⟩, hkeeps⟩ := hp
  exact hkeeps

/-- A document is accepted though it has artefacts under both spellings of the key, of which those
under the second one are dropped, and though its platform is no mapping. -/
theorem declared_and_dropped :
    ofDocument Lavish.naming (.mapping Lavish.root) = .ok Lavish.topology ∧
      present? Lavish.connectors "artifacts" = some (.list [Lavish.artefact "source"]) ∧
      Lavish.topology.projects.map (·.artefacts) = [[⟨"main", "sink", "sink.json"⟩]] ∧
      Entries.get? "platform" Lavish.root = some (.list []) :=
  ⟨Lavish.read_root, rfl, rfl, rfl⟩

end KafkaTopology.Topology
