import KafkaTopology.Proofs.Document.Json
import KafkaTopology.Proofs.Document.Toml
import KafkaTopology.Proofs.Document.Toml.KeyOrder
import KafkaTopology.Proofs.Topology.Isolation
import KafkaTopology.Proofs.Topology.KeyOrder
import KafkaTopology.Topology.Format
/-!
# One document in JSON and in TOML

A table of a TOML text hands its keys over in order, a mapping of a JSON text in the order of the
text. Read from both, the same document is accepted or refused, and the topologies are the same but
for the order of the attributes (`toml_eq_inKeyOrder`). The full context joins the attributes in
their order, so that the names of all projects and topics change with it unless the attributes of
the JSON text are in order (`names_apart`).
-/
namespace KafkaTopology

/-! ## Names under another context -/

/-- The topic with its name under another qualified name. -/
def Topic.under (separator qualifiedName : String) (t : Topic) : Topic :=
  { t with fullName := Topology.renderName separator qualifiedName t.name t.dataType }

/-- The project with its names under another context, which has keys in another order. -/
def Project.under (separator fullContext : String) (order : List String) (p : Project) : Project :=
  let qualifiedName := joinName separator [fullContext, p.name]
  { p with qualifiedName, order, topics := p.topics.map (·.under separator qualifiedName) }

namespace Topology

/-- The topology with its attributes in the order of their keys, and named after them. -/
def inKeyOrder (t : Topology) : Topology :=
  let attributes := Document.inKeyOrder t.attributes
  { t with
    attributes
    projects := t.projects.map
      (·.under t.separator (joinContext t.separator t.context attributes) (orderOf attributes)) }

section
variable {naming : Naming} {project : String} {entries : Entries}

theorem toPairs_reordered (w : WrittenTopic) :
    w.reordered.config.toPairs = w.config.toPairs.map fun e => (e.1, e.2.ordered) := by
  simp only [WrittenTopic.reordered, OrderedMap.mapValues, OrderedMap.toPairs, List.map_map]
  rfl

theorem checkTopic_reordered_iff {separator qualifiedName qualifiedName' : String}
    {w : WrittenTopic} {topic' : Topic} :
    checkTopic separator project qualifiedName' w.reordered = .ok topic' ↔
      ∃ topic, checkTopic separator project qualifiedName w = .ok topic ∧
        topic.under separator qualifiedName' = topic' := by
  have hsettings (name : String) : w.reordered.config.toPairs.mapM (readSetting project name) =
      w.config.toPairs.mapM (readSetting project name) := by
    rw [toPairs_reordered, List.mapM_map]
    refine List.mapM_congr_mem fun e _ => ?_
    simp only [Function.comp_apply, readSetting, Document.scalarText?_ordered]
  simp only [checkTopic_eq_ok_iff, hsettings]
  constructor
  · rintro ⟨hname, hdata, hconfig, hfull⟩
    refine ⟨{ topic' with
      fullName := renderName separator qualifiedName topic'.name topic'.dataType },
      ⟨hname, hdata, hconfig, rfl⟩, ?_⟩
    rw [Topic.under, ← hfull]
  · rintro ⟨topic, ⟨hname, hdata, hconfig, -⟩, rfl⟩
    exact ⟨hname, hdata, hconfig, rfl⟩

theorem readTopics_inKeyOrder_iff (hd : (Document.mapping entries).Distinct)
    {separator qualifiedName' : String} (qualifiedName : String) {topics' : List Topic} :
    readTopics separator project qualifiedName' (Document.inKeyOrder entries) = .ok topics' ↔
      ∃ topics, readTopics separator project qualifiedName entries = .ok topics ∧
        topics.map (·.under separator qualifiedName') = topics' := by
  simp only [readTopics_eq_ok_iff, present?_inKeyOrder hd.nodup, Option.map_eq_some_iff]
  have hlist := Decoder.reorders_list WrittenTopic.reorders
  have hcheck (written : List WrittenTopic) :
      (written.map WrittenTopic.reordered).mapM (checkTopic separator project qualifiedName') =
          .ok topics' ↔
        ∃ topics, written.mapM (checkTopic separator project qualifiedName) = .ok topics ∧
          topics.map (·.under separator qualifiedName') = topics' :=
    Except.mapM_map_eq_ok_iff fun _ _ _ => checkTopic_reordered_iff
  constructor
  · rintro ⟨_, ⟨d, hpresent, rfl⟩, _, hdecode, htopics⟩
    obtain ⟨written, hwritten, rfl⟩ :=
      (hlist.eq_ok_iff (distinct_of_present? hd hpresent)).1 hdecode
    obtain ⟨topics, hread, hunder⟩ := (hcheck written).1 htopics
    exact ⟨topics, ⟨d, hpresent, written, hwritten, hread⟩, hunder⟩
  · rintro ⟨topics, ⟨d, hpresent, written, hwritten, hread⟩, hunder⟩
    exact ⟨_, ⟨d, hpresent, rfl⟩, _,
      (hlist.eq_ok_iff (distinct_of_present? hd hpresent)).2 ⟨written, hwritten, rfl⟩,
      (hcheck written).2 ⟨topics, hread, hunder⟩⟩

theorem readProject_ordered_iff {d : Document} (hd : d.Distinct) {context context' : String}
    {order order' : List String} {p' : Project} :
    readProject naming context' order' d.ordered = .ok p' ↔
      ∃ p, readProject naming context order d = .ok p ∧
        p.under naming.separator context' order' = p' := by
  cases d with
  | mapping entries =>
    simp only [Document.ordered_mapping_eq, readProject_eq_ok_iff, Document.mapping.injEq,
      exists_eq_left', scalar_inKeyOrder hd.nodup, readMembers_inKeyOrder_iff Consumer.orderFree hd,
      readMembers_inKeyOrder_iff Producer.orderFree hd,
      readMembers_inKeyOrder_iff StreamApp.orderFree hd, readConnectors_inKeyOrder_iff hd,
      readMembers_inKeyOrder_iff SchemaMember.orderFree hd, readRbac_inKeyOrder_iff hd]
    constructor
    · rintro ⟨hname, hq, horder, hconsumers, hproducers, hstreams, hconnectors, hschemas, hrbac,
        htopics⟩
      obtain ⟨topics, hread, hunder⟩ := (readTopics_inKeyOrder_iff hd
        (joinName naming.separator [context, p'.name])).1 htopics
      refine ⟨{ p' with
          qualifiedName := joinName naming.separator [context, p'.name], order, topics },
        ⟨hname, rfl, rfl, hconsumers, hproducers, hstreams, hconnectors, hschemas, hrbac, hread⟩,
        ?_⟩
      rw [Project.under, ← hq, ← horder, hunder]
    · rintro ⟨p, ⟨hname, hq, -, hconsumers, hproducers, hstreams, hconnectors, hschemas, hrbac,
        htopics⟩, rfl⟩
      exact ⟨hname, rfl, rfl, hconsumers, hproducers, hstreams, hconnectors, hschemas, hrbac,
        (readTopics_inKeyOrder_iff hd _).2 ⟨p.topics, htopics, rfl⟩⟩
  | list items =>
    rw [Document.ordered_list]
    simp [readProject, refuse]
  | _ => simp [Document.ordered, readProject, refuse]

/-! ## The whole document -/

theorem ordered_eq_list_iff {d : Document} {items : List Document} :
    d.ordered = .list items ↔ ∃ is, d = .list is ∧ is.map Document.ordered = items := by
  cases d with
  | list is => simp [Document.ordered_list]
  | _ => simp [Document.ordered]

theorem readProjects_inKeyOrder_iff (hd : (Document.mapping entries).Distinct)
    (context : String) (order : List String) {context' : String} {order' : List String}
    {projects' : List Project} :
    readProjects naming context' order' (Document.inKeyOrder entries) = .ok projects' ↔
      ∃ projects, readProjects naming context order entries = .ok projects ∧
        projects.map (·.under naming.separator context' order') = projects' := by
  simp only [readProjects_eq_ok_iff, Document.get?_inKeyOrder hd.nodup, Option.map_eq_some_iff,
    ordered_eq_list_iff]
  have hitems {items : List Document} (h : (Document.list items).Distinct) :
      (items.map Document.ordered).mapM (readProject naming context' order') = .ok projects' ↔
        ∃ projects, items.mapM (readProject naming context order) = .ok projects ∧
          projects.map (·.under naming.separator context' order') = projects' :=
    Except.mapM_map_eq_ok_iff fun _ hitem _ => readProject_ordered_iff (h.item hitem)
  constructor
  · rintro ⟨_, ⟨_, hget, items, rfl, rfl⟩, hread⟩
    obtain ⟨projects, hprojects, hunder⟩ := (hitems (hd.get? hget)).1 hread
    exact ⟨projects, ⟨items, hget, hprojects⟩, hunder⟩
  · rintro ⟨projects, ⟨items, hget, hprojects⟩, hunder⟩
    exact ⟨_, ⟨_, hget, items, rfl, rfl⟩, (hitems (hd.get? hget)).2 ⟨projects, hprojects, hunder⟩⟩

theorem attributesOf_inKeyOrder (h : (entries.map Prod.fst).Nodup) :
    attributesOf (Document.inKeyOrder entries) = Document.inKeyOrder (attributesOf entries) :=
  Document.filter_inKeyOrder h fun key => !knownKeys.contains key

theorem checkRequiredKeys_inKeyOrder (h : (entries.map Prod.fst).Nodup) :
    checkRequiredKeys (Document.inKeyOrder entries) = checkRequiredKeys entries := by
  simp only [checkRequiredKeys, present?_inKeyOrder h, Option.isNone_map]

theorem readContext_inKeyOrder (h : (entries.map Prod.fst).Nodup) :
    readContext (Document.inKeyOrder entries) = readContext entries := by
  rw [readContext, readContext, scalar_inKeyOrder h]

theorem readPlatform_inKeyOrder_iff (hd : (Document.mapping entries).Distinct) {p : Platform} :
    readPlatform (Entries.get? "platform" (Document.inKeyOrder entries)) = .ok p ↔
      readPlatform (Entries.get? "platform" entries) = .ok p := by
  rw [Document.get?_inKeyOrder hd.nodup]
  cases hget : Entries.get? "platform" entries with
  | none => rfl
  | some d => exact readPlatform_ordered_iff (hd.get? hget)

/-! ## Whether names are legal -/

theorem toList_joinName (separator first : String) (rest : List String) :
    (joinName separator (first :: rest)).toList =
      first.toList ++ rest.flatMap fun s => separator.toList ++ s.toList := by
  rw [joinName, String.toList_intercalate]
  induction rest generalizing first with
  | nil => simp [List.intercalate]
  | cons s rest ih =>
    rw [List.map_cons, List.map_cons, List.intercalate_cons_cons, ← List.map_cons, ih,
      List.flatMap_cons]
    simp only [List.append_assoc]

theorem isLegalTopicName_congr {name name' : String} (h : name.toList.Perm name'.toList) :
    isLegalTopicName name = isLegalTopicName name' := by
  rw [isLegalTopicName, isLegalTopicName, h.isEmpty_eq, h.all_eq]

/-- Attributes in another order join to the same characters in another order. -/
theorem perm_joinContext (h : (entries.map Prod.fst).Nodup) (separator context : String) :
    (joinContext separator context (Document.inKeyOrder entries)).toList.Perm
      (joinContext separator context entries).toList := by
  have hscalars : (scalarAttributes (Document.inKeyOrder entries)).Perm
      (scalarAttributes entries) := by
    refine ((Document.perm_inKeyOrder h).filterMap _).trans (.of_eq ?_)
    rw [List.filterMap_map]
    exact congrArg (List.filterMap · entries) (funext fun e => e.2.scalarText?_ordered)
  rw [joinContext, joinContext, toList_joinName, toList_joinName]
  exact (hscalars.flatMap_right _).append_left _

theorem isLegal_under {context context' : String} (h : context'.toList.Perm context.toList)
    (separator : String) (order order' : List String) (p : Project) :
    (∀ topic ∈ (p.under separator context' order').topics,
        isLegalTopicName topic.fullName = true) ↔
      ∀ topic ∈ (p.under separator context order).topics,
        isLegalTopicName topic.fullName = true := by
  have hname (topic : Topic) :
      isLegalTopicName (renderName separator (joinName separator [context', p.name]) topic.name
          topic.dataType) =
        isLegalTopicName (renderName separator (joinName separator [context, p.name]) topic.name
          topic.dataType) := by
    refine isLegalTopicName_congr ?_
    simp only [renderName, toList_joinName, List.append_assoc]
    exact h.append_right _
  simp only [Project.under, Topic.under, List.forall_mem_map, hname]

/-- A project is named after the context that it is read under. -/
theorem under_eq_self {context : String} {order : List String} {d : Document} {p : Project}
    (h : readProject naming context order d = .ok p) :
    p.under naming.separator context order = p := by
  obtain ⟨entries, -, -, hq, horder, -, -, -, -, -, -, htopics⟩ := readProject_eq_ok_iff.1 h
  obtain ⟨_, -, written, -, hcheck⟩ := readTopics_eq_ok_iff.1 htopics
  have hunder : ∀ topic ∈ p.topics, topic.under naming.separator p.qualifiedName = topic := by
    intro topic htopic
    obtain ⟨w, -, hw⟩ := Except.exists_of_mem_mapM hcheck htopic
    rw [Topic.under, ← (checkTopic_eq_ok_iff.1 hw).2.2.2]
  rw [Project.under, ← hq, ← horder, List.map_congr_left hunder, List.map_id']

theorem map_under_eq_self {context : String} {order : List String} {projects : List Project}
    (h : readProjects naming context order entries = .ok projects) :
    projects.map (·.under naming.separator context order) = projects := by
  obtain ⟨items, -, hitems⟩ := readProjects_eq_ok_iff.1 h
  refine (List.map_congr_left fun p hp => ?_).trans (List.map_id' projects)
  obtain ⟨item, -, hitem⟩ := Except.exists_of_mem_mapM hitems hp
  exact under_eq_self hitem

theorem isLegal_topicNames_iff (t : Topology) :
    (∀ name ∈ t.topicNames, isLegalTopicName name = true) ↔
      ∀ p ∈ t.projects, ∀ topic ∈ p.topics, isLegalTopicName topic.fullName = true := by
  simp only [topicNames, topics, List.forall_mem_map, List.forall_mem_flatMap]

theorem isLegal_inKeyOrder_iff {t : Topology} (hkeys : (t.attributes.map Prod.fst).Nodup)
    (hprojects : t.projects.map (·.under t.separator t.fullContext t.order) = t.projects) :
    (∀ name ∈ t.inKeyOrder.topicNames, isLegalTopicName name = true) ↔
      ∀ name ∈ t.topicNames, isLegalTopicName name = true := by
  rw [isLegal_topicNames_iff, isLegal_topicNames_iff, ← hprojects]
  simp only [inKeyOrder, List.forall_mem_map]
  exact forall₂_congr fun p _ => isLegal_under (perm_joinContext hkeys _ _) _ _ _ p

/-- A document with its keys in order is accepted like the document itself, as a topology with its
attributes in order. -/
theorem ofDocument_ordered_iff {d : Document} (hd : d.Distinct) {t' : Topology} :
    ofDocument naming d.ordered = .ok t' ↔
      ∃ t, ofDocument naming d = .ok t ∧ t.inKeyOrder = t' := by
  cases d with
  | mapping root =>
    have hkeys : ((attributesOf root).map Prod.fst).Nodup :=
      hd.nodup.sublist (List.filter_sublist.map _)
    simp only [Document.ordered_mapping_eq, ofDocument_eq_ok_iff, Document.mapping.injEq,
      exists_eq_left', checkRequiredKeys_inKeyOrder hd.nodup, readContext_inKeyOrder hd.nodup,
      attributesOf_inKeyOrder hd.nodup, readPlatform_inKeyOrder_iff hd]
    -- The projects are read under the context of each topology; their names are legal under one
    -- exactly if they are under the other, which has the same characters.
    constructor
    · obtain ⟨context, attributes, separator, platform, projects'⟩ := t'
      rintro ⟨hrequired, hcontext, rfl, rfl, hplatform, hprojects, hnames⟩
      obtain ⟨projects, hread, hunder⟩ := (readProjects_inKeyOrder_iff hd
        (joinContext naming.separator context (attributesOf root))
        (orderOf (attributesOf root))).1 hprojects
      let t : Topology := ⟨context, attributesOf root, naming.separator, platform, projects⟩
      have ht : t.inKeyOrder = ⟨context, Document.inKeyOrder (attributesOf root),
          naming.separator, platform, projects'⟩ := congrArg (Topology.mk _ _ _ _) hunder
      refine ⟨t, ⟨hrequired, hcontext, rfl, rfl, hplatform, hread, ?_⟩, ht⟩
      rw [← ht] at hnames
      exact (isLegal_inKeyOrder_iff (t := t) hkeys (map_under_eq_self hread)).1 hnames
    · rintro ⟨⟨context, attributes, separator, platform, projects⟩,
        ⟨hrequired, hcontext, rfl, rfl, hplatform, hread, hnames⟩, rfl⟩
      exact ⟨hrequired, hcontext, rfl, rfl, hplatform,
        (readProjects_inKeyOrder_iff hd _ _).2 ⟨projects, hread, rfl⟩,
        (isLegal_inKeyOrder_iff hkeys (map_under_eq_self hread)).2 hnames⟩
  | list items =>
    rw [Document.ordered_list]
    simp [ofDocument, refuse]
  | _ => simp [Document.ordered, ofDocument, refuse]

/-! ## Two texts of one document -/

/-- The order of the attributes is kept exactly if they are in order. -/
theorem order_inKeyOrder_iff (t : Topology) :
    t.inKeyOrder.order = t.order ↔ Increasing t.attributes.keys := by
  have horder : t.inKeyOrder.order = t.order ↔
      (Document.inKeyOrder t.attributes).map Prod.fst = t.attributes.map Prod.fst :=
    List.cons_inj_right _
  rw [horder]
  constructor
  · intro h
    have hkeys := Document.increasing_inKeyOrder t.attributes
    rwa [h] at hkeys
  · intro h
    rw [Document.inKeyOrder_of_increasing h, List.map_map]
    rfl

/-- Attributes that are in order name everything as before. -/
theorem fullContext_inKeyOrder {t : Topology} (h : Increasing t.attributes.keys) :
    t.inKeyOrder.fullContext = t.fullContext := by
  have hscalars : scalarAttributes (Document.inKeyOrder t.attributes) =
      scalarAttributes t.attributes := by
    rw [Document.inKeyOrder_of_increasing h, scalarAttributes, List.filterMap_map]
    exact congrArg (List.filterMap · t.attributes) (funext fun e => e.2.scalarText?_ordered)
  rw [fullContext, fullContext, joinContext, joinContext]
  exact congrArg (fun texts => joinName t.separator (t.context :: texts)) hscalars

/-- A document that is written in JSON and in TOML is accepted in both or refused in both. The
topology of the TOML text is that of the JSON text with its attributes in order: it has the same
order exactly if they are in order already, and then it has the same names. -/
theorem toml_eq_inKeyOrder {json toml : String} {d d' : Document}
    (hjson : Format.json.read? json = some d) (htoml : Format.toml.read? toml = some d')
    (hsame : d'.ordered = d.ordered) :
    (ofText naming .toml toml).toOption =
        (ofText naming .json json).toOption.map inKeyOrder ∧
      ∀ t, ofText naming .json json = .ok t →
        (t.inKeyOrder.order = t.order ↔ Increasing t.attributes.keys) ∧
        (Increasing t.attributes.keys →
          t.inKeyOrder.fullContext = t.fullContext ∧ t.inKeyOrder.projects = t.projects) := by
  have hjson' : ofText naming .json json = ofDocument naming d := by rw [ofText, hjson]
  have htoml' : ofText naming .toml toml = ofDocument naming d.ordered := by
    obtain ⟨x, hx, hinterchange⟩ := Option.bind_eq_some_iff.1 htoml
    have hincrease := (Document.keysIncrease_of_ofToml? hx).interchange? hinterchange
    rw [ofText, htoml, ← hsame, hincrease.ordered_eq]
  rw [hjson', htoml']
  refine ⟨?_, fun t ht => ⟨order_inKeyOrder_iff t, fun hkeys => ?_⟩⟩
  · ext t'
    simp only [Option.map_eq_some_iff, Except.toOption_eq_some_iff]
    exact ofDocument_ordered_iff (Document.distinct_of_ofJson? hjson)
  · have hcontext := fullContext_inKeyOrder hkeys
    have horder := (order_inKeyOrder_iff t).2 hkeys
    obtain ⟨root, -, -, -, -, hseparator, -, hprojects, -⟩ := ofDocument_eq_ok_iff.1 ht
    refine ⟨hcontext, ?_⟩
    have hunder := map_under_eq_self hprojects
    rw [← hseparator, ← hcontext, ← horder] at hunder
    exact hunder

end

/-! ## A document with attributes that are not in order -/

namespace Apart

/-- The projects of the document. -/
def projects : Document :=
  .list [.mapping [("name", .text "pay"), ("topics", .list [.mapping [("name", .text "wages")]])]]

/-- The entries of the document, as they are written. -/
def entries : Entries := [
  ("context", .text "prod"),
  ("zone", .text "eu"),
  ("company", .text "acme"),
  ("projects", projects)]

def document : Document := .mapping entries

/-- The document in JSON. -/
def json : String :=
  "\x7b\"context\": \"prod\", \"zone\": \"eu\", \"company\": \"acme\", " ++
  "\"projects\": [\x7b\"name\": \"pay\", \"topics\": [\x7b\"name\": \"wages\"\x7d]\x7d]\x7d"

/-- The document in TOML, with its keys in the same order. -/
def toml : String :=
  "context = \"prod\"\nzone = \"eu\"\ncompany = \"acme\"\n" ++
  "projects = [\n  \x7bname = \"pay\", topics = [\n  \x7bname = \"wages\"\x7d,\n]\x7d,\n]\n"

def naming : Naming := ⟨∅, "."⟩

/-- The topology of the document. -/
def topology : Topology where
  context := "prod"
  attributes := [("zone", .text "eu"), ("company", .text "acme")]
  separator := "."
  platform := .empty
  projects := [{
    name := "pay"
    qualifiedName := "prod.eu.acme.pay"
    order := ["context", "zone", "company"]
    consumers := none
    producers := none
    streams := none
    connectors := none
    schemas := none
    rbac := ∅
    topics := [⟨"wages", none, ∅, "prod.eu.acme.pay.wages"⟩] }]

theorem read_json : Format.json.read? json = some document := by cbv

theorem plain_document (n : Nat) : Document.Plain (n + 5) document := by
  have htopic : Document.Plain (n + 1) (.mapping [("name", .text "wages")]) :=
    .mapping (List.forall_mem_singleton.2 (.text _)) (by decide) (by decide)
  have hproject : Document.Plain (n + 3) (.mapping [("name", .text "pay"),
      ("topics", .list [.mapping [("name", .text "wages")]])]) := by
    refine .mapping ?_ (by decide) (by decide)
    simp only [List.forall_mem_cons]
    exact ⟨.text _, .list (List.forall_mem_singleton.2 htopic), List.forall_mem_nil _⟩
  refine .mapping ?_ (by decide) (by decide)
  simp only [entries, List.forall_mem_cons]
  exact ⟨.text _, .text _, .text _, .list (List.forall_mem_singleton.2 hproject),
    List.forall_mem_nil _⟩

theorem ordered_document : document.ordered.ordered = document.ordered := by cbv

theorem read_toml : Format.toml.read? toml = some document.ordered := by
  have hwritten : toml = document.toToml := by decide +kernel
  rw [Format.read?, hwritten, document, Document.ofToml?_toToml (plain_document _), Option.bind_some]
  cbv

theorem ofText_json : ofText naming .json json = .ok topology := by
  rw [ofText, read_json]
  rfl

end Apart

/-- The topology of the TOML text is that of the JSON text with its attributes in order, which they
were not. -/
theorem toml_eq_inKeyOrder_apart :
    Format.json.read? Apart.json = some Apart.document ∧
      Format.toml.read? Apart.toml = some Apart.document.ordered ∧
      Apart.document.ordered.ordered = Apart.document.ordered ∧
      ofText Apart.naming .json Apart.json = .ok Apart.topology ∧
      (ofText Apart.naming .toml Apart.toml).toOption = some Apart.topology.inKeyOrder ∧
      Apart.topology.inKeyOrder.order ≠ Apart.topology.order := by
  have hkeys : ¬Increasing Apart.topology.attributes.keys := by
    unfold Increasing
    decide
  obtain ⟨htoml, hjson⟩ := toml_eq_inKeyOrder Apart.read_json Apart.read_toml Apart.ordered_document
  rw [Apart.ofText_json] at htoml
  exact ⟨Apart.read_json, Apart.read_toml, Apart.ordered_document, Apart.ofText_json, htoml,
    mt (hjson _ Apart.ofText_json).1.1 hkeys⟩

/-- The texts have the same keys in the same order, and the names of all topics differ. -/
theorem names_apart :
    ((ofText Apart.naming .json Apart.json).toOption.map fun t =>
        (t.order, t.fullContext, t.topicNames)) =
      some (["context", "zone", "company"], "prod.eu.acme", ["prod.eu.acme.pay.wages"]) ∧
    ((ofText Apart.naming .toml Apart.toml).toOption.map fun t =>
        (t.order, t.fullContext, t.topicNames)) =
      some (["context", "company", "zone"], "prod.acme.eu", ["prod.acme.eu.pay.wages"]) := by
  have htoml : ofText Apart.naming .toml Apart.toml =
      ofDocument Apart.naming Apart.document.ordered := by
    rw [ofText, Apart.read_toml]
  rw [Apart.ofText_json, htoml]
  exact ⟨rfl, by decide +kernel⟩

end Topology
end KafkaTopology
