import KafkaTopology.Proofs.Topology.Forms
/-!
# The grammar of topologies

What the documents look like that are read as topologies, section by section, and that these are all
of them. The form of the topics is left open: what is asked of a topic when it is decoded is less
than what is asked of it in the end.
-/
namespace KafkaTopology.Topology

/-- Whether the value of a key has a form, where it has one at all. -/
def MayHave (entries : Entries) (key : String) (form : Form) : Prop :=
  ∀ d, present? entries key = some d → form d

/-! ## The forms of the sections -/

/-- A platform: of a mapping, each component that it declares. -/
def platformForm : Form := fun d => ∀ entries, d = .mapping entries →
  MayHave entries Component.kafka.key KafkaRoles.form ∧
    MayHave entries Component.kafkaConnect.key (.instances ConnectInstance.form) ∧
    MayHave entries Component.schemaRegistry.key (.instances RegistryInstance.form) ∧
    MayHave entries Component.controlCenter.key (.instances ControlCenterInstance.form)

/-- Connectors: a list of members, or a mapping with members and artefacts. -/
def connectorsForm (naming : Naming) : Form
  | .mapping entries =>
    MayHave entries "access_control" (.list ConnectorMember.form) ∧
      ∀ d, artefactKeys.findSome? (present? entries) = some d → Form.list (artefactForm naming) d
  | d => Form.list ConnectorMember.form d

/-- A mapping with a principal that has a text. -/
def principalForm : Form := fun d => ((d.get? "principal").bind Document.scalarText?).isSome = true

/-- Role assignments: a mapping of roles to principals, or a list of them. -/
def rbacForm : Form := fun d =>
  d = .null ∨ Form.values (.list principalForm) d ∨ Form.list (.values (.list principalForm)) d

/-- A project, with its topics of a form that depends on the qualified name. -/
def projectForm (topic : String → Form) (naming : Naming) (fullContext : String) : Form := fun d =>
  ∃ entries, d = .mapping entries ∧
    ∃ name, (Entries.get? "name" entries).bind Document.scalarText? = some name ∧
      MayHave entries Role.consumers.key (.list Consumer.form) ∧
      MayHave entries Role.producers.key (.list Producer.form) ∧
      MayHave entries Role.streams.key (.list StreamApp.form) ∧
      MayHave entries Role.connectors.key (connectorsForm naming) ∧
      MayHave entries Role.schemas.key (.list SchemaMember.form) ∧
      (∀ rbac, Entries.get? "rbac" entries = some rbac → rbacForm rbac) ∧
      ∃ topics, present? entries "topics" = some topics ∧
        Form.list (topic (joinName naming.separator [fullContext, name])) topics

/-- A topology, with topics of a form that depends on the qualified name of their project. -/
def form (topic : String → Form) (naming : Naming) : Form := fun d =>
  ∃ root, d = .mapping root ∧ (∀ key ∈ requiredKeys, (present? root key).isSome = true) ∧
    ∃ context, (Entries.get? "context" root).bind Document.scalarText? = some context ∧
      context.isEmpty = false ∧
      (∀ platform, Entries.get? "platform" root = some platform → platformForm platform) ∧
      ∃ projects, Entries.get? "projects" root = some (.list projects) ∧
        ∀ d ∈ projects, projectForm topic naming
          (joinContext naming.separator context (attributesOf root)) d

/-! ## The readers accept these forms -/

theorem isOk_decodeIn_iff {α : Type} {part : Section} {decode : Decoder α} {d : Document} :
    (decodeIn part decode d).isOk = true ↔ decode.form d := by
  rw [Except.isOk_iff, Decoder.form, Except.isOk_iff]
  exact exists_congr fun _ => decodeIn_eq_ok_iff

theorem isOk_readComponent_iff {α : Type} {platform : Entries} {c : Component}
    {decode : Decoder α} {form : Form} (h : decode.form = form) :
    (readComponent platform c decode).isOk = true ↔ MayHave platform c.key form := by
  rw [readComponent, MayHave, ← h]
  cases present? platform c.key <;> simp [isOk_decodeIn_iff]

theorem isOk_readMembers_iff {α : Type} (project : String) {entries : Entries} {role : Role}
    {decode : Decoder α} {form : Form} (h : decode.form = form) :
    (readMembers project entries role decode).isOk = true ↔
      MayHave entries role.key (.list form) := by
  rw [readMembers, MayHave, ← h]
  cases present? entries role.key <;> simp [isOk_decodeIn_iff]

theorem isOk_readPlatform_iff {d : Option Document} :
    (readPlatform d).isOk = true ↔ ∀ platform, d = some platform → platformForm platform := by
  rcases d with - | d
  · simp [readPlatform]
  cases d with
  | mapping entries =>
    have hconnect := (form_instancesSchema "KafkaConnect" _).trans
      (congrArg Form.instances ConnectInstance.form_schema)
    have hregistry := (form_instancesSchema "SchemaRegistry" _).trans
      (congrArg Form.instances RegistryInstance.form_schema)
    have hcontrol := (form_instancesSchema "ControlCenter" _).trans
      (congrArg Form.instances ControlCenterInstance.form_schema)
    simp only [readPlatform, Option.some.injEq, forall_eq', platformForm, Document.mapping.injEq,
      ← isOk_readComponent_iff KafkaRoles.form_schema, ← isOk_readComponent_iff hconnect,
      ← isOk_readComponent_iff hregistry, ← isOk_readComponent_iff hcontrol]
    exact Except.isOk_bind_iff fun _ _ => Except.isOk_bind_iff fun _ _ =>
      Except.isOk_bind_iff fun _ _ => by simp
  | _ => simp [readPlatform, platformForm]

theorem isOk_readArtefacts_iff {naming : Naming} {project : String} {d : Document} :
    (readArtefacts naming project d).isOk = true ↔ Form.list (artefactForm naming) d := by
  have hform : artefactForm naming = fun item =>
      ∃ w, WrittenArtefact.schema.decode .strict item = .ok w ∧
        (checkArtefact naming w).isOk = true :=
    funext fun _ => propext exists_artefact_iff.symm
  simp only [readArtefacts, Except.isOk_bind, decodeIn_eq_ok_iff, Except.isOk_mapM_iff, hform]
  exact Decoder.exists_list_iff

theorem isOk_readConnectors_iff {naming : Naming} (project : String) {entries : Entries} :
    (readConnectors naming project entries).isOk = true ↔
      MayHave entries Role.connectors.key (connectorsForm naming) := by
  rw [readConnectors, MayHave]
  cases present? entries Role.connectors.key with
  | none => simp
  | some d =>
    simp only [Option.some.injEq, forall_eq']
    cases d with
    | mapping entries =>
      simp only [connectorsForm, MayHave]
      rcases present? entries "access_control" with - | access <;>
        rcases artefactKeys.findSome? (present? entries) with - | artefacts
      · simp
      · simp [isOk_readArtefacts_iff]
      · simp [isOk_decodeIn_iff]
      · have hmembers : (decodeIn (.members .connectors project)
            (Decoder.list ConnectorMember.schema.decode) access).isOk = true ↔
            Form.list ConnectorMember.form access := by
          simp [isOk_decodeIn_iff]
        simp only [Option.some.injEq, forall_eq', ← hmembers]
        exact Except.isOk_bind_iff fun _ _ => by simp [isOk_readArtefacts_iff]
    | _ => simp [connectorsForm, isOk_decodeIn_iff]

/-! ## Role assignments -/

theorem isOk_readPrincipal_iff {project role : String} {d : Document} :
    (readPrincipal project role d).isOk = true ↔ principalForm d := by
  rw [readPrincipal, principalForm]
  cases (d.get? "principal").bind Document.scalarText? <;> simp

theorem isOk_addRole_iff {project : String} {rbac : OrderedMap String (List String)}
    {e : String × Document} :
    (addRole project rbac e).isOk = true ↔ Form.list principalForm e.2 := by
  rw [addRole]
  cases e.2 with
  | list items =>
    simp [Form.list, Except.isOk_mapM_iff, isOk_readPrincipal_iff]
  | _ => simp [Form.list, refuse]

theorem isOk_foldlM_addRole_iff {project : String} {entries : Entries}
    {rbac : OrderedMap String (List String)} :
    (entries.foldlM (addRole project) rbac).isOk = true ↔
      ∀ e ∈ entries, Form.list principalForm e.2 :=
  Except.isOk_foldlM_iff (p := fun e : String × Document => Form.list principalForm e.2)
    (fun _ _ _ => isOk_addRole_iff) rbac

theorem isOk_readRbac_iff (project : String) {d : Option Document} :
    (readRbac project d).isOk = true ↔ ∀ rbac, d = some rbac → rbacForm rbac := by
  simp only [readRbac, Except.isOk_bind, isOk_foldlM_addRole_iff]
  rcases d with - | d
  · simp [rbacMappings]
  simp only [Option.some.injEq, forall_eq', rbacForm]
  cases d with
  | null => simp [rbacMappings]
  | mapping entries => simp [rbacMappings, Form.values, Form.list]
  | list items =>
    simp only [rbacMappings, List.forall_mem_flatten, Except.exists_mapM_iff]
    have hitems : Form.list (.values (.list principalForm)) (.list items) ↔
        ∀ item ∈ items, Form.values (.list principalForm) item := by
      simp [Form.list]
    simp only [hitems, Form.values, reduceCtorEq, false_and, exists_false, false_or]
    refine forall₂_congr fun item _ => ?_
    cases item <;> simp [refuse]
  | _ => simp [rbacMappings, refuse, Form.values, Form.list]

/-! ## Topics and projects -/

theorem exists_readTopics_iff (p : String → Prop) (project : String)
    {separator qualifiedName : String} {entries : Entries} :
    (∃ topics, readTopics separator project qualifiedName entries = .ok topics ∧
      ∀ topic ∈ topics, p topic.fullName) ↔
      ∃ d, present? entries "topics" = some d ∧
        Form.list (topicFormWith p separator qualifiedName) d := by
  have hform : topicFormWith p separator qualifiedName = fun item =>
      ∃ w, WrittenTopic.schema.decode .strict item = .ok w ∧
        ∃ topic, checkTopic separator project qualifiedName w = .ok topic ∧ p topic.fullName :=
    funext fun _ => propext (exists_topic_iff p).symm
  simp only [hform, ← Decoder.exists_list_iff, ← Except.exists_mapM_iff, readTopics_eq_ok_iff]
  constructor
  · rintro ⟨topics, ⟨d, hd, written, hwritten, htopics⟩, hlegal⟩
    exact ⟨d, hd, written, hwritten, topics, htopics, hlegal⟩
  · rintro ⟨d, hd, written, hwritten, topics, htopics, hlegal⟩
    exact ⟨topics, ⟨d, hd, written, hwritten, htopics⟩, hlegal⟩

theorem exists_readProject_iff (legal : String → Prop) {naming : Naming} {fullContext : String}
    (order : List String) {d : Document} :
    (∃ p, readProject naming fullContext order d = .ok p ∧
      ∀ topic ∈ p.topics, legal topic.fullName) ↔
      projectForm (topicFormWith legal naming.separator) naming fullContext d := by
  constructor
  · rintro ⟨p, hp, hlegal⟩
    obtain ⟨entries, rfl, hname, hq, -, hcons, hprod, hstreams, hconn, hschemas, hrbac, htopics⟩ :=
      readProject_eq_ok_iff.1 hp
    rw [hq] at htopics
    exact ⟨entries, rfl, p.name, hname,
      (isOk_readMembers_iff _ Consumer.form_schema).1 (Except.isOk_iff.2 ⟨_, hcons⟩),
      (isOk_readMembers_iff _ Producer.form_schema).1 (Except.isOk_iff.2 ⟨_, hprod⟩),
      (isOk_readMembers_iff _ StreamApp.form_schema).1 (Except.isOk_iff.2 ⟨_, hstreams⟩),
      (isOk_readConnectors_iff _).1 (Except.isOk_iff.2 ⟨_, hconn⟩),
      (isOk_readMembers_iff _ SchemaMember.form_schema).1 (Except.isOk_iff.2 ⟨_, hschemas⟩),
      (isOk_readRbac_iff _).1 (Except.isOk_iff.2 ⟨_, hrbac⟩),
      (exists_readTopics_iff legal _).1 ⟨_, htopics, hlegal⟩⟩
  · rintro ⟨entries, rfl, name, hname, hcons, hprod, hstreams, hconn, hschemas, hrbac, htopics⟩
    obtain ⟨consumers, hcons⟩ := Except.isOk_iff.1
      ((isOk_readMembers_iff name Consumer.form_schema).2 hcons)
    obtain ⟨producers, hprod⟩ := Except.isOk_iff.1
      ((isOk_readMembers_iff name Producer.form_schema).2 hprod)
    obtain ⟨streams, hstreams⟩ := Except.isOk_iff.1
      ((isOk_readMembers_iff name StreamApp.form_schema).2 hstreams)
    obtain ⟨connectors, hconn⟩ := Except.isOk_iff.1
      ((isOk_readConnectors_iff name).2 hconn)
    obtain ⟨schemas, hschemas⟩ := Except.isOk_iff.1
      ((isOk_readMembers_iff name SchemaMember.form_schema).2 hschemas)
    obtain ⟨rbac, hrbac⟩ := Except.isOk_iff.1 ((isOk_readRbac_iff name).2 hrbac)
    obtain ⟨topics, htopics, hlegal⟩ := (exists_readTopics_iff legal name).2 htopics
    exact ⟨⟨name, _, order, consumers, producers, streams, connectors, schemas, rbac, topics⟩,
      readProject_eq_ok_iff.2 ⟨entries, rfl, hname, rfl, rfl, hcons, hprod, hstreams, hconn,
        hschemas, hrbac, htopics⟩, hlegal⟩

/-! ## The whole document -/

theorem checkRequiredKeys_eq_ok_iff {root : Entries} :
    checkRequiredKeys root = .ok () ↔ ∀ key ∈ requiredKeys, (present? root key).isSome = true := by
  rw [checkRequiredKeys]
  cases h : requiredKeys.filter (fun k => (present? root k).isNone) with
  | nil => simpa [List.filter_eq_nil_iff, Option.isSome_iff_ne_none] using h
  | cons key rest =>
    have hkey : key ∈ requiredKeys.filter (fun k => (present? root k).isNone) := by
      rw [h]
      exact List.mem_cons_self
    obtain ⟨hmem, hnone⟩ := List.mem_filter.1 hkey
    refine ⟨nofun, fun hall => ?_⟩
    have hsome := hall key hmem
    rw [Option.isNone_iff_eq_none.1 hnone] at hsome
    cases hsome

theorem readContext_eq_ok_iff {root : Entries} {context : String} :
    readContext root = .ok context ↔
      (Entries.get? "context" root).bind Document.scalarText? = some context ∧
        context.isEmpty = false := by
  rw [readContext]
  cases (Entries.get? "context" root).bind Document.scalarText? with
  | none => simp [refuse]
  | some s =>
    simp only [Option.some.injEq]
    split
    · next h =>
      constructor
      · intro hs
        cases hs
      · rintro ⟨rfl, hne⟩
        rw [h] at hne
        cases hne
    · next h =>
      simp only [Except.ok.injEq]
      exact ⟨fun hs => ⟨hs, hs ▸ Bool.eq_false_iff.2 h⟩, And.left⟩

theorem forall_topicNames_iff {t : Topology} {p : String → Prop} :
    (∀ name ∈ t.topicNames, p name) ↔
      ∀ project ∈ t.projects, ∀ topic ∈ project.topics, p topic.fullName := by
  simp only [topicNames, topics, List.forall_mem_map, List.forall_mem_flatMap]

/-- The documents that are read as topologies with names that have a property. -/
theorem exists_draft_iff (legal : String → Prop) {naming : Naming} {d : Document} :
    (∃ t, draft naming d = .ok t ∧ ∀ name ∈ t.topicNames, legal name) ↔
      form (topicFormWith legal naming.separator) naming d := by
  constructor
  · rintro ⟨t, ht, hlegal⟩
    obtain ⟨root, rfl, hkeys, hcontext, hattributes, hseparator, hplatform, hprojects⟩ :=
      draft_eq_ok_iff.1 ht
    obtain ⟨hcontext, hne⟩ := readContext_eq_ok_iff.1 hcontext
    obtain ⟨items, hitems, hprojects⟩ := readProjects_eq_ok_iff.1 hprojects
    rw [fullContext, hseparator, hattributes] at hprojects
    refine ⟨root, rfl, checkRequiredKeys_eq_ok_iff.1 hkeys, t.context, hcontext, hne,
      isOk_readPlatform_iff.1 (Except.isOk_iff.2 ⟨_, hplatform⟩), items, hitems,
      fun item hitem => ?_⟩
    have hread := Except.exists_mapM_iff.1 ⟨_, hprojects, forall_topicNames_iff.1 hlegal⟩
    exact (exists_readProject_iff legal _).1 (hread item hitem)
  · rintro ⟨root, rfl, hkeys, context, hcontext, hne, hplatform, items, hitems, hprojects⟩
    obtain ⟨platform, hplatform⟩ := Except.isOk_iff.1 (isOk_readPlatform_iff.2 hplatform)
    obtain ⟨projects, hprojects, hlegal⟩ := Except.exists_mapM_iff.2 fun item hitem =>
      (exists_readProject_iff legal (orderOf (attributesOf root))).2 (hprojects item hitem)
    refine ⟨⟨context, attributesOf root, naming.separator, platform, projects⟩,
      draft_eq_ok_iff.2 ⟨root, rfl, checkRequiredKeys_eq_ok_iff.2 hkeys,
        readContext_eq_ok_iff.2 ⟨hcontext, hne⟩, rfl, rfl, hplatform,
        readProjects_eq_ok_iff.2 ⟨items, hitems, hprojects⟩⟩, ?_⟩
    exact forall_topicNames_iff.2 hlegal

/-- A document is read as a topology exactly if it has the form of one. -/
theorem isOk_ofDocument_iff {naming : Naming} {d : Document} :
    (ofDocument naming d).isOk = true ↔ form (topicForm naming.separator) naming d := by
  rw [topicForm_eq, ← exists_draft_iff, Except.isOk_iff]
  exact exists_congr fun _ => ofDocument_eq_ok_iff_draft

/-! ## Topics that decode -/

/-- A document with one topic. -/
def lone (topic : Document) : Document :=
  .mapping [
    ("context", .text "prod"),
    ("projects", .list [.mapping [("name", .text "pay"), ("topics", .list [topic])]])]

theorem form_lone_iff {topic : String → Form} {d : Document} :
    form topic ⟨∅, "."⟩ (lone d) ↔ topic "prod.pay" d := by
  have hname : joinName "." [joinContext "." "prod" [], "pay"] = "prod.pay" := rfl
  simp [form, lone, projectForm, MayHave, present?, Entries.get?, requiredKeys, Role.key,
    Document.scalarText?, Form.list, attributesOf, knownKeys, hname]

/-- A document whose one topic decodes, and which is refused nevertheless. -/
def IsRefusedDecodable (d : Document) : Prop :=
  form (fun _ => .record WrittenTopic.parts) ⟨∅, "."⟩ (lone d) ∧
    (ofDocument ⟨∅, "."⟩ (lone d)).isOk = false

/-- That the topics decode is not enough: a topic without a name, one with a setting that has no
text and one with a name that the cluster does not accept all decode. -/
theorem form_of_decodable_topics :
    IsRefusedDecodable (.mapping []) ∧
      IsRefusedDecodable
        (.mapping [("name", .text "wages"), ("config", .mapping [("a", .list [])])]) ∧
      IsRefusedDecodable (.mapping [("name", .text "our wages")]) := by
  simp only [IsRefusedDecodable, form_lone_iff, ← WrittenTopic.form_schema, Decoder.form]
  exact ⟨⟨rfl, rfl⟩, ⟨rfl, rfl⟩, ⟨rfl, by decide +kernel⟩⟩

end KafkaTopology.Topology
