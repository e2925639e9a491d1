import KafkaTopology.Proofs.Decode.Form
import KafkaTopology.Proofs.Topology.Reading
/-!
# The forms of members and components

How members, components, artefacts and topics are written, each as a form of its own, and that the
decoders accept exactly these forms. What is checked of an artefact or a topic after it is decoded
is said of the document as well, by the values that it holds.
-/
namespace KafkaTopology

/-- An optional text. -/
def Form.optionalText : Form := .optional .text

@[simp]
theorem form_optionalText : optionalText.form = Form.optionalText := by
  simp [optionalText, Form.optionalText]

@[simp]
theorem form_textList : textList.form = Form.list .text := by simp [textList]

/-! ## Members -/

def Consumer.form : Form := .record [
  .mandatory "principal" [] .text, .defaulted "group" [] .optionalText]

@[simp]
theorem Consumer.form_schema : schema.decode.form = form := by
  rw [Schema.form_decode (by simp [schema])]
  simp [Schema.parts, schema, form]

def Producer.form : Form := .record [
  .mandatory "principal" [] .text,
  .defaulted "transactionId" ["transaction_id"] .optionalText,
  .defaulted "idempotence" [] (.optional .bool)]

@[simp]
theorem Producer.form_schema : schema.decode.form = form := by
  rw [Schema.form_decode (by simp [schema])]
  simp [Schema.parts, schema, form]

def TopicAccess.form : Form := .record [
  .defaulted "read" [] (.list .text), .defaulted "write" [] (.list .text)]

@[simp]
theorem TopicAccess.form_schema : schema.decode.form = form := by
  rw [Schema.form_decode (by simp [schema])]
  simp [Schema.parts, schema, form]

def StreamApp.form : Form := .record [
  .mandatory "principal" [] .text,
  .defaulted "applicationId" ["application_id"] .optionalText,
  .defaulted "topics" [] TopicAccess.form]

@[simp]
theorem StreamApp.form_schema : schema.decode.form = form := by
  rw [Schema.form_decode (by simp [schema])]
  simp [Schema.parts, schema, form]

def ConnectorMember.form : Form := .record [
  .mandatory "principal" [] .text,
  .defaulted "topics" [] TopicAccess.form,
  .defaulted "connectors" [] (.list .text)]

@[simp]
theorem ConnectorMember.form_schema : schema.decode.form = form := by
  rw [Schema.form_decode (by simp [schema])]
  simp [Schema.parts, schema, form]

def SchemaMember.form : Form := .record [
  .mandatory "principal" [] .text, .defaulted "subjects" [] (.list .text)]

@[simp]
theorem SchemaMember.form_schema : schema.decode.form = form := by
  rw [Schema.form_decode (by simp [schema])]
  simp [Schema.parts, schema, form]

/-! ## Components -/

/-- Principals by role. -/
def KafkaRoles.form : Form := .record [
  .defaulted "rbac" [] (.values (.list (.record [.mandatory "principal" [] .text])))]

@[simp]
theorem KafkaRoles.form_schema : schema.decode.form = form := by
  rw [Schema.form_decode (by simp [schema])]
  have hprincipal : principalSchema.decode.form = .record [.mandatory "principal" [] .text] := by
    rw [Schema.form_decode (by simp [principalSchema])]
    simp [Schema.parts, principalSchema]
  simp [Schema.parts, schema, form, hprincipal]

/-- A list of instances. -/
def Form.instances (form : Form) : Form := .record [.defaulted "instances" [] (.list form)]

@[simp]
theorem form_instancesSchema {α : Type} (name : String) (decode : Decoder α) :
    (instancesSchema name decode).decode.form = .instances decode.form := by
  rw [Schema.form_decode (by simp [instancesSchema])]
  simp [Schema.parts, instancesSchema, Form.instances]

def ConnectInstance.form : Form := .record [
  .mandatory "principal" [] .text,
  .defaulted "group" [] .optionalText,
  .defaulted "status_topic" [] .optionalText,
  .defaulted "offset_topic" [] .optionalText,
  .defaulted "configs_topic" [] .optionalText]

@[simp]
theorem ConnectInstance.form_schema : schema.decode.form = form := by
  rw [Schema.form_decode (by simp [schema])]
  simp [Schema.parts, schema, form]

def RegistryInstance.form : Form := .record [
  .mandatory "principal" [] .text,
  .defaulted "topic" [] .optionalText,
  .defaulted "group" [] .optionalText]

@[simp]
theorem RegistryInstance.form_schema : schema.decode.form = form := by
  rw [Schema.form_decode (by simp [schema])]
  simp [Schema.parts, schema, form]

def ControlCenterInstance.form : Form := .record [
  .mandatory "principal" [] .text, .defaulted "appId" ["app_id"] .optionalText]

@[simp]
theorem ControlCenterInstance.form_schema : schema.decode.form = form := by
  rw [Schema.form_decode (by simp [schema])]
  simp [Schema.parts, schema, form]

/-! ## Artefacts and topics -/

/-- The text of a document that is one. -/
def Document.text? : Document → Option String
  | .text s => some s
  | _ => none

theorem bind_text?_eq_some_iff {o : Option Document} {s : String} :
    o.bind Document.text? = some s ↔ o = some (.text s) := by
  rcases o with - | d
  · simp
  · cases d <;> simp [Document.text?]

/-- The entries of a document that is a mapping; of entries with one key the last one counts. -/
def Document.settings : Document → OrderedMap String Document
  | .mapping entries => OrderedMap.ofPairs entries
  | _ => ∅

theorem optionalText_eq_ok {d : Document} {v : Option String}
    (h : optionalText .strict d = .ok v) : d.text? = v := by
  cases d <;> cases h <;> rfl

namespace Topology

/-- The parts of an artefact as it is written. -/
def WrittenArtefact.parts : List Part := [
  .omissible "path" [] .optionalText,
  .omissible "server" ["server_label"] .optionalText,
  .omissible "name" [] .optionalText]

theorem WrittenArtefact.parts_schema : schema.parts = parts := by
  simp [Schema.parts, schema, parts]

theorem WrittenArtefact.form_schema : schema.decode.form = .record parts := by
  rw [Schema.form_decode (by simp [schema]), parts_schema]

/-- An artefact: a record with a path, a server that is known and a name. -/
def artefactForm (naming : Naming) : Form := fun d =>
  Form.record WrittenArtefact.parts d ∧
    ∃ path server name, Form.value? WrittenArtefact.parts "path" d = some (.text path) ∧
      Form.value? WrittenArtefact.parts "server" d = some (.text server) ∧
      naming.servers.contains server = true ∧
      Form.value? WrittenArtefact.parts "name" d = some (.text name)

/-- A decoded artefact has the texts that the document holds for its parts. -/
theorem WrittenArtefact.eq_of_decode {d : Document} {w : WrittenArtefact}
    (h : schema.decode .strict d = .ok w) :
    w.path = (Form.value? parts "path" d).bind Document.text? ∧
      w.server = (Form.value? parts "server" d).bind Document.text? ∧
      w.name = (Form.value? parts "name" d).bind Document.text? := by
  have hvalue (name : String) (proj : WrittenArtefact → Option String)
      (hblank : proj schema.blank = none)
      (hread : ∀ f ∈ schema.fields, ∀ x r r', f.read .strict x r = .ok r' →
        proj r' = if f.name = name then x.text? else proj r) :
      proj w = (Form.value? parts name d).bind Document.text? := by
    rw [← parts_schema, Schema.value?_parts, Schema.decode_field h (by decide) hread, hblank]
    cases schema.value? name d <;> rfl
  refine ⟨hvalue _ path rfl ?_, hvalue _ server rfl ?_, hvalue _ name rfl ?_⟩ <;>
  · intro f hf x r r' hread
    simp only [schema, List.mem_cons, List.not_mem_nil, or_false] at hf
    rcases hf with rfl | rfl | rfl <;>
    · obtain ⟨v, hv, ⟨⟩⟩ := Except.bind_eq_ok_iff.1 hread
      simp [Field.omissible, optionalText_eq_ok hv]

theorem isOk_checkArtefact_iff {naming : Naming} {w : WrittenArtefact} :
    (checkArtefact naming w).isOk = true ↔
      ∃ path server name, w.path = some path ∧ w.server = some server ∧
        naming.servers.contains server = true ∧ w.name = some name := by
  obtain ⟨path | path, server | server, name | name⟩ := w <;> simp [checkArtefact]
  split <;> simp [*]

/-- The documents that are read as artefacts. -/
theorem exists_artefact_iff {naming : Naming} {d : Document} :
    (∃ w, WrittenArtefact.schema.decode .strict d = .ok w ∧
      (checkArtefact naming w).isOk = true) ↔ artefactForm naming d := by
  rw [artefactForm, ← WrittenArtefact.form_schema, Decoder.form, Except.isOk_iff]
  constructor
  · rintro ⟨w, hw, hcheck⟩
    obtain ⟨hpath, hserver, hname⟩ := WrittenArtefact.eq_of_decode hw
    rw [isOk_checkArtefact_iff, hpath, hserver, hname] at hcheck
    simp only [bind_text?_eq_some_iff] at hcheck
    exact ⟨⟨w, hw⟩, hcheck⟩
  · rintro ⟨⟨w, hw⟩, hvalues⟩
    obtain ⟨hpath, hserver, hname⟩ := WrittenArtefact.eq_of_decode hw
    refine ⟨w, hw, isOk_checkArtefact_iff.2 ?_⟩
    rw [hpath, hserver, hname]
    simpa only [bind_text?_eq_some_iff] using hvalues

/-- The parts of a topic as it is written. -/
def WrittenTopic.parts : List Part := [
  .omissible "name" [] .optionalText,
  .defaulted "dataType" ["data_type"] .optionalText,
  .defaulted "config" [] (.values .any)]

theorem WrittenTopic.parts_schema : schema.parts = parts := by
  simp [Schema.parts, schema, parts]

theorem WrittenTopic.form_schema : schema.decode.form = .record parts := by
  rw [Schema.form_decode (by simp [schema]), parts_schema]

theorem pairs_any_eq_ok {d : Document} {v : List (String × Document)}
    (h : Decoder.pairs Decoder.any .strict d = .ok v) : d.settings = OrderedMap.ofPairs v := by
  cases d with
  | mapping entries =>
    have hall : entries.mapM (fun e => pure e) = (.ok entries : Except DecodeError Entries) := by
      rw [List.mapM_pure, List.map_id']
      rfl
    obtain rfl := Except.ok.inj (hall.symm.trans h)
    rfl
  | _ => cases h

/-- A decoded topic has what the document holds for its parts. -/
theorem WrittenTopic.eq_of_decode {d : Document} {w : WrittenTopic}
    (h : schema.decode .strict d = .ok w) :
    w.name = (Form.value? parts "name" d).bind Document.text? ∧
      w.dataType = (Form.value? parts "dataType" d).bind Document.text? ∧
      w.config = ((Form.value? parts "config" d).map Document.settings).getD ∅ := by
  have hvalue {α : Type} (name : String) (proj : WrittenTopic → α) (value : Document → α)
      (hread : ∀ f ∈ schema.fields, ∀ x r r', f.read .strict x r = .ok r' →
        proj r' = if f.name = name then value x else proj r) :
      proj w = ((Form.value? parts name d).map value).getD (proj schema.blank) := by
    rw [← parts_schema, Schema.value?_parts, Schema.decode_field h (by decide) hread]
  have htext (o : Option Document) : (o.map Document.text?).getD none = o.bind Document.text? := by
    cases o <;> rfl
  rw [← htext, ← htext]
  refine ⟨hvalue _ name _ ?_, hvalue _ dataType _ ?_, hvalue _ config _ ?_⟩ <;>
  · intro f hf x r r' hread
    simp only [schema, List.mem_cons, List.not_mem_nil, or_false] at hf
    rcases hf with rfl | rfl | rfl <;> obtain ⟨v, hv, ⟨⟩⟩ := Except.bind_eq_ok_iff.1 hread
    · simp [Field.omissible, optionalText_eq_ok, hv]
    · simp [Field.defaulted, optionalText_eq_ok, hv]
    · simp [Field.defaulted, pairs_any_eq_ok, hv]

/-- A topic of a project: a record with a name, settings with texts, and a name on the cluster that
the cluster accepts. -/
def topicForm (separator qualifiedName : String) : Form := fun d =>
  Form.record WrittenTopic.parts d ∧
    (∀ entries, Form.value? WrittenTopic.parts "config" d = some (.mapping entries) →
      ∀ e ∈ (OrderedMap.ofPairs entries).toPairs, e.2.scalarText?.isSome = true) ∧
    ∃ name, Form.value? WrittenTopic.parts "name" d = some (.text name) ∧
      isLegalTopicName (renderName separator qualifiedName name
        ((Form.value? WrittenTopic.parts "dataType" d).bind Document.text?)) = true

theorem isOk_readSetting_iff {project topic : String} {e : String × Document} :
    (readSetting project topic e).isOk = true ↔ e.2.scalarText?.isSome = true := by
  rw [readSetting]
  cases e.2.scalarText? <;> simp [refuse]

theorem forall_mem_settings_iff {o : Option Document} {p : String × Document → Prop} :
    (∀ e ∈ ((o.map Document.settings).getD ∅).toPairs, p e) ↔
      ∀ entries, o = some (.mapping entries) → ∀ e ∈ (OrderedMap.ofPairs entries).toPairs, p e := by
  have hnone : ∀ e ∈ (∅ : OrderedMap String Document).toPairs, p e := nofun
  rcases o with - | d
  · exact ⟨nofun, fun _ => hnone⟩
  · cases d with
    | mapping entries => exact ⟨fun h _ hd => by cases hd; exact h, fun h => h _ rfl⟩
    | _ => exact ⟨nofun, fun _ => hnone⟩

/-- The text that a document holds for a part of a topic. -/
def topicText? (part : String) (d : Document) : Option String :=
  (Form.value? WrittenTopic.parts part d).bind Document.text?

/-- The texts that a document holds for the name and the data type of a topic. -/
def topicTexts (d : Document) : List String :=
  (topicText? "name" d).toList ++ (topicText? "dataType" d).toList

/-- A topic of a project, whatever it is named: a record with a name and settings with texts. -/
def namedTopicForm : Form := fun d =>
  Form.record WrittenTopic.parts d ∧
    (∀ entries, Form.value? WrittenTopic.parts "config" d = some (.mapping entries) →
      ∀ e ∈ (OrderedMap.ofPairs entries).toPairs, e.2.scalarText?.isSome = true) ∧
    ∃ name, Form.value? WrittenTopic.parts "name" d = some (.text name)

/-- The same with a name on the cluster that has a property. -/
def topicFormWith (p : String → Prop) (separator qualifiedName : String) : Form := fun d =>
  namedTopicForm d ∧ p (joinName separator (qualifiedName :: topicTexts d))

theorem topicTexts_eq {d : Document} {name : String}
    (h : Form.value? WrittenTopic.parts "name" d = some (.text name)) :
    topicTexts d = name :: (topicText? "dataType" d).toList := by
  rw [topicTexts, topicText?, h]
  rfl

theorem topicForm_eq (separator : String) :
    topicForm separator = topicFormWith (isLegalTopicName · = true) separator := by
  funext qualifiedName d
  rw [topicForm, topicFormWith, namedTopicForm]
  refine propext ⟨?_, ?_⟩
  · rintro ⟨hrecord, hsettings, name, hname, hlegal⟩
    refine ⟨⟨hrecord, hsettings, name, hname⟩, ?_⟩
    rwa [topicTexts_eq hname]
  · rintro ⟨⟨hrecord, hsettings, name, hname⟩, hlegal⟩
    rw [topicTexts_eq hname] at hlegal
    exact ⟨hrecord, hsettings, name, hname, hlegal⟩

theorem topicFormWith_true (separator : String) :
    topicFormWith (fun _ => True) separator = fun _ => namedTopicForm :=
  funext fun _ => funext fun _ => and_true _

theorem exists_checkTopic_iff (p : String → Prop) {separator project qualifiedName : String}
    {w : WrittenTopic} :
    (∃ topic, checkTopic separator project qualifiedName w = .ok topic ∧ p topic.fullName) ↔
      (∀ e ∈ w.config.toPairs, e.2.scalarText?.isSome = true) ∧
        ∃ name, w.name = some name ∧
          p (renderName separator qualifiedName name w.dataType) := by
  constructor
  · rintro ⟨topic, hcheck, hlegal⟩
    obtain ⟨hname, hdata, ⟨config, hconfig, -⟩, hfull⟩ := checkTopic_eq_ok_iff.1 hcheck
    have hsettings := Except.isOk_mapM_iff.1 (Except.isOk_iff.2 ⟨config, hconfig⟩)
    refine ⟨fun e he => isOk_readSetting_iff.1 (hsettings e he), topic.name, hname, ?_⟩
    rwa [← hdata, ← hfull]
  · rintro ⟨hsettings, name, hname, hlegal⟩
    have hmap : (w.config.toPairs.mapM (readSetting project name)).isOk = true :=
      Except.isOk_mapM_iff.2 fun e he => isOk_readSetting_iff.2 (hsettings e he)
    obtain ⟨config, hconfig⟩ := Except.isOk_iff.1 hmap
    exact ⟨⟨name, w.dataType, .ofPairs config, _⟩,
      checkTopic_eq_ok_iff.2 ⟨hname, rfl, ⟨config, hconfig, rfl⟩, rfl⟩, hlegal⟩

/-- The documents that are read as topics with names that have a property. -/
theorem exists_topic_iff (p : String → Prop) {separator project qualifiedName : String}
    {d : Document} :
    (∃ w, WrittenTopic.schema.decode .strict d = .ok w ∧
      ∃ topic, checkTopic separator project qualifiedName w = .ok topic ∧ p topic.fullName) ↔
      topicFormWith p separator qualifiedName d := by
  rw [topicFormWith, namedTopicForm, ← WrittenTopic.form_schema, Decoder.form, Except.isOk_iff]
  constructor
  · rintro ⟨w, hw, hcheck⟩
    obtain ⟨hname, hdata, hconfig⟩ := WrittenTopic.eq_of_decode hw
    rw [exists_checkTopic_iff, hname, hdata, hconfig, forall_mem_settings_iff] at hcheck
    simp only [bind_text?_eq_some_iff] at hcheck
    obtain ⟨hsettings, name, hname, hp⟩ := hcheck
    refine ⟨⟨⟨w, hw⟩, hsettings, name, hname⟩, ?_⟩
    rwa [topicTexts_eq hname]
  · rintro ⟨⟨⟨w, hw⟩, hsettings, name, hvalue⟩, hp⟩
    obtain ⟨hname, hdata, hconfig⟩ := WrittenTopic.eq_of_decode hw
    rw [topicTexts_eq hvalue] at hp
    refine ⟨w, hw, (exists_checkTopic_iff p).2 ?_⟩
    rw [hname, hdata, hconfig, forall_mem_settings_iff]
    exact ⟨hsettings, name, bind_text?_eq_some_iff.2 hvalue, hp⟩

end Topology
end KafkaTopology
