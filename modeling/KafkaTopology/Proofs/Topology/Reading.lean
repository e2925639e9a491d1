import KafkaTopology.Proofs.Except
import KafkaTopology.Topology.OfDocument
/-!
# What reading a document yields

Inversion of the reader, one lemma for each of its functions: a document is read as a value exactly
if each part of the value is what the reader makes of the matching part of the document.
-/
namespace KafkaTopology.Topology

open Except (bind_eq_ok_iff pure_eq_ok_iff forM_eq_ok_iff)

variable {naming : Naming}

theorem decodeIn_eq_ok_iff {α : Type} {part : Section} {decode : Decoder α} {d : Document} {a : α} :
    decodeIn part decode d = .ok a ↔ decode .strict d = .ok a := by
  rw [decodeIn]
  cases decode .strict d with
  | ok b => simp only [Except.ok.injEq]
  | error e => exact ⟨nofun, nofun⟩

/-! ## Topics -/

theorem checkTopic_eq_ok_iff {separator project qualifiedName : String} {w : WrittenTopic}
    {topic : Topic} :
    checkTopic separator project qualifiedName w = .ok topic ↔
      w.name = some topic.name ∧ topic.dataType = w.dataType ∧
      (∃ config, w.config.toPairs.mapM (readSetting project topic.name) = .ok config ∧
        topic.config = OrderedMap.ofPairs config) ∧
      topic.fullName = renderName separator qualifiedName topic.name topic.dataType := by
  unfold checkTopic
  cases hname : w.name with
  | none => exact ⟨nofun, nofun⟩
  | some name =>
    simp only [bind_eq_ok_iff, pure_eq_ok_iff, Option.some.injEq]
    constructor
    · rintro ⟨config, hconfig, rfl⟩
      exact ⟨rfl, rfl, ⟨config, hconfig, rfl⟩, rfl⟩
    · rintro ⟨rfl, hdata, ⟨config, hconfig, hsettings⟩, hfull⟩
      refine ⟨config, hconfig, ?_⟩
      rw [← hdata, ← hsettings, ← hfull]

theorem readTopics_eq_ok_iff {separator project qualifiedName : String} {entries : Entries}
    {topics : List Topic} :
    readTopics separator project qualifiedName entries = .ok topics ↔
      ∃ d, present? entries "topics" = some d ∧
        ∃ written, Decoder.list WrittenTopic.schema.decode .strict d = .ok written ∧
          written.mapM (checkTopic separator project qualifiedName) = .ok topics := by
  unfold readTopics
  cases present? entries "topics" with
  | none => exact ⟨nofun, nofun⟩
  | some d => simp [bind_eq_ok_iff, decodeIn_eq_ok_iff]

/-! ## Projects -/

theorem readProject_eq_ok_iff {fullContext : String} {order : List String} {d : Document}
    {p : Project} :
    readProject naming fullContext order d = .ok p ↔
      ∃ entries, d = .mapping entries ∧
        (Entries.get? "name" entries).bind Document.scalarText? = some p.name ∧
        p.qualifiedName = joinName naming.separator [fullContext, p.name] ∧ p.order = order ∧
        readMembers p.name entries .consumers Consumer.schema.decode = .ok p.consumers ∧
        readMembers p.name entries .producers Producer.schema.decode = .ok p.producers ∧
        readMembers p.name entries .streams StreamApp.schema.decode = .ok p.streams ∧
        readConnectors naming p.name entries = .ok p.connectors ∧
        readMembers p.name entries .schemas SchemaMember.schema.decode = .ok p.schemas ∧
        readRbac p.name (Entries.get? "rbac" entries) = .ok p.rbac ∧
        readTopics naming.separator p.name p.qualifiedName entries = .ok p.topics := by
  cases d with
  | mapping entries =>
    cases hname : (Entries.get? "name" entries).bind Document.scalarText? with
    | none =>
      simp only [readProject, hname]
      refine ⟨nofun, ?_⟩
      rintro ⟨_, ⟨⟩, hsome, -⟩
      rw [hname] at hsome
      cases hsome
    | some name =>
      simp only [readProject, hname, bind_eq_ok_iff, pure_eq_ok_iff]
      constructor
      · rintro ⟨_, rfl, _, hcons, _, hprod, _, hstreams, _, hconn, _, hschemas, _, hrbac, _,
          htopics, rfl⟩
        exact ⟨entries, rfl, hname, rfl, rfl, hcons, hprod, hstreams, hconn, hschemas, hrbac,
          htopics⟩
      · rintro ⟨_, ⟨⟩, hsome, hq, rfl, hcons, hprod, hstreams, hconn, hschemas, hrbac, htopics⟩
        obtain rfl : name = p.name := Option.some.inj (hname.symm.trans hsome)
        rw [hq] at htopics
        refine ⟨_, rfl, _, hcons, _, hprod, _, hstreams, _, hconn, _, hschemas, _, hrbac, _,
          htopics, ?_⟩
        rw [← hq]
  | _ => exact ⟨nofun, fun ⟨_, h, _⟩ => nomatch h⟩

theorem readProjects_eq_ok_iff {fullContext : String} {order : List String} {root : Entries}
    {projects : List Project} :
    readProjects naming fullContext order root = .ok projects ↔
      ∃ items, Entries.get? "projects" root = some (.list items) ∧
        items.mapM (readProject naming fullContext order) = .ok projects := by
  unfold readProjects
  split
  · next items h => simp [h]
  · next h => exact ⟨nofun, fun ⟨items, hitems, _⟩ => (h items hitems).elim⟩

/-! ## The whole document -/

theorem checkTopicName_eq_ok_iff {name : String} :
    checkTopicName name = .ok () ↔ isLegalTopicName name = true := by
  unfold checkTopicName
  split <;> simp [*]

/-- The topology of a document, whatever the names of its topics are. -/
def draft (naming : Naming) : Document → Checked Topology
  | .mapping root => do
    checkRequiredKeys root
    let context ← readContext root
    let platform ← readPlatform (Entries.get? "platform" root)
    let projects ← readProjects naming
      (joinContext naming.separator context (attributesOf root)) (orderOf (attributesOf root)) root
    return ⟨context, attributesOf root, naming.separator, platform, projects⟩
  | _ => refuse .root .rootIsNoMapping

/-- The names are checked last. -/
theorem ofDocument_eq_draft (d : Document) :
    ofDocument naming d = draft naming d >>= fun t => do
      t.topicNames.forM checkTopicName
      return t := by
  cases d with
  | mapping root => simp only [ofDocument, draft, bind_assoc, pure_bind]
  | _ => rfl

theorem draft_eq_ok_iff {d : Document} {t : Topology} :
    draft naming d = .ok t ↔
      ∃ root, d = .mapping root ∧ checkRequiredKeys root = .ok () ∧
        readContext root = .ok t.context ∧ t.attributes = attributesOf root ∧
        t.separator = naming.separator ∧
        readPlatform (Entries.get? "platform" root) = .ok t.platform ∧
        readProjects naming t.fullContext t.order root = .ok t.projects := by
  cases d with
  | mapping root =>
    simp only [draft, bind_eq_ok_iff, pure_eq_ok_iff]
    constructor
    · rintro ⟨_, hkeys, _, hcontext, _, hplatform, _, hprojects, rfl⟩
      exact ⟨root, rfl, hkeys, hcontext, rfl, rfl, hplatform, hprojects⟩
    · obtain ⟨context, attributes, separator, platform, projects⟩ := t
      rintro ⟨_, ⟨⟩, hkeys, hcontext, rfl, rfl, hplatform, hprojects⟩
      exact ⟨_, hkeys, _, hcontext, _, hplatform, _, hprojects, rfl⟩
  | _ => exact ⟨nofun, fun ⟨_, h, _⟩ => nomatch h⟩

theorem ofDocument_eq_ok_iff_draft {d : Document} {t : Topology} :
    ofDocument naming d = .ok t ↔
      draft naming d = .ok t ∧ ∀ name ∈ t.topicNames, isLegalTopicName name = true := by
  have hnames (t : Topology) : t.topicNames.forM checkTopicName = .ok () ↔
      ∀ name ∈ t.topicNames, isLegalTopicName name = true := by
    rw [forM_eq_ok_iff]
    exact forall₂_congr fun _ _ => checkTopicName_eq_ok_iff
  simp only [ofDocument_eq_draft, bind_eq_ok_iff, pure_eq_ok_iff]
  constructor
  · rintro ⟨t, ht, _, h, rfl⟩
    exact ⟨ht, (hnames t).1 h⟩
  · exact fun ⟨ht, h⟩ => ⟨t, ht, (), (hnames t).2 h, rfl⟩

theorem ofDocument_eq_ok_iff {d : Document} {t : Topology} :
    ofDocument naming d = .ok t ↔
      ∃ root, d = .mapping root ∧ checkRequiredKeys root = .ok () ∧
        readContext root = .ok t.context ∧ t.attributes = attributesOf root ∧
        t.separator = naming.separator ∧
        readPlatform (Entries.get? "platform" root) = .ok t.platform ∧
        readProjects naming t.fullContext t.order root = .ok t.projects ∧
        ∀ name ∈ t.topicNames, isLegalTopicName name = true := by
  rw [ofDocument_eq_ok_iff_draft, draft_eq_ok_iff]
  simp only [← exists_and_right, and_assoc]

end KafkaTopology.Topology
