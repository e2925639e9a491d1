import KafkaTopology.Proofs.Topology.Declared
import KafkaTopology.Proofs.Topology.Isolation
/-!
# The names of topics

The full name of a topic is put together in three stages: the context, the qualified name of the
project, the name of the topic. It comes to one join of all the texts that a document spells out for
it (`spelledNames`), and an accepted document is read as a topology with these names
(`names_of_topics`). A join by a character that none of its parts has can be taken apart again, so
that two topics whose texts are free of the separator have one name only if they have all these
texts in common (`fullName_eq_iff`).
-/
/-- What is made of the left and of the right is the same list if it is the same item by item. -/
theorem List.Forall₂.map_eq {α β γ : Type} {f : α → γ} {g : β → γ} {xs : List α} {ys : List β}
    (h : List.Forall₂ (fun x y => g y = f x) xs ys) : ys.map g = xs.map f := by
  induction h with
  | nil => rfl
  | cons hxy _ ih => rw [List.map_cons, List.map_cons, hxy, ih]

namespace KafkaTopology

/-! ## Joins -/

/-- A first part that is a join itself may be replaced by its parts. -/
theorem joinName_joinName (separator : String) {xs : List String} (hxs : xs ≠ [])
    (ys : List String) :
    joinName separator (joinName separator xs :: ys) = joinName separator (xs ++ ys) := by
  by_cases hys : ys = []
  · rw [hys, List.append_nil]
    exact String.intercalate_singleton
  · rw [joinName, joinName, joinName, String.intercalate_cons_of_ne_nil hys,
      String.intercalate_append_of_ne_nil hxs hys]

/-- The parts of a join are what it splits into, if they are free of the separator. -/
theorem joinName_inj {separator : String} {c : Char} (hc : separator.toList = [c])
    {xs ys : List String} (hxs : xs ≠ []) (hys : ys ≠ []) (hfree : ∀ s ∈ xs, c ∉ s.toList)
    (hfree' : ∀ s ∈ ys, c ∉ s.toList) (h : joinName separator xs = joinName separator ys) :
    xs = ys := by
  have hsplit {zs : List String} (hzs : zs ≠ []) (hfree : ∀ s ∈ zs, c ∉ s.toList) :
      (joinName separator zs).toList.splitOn c = zs.map String.toList := by
    rw [joinName, String.toList_intercalate, hc]
    exact List.splitOn_intercalate c (List.forall_mem_map.2 hfree) (by simpa using hzs)
  refine List.map_injective_iff.2 (fun _ _ => String.toList_inj.1) ?_
  rw [← hsplit hxs hfree, ← hsplit hys hfree', h]

namespace Topology

/-! ## What a document spells out -/

/-- The items that a document lists under a key. -/
def listed (key : String) (d : Document) : List Document :=
  match d.get? key with
  | some (.list items) => items
  | _ => []

/-- The text of the name of a project. -/
def projectText? (d : Document) : Option String := (d.get? "name").bind Document.scalarText?

/-- Whether a key of the root is an attribute: it is none of those with a meaning of their own. -/
def IsAttribute (key : String) : Prop := key ∉ ["context", "projects", "platform"]

instance (key : String) : Decidable (IsAttribute key) := inferInstanceAs (Decidable (key ∉ _))

/-- The texts that all names begin with: that of the context, and those of the attributes that are
scalars. -/
def rootTexts (root : Entries) : List String :=
  ((Entries.get? "context" root).bind Document.scalarText?).toList ++
    (root.filter fun e => IsAttribute e.1).filterMap fun e => e.2.scalarText?

/-- The full names of the topics, project by project: the texts of the root, of the project and of
the topic, with the separator between them. -/
def spelledNames (separator : String) (root : Entries) : List (List String) :=
  (listed "projects" (.mapping root)).map fun project =>
    (listed "topics" project).map fun topic =>
      separator.intercalate (rootTexts root ++ (projectText? project).toList ++ topicTexts topic)

/-- What a topology has of the names that a document spells out: one project for each project, with
one topic for each topic. -/
structure Spells (t : Topology) (separator : String) (root : Entries) : Prop where
  order : t.order = "context" :: root.keys.filter IsAttribute
  orders : ∀ p ∈ t.projects, p.order = t.order
  projects : t.projects.map (fun p => some p.name) =
    (listed "projects" (.mapping root)).map projectText?
  qualifiedNames : t.projects.map (·.qualifiedName) =
    (listed "projects" (.mapping root)).map fun project =>
      separator.intercalate (rootTexts root ++ (projectText? project).toList)
  topics : t.projects.map (fun p => p.topics.map fun topic => (some topic.name, topic.dataType)) =
    (listed "projects" (.mapping root)).map fun project =>
      (listed "topics" project).map fun topic =>
        (topicText? "name" topic, topicText? "dataType" topic)
  fullNames : t.projects.map (fun p => p.topics.map (·.fullName)) = spelledNames separator root

/-! ## Names as they are read -/

section
variable {naming : Naming}

/-- A project is read with the names that it spells out. -/
structure SpellsProject (p : Project) (separator : String) (texts : List String) (d : Document) :
    Prop where
  name : some p.name = projectText? d
  qualifiedName : p.qualifiedName = separator.intercalate (texts ++ (projectText? d).toList)
  topics : p.topics.map (fun topic => (some topic.name, topic.dataType)) =
    (listed "topics" d).map fun topic => (topicText? "name" topic, topicText? "dataType" topic)
  fullNames : p.topics.map (·.fullName) = (listed "topics" d).map fun topic =>
    separator.intercalate (texts ++ (projectText? d).toList ++ topicTexts topic)

theorem listed_of_present? {entries : Entries} {key : String} {items : List Document}
    (h : present? entries key = some (.list items)) : listed key (.mapping entries) = items := by
  rw [present?] at h
  rw [listed, Document.get?]
  split at h
  · cases h
  · rw [h]

theorem texts_of_declaresTopic {separator project qualifiedName : String} {d : Document}
    {topic : Topic} (h : DeclaresTopic separator project qualifiedName d topic) :
    some topic.name = topicText? "name" d ∧ topic.dataType = topicText? "dataType" d ∧
      topic.fullName = joinName separator (qualifiedName :: topicTexts d) := by
  obtain ⟨w, hw, hcheck⟩ := h
  obtain ⟨hname, hdata, -⟩ := WrittenTopic.eq_of_decode hw
  obtain ⟨hname', hdata', -, hfull⟩ := checkTopic_eq_ok_iff.1 hcheck
  have hname : topicText? "name" d = some topic.name := hname.symm.trans hname'
  have hdata : topicText? "dataType" d = topic.dataType := hdata.symm.trans hdata'.symm
  refine ⟨hname.symm, hdata.symm, ?_⟩
  rw [hfull, topicTexts, hname, hdata]
  rfl

theorem spellsProject_of_readProject {texts : List String} (htexts : texts ≠ [])
    {order : List String} {d : Document} {p : Project}
    (h : readProject naming (joinName naming.separator texts) order d = .ok p) :
    SpellsProject p naming.separator texts d := by
  obtain ⟨entries, rfl, hkeeps⟩ := keepsProject_of_readProject h
  obtain ⟨_, ⟨⟩, -, hq, -⟩ := readProject_eq_ok_iff.1 h
  obtain ⟨_, hpresent, items, rfl, hitems⟩ := hkeeps.topics
  have hname : projectText? (.mapping entries) = some p.name := hkeeps.name
  have hlisted := listed_of_present? hpresent
  have hq : p.qualifiedName = joinName naming.separator (texts ++ [p.name]) := by
    rw [hq, joinName_joinName _ htexts]
  refine ⟨hname.symm, ?_, ?_, ?_⟩
  · rw [hname]
    exact hq
  · rw [hlisted]
    refine (hitems.imp fun _ _ hitem => ?_).map_eq
    obtain ⟨hname, hdata, -⟩ := texts_of_declaresTopic hitem
    rw [hname, hdata]
  · rw [hlisted, hname]
    refine (hitems.imp fun _ _ hitem => ?_).map_eq
    obtain ⟨-, -, hfull⟩ := texts_of_declaresTopic hitem
    rw [hfull, hq, joinName_joinName _ (by simp)]
    rfl

theorem attributesOf_eq (root : Entries) :
    attributesOf root = root.filter fun e => IsAttribute e.1 := by
  refine List.filter_congr fun e _ => ?_
  simp only [knownKeys, IsAttribute, List.contains_eq_mem, List.mem_cons, ← decide_not]
  exact decide_eq_decide.2 (not_congr ⟨by tauto, by tauto⟩)

/-- The texts of the root are those of the full context. -/
theorem fullContext_eq_joinName {t : Topology} {root : Entries}
    (hcontext : readContext root = .ok t.context) (hattributes : t.attributes = attributesOf root) :
    t.fullContext = joinName t.separator (rootTexts root) ∧ rootTexts root ≠ [] := by
  have htexts : rootTexts root = t.context :: scalarAttributes t.attributes := by
    rw [rootTexts, (readContext_eq_ok_iff.1 hcontext).1, hattributes, attributesOf_eq]
    rfl
  exact ⟨by rw [fullContext, joinContext, htexts], by simp [htexts]⟩

/-- A document that is read, whatever its names are, is read with the names that it spells out. -/
theorem spells_of_draft {d : Document} {t : Topology} (h : draft naming d = .ok t) :
    ∃ root, d = .mapping root ∧ t.Spells naming.separator root := by
  obtain ⟨root, rfl, -, hcontext, hattributes, hseparator, -, hprojects⟩ := draft_eq_ok_iff.1 h
  obtain ⟨items, hitems, hread⟩ := readProjects_eq_ok_iff.1 hprojects
  obtain ⟨hfull, htexts⟩ := fullContext_eq_joinName hcontext hattributes
  rw [hfull, hseparator] at hread
  have hlisted : listed "projects" (.mapping root) = items := by rw [listed, Document.get?, hitems]
  have hspells := (Except.mapM_eq_ok_iff.1 hread).imp fun _ _ hp =>
    spellsProject_of_readProject htexts hp
  refine ⟨root, rfl, ?_, fun p hp => ?_, ?_, ?_, ?_, ?_⟩
  · rw [order, orderOf, hattributes, attributesOf_eq, Entries.keys, Entries.keys, List.filter_map]
    rfl
  · obtain ⟨item, -, hitem⟩ := Except.exists_of_mem_mapM hread hp
    obtain ⟨_, -, -, -, horder, -⟩ := readProject_eq_ok_iff.1 hitem
    exact horder
  · rw [hlisted]
    exact (hspells.imp fun _ _ hp => hp.name).map_eq
  · rw [hlisted]
    exact (hspells.imp fun _ _ hp => hp.qualifiedName).map_eq
  · rw [hlisted]
    exact (hspells.imp fun _ _ hp => hp.topics).map_eq
  · rw [spelledNames, hlisted]
    exact (hspells.imp fun _ _ hp => hp.fullNames).map_eq

/-! ## Names of accepted documents -/

/-- A character that the name of a topic may have: one of `A-Z`, `a-z`, `0-9`, `.`, `_`, `-`. -/
def IsNameChar (c : Char) : Prop :=
  ('A' ≤ c ∧ c ≤ 'Z') ∨ ('a' ≤ c ∧ c ≤ 'z') ∨ ('0' ≤ c ∧ c ≤ '9') ∨ c = '.' ∨ c = '_' ∨ c = '-'

/-- A text that the name of a topic may be. -/
def IsTopicName (name : String) : Prop := name ≠ "" ∧ ∀ c ∈ name.toList, IsNameChar c

theorem isLegalTopicName_iff {name : String} :
    isLegalTopicName name = true ↔ IsTopicName name := by
  have halphanum (c : Char) : c.isAlphanum = (decide ('A' ≤ c ∧ c ≤ 'Z') ||
      (decide ('a' ≤ c) && decide (c ≤ 'z')) || (decide ('0' ≤ c) && decide (c ≤ '9'))) := rfl
  have hchar (c : Char) : isTopicNameChar c = true ↔ IsNameChar c := by
    simp [isTopicNameChar, IsNameChar, halphanum, or_assoc]
  simp [isLegalTopicName, IsTopicName, hchar]

variable {d : Document} {t : Topology}

/-- The name of a topic begins with the qualified name of its project and a separator. -/
theorem qualifiedName_prefix_fullName (h : ofDocument naming d = .ok t) {p : Project}
    (hp : p ∈ t.projects) {topic : Topic} (htopic : topic ∈ p.topics) :
    (p.qualifiedName ++ naming.separator).toList <+: topic.fullName.toList := by
  obtain ⟨rest, hrest⟩ :=
    renderName_eq naming.separator p.qualifiedName topic.name topic.dataType
  rw [fullName_eq h hp htopic, hrest]
  exact ⟨rest.toList, String.toList_append.symm⟩

/-- **The names of all topics.** An accepted document is read as a topology with one project for
each project and one topic for each topic, in the order of the document. The full name of each topic
is the join of the texts that the document spells out for it; it is a name that the cluster accepts,
and it begins with the qualified name of the project and a separator. The order is the context
followed by all attributes, and all projects have it. -/
theorem names_of_topics (h : ofDocument naming d = .ok t) :
    ∃ root, d = .mapping root ∧ t.Spells naming.separator root ∧
      ∀ p ∈ t.projects, ∀ topic ∈ p.topics, IsTopicName topic.fullName ∧
        (p.qualifiedName ++ naming.separator).toList <+: topic.fullName.toList := by
  obtain ⟨hdraft, hlegal⟩ := ofDocument_eq_ok_iff_draft.1 h
  obtain ⟨root, hroot, hspells⟩ := spells_of_draft hdraft
  refine ⟨root, hroot, hspells, fun p hp topic htopic => ⟨?_, ?_⟩⟩
  · exact isLegalTopicName_iff.1 (forall_topicNames_iff.1 hlegal p hp topic htopic)
  · exact qualifiedName_prefix_fullName h hp htopic

/-! ## Topics with one name -/

/-- Two topics whose texts are free of the separator have one full name exactly if they have these
texts in common. -/
theorem fullName_eq_iff (h : ofDocument naming d = .ok t) {c : Char}
    (hc : t.separator.toList = [c]) {p p' : Project} (hp : p ∈ t.projects) (hp' : p' ∈ t.projects)
    {topic topic' : Topic} (htopic : topic ∈ p.topics) (htopic' : topic' ∈ p'.topics)
    (hfree : ∀ s ∈ p.name :: topic.name :: topic.dataType.toList, c ∉ s.toList)
    (hfree' : ∀ s ∈ p'.name :: topic'.name :: topic'.dataType.toList, c ∉ s.toList) :
    topic.fullName = topic'.fullName ↔
      p.name = p'.name ∧ topic.name = topic'.name ∧ topic.dataType = topic'.dataType := by
  have hfull {p : Project} (hp : p ∈ t.projects) {topic : Topic} (htopic : topic ∈ p.topics) :
      topic.fullName = t.fullContext ++ naming.separator ++
        joinName naming.separator (p.name :: topic.name :: topic.dataType.toList) := by
    have hq : p.qualifiedName = joinName naming.separator [t.fullContext, p.name] :=
      qualifiedName_eq h hp
    rw [fullName_eq h hp htopic, renderName, hq, joinName_joinName _ (List.cons_ne_nil _ _)]
    exact String.intercalate_cons_of_ne_nil (List.cons_ne_nil _ _)
  obtain ⟨-, -, -, -, -, hseparator, -⟩ := ofDocument_eq_ok_iff.1 h
  rw [hseparator] at hc
  rw [hfull hp htopic, hfull hp' htopic', String.append_right_inj]
  constructor
  · intro hjoin
    have hparts := joinName_inj hc (List.cons_ne_nil _ _) (List.cons_ne_nil _ _) hfree hfree' hjoin
    obtain ⟨hname, htopicName, hdata⟩ := by simpa only [List.cons.injEq] using hparts
    exact ⟨hname, htopicName, by simpa using congrArg List.head? hdata⟩
  · rintro ⟨hname, htopicName, hdata⟩
    rw [hname, htopicName, hdata]

end

/-! ## A document with attributes -/

namespace Zoned

/-- The entries of a document with three attributes, two of which are scalars. The second project
has an empty name. -/
def root : Entries := [
  ("zone", .text "eu"),
  ("context", .text "prod"),
  ("labels", .list []),
  ("floor", .integer 3),
  ("projects", .list [
    .mapping [
      ("name", .text "pay"),
      ("topics", .list [
        .mapping [("data_type", .text "json"), ("name", .text "wages")],
        .list [.text "wages"]])],
    .mapping [("name", .text ""), ("topics", .list [.mapping [("name", .text "pay")]])]])]

/-- The topics of the first project: one with a data type, and one without. -/
def typed : Topic := ⟨"wages", some "json", ∅, "prod.eu.3.pay.wages.json"⟩

def untyped : Topic := ⟨"wages", none, ∅, "prod.eu.3.pay.wages"⟩

/-- A project without members. -/
def project (name : String) (topics : List Topic) : Project :=
  { (default : Project) with
    name := name
    qualifiedName := "prod.eu.3." ++ name
    order := ["context", "zone", "labels", "floor"]
    rbac := ∅
    topics := topics }

def pay : Project := project "pay" [typed, untyped]

def nameless : Project := project "" [⟨"pay", none, ∅, "prod.eu.3..pay"⟩]

/-- The topology of the document. -/
def topology : Topology where
  context := "prod"
  attributes := [("zone", .text "eu"), ("labels", .list []), ("floor", .integer 3)]
  separator := "."
  platform := .empty
  projects := [pay, nameless]

theorem read_root : ofDocument ⟨∅, "."⟩ (.mapping root) = .ok topology := by rfl

end Zoned

/-- The names of the topics of the document. The attribute that is no scalar counts for the order
only. -/
theorem names_of_topics_zoned :
    ofDocument ⟨∅, "."⟩ (.mapping Zoned.root) = .ok Zoned.topology ∧
      Zoned.topology.Spells "." Zoned.root ∧
      spelledNames "." Zoned.root =
        [["prod.eu.3.pay.wages.json", "prod.eu.3.pay.wages"], ["prod.eu.3..pay"]] ∧
      ∀ p ∈ Zoned.topology.projects, p.order = ["context", "zone", "labels", "floor"] := by
  obtain ⟨_, ⟨⟩, hspells, -⟩ := names_of_topics Zoned.read_root
  exact ⟨Zoned.read_root, hspells, hspells.fullNames.symm, hspells.orders⟩

/-- A topic with a data type and one without differ in their full names. -/
theorem fullName_eq_iff_zoned :
    ofDocument ⟨∅, "."⟩ (.mapping Zoned.root) = .ok Zoned.topology ∧
      Zoned.topology.separator.toList = ['.'] ∧ Zoned.pay ∈ Zoned.topology.projects ∧
      Zoned.typed ∈ Zoned.pay.topics ∧ Zoned.untyped ∈ Zoned.pay.topics ∧
      (∀ s ∈ ["pay", "wages", "json"], '.' ∉ s.toList) ∧
      Zoned.typed.fullName ≠ Zoned.untyped.fullName := by
  have hpay : Zoned.pay ∈ Zoned.topology.projects := List.mem_cons_self
  have htyped : Zoned.typed ∈ Zoned.pay.topics := List.mem_cons_self
  have huntyped : Zoned.untyped ∈ Zoned.pay.topics := List.mem_cons_of_mem _ List.mem_cons_self
  have hfree : ∀ s ∈ ["pay", "wages", "json"], '.' ∉ s.toList := by decide +kernel
  have hfree' : ∀ s ∈ ["pay", "wages"], '.' ∉ s.toList :=
    fun s hs => hfree s (List.mem_append_left ["json"] hs)
  refine ⟨Zoned.read_root, by rfl, hpay, htyped, huntyped, hfree, fun hname => ?_⟩
  have hsame := fullName_eq_iff Zoned.read_root (c := '.') (by rfl) hpay hpay htyped huntyped
    hfree hfree'
  exact Option.some_ne_none _ (hsame.1 hname).2.2

end Topology
end KafkaTopology
