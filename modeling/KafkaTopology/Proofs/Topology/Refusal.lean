import KafkaTopology.Proofs.Topology.Faults
import KafkaTopology.Proofs.Topology.Names
import KafkaTopology.Proofs.Topology.Union
/-!
# Which error a bad document gets

The checks of a document come in three phases: those of the root, those of the projects one after
the other, and those of the full names. The first fault that is found gives the error, so that a
document with several faults is refused for the earliest of them (`ofDocument_eq_error`). What the
topics are named counts in the last phase only: a project is as fine with other names for its topics
(`RetitledProject`).
-/
namespace KafkaTopology.Topology

open Except (FailsFirst bind_eq_error_iff mapM_eq_error_iff forM_eq_error_iff)

section
variable {naming : Naming} {d d' : Document} {e : TopologyError}

/-! ## Names -/

/-- Whether a name is the first one that the cluster does not accept. -/
def IsFirstIllegal (n : String) (names : List String) : Prop :=
  ∃ before after, names = before ++ n :: after ∧ (∀ m ∈ before, IsTopicName m) ∧ ¬IsTopicName n

theorem checkTopicName_eq_error_iff {n : String} :
    checkTopicName n = .error e ↔ e = .illegalTopicName n ∧ ¬IsTopicName n := by
  rw [checkTopicName, ← isLegalTopicName_iff]
  split
  · next h => exact ⟨nofun, fun h' => (h'.2 h).elim⟩
  · next h => exact ⟨fun h' => ⟨(Except.error.inj h').symm, h⟩, fun h' => by rw [h'.1]⟩

theorem failsFirst_checkTopicName_iff {names : List String} :
    FailsFirst checkTopicName names e ↔ ∃ n, e = .illegalTopicName n ∧ IsFirstIllegal n names := by
  have hok (m : String) : (checkTopicName m).isOk = true ↔ IsTopicName m := by
    rw [← isLegalTopicName_iff, ← checkTopicName_eq_ok_iff, Except.isOk_iff]
    exact ⟨fun ⟨_, h⟩ => h, fun h => ⟨_, h⟩⟩
  simp only [FailsFirst, IsFirstIllegal, checkTopicName_eq_error_iff, hok]
  constructor
  · rintro ⟨before, n, after, hnames, hbefore, he, hn⟩
    exact ⟨n, he, before, after, hnames, hbefore, hn⟩
  · rintro ⟨n, he, before, after, hnames, hbefore, hn⟩
    exact ⟨before, n, after, hnames, hbefore, he, hn⟩

theorem ofDocument_eq_error_iff :
    ofDocument naming d = .error e ↔
      draft naming d = .error e ∨
        ∃ t, draft naming d = .ok t ∧ FailsFirst checkTopicName t.topicNames e := by
  rw [ofDocument_eq_draft, bind_eq_error_iff]
  refine or_congr_right (exists_congr fun t => and_congr_right fun _ => ?_)
  rw [← forM_eq_error_iff, bind_eq_error_iff]
  exact ⟨fun h => h.resolve_right nofun, .inl⟩

theorem topicNames_of_spells {t : Topology} {separator : String} {root : Entries}
    (h : t.Spells separator root) : t.topicNames = (spelledNames separator root).flatten := by
  rw [← h.fullNames, topicNames, topics, List.map_flatMap, List.flatMap_def]

theorem isOk_draft_iff :
    (draft naming d).isOk = true ↔ form (fun _ => namedTopicForm) naming d := by
  rw [← topicFormWith_true naming.separator, ← exists_draft_iff, Except.isOk_iff]
  exact exists_congr fun t => (and_iff_left fun _ _ => trivial).symm

/-! ## Keys -/

/-- The keys that a root lacks: those that are absent or null. -/
def lackedKeys (root : Entries) : List String :=
  ["context", "projects"].filter fun key => ((Entries.get? key root).getD .null).isNull

theorem checkRequiredKeys_eq_error_iff {root : Entries} :
    checkRequiredKeys root = .error e ↔
      lackedKeys root ≠ [] ∧ e = .missingKeys (lackedKeys root) := by
  have hpresent (key : String) :
      (present? root key).isNone = ((Entries.get? key root).getD .null).isNull := by
    rw [present?]
    rcases Entries.get? key root with - | d
    · rfl
    · cases d <;> rfl
  have hlacked : requiredKeys.filter (fun key => (present? root key).isNone) = lackedKeys root :=
    List.filter_congr fun key _ => hpresent key
  rw [checkRequiredKeys, hlacked]
  cases lackedKeys root with
  | nil => simp
  | cons key keys => simp [eq_comm]

/-! ## Other names for the topics -/

/-- Whether two topics are the same but for their names, as they are written. -/
inductive Retitled : Document → Document → Prop
  | mapping (before after : Entries) (s s' : String) :
    Retitled (.mapping (before ++ ("name", .text s) :: after))
      (.mapping (before ++ ("name", .text s') :: after))
  | list (rest : List Document) (s s' : String) :
    Retitled (.list (.text s :: rest)) (.list (.text s' :: rest))

/-- Whether two projects are the same but for the names of their topics. -/
inductive RetitledProject : Document → Document → Prop
  | topics (entries : Entries) (topics topics' : List Document) :
    Entries.get? "topics" entries = some (.list topics) → List.Forall₂ Retitled topics topics' →
    RetitledProject (.mapping entries) (.mapping (entries.insert "topics" (.list topics')))

/-- The part of a topic that is its name. -/
def namePart : Part := .omissible "name" [] .optionalText

/-- Topics that are the same but for their names hold the same but for one text. -/
theorem Retitled.exists_laidOut (h : Retitled d d') :
    ∃ before after s s',
      d.laidOut Part.isNamed WrittenTopic.parts = before ++ (namePart, .text s) :: after ∧
      d'.laidOut Part.isNamed WrittenTopic.parts = before ++ (namePart, .text s') :: after := by
  cases h with
  | mapping before after s s' =>
    have hlaid (s : String) :
        (Document.mapping (before ++ ("name", .text s) :: after)).laidOut Part.isNamed
          WrittenTopic.parts =
        (Document.mapping before).laidOut Part.isNamed WrittenTopic.parts ++
          (namePart, .text s) :: (Document.mapping after).laidOut Part.isNamed WrittenTopic.parts :=
      List.filterMap_append
    exact ⟨_, _, s, s', hlaid s, hlaid s'⟩
  | list rest s s' => exact ⟨[], _, s, s', rfl, rfl⟩

theorem Retitled.record (h : Retitled d d') (hd : Form.record WrittenTopic.parts d) :
    Form.record WrittenTopic.parts d' := by
  obtain ⟨before, after, s, s', hlaid, hlaid'⟩ := h.exists_laidOut
  obtain ⟨hallows, hforms⟩ := hd
  constructor
  · cases h with
    | mapping =>
      simp only [Form.Allows, hlaid, hlaid', List.map_append, List.map_cons] at hallows ⊢
      exact hallows
    -- of a list, only the number of items counts
    | list => exact hallows
  · rw [hlaid, List.forall_mem_append, List.forall_mem_cons] at hforms
    rw [hlaid', List.forall_mem_append, List.forall_mem_cons]
    exact ⟨hforms.1, .inr ⟨s', rfl⟩, hforms.2.2⟩

theorem Retitled.value? (h : Retitled d d') {part : String} (hpart : part ≠ "name") :
    Form.value? WrittenTopic.parts part d' = Form.value? WrittenTopic.parts part d := by
  obtain ⟨before, after, s, s', hlaid, hlaid'⟩ := h.exists_laidOut
  have hskip (s : String) : ((before ++ (namePart, .text s) :: after).find? (·.1.name == part)) =
      (before ++ after).find? (·.1.name == part) := by
    have hname : (namePart.name == part) = false := beq_false_of_ne hpart.symm
    rw [List.find?_append, List.find?_append, List.find?_cons_of_neg (by simp [hname])]
  rw [Form.value?, Form.value?, hlaid, hlaid', hskip, hskip]

theorem Retitled.exists_name (h : Retitled d d')
    (hd : ∃ name, Form.value? WrittenTopic.parts "name" d = some (.text name)) :
    ∃ name, Form.value? WrittenTopic.parts "name" d' = some (.text name) := by
  obtain ⟨before, after, s, s', hlaid, hlaid'⟩ := h.exists_laidOut
  have hfind (s : String) : ((before ++ (namePart, .text s) :: after).find? (·.1.name == "name")) =
      some ((before.find? (·.1.name == "name")).getD (namePart, .text s)) := by
    rw [List.find?_append, List.find?_cons_of_pos rfl]
    cases before.find? (·.1.name == "name") <;> rfl
  rw [Form.value?, hlaid, hfind] at hd
  rw [Form.value?, hlaid', hfind]
  cases hbefore : before.find? (·.1.name == "name") with
  | none => exact ⟨s', rfl⟩
  | some v => rwa [hbefore] at hd

/-- Whether a topic is fine does not depend on what it is named. -/
theorem Retitled.namedTopicForm (h : Retitled d d') (hd : namedTopicForm d) :
    namedTopicForm d' := by
  obtain ⟨hrecord, hsettings, hname⟩ := hd
  refine ⟨h.record hrecord, ?_, h.exists_name hname⟩
  rwa [h.value? (by decide)]

/-- A project, whatever its topics are named. -/
def namedProjectForm (naming : Naming) : Form := projectForm (fun _ => namedTopicForm) naming ""

theorem isOk_readProject_iff (fullContext : String) (order : List String) :
    (readProject naming fullContext order d).isOk = true ↔ namedProjectForm naming d := by
  have hread : (∃ p, readProject naming fullContext order d = .ok p ∧ ∀ topic ∈ p.topics, True) ↔
      projectForm (topicFormWith (fun _ => True) naming.separator) naming fullContext d :=
    exists_readProject_iff (fun _ => True) order
  -- the topics have one form in all projects, so that the context no longer counts
  rw [topicFormWith_true] at hread
  rw [Except.isOk_iff]
  exact (exists_congr fun _ => (and_iff_left fun _ _ => trivial).symm).trans hread

theorem RetitledProject.namedProjectForm (h : RetitledProject d d')
    (hd : namedProjectForm naming d) : namedProjectForm naming d' := by
  obtain ⟨entries, topics, topics', htopics, hretitled⟩ := h
  obtain ⟨_, ⟨⟩, name, hname, hcons, hprod, hstreams, hconn, hschemas, hrbac, _, hpresent, hlist⟩ :=
    hd
  have hget {key : String} (hkey : key ≠ "topics") :
      Entries.get? key (entries.insert "topics" (.list topics')) = Entries.get? key entries :=
    Entries.get?_insert_of_ne hkey _ _
  have hmay {key : String} (hkey : key ≠ "topics") {f : Form} (hf : MayHave entries key f) :
      MayHave (entries.insert "topics" (.list topics')) key f := by
    rwa [MayHave, present?, hget hkey]
  refine ⟨_, rfl, name, ?_, hmay (by decide) hcons, hmay (by decide) hprod,
    hmay (by decide) hstreams, hmay (by decide) hconn, hmay (by decide) hschemas, ?_,
    .list topics', ?_, topics', rfl, ?_⟩
  · rwa [hget (by decide)]
  · rwa [hget (by decide)]
  · rw [present?, Entries.get?_insert_self]
  · rw [present?, htopics] at hpresent
    cases hpresent
    obtain ⟨_, ⟨⟩, hforms⟩ := hlist
    intro topic' htopic'
    obtain ⟨topic, htopic, h⟩ := hretitled.exists_left htopic'
    exact h.namedTopicForm (hforms topic htopic)

/-! ## Other projects -/

/-- The document with another list of projects. -/
def withProjects (root : Entries) (items : List Document) : Document :=
  .mapping (root.insert "projects" (.list items))

theorem sameFrame_insert (root : Entries) (value : Document) :
    SameFrame (root.insert "projects" value) root where
  context := Entries.get?_insert_of_ne (by decide) _ _
  attributes := Entries.filter_insert (p := fun key => !knownKeys.contains key) rfl _ _
  platform := Entries.get?_insert_of_ne (by decide) _ _

theorem SameFrame.draft_eq_error_iff {root root' : Entries} (h : SameFrame root root')
    {t : Topology} (ht : ofDocument naming (.mapping root) = .ok t) {items' : List Document}
    (hitems' : Entries.get? "projects" root' = some (.list items')) :
    draft naming (.mapping root') = .error e ↔
      FailsFirst (readProject naming t.fullContext t.order) items' e := by
  rw [h.draft_eq ht hitems', bind_eq_error_iff, ← mapM_eq_error_iff]
  exact ⟨fun h => h.resolve_right nofun, .inl⟩

/-! ## The errors -/

/-- A document is refused for the name of a topic if everything else is fine. -/
theorem ofDocument_eq_illegalTopicName_iff {n : String} :
    ofDocument naming d = .error (.illegalTopicName n) ↔
      form (fun _ => namedTopicForm) naming d ∧
        ∃ root, d = .mapping root ∧
          IsFirstIllegal n (spelledNames naming.separator root).flatten := by
  rw [ofDocument_eq_error_iff, ← isOk_draft_iff, Except.isOk_iff]
  constructor
  · rintro (hdraft | ⟨t, ht, hfirst⟩)
    · rcases draft_eq_error hdraft with ⟨⟨⟩⟩ | ⟨root, -, hkeys⟩
      cases (checkRequiredKeys_eq_error_iff.1 hkeys).2
    · obtain ⟨root, rfl, hspells⟩ := spells_of_draft ht
      obtain ⟨_, ⟨⟩, hn⟩ := failsFirst_checkTopicName_iff.1 hfirst
      rw [topicNames_of_spells hspells] at hn
      exact ⟨⟨t, ht⟩, root, rfl, hn⟩
  · rintro ⟨⟨t, ht⟩, root, rfl, hn⟩
    obtain ⟨_, ⟨⟩, hspells⟩ := spells_of_draft ht
    rw [← topicNames_of_spells hspells] at hn
    exact .inr ⟨t, ht, failsFirst_checkTopicName_iff.2 ⟨n, rfl, hn⟩⟩

/-- A document is refused for keys if its root lacks any, whatever else is wrong. -/
theorem ofDocument_eq_missingKeys_iff {keys : List String} :
    ofDocument naming d = .error (.missingKeys keys) ↔
      ∃ root, d = .mapping root ∧ lackedKeys root ≠ [] ∧ keys = lackedKeys root := by
  rw [ofDocument_eq_error_iff]
  constructor
  · rintro (hdraft | ⟨t, -, hfirst⟩)
    · rcases draft_eq_error hdraft with ⟨⟨⟩⟩ | ⟨root, rfl, hkeys⟩
      obtain ⟨hne, ⟨⟩⟩ := checkRequiredKeys_eq_error_iff.1 hkeys
      exact ⟨root, rfl, hne, rfl⟩
    · obtain ⟨_, ⟨⟩, -⟩ := failsFirst_checkTopicName_iff.1 hfirst
  · rintro ⟨root, rfl, hne, rfl⟩
    exact .inl (bind_eq_error_iff.2 (.inl (checkRequiredKeys_eq_error_iff.2 ⟨hne, rfl⟩)))

/-- A document is refused for the first project that is not fine. -/
theorem exists_first_bad {root : Entries} {items : List Document}
    (hitems : Entries.get? "projects" root = some (.list items))
    (hframe : (ofDocument naming (withProjects root [])).isOk = true)
    (he : ofDocument naming (.mapping root) = .error e) (hne : ∀ n, e ≠ .illegalTopicName n) :
    ∃ before bad after, items = before ++ bad :: after ∧
      (∀ project ∈ before, namedProjectForm naming project) ∧ ¬namedProjectForm naming bad ∧
      ∀ before' after', List.Forall₂ RetitledProject before before' →
        ofDocument naming (withProjects root (before' ++ bad :: after')) = .error e := by
  obtain ⟨t, ht⟩ := Except.isOk_iff.1 hframe
  have hfirst {root' : Entries} {items' : List Document} (h : SameFrame root root')
      (hitems' : Entries.get? "projects" root' = some (.list items')) :
      ofDocument naming (.mapping root') = .error e ↔
        FailsFirst (readProject naming t.fullContext t.order) items' e := by
    rw [ofDocument_eq_error_iff,
      ← ((sameFrame_insert root _).trans h).draft_eq_error_iff ht hitems']
    refine or_iff_left ?_
    rintro ⟨_, -, hnames⟩
    obtain ⟨n, hn, -⟩ := failsFirst_checkTopicName_iff.1 hnames
    exact hne n hn
  obtain ⟨before, bad, after, rfl, hbefore, hbad⟩ := (hfirst ⟨rfl, rfl, rfl⟩ hitems).1 he
  refine ⟨before, bad, after, rfl, fun p hp => (isOk_readProject_iff _ _).1 (hbefore p hp),
    fun hform => ?_, fun before' after' hretitled => ?_⟩
  · rw [← isOk_readProject_iff t.fullContext t.order, hbad] at hform
    cases hform
  · refine (hfirst (sameFrame_insert root _).symm (Entries.get?_insert_self _ _ _)).2
      ⟨before', bad, after', rfl, fun p' hp' => ?_, hbad⟩
    obtain ⟨p, hp, h⟩ := hretitled.exists_left hp'
    exact (isOk_readProject_iff _ _).2
      (h.namedProjectForm ((isOk_readProject_iff _ _).1 (hbefore p hp)))

/-- **Which error a bad document gets.** A document is refused for the name of a topic exactly if
everything but the names of the topics is fine, and it is the first name that the cluster does not
accept. It is refused for keys exactly if its root lacks any, and for all that it lacks. If without
any projects nothing else were wrong, it is refused for the first project that is not fine whatever
its topics are named: with any projects after that one, and any names for the topics of those before
it, the error is the same. -/
theorem ofDocument_eq_error (naming : Naming) (d : Document) :
    (∀ n, ofDocument naming d = .error (.illegalTopicName n) ↔
      form (fun _ => namedTopicForm) naming d ∧
        ∃ root, d = .mapping root ∧
          IsFirstIllegal n (spelledNames naming.separator root).flatten) ∧
    (∀ keys, ofDocument naming d = .error (.missingKeys keys) ↔
      ∃ root, d = .mapping root ∧ lackedKeys root ≠ [] ∧ keys = lackedKeys root) ∧
    ∀ root items, d = .mapping root → Entries.get? "projects" root = some (.list items) →
      (ofDocument naming (withProjects root [])).isOk = true →
      ∀ e, ofDocument naming d = .error e → (∀ n, e ≠ .illegalTopicName n) →
        ∃ before bad after, items = before ++ bad :: after ∧
          (∀ project ∈ before, namedProjectForm naming project) ∧
          ¬namedProjectForm naming bad ∧
          ∀ before' after', List.Forall₂ RetitledProject before before' →
            ofDocument naming (withProjects root (before' ++ bad :: after')) = .error e := by
  refine ⟨fun _ => ofDocument_eq_illegalTopicName_iff, fun _ => ofDocument_eq_missingKeys_iff, ?_⟩
  rintro root items rfl hitems hframe e he hne
  exact exists_first_bad hitems hframe he hne

end

/-! ## A document with several faults -/

namespace Tangled

/-- A project with one topic. -/
def pay (title : String) : Document := .mapping [
  ("name", .text "pay"),
  ("topics", .list [.mapping [("name", .text title)]])]

/-- A project without topics. -/
def stray : Document := .mapping [("name", .text "stray")]

/-- A topic whose name the cluster does not accept, then a project without topics, then what is no
project. -/
def root : Entries := [
  ("context", .text "prod"),
  ("projects", .list [pay "our wages", stray, .integer 7])]

/-- The document with the first project alone. -/
def alone : Document := withProjects root [pay "our wages"]

theorem retitled_pay : RetitledProject (pay "our wages") (pay "wages") :=
  .topics _ _ _ rfl (.cons (.mapping [] [] _ _) .nil)

theorem namedProjectForm_pay : namedProjectForm ⟨∅, "."⟩ (pay "our wages") :=
  (isOk_readProject_iff "prod" []).1 rfl

theorem not_namedProjectForm_stray : ¬namedProjectForm ⟨∅, "."⟩ stray := by
  rw [← isOk_readProject_iff "prod" []]
  exact nofun

/-- The second project is the first one that is not fine. -/
theorem eq_of_first_bad {before after : List Document} {bad : Document}
    (hitems : [pay "our wages", stray, .integer 7] = before ++ bad :: after)
    (hbefore : ∀ project ∈ before, namedProjectForm ⟨∅, "."⟩ project)
    (hbad : ¬namedProjectForm ⟨∅, "."⟩ bad) : before = [pay "our wages"] ∧ bad = stray := by
  rcases List.cons_eq_append_iff.1 hitems with ⟨-, hpay⟩ | ⟨rest, rfl, hrest⟩
  · cases hpay
    exact (hbad namedProjectForm_pay).elim
  rcases List.cons_eq_append_iff.1 hrest with ⟨rfl, hstray⟩ | ⟨rest, rfl, -⟩
  · cases hstray
    exact ⟨rfl, rfl⟩
  · have hstray : stray ∈ pay "our wages" :: stray :: rest :=
      List.mem_cons_of_mem _ List.mem_cons_self
    exact (not_namedProjectForm_stray (hbefore _ hstray)).elim

end Tangled

/-- The document is refused for the project without topics, also with another name for the topic and
without the last project. Without both of these projects it is refused for the name. -/
theorem ofDocument_eq_error_tangled :
    let refusal := TopologyError.missingTopics "stray"
    ofDocument ⟨∅, "."⟩ (.mapping Tangled.root) = .error refusal ∧
      (ofDocument ⟨∅, "."⟩ (withProjects Tangled.root [])).isOk = true ∧
      ofDocument ⟨∅, "."⟩ (withProjects Tangled.root [Tangled.pay "wages", Tangled.stray]) =
        .error refusal ∧
      (ofDocument ⟨∅, "."⟩ Tangled.alone = .error (.illegalTopicName "prod.pay.our wages") ∧
        form (fun _ => namedTopicForm) ⟨∅, "."⟩ Tangled.alone) ∧
      ofDocument ⟨∅, "."⟩ (.mapping []) = .error (.missingKeys ["context", "projects"]) := by
  intro refusal
  have hrefused : ofDocument ⟨∅, "."⟩ (.mapping Tangled.root) = .error refusal := rfl
  have hframe : (ofDocument ⟨∅, "."⟩ (withProjects Tangled.root [])).isOk = true := rfl
  have halone : ofDocument ⟨∅, "."⟩ Tangled.alone =
      .error (.illegalTopicName "prod.pay.our wages") := by rfl
  obtain ⟨-, -, hprojects⟩ := ofDocument_eq_error ⟨∅, "."⟩ (.mapping Tangled.root)
  obtain ⟨hnames, -, -⟩ := ofDocument_eq_error ⟨∅, "."⟩ Tangled.alone
  obtain ⟨-, hkeys, -⟩ := ofDocument_eq_error ⟨∅, "."⟩ (.mapping [])
  refine ⟨hrefused, hframe, ?_, ⟨halone, ((hnames _).1 halone).1⟩,
    (hkeys _).2 ⟨[], rfl, by decide, rfl⟩⟩
  obtain ⟨before, bad, after, hitems, hbefore, hbad, hsame⟩ :=
    hprojects _ _ rfl rfl hframe _ hrefused nofun
  obtain ⟨rfl, rfl⟩ := Tangled.eq_of_first_bad hitems hbefore hbad
  exact hsame [Tangled.pay "wages"] [] (.cons Tangled.retitled_pay .nil)

end KafkaTopology.Topology
