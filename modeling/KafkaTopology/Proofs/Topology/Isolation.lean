import KafkaTopology.Proofs.Topology.Reading
import KafkaTopology.Topology.Grants
import Mathlib.Data.List.Infix
/-!
# How far a project's own grants reach

Consumers, producers and stream applications without an id are granted what they need on every
topic whose name begins with the project's qualified name. That name ends in the project's name and
not in a separator, so the grants also reach into a project whose name goes on where the first one's
ends.
-/
namespace KafkaTopology

namespace Acl

/-- Whether the names that a grant matches include a name. -/
def Binding.Covers (b : Binding) (name : String) : Prop :=
  match b.pattern with
  | .literal => b.name = name
  | .prefixed => b.name.toList <+: name.toList

instance (b : Binding) (name : String) : Decidable (b.Covers name) := by
  unfold Binding.Covers
  split <;> infer_instance

end Acl

open Acl

/-! ## Grants by the name of the project -/

/-- The bindings of the members whose grants go by the name of the project: consumers, producers,
and stream applications without an id of their own. -/
def Project.ownBindings (p : Project) : List Binding :=
  (p.consumers.getD []).flatMap (·.bindings p.qualifiedName) ++
    (p.producers.getD []).flatMap (·.bindings p.qualifiedName) ++
    ((p.streams.getD []).filter (·.applicationId.isNone)).flatMap (·.bindings p.qualifiedName)

/-- A grant on the topics whose names begin with a text. -/
def Acl.Binding.IsOnTopicsFrom (b : Binding) (start : String) : Prop :=
  b.resource = .topic → b.pattern = .prefixed → b.name = start

theorem Consumer.isOnTopicsFrom (q : String) (m : Consumer) :
    ∀ b ∈ m.bindings q, b.IsOnTopicsFrom q := by
  simp [bindings, Binding.IsOnTopicsFrom, Binding.startingWith, Binding.literal]

theorem Producer.isOnTopicsFrom (q : String) (m : Producer) :
    ∀ b ∈ m.bindings q, b.IsOnTopicsFrom q := by
  rw [bindings]
  cases m.transactionId <;> cases m.idempotence.getD false <;>
    simp [Binding.IsOnTopicsFrom, Binding.startingWith, Binding.literal]

theorem StreamApp.isOnTopicsFrom (q : String) (m : StreamApp) (h : m.applicationId = none) :
    ∀ b ∈ m.bindings q, b.IsOnTopicsFrom q := by
  simp [bindings, TopicAccess.bindings, h, or_imp, forall_and, Binding.IsOnTopicsFrom,
    Binding.startingWith, Binding.literal]

theorem Project.isOnTopicsFrom (p : Project) :
    ∀ b ∈ p.ownBindings, b.IsOnTopicsFrom p.qualifiedName := by
  intro b hb
  simp only [ownBindings, List.mem_append, List.mem_flatMap, List.mem_filter] at hb
  rcases hb with (⟨m, -, hb⟩ | ⟨m, -, hb⟩) | ⟨m, ⟨-, hm⟩, hb⟩
  · exact m.isOnTopicsFrom _ b hb
  · exact m.isOnTopicsFrom _ b hb
  · exact m.isOnTopicsFrom _ (Option.isNone_iff_eq_none.1 hm) b hb

/-! ## Names -/

/-- Of two beginnings of one list, one that does not hold the separator ends before the separator
of the other does. -/
theorem prefix_append_separator_iff {α : Type} {name other separator rest : List α}
    (h : ¬separator <:+: name) :
    name <+: other ++ separator ++ rest ↔ name <+: other ++ separator := by
  refine ⟨fun hname => ?_, fun hname => hname.trans (List.prefix_append _ _)⟩
  have hother : other ++ separator <+: other ++ separator ++ rest := List.prefix_append _ _
  rcases Nat.le_total name.length (other ++ separator).length with hle | hle
  · exact List.prefix_of_prefix_length_le hname hother hle
  · have hprefix := List.prefix_of_prefix_length_le hother hname hle
    exact absurd ((List.suffix_append _ _).isInfix.trans hprefix.isInfix) h

namespace Topology

/-- What stands between the qualified name of a project and the end of a topic's full name. -/
theorem renderName_eq (separator qualifiedName name : String) (dataType : Option String) :
    ∃ rest, renderName separator qualifiedName name dataType =
      qualifiedName ++ separator ++ rest := by
  cases dataType with
  | none => exact ⟨name, rfl⟩
  | some dataType =>
    exact ⟨name ++ separator ++ dataType, by simp [renderName, joinName, String.append_assoc]⟩

variable {naming : Naming} {d : Document} {t : Topology}

theorem qualifiedName_eq (h : ofDocument naming d = .ok t) {p : Project} (hp : p ∈ t.projects) :
    p.qualifiedName = t.fullContext ++ naming.separator ++ p.name := by
  obtain ⟨root, -, -, -, -, -, -, hprojects, -⟩ := ofDocument_eq_ok_iff.1 h
  obtain ⟨items, -, hitems⟩ := readProjects_eq_ok_iff.1 hprojects
  obtain ⟨item, -, hitem⟩ := Except.exists_of_mem_mapM hitems hp
  obtain ⟨entries, -, -, hname, -⟩ := readProject_eq_ok_iff.1 hitem
  exact hname

theorem fullName_eq (h : ofDocument naming d = .ok t) {p : Project} (hp : p ∈ t.projects)
    {topic : Topic} (htopic : topic ∈ p.topics) :
    topic.fullName = renderName naming.separator p.qualifiedName topic.name topic.dataType := by
  obtain ⟨root, -, -, -, -, -, -, hprojects, -⟩ := ofDocument_eq_ok_iff.1 h
  obtain ⟨items, -, hitems⟩ := readProjects_eq_ok_iff.1 hprojects
  obtain ⟨item, -, hitem⟩ := Except.exists_of_mem_mapM hitems hp
  obtain ⟨entries, -, -, -, -, -, -, -, -, -, -, htopics⟩ := readProject_eq_ok_iff.1 hitem
  obtain ⟨_, -, written, -, hwritten⟩ := readTopics_eq_ok_iff.1 htopics
  obtain ⟨w, -, hw⟩ := Except.exists_of_mem_mapM hwritten htopic
  exact (checkTopic_eq_ok_iff.1 hw).2.2.2

/-- A project's own grants reach the topics of another one exactly if its name begins the name of
the other followed by a separator. -/
theorem covers_iff_of_mem_ownBindings (h : ofDocument naming d = .ok t) {p other : Project}
    (hp : p ∈ t.projects) (hother : other ∈ t.projects)
    (hname : ¬naming.separator.toList <:+: p.name.toList) {b : Binding} (hb : b ∈ p.ownBindings)
    (hresource : b.resource = .topic) (hpattern : b.pattern = .prefixed) {topic : Topic}
    (htopic : topic ∈ other.topics) :
    b.Covers topic.fullName ↔
      p.name.toList <+: other.name.toList ++ naming.separator.toList := by
  obtain ⟨rest, hrest⟩ :=
    renderName_eq naming.separator other.qualifiedName topic.name topic.dataType
  have hfull : topic.fullName.toList = (t.fullContext ++ naming.separator).toList ++
      (other.name.toList ++ naming.separator.toList ++ rest.toList) := by
    rw [fullName_eq h hother htopic, hrest, qualifiedName_eq h hother]
    simp only [String.toList_append, List.append_assoc]
  have hstart : b.name.toList =
      (t.fullContext ++ naming.separator).toList ++ p.name.toList := by
    rw [p.isOnTopicsFrom b hb hresource hpattern, qualifiedName_eq h hp, String.toList_append]
  rw [Binding.Covers, hpattern]
  simp only
  rw [hstart, hfull, List.prefix_append_right_inj, prefix_append_separator_iff hname]

end Topology

/-! ## Neighbours -/

namespace Neighbours

/-- What the projects are read against. -/
def naming : Naming := ⟨∅, "."⟩

/-- A project with one consumer and one topic, as it is written. -/
def projectDocument (name principal topic : String) : Document :=
  .mapping [
    ("name", .text name),
    ("consumers", .list [.mapping [("principal", .text principal)]]),
    ("topics", .list [.mapping [("name", .text topic)]])]

/-- Two projects of which the name of one begins the name of the other. -/
def document : Document :=
  .mapping [
    ("context", .text "prod"),
    ("projects", .list [
      projectDocument "pay" "User:pay" "wages", projectDocument "payments" "User:pays" "invoices"])]

/-- What is read of such a project. -/
def project (name principal topic : String) : Project :=
  { (default : Project) with
    name := name
    qualifiedName := "prod." ++ name
    order := ["context"]
    consumers := some [⟨principal, none⟩]
    rbac := ∅
    topics := [⟨topic, none, ∅, "prod." ++ name ++ "." ++ topic⟩] }

def pay : Project := project "pay" "User:pay" "wages"

def payments : Project := project "payments" "User:pays" "invoices"

/-- What is read of the document. -/
def topology : Topology := ⟨"prod", [], ".", .empty, [pay, payments]⟩

/-- The consumer of a project may read the topics whose names begin with the project's. -/
def reads (p : Project) (principal : String) : Binding :=
  .startingWith .topic p.qualifiedName principal .read

/-- The consumer of one project may read the topic of the other. -/
theorem pay_covers_payments :
    Topology.ofDocument naming document = .ok topology ∧
      pay ∈ topology.projects ∧ payments ∈ topology.projects ∧ pay.name ≠ payments.name ∧
      ¬naming.separator.toList <:+: pay.name.toList ∧
      ¬naming.separator.toList <:+: payments.name.toList ∧
      ∃ b ∈ pay.ownBindings, b.resource = .topic ∧ b.pattern = .prefixed ∧
        ∃ topic ∈ payments.topics, b.Covers topic.fullName := by
  refine ⟨rfl, List.mem_cons_self, List.mem_cons_of_mem _ List.mem_cons_self, by decide,
    by decide +kernel, by decide +kernel, reads pay "User:pay", List.mem_cons_self, rfl, rfl, _,
    List.mem_cons_self, by decide +kernel⟩

end Neighbours

/-- One of two projects reaches into the other, and not the other way. -/
theorem Topology.covers_iff_neighbours :
    let grant := Neighbours.reads
    ofDocument Neighbours.naming Neighbours.document = .ok Neighbours.topology ∧
      (grant Neighbours.pay "User:pay").Covers "prod.payments.invoices" ∧
      ¬(grant Neighbours.payments "User:pays").Covers "prod.pay.wages" := by
  intro grant
  have hread : ofDocument Neighbours.naming Neighbours.document = .ok Neighbours.topology := rfl
  have hpay : Neighbours.pay ∈ Neighbours.topology.projects := List.mem_cons_self
  have hpayments : Neighbours.payments ∈ Neighbours.topology.projects :=
    List.mem_cons_of_mem _ List.mem_cons_self
  have hreaches := covers_iff_of_mem_ownBindings hread hpay hpayments (by decide +kernel)
    (b := grant Neighbours.pay "User:pay") List.mem_cons_self rfl rfl List.mem_cons_self
  have hstays := covers_iff_of_mem_ownBindings hread hpayments hpay (by decide +kernel)
    (b := grant Neighbours.payments "User:pays") List.mem_cons_self rfl rfl List.mem_cons_self
  exact ⟨hread, hreaches.2 (by decide +kernel), fun h => absurd (hstays.1 h) (by decide +kernel)⟩

end KafkaTopology
