import KafkaTopology.Proofs.Planner.Principals
import KafkaTopology.Proofs.Topology.Union
/-!
# Who is granted something

Bindings and accounts are read off a topology by two walks over the same members and instances. The
walk for accounts takes every principal; the one for bindings passes over members for schemas and
gives everyone else at least one binding, so the two agree on everyone but those who are named for
schemas only (`Topology.grantees`).
-/
namespace KafkaTopology

/-- A list of members of one kind has bindings for the principals that its members act for, if a
member has bindings for its own principal alone and has some. -/
theorem exists_mem_flatMap_bindings {α : Type} (members : List α) {bindings : α → List Acl.Binding}
    {principal : α → String} (hprincipal : ∀ m, ∀ b ∈ bindings m, b.principal = principal m)
    (hsome : ∀ m, bindings m ≠ []) (name : String) :
    (∃ b ∈ members.flatMap bindings, b.principal = name) ↔
      ∃ m ∈ members, principal m = name := by
  constructor
  · rintro ⟨b, hb, rfl⟩
    obtain ⟨m, hm, hb⟩ := List.mem_flatMap.1 hb
    exact ⟨m, hm, (hprincipal m b hb).symm⟩
  · rintro ⟨m, hm, rfl⟩
    obtain ⟨b, hb⟩ := List.exists_mem_of_ne_nil _ (hsome m)
    exact ⟨b, List.mem_flatMap.2 ⟨m, hm, hb⟩, hprincipal m b hb⟩

/-- What is found in either of two lists. -/
theorem exists_mem_append {α : Type} {xs ys : List α} {P : α → Prop} :
    (∃ x ∈ xs ++ ys, P x) ↔ (∃ x ∈ xs, P x) ∨ ∃ x ∈ ys, P x := by
  simp only [List.mem_append, or_and_right, exists_or]

/-! ## Bindings of a member -/

theorem Consumer.bindings_ne_nil (q : String) (m : Consumer) : m.bindings q ≠ [] :=
  List.cons_ne_nil _ _

theorem Producer.bindings_ne_nil (q : String) (m : Producer) : m.bindings q ≠ [] := by
  simp [bindings]

theorem StreamApp.bindings_ne_nil (q : String) (m : StreamApp) : m.bindings q ≠ [] := by
  simp [bindings]

theorem ConnectorMember.bindings_ne_nil (m : ConnectorMember) : m.bindings ≠ [] := by
  simp [bindings]

theorem ConnectInstance.bindings_ne_nil (i : ConnectInstance) : i.bindings ≠ [] := by
  simp [bindings]

theorem RegistryInstance.bindings_ne_nil (i : RegistryInstance) : i.bindings ≠ [] :=
  List.cons_ne_nil _ _

theorem ControlCenterInstance.bindings_ne_nil (i : ControlCenterInstance) : i.bindings ≠ [] :=
  List.cons_ne_nil _ _

/-! ## Principals by role -/

/-- Whether a principal consumes, produces, streams or runs connectors in a project. -/
def Project.Employs (p : Project) (name : String) : Prop :=
  (((∃ m ∈ p.consumers.getD [], m.principal = name) ∨
    ∃ m ∈ p.producers.getD [], m.principal = name) ∨
    ∃ m ∈ p.streams.getD [], m.principal = name) ∨
    ∃ m ∈ p.connectorMembers, m.principal = name

/-- Whether a principal is the one of a member for schemas. -/
def Project.KeepsSchemas (p : Project) (name : String) : Prop :=
  ∃ m ∈ p.schemas.getD [], m.principal = name

/-- Whether a principal is the one of an instance. -/
def Platform.Employs (p : Platform) (name : String) : Prop :=
  ((∃ i ∈ p.kafkaConnect.getD [], i.principal = name) ∨
    ∃ i ∈ p.schemaRegistry.getD [], i.principal = name) ∨
    ∃ i ∈ p.controlCenter.getD [], i.principal = name

namespace Topology

/-- Whether a principal is that of an instance, or of a member in any role other than schemas. -/
def Employs (t : Topology) (name : String) : Prop :=
  (∃ p ∈ t.projects, p.Employs name) ∨ t.platform.Employs name

/-- Whether a principal is named for schemas and in no other place. -/
def OnlySchemas (t : Topology) (name : String) : Prop :=
  (∃ p ∈ t.projects, p.KeepsSchemas name) ∧ ¬t.Employs name

end Topology

theorem Project.exists_binding_iff (p : Project) (name : String) :
    (∃ b ∈ p.bindings, b.principal = name) ↔ p.Employs name := by
  rw [bindings, exists_mem_append, exists_mem_append, exists_mem_append,
    exists_mem_flatMap_bindings _ (Consumer.principal_bindings _) (Consumer.bindings_ne_nil _),
    exists_mem_flatMap_bindings _ (Producer.principal_bindings _) (Producer.bindings_ne_nil _),
    exists_mem_flatMap_bindings _ (StreamApp.principal_bindings _) (StreamApp.bindings_ne_nil _),
    exists_mem_flatMap_bindings _ ConnectorMember.principal_bindings
      ConnectorMember.bindings_ne_nil, Employs]

theorem Platform.exists_binding_iff (p : Platform) (name : String) :
    (∃ b ∈ p.bindings, b.principal = name) ↔ p.Employs name := by
  rw [bindings, exists_mem_append, exists_mem_append,
    exists_mem_flatMap_bindings _ ConnectInstance.principal_bindings
      ConnectInstance.bindings_ne_nil,
    exists_mem_flatMap_bindings _ RegistryInstance.principal_bindings
      RegistryInstance.bindings_ne_nil,
    exists_mem_flatMap_bindings _ ControlCenterInstance.principal_bindings
      ControlCenterInstance.bindings_ne_nil, Employs]

/-- The principals of a project are those of its roles, schemas included. -/
theorem Project.mem_principals_iff (p : Project) (name : String) :
    name ∈ p.principals ↔ p.Employs name ∨ p.KeepsSchemas name := by
  simp only [principals, List.mem_append, List.mem_map, Employs, KeepsSchemas]

theorem Platform.mem_principals_iff (p : Platform) (name : String) :
    name ∈ p.principals ↔ p.Employs name := by
  simp only [principals, List.mem_append, List.mem_map, Employs]

namespace Topology

/-- A topology has bindings for those that it employs. -/
theorem exists_binding_iff (t : Topology) (name : String) :
    (∃ b ∈ t.bindings, b.principal = name) ↔ t.Employs name := by
  simp only [Employs, ← t.platform.exists_binding_iff, ← Project.exists_binding_iff, mem_bindings,
    or_and_right, exists_or]
  refine or_congr_left ⟨?_, ?_⟩
  · rintro ⟨b, ⟨p, hp, hb⟩, hname⟩
    exact ⟨p, hp, b, hb, hname⟩
  · rintro ⟨p, hp, b, hb, hname⟩
    exact ⟨b, ⟨p, hp, hb⟩, hname⟩

/-- A topology has accounts for those that it employs and for those that it names for schemas. -/
theorem exists_account_iff (t : Topology) (name : String) :
    (∃ a ∈ t.accounts, a.principal = name) ↔
      t.Employs name ∨ ∃ p ∈ t.projects, p.KeepsSchemas name := by
  have hlisted : (∃ a ∈ t.accounts, a.principal = name) ↔
      (∃ p ∈ t.projects, name ∈ p.principals) ∨ name ∈ t.platform.principals := by
    simp only [mem_accounts]
    constructor
    · rintro ⟨a, ⟨principal, rfl, h⟩, rfl⟩
      exact h
    · exact fun h => ⟨.ofPrincipal name, ⟨name, rfl, h⟩, rfl⟩
  rw [hlisted]
  simp only [Project.mem_principals_iff, t.platform.mem_principals_iff, and_or_left, exists_or,
    Employs]
  exact or_right_comm

/-- **Bindings and accounts agree on principals.** A principal has a binding exactly if it has an
account and is named for more than schemas. So each binding is for the principal of an account, and
each principal of an instance or of a member other than one for schemas has a binding. -/
theorem grantees (t : Topology) :
    (∀ name, (∃ b ∈ t.bindings, b.principal = name) ↔
      (∃ a ∈ t.accounts, a.principal = name) ∧ ¬t.OnlySchemas name) ∧
    (∀ b ∈ t.bindings, ∃ a ∈ t.accounts, a.principal = b.principal) ∧
    ∀ name, t.Employs name → ∃ b ∈ t.bindings, b.principal = name := by
  refine ⟨fun name => ?_, t.exists_account, fun name => (t.exists_binding_iff name).2⟩
  rw [t.exists_binding_iff, t.exists_account_iff, OnlySchemas]
  constructor
  · exact fun h => ⟨.inl h, fun hschemas => hschemas.2 h⟩
  · rintro ⟨h | h, hother⟩
    · exact h
    · exact Classical.not_not.1 fun hnot => hother ⟨h, hnot⟩

end Topology
end KafkaTopology
