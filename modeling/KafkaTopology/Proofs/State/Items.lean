import KafkaTopology.Proofs.Fold
import KafkaTopology.Proofs.Orders
import Mathlib.Data.List.Induction
/-!
# Entries of a state

Entries of all four kinds are `Item`s: an effect creates some and deletes others, and
`State.holds_apply_iff` says what it does to the record of one entry. So of the effects that are
folded over a state only the last one that names an entry matters to it
(`State.holds_applyAll_iff`).
-/
namespace KafkaTopology

/-- An entry of a state. An account is known by its principal. -/
inductive Item where
  | topic (name : String)
  | binding (b : Acl.Binding)
  | account (principal : String)
  | artefact (a : Artefact)
deriving DecidableEq, Repr

namespace Effect

/-- The entries that an effect names as created. -/
def created : Effect → List Item
  | .createTopic name => [.topic name]
  | .createBindings bs => bs.map .binding
  | .createAccounts accounts => accounts.map fun a => .account a.principal
  | .createArtefact a => [.artefact a]
  | .deleteTopics _ | .clearBindings _ | .clearAccounts _ | .deleteArtefact _ => []

/-- The entries that an effect names as deleted. -/
def deleted : Effect → List Item
  | .deleteTopics names => names.map .topic
  | .clearBindings bs => bs.map .binding
  | .clearAccounts accounts => accounts.map fun a => .account a.principal
  | .deleteArtefact a => [.artefact a]
  | .createTopic _ | .createBindings _ | .createAccounts _ | .createArtefact _ => []

/-- Whether an effect names an entry. -/
def names (e : Effect) (i : Item) : Bool := (e.created ++ e.deleted).contains i

/-- The last effect that names an entry. -/
def lastNaming? (i : Item) (es : List Effect) : Option Effect := es.reverse.find? (·.names i)

theorem names_iff {e : Effect} {i : Item} : e.names i = true ↔ i ∈ e.created ∨ i ∈ e.deleted := by
  rw [names, List.contains_iff_mem, List.mem_append]

/-- An effect goes one way for all entries that it names. -/
theorem mem_created_iff {e : Effect} {i : Item} :
    i ∈ e.created ↔ e.names i = true ∧ e.direction = .create := by
  cases e <;> simp [names_iff, created, deleted, direction]

theorem mem_deleted_iff {e : Effect} {i : Item} :
    i ∈ e.deleted ↔ e.names i = true ∧ e.direction = .delete := by
  cases e <;> simp [names_iff, created, deleted, direction]

@[simp]
theorem lastNaming?_nil (i : Item) : lastNaming? i [] = none := rfl

theorem lastNaming?_concat (i : Item) (es : List Effect) (e : Effect) :
    lastNaming? i (es ++ [e]) = if e.names i then some e else lastNaming? i es := by
  rw [lastNaming?, List.reverse_concat, List.find?_cons]
  cases e.names i <;> rfl

theorem lastNaming?_eq_none_iff {i : Item} {es : List Effect} :
    lastNaming? i es = none ↔ ∀ e ∈ es, ¬e.names i = true := by
  simp only [lastNaming?, List.find?_eq_none, List.mem_reverse]

theorem of_lastNaming? {i : Item} {es : List Effect} {e : Effect} (h : lastNaming? i es = some e) :
    e ∈ es ∧ e.names i = true := by
  have hfind : es.reverse.find? (·.names i) = some e := h
  have hnames := List.find?_some hfind
  exact ⟨List.mem_reverse.1 (List.mem_of_find?_eq_some hfind), hnames⟩

end Effect

/-- Whether an entry is on record. -/
def State.Holds (s : State) : Item → Prop
  | .topic name => name ∈ s.topics
  | .binding b => b ∈ s.bindings
  | .account p => ∃ a ∈ s.accounts, a.principal = p
  | .artefact a => a ∈ s.artefacts

/-! ## Accounts by their principals -/

/-- Accounts are told apart by their principals alone. -/
theorem Account.isSome_find?_iff {s : OrderedSet Account} {p : String} :
    (s.find? (ofPrincipal p)).isSome = true ↔ ∃ a ∈ s, a.principal = p := by
  simp only [Option.isSome_iff_exists, OrderedSet.find?_eq_some_iff, Account.compare_eq_iff]
  exact exists_congr fun a => and_congr_right fun _ => eq_comm

theorem Account.mem_iff_find? {s : OrderedSet Account} {a : Account} :
    a ∈ s ↔ s.find? (ofPrincipal a.principal) = some a := by
  rw [OrderedSet.find?_eq_some_iff, Account.compare_eq_iff]
  exact (and_iff_left rfl).symm

/-- Whether some listed account has a principal. -/
theorem Account.any_ofPrincipal_iff {xs : List Account} {p : String} :
    (xs.any fun a => compare (ofPrincipal p) a == .eq) = true ↔ ∃ a ∈ xs, a.principal = p := by
  simp only [List.any_eq_true, beq_iff_eq, Account.compare_eq_iff]
  exact exists_congr fun a => and_congr_right fun _ => eq_comm

theorem Account.exists_insertAll_iff {s : OrderedSet Account} {xs : List Account} {p : String} :
    (∃ a ∈ s.insertAll xs, a.principal = p) ↔
      (∃ a ∈ s, a.principal = p) ∨ ∃ a ∈ xs, a.principal = p := by
  rw [← isSome_find?_iff, ← isSome_find?_iff, OrderedSet.find?_insertAll, Option.isSome_or,
    Bool.or_eq_true, ← any_ofPrincipal_iff, List.find?_isSome, List.any_eq_true]

theorem Account.exists_eraseAll_iff {s : OrderedSet Account} {xs : List Account} {p : String} :
    (∃ a ∈ s.eraseAll xs, a.principal = p) ↔
      (∃ a ∈ s, a.principal = p) ∧ ¬∃ a ∈ xs, a.principal = p := by
  rw [← isSome_find?_iff, ← isSome_find?_iff, OrderedSet.find?_eraseAll, ← any_ofPrincipal_iff]
  cases xs.any fun a => compare (ofPrincipal p) a == .eq <;> simp

theorem Account.exists_ofList_iff {xs : List Account} {p : String} :
    (∃ a ∈ OrderedSet.ofList xs, a.principal = p) ↔ ∃ a ∈ xs, a.principal = p := by
  rw [← isSome_find?_iff, OrderedSet.find?_ofList, List.find?_isSome, ← any_ofPrincipal_iff,
    List.any_eq_true]
  simp only [List.mem_reverse]

/-! ## Folding -/

namespace State

theorem not_holds_empty (i : Item) : ¬empty.Holds i := by
  cases i with
  | account p => exact fun ⟨_, ha, _⟩ => List.not_mem_nil ha
  | _ => exact List.not_mem_nil

/-- What an effect does to the record of one entry. -/
theorem holds_apply_iff (s : State) (e : Effect) (i : Item) :
    (s.apply e).Holds i ↔ (s.Holds i ∨ i ∈ e.created) ∧ i ∉ e.deleted := by
  cases e <;> cases i <;>
    simp [apply, Holds, Effect.created, Effect.deleted, addTopic, removeTopics, addBindings,
      removeBindings, addAccounts, removeAccounts, addArtefact, removeArtefact, OrderedSet.mem_insert,
      OrderedSet.mem_insertAll, OrderedSet.mem_eraseAll, Account.exists_insertAll_iff,
      Account.exists_eraseAll_iff]

/-- An effect decides about the entries that it names. -/
theorem holds_apply_of_names (s : State) {e : Effect} {i : Item} (h : e.names i = true) :
    (s.apply e).Holds i ↔ e.direction = .create := by
  rw [holds_apply_iff, Effect.mem_created_iff, Effect.mem_deleted_iff]
  cases e.direction <;> simp [h]

/-- An effect leaves the entries that it does not name. -/
theorem holds_apply_of_not_names (s : State) {e : Effect} {i : Item} (h : ¬e.names i = true) :
    (s.apply e).Holds i ↔ s.Holds i := by
  rw [holds_apply_iff, Effect.mem_created_iff, Effect.mem_deleted_iff]
  simp [h]

/-- Of the folded effects the last one that names an entry decides about it. -/
theorem holds_applyAll_iff (s : State) (es : List Effect) (i : Item) :
    (s.applyAll es).Holds i ↔
      (∃ e, Effect.lastNaming? i es = some e ∧ e.direction = .create) ∨
        Effect.lastNaming? i es = none ∧ s.Holds i := by
  induction es using List.reverseRecOn with
  | nil => simp [applyAll]
  | append_singleton es e ih =>
    rw [applyAll_append, Effect.lastNaming?_concat]
    show ((s.applyAll es).apply e).Holds i ↔ _
    by_cases hnames : e.names i = true
    · rw [if_pos hnames, holds_apply_of_names _ hnames]
      simp
    · rw [if_neg hnames, holds_apply_of_not_names _ hnames, ih]

/-- What is on record in the end was there before or was created on the way. -/
theorem holds_or_created_of_applyAll {s : State} {es : List Effect} {i : Item}
    (h : (s.applyAll es).Holds i) : s.Holds i ∨ ∃ e ∈ es, i ∈ e.created := by
  rcases (holds_applyAll_iff s es i).1 h with ⟨e, hlast, hcreate⟩ | ⟨-, hholds⟩
  · obtain ⟨he, hnames⟩ := Effect.of_lastNaming? hlast
    exact .inr ⟨e, he, Effect.mem_created_iff.2 ⟨hnames, hcreate⟩⟩
  · exact .inl hholds

/-- What is on record in the end was not deleted on the way, unless it was created too. -/
theorem not_deleted_of_applyAll {s : State} {es : List Effect} {i : Item}
    (h : (s.applyAll es).Holds i) (hcreated : ∀ e ∈ es, i ∉ e.created) :
    ∀ e ∈ es, i ∉ e.deleted := by
  rcases (holds_applyAll_iff s es i).1 h with ⟨e, hlast, hcreate⟩ | ⟨hnone, -⟩
  · obtain ⟨he, hnames⟩ := Effect.of_lastNaming? hlast
    exact absurd (Effect.mem_created_iff.2 ⟨hnames, hcreate⟩) (hcreated e he)
  · exact fun e he hdeleted =>
      Effect.lastNaming?_eq_none_iff.1 hnone e he (Effect.mem_deleted_iff.1 hdeleted).1

/-- What is on record or created, and not deleted, is on record in the end. -/
theorem holds_applyAll {s : State} {es : List Effect} {i : Item}
    (h : s.Holds i ∨ ∃ e ∈ es, i ∈ e.created) (hkept : ∀ e ∈ es, i ∉ e.deleted) :
    (s.applyAll es).Holds i := by
  rw [holds_applyAll_iff]
  cases hlast : Effect.lastNaming? i es with
  | none =>
    refine .inr ⟨rfl, h.resolve_right fun ⟨e, he, hcreated⟩ => ?_⟩
    exact Effect.lastNaming?_eq_none_iff.1 hlast e he (Effect.mem_created_iff.1 hcreated).1
  | some e =>
    obtain ⟨he, hnames⟩ := Effect.of_lastNaming? hlast
    refine .inl ⟨e, rfl, ?_⟩
    cases hdirection : e.direction with
    | create => rfl
    | delete => exact absurd (Effect.mem_deleted_iff.2 ⟨hnames, hdirection⟩) (hkept e he)

end State

end KafkaTopology
