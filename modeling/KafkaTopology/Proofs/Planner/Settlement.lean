import KafkaTopology.Planner
import KafkaTopology.Proofs.Fold
import KafkaTopology.Proofs.Orders
/-!
# The state that a plan leads to

The actions of a topology come from four differences between what is desired and what is recorded.
Folding their effects over the recorded state gives `Topology.settled`, in which nothing is left to
do but to bring every topic in line again.

* `OrderedSet.eraseAll_insertAll_difference`, `OrderedSet.insertAll_eraseAll_difference` — both
  orders of carrying a difference out lead to the desired set, with recorded elements kept as they
  were recorded.
* `Topology.applyAll_actions` — the fold.
* `Topology.actions_settled` — the next plan.
-/
namespace KafkaTopology

open Std

/-! ## Differences -/

namespace OrderedSet

variable {α : Type} [Ord α] [TransOrd α] (desired recorded : OrderedSet α)

theorem find?_create (z : α) :
    ((desired.difference recorded).create.find? fun x => compare z x == .eq) =
      if (recorded.find? z).isSome then none else desired.find? z :=
  desired.find?_diff recorded z

theorem any_delete (z : α) :
    ((desired.difference recorded).delete.any fun x => compare z x == .eq) =
      ((recorded.find? z).isSome && (desired.find? z).isNone) := by
  show (recorded.diff desired).contains z = _
  rw [contains_eq_isSome, find?_diff]
  cases desired.find? z <;> cases recorded.find? z <;> rfl

theorem mem_create [LawfulEqOrd α] {desired recorded : OrderedSet α} {x : α} :
    x ∈ (desired.difference recorded).create ↔ x ∈ desired ∧ x ∉ recorded := mem_diff

theorem mem_delete [LawfulEqOrd α] {desired recorded : OrderedSet α} {x : α} :
    x ∈ (desired.difference recorded).delete ↔ x ∈ recorded ∧ x ∉ desired := mem_diff

/-- Adding what is missing and then removing what is not desired. -/
theorem eraseAll_insertAll_difference :
    (recorded.insertAll (desired.difference recorded).create).eraseAll
      (desired.difference recorded).delete = desired.preferring recorded := by
  refine ext_find? fun z => ?_
  rw [find?_eraseAll, find?_insertAll, any_delete, find?_create, find?_preferring]
  cases desired.find? z <;> cases recorded.find? z <;> rfl

/-- Removing what is not desired and then adding what is missing. -/
theorem insertAll_eraseAll_difference :
    (recorded.eraseAll (desired.difference recorded).delete).insertAll
      (desired.difference recorded).create = desired.preferring recorded := by
  refine ext_find? fun z => ?_
  rw [find?_insertAll, find?_eraseAll, any_delete, find?_create, find?_preferring]
  cases desired.find? z <;> cases recorded.find? z <;> rfl

theorem diff_eq_empty {s t : OrderedSet α} (h : ∀ z, (s.find? z).isSome → (t.find? z).isSome) :
    s.diff t = ∅ := by
  refine ext_find? fun z => ?_
  rw [find?_diff, find?_empty]
  cases hs : s.find? z with
  | none => simp
  | some x => simp [h z (by simp [hs])]

theorem difference_preferring :
    desired.difference (desired.preferring recorded) = ⟨[], []⟩ := by
  have hcreate : desired.diff (desired.preferring recorded) = ∅ :=
    diff_eq_empty fun z h => by rw [find?_preferring, Option.isSome_map, h]
  have hdelete : (desired.preferring recorded).diff desired = ∅ :=
    diff_eq_empty fun z h => by rwa [find?_preferring, Option.isSome_map] at h
  rw [difference, hcreate, hdelete]
  rfl

theorem difference_self : desired.difference desired = ⟨[], []⟩ := by
  have h : desired.diff desired = ∅ := diff_eq_empty fun _ h => h
  rw [difference, h]
  rfl

end OrderedSet

/-! ## Changes from lists -/

namespace OrderedSet

variable {α : Type} [Ord α] [TransOrd α] (s : OrderedSet α)

theorem changeAll_add_if (allowed : Bool) (xs : List α) :
    s.changeAll (if allowed && !xs.isEmpty then [.add xs] else []) =
      if allowed then s.insertAll xs else s := by
  cases allowed <;> cases xs <;> rfl

theorem changeAll_remove_if (allowed : Bool) (xs : List α) :
    s.changeAll (if allowed && !xs.isEmpty then [.remove xs] else []) =
      if allowed then s.eraseAll xs else s := by
  cases allowed
  · rfl
  · cases xs with
    | nil => exact ext_find? fun z => by rw [if_pos rfl, find?_eraseAll]; rfl
    | cons x xs => rfl

/-- Adding elements one at a time. -/
theorem changeAll_add_each (xs : List α) :
    s.changeAll (xs.map fun x => .add [x]) = s.insertAll xs := by
  induction xs generalizing s with
  | nil => rfl
  | cons x xs ih => exact ih (s.insert x)

/-- Removing elements one at a time. -/
theorem changeAll_remove_each (xs : List α) :
    s.changeAll (xs.map fun x => .remove [x]) = s.eraseAll xs := by
  induction xs generalizing s with
  | nil => exact ext_find? fun z => by rw [find?_eraseAll]; rfl
  | cons x xs ih =>
    refine ext_find? fun z => ?_
    rw [List.map_cons, changeAll_cons, ih, Change.on, find?_eraseAll, find?_eraseAll,
      find?_eraseAll]
    cases hx : compare z x == .eq <;> simp [hx]

end OrderedSet

/-! ## The settled state -/

namespace Topology

/-- The state after a plan for `t` has been carried out over a recorded state. -/
def settled (t : Topology) (options : PlanOptions) (recorded : State) : State where
  bindings := t.bindings
  accounts :=
    if options.managesAccounts then t.accounts.preferring recorded.accounts else recorded.accounts
  topics := if options.deletesTopics then t.topicSet else recorded.topics.union t.topicSet
  artefacts := t.artefacts

variable (t : Topology) (options : PlanOptions) (recorded : State)

/-- The changes that an action on a list makes. -/
theorem filterMap_actionOn {α β : Type} (f : Effect → Option β) (make : List α → Action)
    (allowed : Bool) (xs : List α) :
    ((actionOn make allowed xs).map (·.effect)).filterMap f =
      if allowed && !xs.isEmpty then (f (make xs).effect).toList else [] := by
  rw [actionOn]
  split
  · cases h : f (make xs).effect <;> simp [h]
  · rfl

theorem filterMap_map_effect {α β : Type} (f : Effect → Option β) (make : α → Action)
    (xs : List α) :
    ((xs.map make).map (·.effect)).filterMap f = xs.filterMap fun x => f (make x).effect := by
  rw [List.map_map, List.filterMap_map]
  rfl

/-- The changes that the actions of a topology make, difference by difference. -/
theorem filterMap_actions {β : Type} (f : Effect → Option β) :
    ((t.actions options recorded).map (·.effect)).filterMap f =
      let accounts := t.accounts.difference recorded.accounts
      let bindings := t.bindings.difference recorded.bindings
      let artefacts := t.artefacts.difference recorded.artefacts
      let topics := t.topicSet.difference recorded.topics
      let on := fun (allowed : Bool) (isEmpty : Bool) (e : Effect) =>
        if allowed && !isEmpty then (f e).toList else []
      t.topics.filterMap (fun topic => f (.createTopic topic.fullName)) ++
        on options.managesAccounts accounts.create.isEmpty (.createAccounts accounts.create) ++
        on true bindings.create.isEmpty (.createBindings bindings.create) ++
        on true bindings.delete.isEmpty (.clearBindings bindings.delete) ++
        artefacts.delete.filterMap (fun a => f (.deleteArtefact a)) ++
        artefacts.create.filterMap (fun a => f (.createArtefact a)) ++
        on options.managesAccounts accounts.delete.isEmpty (.clearAccounts accounts.delete) ++
        on options.deletesTopics topics.delete.isEmpty (.deleteTopics topics.delete) := by
  simp only [Topology.actions, List.map_append, List.filterMap_append, filterMap_actionOn,
    filterMap_map_effect]
  rfl

theorem flatMap_actionOn {α β : Type} {f : Action → List β} {make : List α → Action}
    (hmake : f (make []) = []) (allowed : Bool) (xs : List α) :
    (actionOn make allowed xs).flatMap f = if allowed then f (make xs) else [] := by
  rw [actionOn]
  cases allowed with
  | false => rfl
  | true => cases xs <;> simp [hmake]

/-- What the actions of a topology contribute, difference by difference. -/
theorem flatMap_actions {β : Type} {f : Action → List β}
    (hcreateAccounts : f (.createAccounts []) = []) (hcreateBindings : f (.createBindings []) = [])
    (hclearBindings : f (.clearBindings []) = []) (hclearAccounts : f (.clearAccounts []) = [])
    (hdeleteTopics : f (.deleteTopics []) = []) :
    (t.actions options recorded).flatMap f =
      let accounts := t.accounts.difference recorded.accounts
      let bindings := t.bindings.difference recorded.bindings
      let artefacts := t.artefacts.difference recorded.artefacts
      let topics := t.topicSet.difference recorded.topics
      t.topics.flatMap (fun topic => f (.syncTopic topic.fullName topic.config)) ++
        (if options.managesAccounts then f (.createAccounts accounts.create) else []) ++
        f (.createBindings bindings.create) ++
        f (.clearBindings bindings.delete) ++
        artefacts.delete.flatMap (fun a => f (.deleteArtefact a)) ++
        artefacts.create.flatMap (fun a => f (.createArtefact a)) ++
        (if options.managesAccounts then f (.clearAccounts accounts.delete) else []) ++
        (if options.deletesTopics then f (.deleteTopics topics.delete) else []) := by
  simp only [actions, List.flatMap_append, List.flatMap_map, flatMap_actionOn hcreateAccounts,
    flatMap_actionOn hcreateBindings, flatMap_actionOn hclearBindings,
    flatMap_actionOn hclearAccounts, flatMap_actionOn hdeleteTopics, if_true]

theorem flatMap_none {α β : Type} (xs : List α) : (xs.flatMap fun _ => ([] : List β)) = [] :=
  List.flatMap_eq_nil_iff.2 fun _ _ => rfl

/-- The bindings after all actions. -/
theorem changeAll_onBindings_actions :
    recorded.bindings.changeAll
      (((t.actions options recorded).map (·.effect)).filterMap Effect.onBindings) = t.bindings := by
  rw [filterMap_actions]
  simp only [Effect.onBindings, Option.toList_none, Option.toList_some, ite_self,
    List.filterMap_none, List.append_nil, List.nil_append]
  rw [OrderedSet.changeAll_append, OrderedSet.changeAll_add_if, OrderedSet.changeAll_remove_if,
    if_pos rfl, if_pos rfl, OrderedSet.eraseAll_insertAll_difference, OrderedSet.preferring_eq_self]

/-- The accounts after all actions. -/
theorem changeAll_onAccounts_actions :
    recorded.accounts.changeAll
      (((t.actions options recorded).map (·.effect)).filterMap Effect.onAccounts) =
      if options.managesAccounts then t.accounts.preferring recorded.accounts
      else recorded.accounts := by
  rw [filterMap_actions]
  simp only [Effect.onAccounts, Option.toList_none, Option.toList_some, ite_self,
    List.filterMap_none, List.append_nil, List.nil_append]
  rw [OrderedSet.changeAll_append, OrderedSet.changeAll_add_if, OrderedSet.changeAll_remove_if]
  cases options.managesAccounts with
  | false => rfl
  | true => exact t.accounts.eraseAll_insertAll_difference recorded.accounts

theorem insertAll_topicNames (s : OrderedSet String) :
    s.insertAll t.topicNames = s.union t.topicSet :=
  OrderedSet.ext_mem fun n => by
    rw [OrderedSet.mem_insertAll, OrderedSet.mem_union, topicSet, OrderedSet.mem_ofList]

/-- The topics after all actions. -/
theorem changeAll_onTopics_actions :
    recorded.topics.changeAll
      (((t.actions options recorded).map (·.effect)).filterMap Effect.onTopics) =
      if options.deletesTopics then t.topicSet else recorded.topics.union t.topicSet := by
  have hsync : (t.topics.map fun topic => Change.add [topic.fullName]) =
      t.topicNames.map fun n => Change.add [n] := by
    rw [topicNames, List.map_map]
    rfl
  rw [filterMap_actions]
  simp only [Effect.onTopics, Option.toList_none, Option.toList_some, ite_self,
    List.filterMap_none, List.append_nil, List.filterMap_eq_map']
  rw [OrderedSet.changeAll_append, hsync, OrderedSet.changeAll_add_each, insertAll_topicNames,
    OrderedSet.changeAll_remove_if]
  cases options.deletesTopics with
  | false => rfl
  | true =>
    refine OrderedSet.ext_mem fun n => ?_
    rw [if_pos rfl, if_pos rfl, OrderedSet.mem_eraseAll, OrderedSet.mem_union]
    show (n ∈ recorded.topics ∨ n ∈ t.topicSet) ∧ n ∉ recorded.topics.diff t.topicSet ↔ _
    rw [OrderedSet.mem_diff]
    tauto

/-- The artefacts after all actions. -/
theorem changeAll_onArtefacts_actions :
    recorded.artefacts.changeAll
      (((t.actions options recorded).map (·.effect)).filterMap Effect.onArtefacts) =
      t.artefacts := by
  rw [filterMap_actions]
  simp only [Effect.onArtefacts, Option.toList_none, ite_self, List.filterMap_none,
    List.append_nil, List.nil_append, List.filterMap_eq_map']
  rw [OrderedSet.changeAll_append, OrderedSet.changeAll_remove_each, OrderedSet.changeAll_add_each,
    OrderedSet.insertAll_eraseAll_difference, OrderedSet.preferring_eq_self]

/-- The effects of the actions fold to the settled state. -/
theorem applyAll_actions :
    recorded.applyAll ((t.actions options recorded).map (·.effect)) =
      t.settled options recorded := by
  rw [State.applyAll_eq, changeAll_onBindings_actions, changeAll_onAccounts_actions,
    changeAll_onTopics_actions, changeAll_onArtefacts_actions, settled]

/-- Over the settled state every topic is brought in line again, and nothing else is done. -/
theorem actions_settled :
    t.actions options (t.settled options recorded) =
      t.topics.map fun topic => .syncTopic topic.fullName topic.config := by
  have haccounts : ∀ make : List Account → Action,
      actionOn make options.managesAccounts
        (t.accounts.difference (t.settled options recorded).accounts).create = [] ∧
      actionOn make options.managesAccounts
        (t.accounts.difference (t.settled options recorded).accounts).delete = [] := by
    intro make
    rw [settled]
    cases options.managesAccounts with
    | false => exact ⟨rfl, rfl⟩
    | true =>
      simp only [↓reduceIte, OrderedSet.difference_preferring]
      exact ⟨rfl, rfl⟩
  have htopics : actionOn .deleteTopics options.deletesTopics
      (t.topicSet.difference (t.settled options recorded).topics).delete = [] := by
    rw [settled]
    cases options.deletesTopics with
    | false => rfl
    | true =>
      simp only [↓reduceIte, OrderedSet.difference_self]
      rfl
  have hbindings : t.bindings.difference (t.settled options recorded).bindings = ⟨[], []⟩ :=
    t.bindings.difference_self
  have hartefacts : t.artefacts.difference (t.settled options recorded).artefacts = ⟨[], []⟩ :=
    t.artefacts.difference_self
  rw [actions]
  simp only [(haccounts _).1, (haccounts _).2, htopics, hbindings, hartefacts]
  simp [actionOn]

end Topology
end KafkaTopology
