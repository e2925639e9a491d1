import KafkaTopology.Proofs.Planner.Ownership
/-!
# The shape of a plan

The actions of a plan come in eight groups, in one order, and each list that they carry has its
entries once and in increasing order. Nothing in them is idle: no entry is created and deleted, none
that is recorded and desired is touched but by bringing its topic in line, and a plan that lacks any
one entry leads to another state. The order of the actions is for the cluster's sake alone: the
recorded state ends up the same in every order (`Plan.populateCounting_minimal`).

Minimality rests on one fact, that a plan names an entry at most once (`Topology.nodup_named`). For
the order, every change of a plan is `Toward` the desired set, and any two such changes commute.
-/
namespace KafkaTopology

open Std

/-! ## Groups of actions -/

/-- At most one action, on a list that has its entries once and in increasing order. -/
inductive AtMostOne {α : Type} [Ord α] (make : List α → Action) : List Action → Prop where
  | none : AtMostOne make []
  | one (xs : List α) (nonempty : xs ≠ []) (increasing : Increasing xs) (nodup : xs.Nodup) :
    AtMostOne make [make xs]

theorem atMostOne_actionOn {α : Type} [Ord α] [TransOrd α] (make : List α → Action)
    (allowed : Bool) {xs : List α} (h : Increasing xs) :
    AtMostOne make (actionOn make allowed xs) := by
  rw [actionOn]
  split
  · next hif =>
    have hnonempty : xs ≠ [] := by
      rintro rfl
      exact Bool.false_ne_true (Bool.and_eq_true_iff.1 hif).2
    exact .one xs hnonempty h h.nodup
  · exact .none

namespace Topology

/-- The groups of a plan for a topology, in their order. -/
def Grouped (t : Topology) (actions : List Action) : Prop :=
  ∃ (newAccounts newBindings oldBindings oldAccounts oldTopics : List Action)
    (oldArtefacts newArtefacts : List Artefact),
    actions = t.topics.map (fun topic => .syncTopic topic.fullName topic.config) ++ newAccounts ++
      newBindings ++ oldBindings ++ oldArtefacts.map .deleteArtefact ++
      newArtefacts.map .createArtefact ++ oldAccounts ++ oldTopics ∧
    AtMostOne .createAccounts newAccounts ∧ AtMostOne .createBindings newBindings ∧
    AtMostOne .clearBindings oldBindings ∧ AtMostOne .clearAccounts oldAccounts ∧
    AtMostOne .deleteTopics oldTopics ∧
    Increasing oldArtefacts ∧ oldArtefacts.Nodup ∧ Increasing newArtefacts ∧ newArtefacts.Nodup

theorem grouped_actions (t : Topology) (options : PlanOptions) (recorded : State) :
    t.Grouped (t.actions options recorded) :=
  have hincreasing := fun {α : Type} [Ord α] (s u : OrderedSet α) => (s.diff u).increasing
  ⟨_, _, _, _, _, _, _, rfl, atMostOne_actionOn _ _ (hincreasing _ _),
    atMostOne_actionOn _ _ (hincreasing _ _), atMostOne_actionOn _ _ (hincreasing _ _),
    atMostOne_actionOn _ _ (hincreasing _ _), atMostOne_actionOn _ _ (hincreasing _ _),
    hincreasing _ _, (hincreasing _ _).nodup, hincreasing _ _, (hincreasing _ _).nodup⟩

end Topology

/-! ## Entries that a plan names -/

/-- The kind of state that an entry belongs to. -/
def Item.target : Item → Target
  | .topic _ => .topic
  | .binding _ => .bindings
  | .account _ => .accounts
  | .artefact _ => .artefact

namespace Action

/-- The entries that an action names. To bring a topic in line is not to name it. -/
def named : Action → List Item
  | .syncTopic _ _ => []
  | .deleteTopics names => names.map .topic
  | .createBindings bs | .clearBindings bs => bs.map .binding
  | .createAccounts accounts | .clearAccounts accounts =>
    accounts.map fun a => .account a.principal
  | .createArtefact a | .deleteArtefact a => [.artefact a]

/-- An action without one of its entries. An artefact is the only entry of its action, which goes
with it. -/
inductive Drops : Action → List Action → Prop where
  | deleteTopics (xs : List String) (x : String) (ys : List String) :
    Drops (.deleteTopics (xs ++ x :: ys)) [.deleteTopics (xs ++ ys)]
  | createBindings (xs : List Acl.Binding) (x : Acl.Binding) (ys : List Acl.Binding) :
    Drops (.createBindings (xs ++ x :: ys)) [.createBindings (xs ++ ys)]
  | clearBindings (xs : List Acl.Binding) (x : Acl.Binding) (ys : List Acl.Binding) :
    Drops (.clearBindings (xs ++ x :: ys)) [.clearBindings (xs ++ ys)]
  | createAccounts (xs : List Account) (x : Account) (ys : List Account) :
    Drops (.createAccounts (xs ++ x :: ys)) [.createAccounts (xs ++ ys)]
  | clearAccounts (xs : List Account) (x : Account) (ys : List Account) :
    Drops (.clearAccounts (xs ++ x :: ys)) [.clearAccounts (xs ++ ys)]
  | createArtefact (x : Artefact) : Drops (.createArtefact x) []
  | deleteArtefact (x : Artefact) : Drops (.deleteArtefact x) []

/-- What is named is created or deleted. -/
theorem created_or_deleted_of_named {a : Action} {i : Item} (h : i ∈ a.named) :
    i ∈ a.effect.created ∨ i ∈ a.effect.deleted := by
  cases a with
  | syncTopic name config => exact absurd h List.not_mem_nil
  | createBindings _ | createAccounts _ | createArtefact _ => exact .inl h
  | deleteTopics _ | clearBindings _ | clearAccounts _ | deleteArtefact _ => exact .inr h

/-- What is created is named, or it is a topic that is brought in line. -/
theorem named_of_created {a : Action} {i : Item} (h : i ∈ a.effect.created) :
    i ∈ a.named ∨ ∃ name config, a = .syncTopic name config ∧ i = .topic name := by
  cases a with
  | syncTopic name config => exact .inr ⟨name, config, rfl, List.mem_singleton.1 h⟩
  | createBindings _ | createAccounts _ | createArtefact _ => exact .inl h
  | deleteTopics _ | clearBindings _ | clearAccounts _ | deleteArtefact _ =>
    exact absurd h List.not_mem_nil

/-- No topic is both named and created: topics are created by bringing them in line. -/
theorem not_topic_of_created {a : Action} {name : String} (hnamed : .topic name ∈ a.named) :
    .topic name ∉ a.effect.created := by
  cases a <;> simp [named, effect, Effect.created] at *

theorem named_of_deleted {a : Action} {i : Item} (h : i ∈ a.effect.deleted) : i ∈ a.named := by
  cases a with
  | syncTopic _ _ | createBindings _ | createAccounts _ | createArtefact _ =>
    exact absurd h List.not_mem_nil
  | deleteTopics _ | clearBindings _ | clearAccounts _ | deleteArtefact _ => exact h

/-- The dropped entry goes from where it was named, and nothing else does. -/
theorem Drops.named_eq {a : Action} {less : List Action} (h : a.Drops less) :
    ∃ (xs : List Item) (i : Item) (ys : List Item), a.named = xs ++ i :: ys ∧
      less.flatMap Action.named = xs ++ ys := by
  cases h with
  | createArtefact x | deleteArtefact x => exact ⟨[], _, [], rfl, rfl⟩
  | _ xs x ys =>
    exact ⟨_, _, _, List.map_append, (List.append_nil _).trans List.map_append⟩

end Action

/-! ## Every entry at most once -/

namespace Topology

variable {t : Topology} {options : PlanOptions} {recorded : State}

/-- What a plan names, difference by difference. -/
theorem flatMap_named_actions :
    (t.actions options recorded).flatMap Action.named =
      let accounts := t.accounts.difference recorded.accounts
      let bindings := t.bindings.difference recorded.bindings
      let artefacts := t.artefacts.difference recorded.artefacts
      let topics := t.topicSet.difference recorded.topics
      (if options.managesAccounts then accounts.create.map fun a => .account a.principal else []) ++
        bindings.create.map .binding ++ bindings.delete.map .binding ++
        artefacts.delete.map .artefact ++ artefacts.create.map .artefact ++
        (if options.managesAccounts then accounts.delete.map fun a => .account a.principal
          else []) ++
        (if options.deletesTopics then topics.delete.map .topic else []) := by
  rw [flatMap_actions t options recorded rfl rfl rfl rfl rfl]
  simp only [Action.named, flatMap_none, List.nil_append, ← List.map_eq_flatMap]

/-- Entries are told apart kind by kind. -/
theorem nodup_of_target {is : List Item} (h : ∀ k, (is.filter (·.target = k)).Nodup) :
    is.Nodup :=
  List.nodup_iff_count_le_one.2 fun i => by
    rw [← List.count_filter (p := fun j => j.target = i.target) (decide_eq_true rfl)]
    exact List.nodup_iff_count_le_one.1 (h i.target) i

/-- What a difference creates and what it deletes are different entries. -/
theorem nodup_difference {α : Type} [Ord α] [TransOrd α] (s u : OrderedSet α) (item : α → Item)
    (hitem : ∀ a b, item a = item b → compare a b = .eq) :
    ((s.difference u).create.map item ++ (s.difference u).delete.map item).Nodup := by
  refine List.nodup_append.2 ⟨(s.diff u).increasing.nodup_map hitem,
    (u.diff s).increasing.nodup_map hitem, fun i hi j hj heq => ?_⟩
  obtain ⟨a, ha, rfl⟩ := List.mem_map.1 hi
  obtain ⟨b, hb, rfl⟩ := List.mem_map.1 hj
  exact (OrderedSet.mem_diff_iff.1 ha).2 b (OrderedSet.mem_diff_iff.1 hb).1 (hitem a b heq)

/-- A plan names an entry at most once. -/
theorem nodup_named : ((t.actions options recorded).flatMap Action.named).Nodup := by
  have hbindings := nodup_difference t.bindings recorded.bindings .binding
    fun a b heq => Item.binding.inj heq ▸ ReflOrd.compare_self
  have hartefacts := nodup_difference t.artefacts recorded.artefacts .artefact
    fun a b heq => Item.artefact.inj heq ▸ ReflOrd.compare_self
  have htopics := (recorded.topics.diff t.topicSet).increasing.nodup_map (f := Item.topic)
    fun a b heq => Item.topic.inj heq ▸ ReflOrd.compare_self
  have haccounts := nodup_difference t.accounts recorded.accounts
    (fun a => .account a.principal)
    fun a b heq => Account.compare_eq_iff.2 (Item.account.inj heq)
  rw [flatMap_named_actions]
  refine nodup_of_target fun k => ?_
  cases options.managesAccounts <;> cases options.deletesTopics <;> cases k <;>
    simp only [↓reduceIte, Bool.false_eq_true, List.filter_append, List.filter_map,
      Function.comp_def, Item.target, reduceCtorEq, decide_true, decide_false, List.filter_true,
      List.filter_false, List.map_nil, List.append_nil, List.nil_append, List.nodup_nil]
  all_goals first | exact hbindings | exact haccounts | exact htopics |
    exact List.nodup_append_comm.1 hartefacts

/-- What is newly named as created was not on record. -/
theorem not_holds_of_created {a : Action} {i : Item} (ha : a ∈ t.actions options recorded)
    (hnamed : i ∈ a.named) (hi : i ∈ a.effect.created) : ¬recorded.Holds i := by
  rcases mem_actions ha with ⟨topic, htopic, rfl⟩ | ⟨-, rfl⟩ | rfl | rfl | ⟨x, hx, rfl⟩ |
    ⟨x, hx, rfl⟩ | ⟨-, rfl⟩ | ⟨-, rfl⟩
  · exact absurd hnamed List.not_mem_nil
  · obtain ⟨account, haccount, rfl⟩ := List.mem_map.1 hi
    exact fun ⟨other, hother, hprincipal⟩ =>
      (OrderedSet.mem_diff_iff.1 haccount).2 other hother (Account.compare_eq_iff.2 hprincipal.symm)
  · obtain ⟨b, hb, rfl⟩ := List.mem_map.1 hi
    exact (OrderedSet.mem_create.1 hb).2
  · exact absurd hi List.not_mem_nil
  · exact absurd hi List.not_mem_nil
  · obtain rfl := List.mem_singleton.1 hi
    exact (OrderedSet.mem_create.1 hx).2
  · exact absurd hi List.not_mem_nil
  · exact absurd hi List.not_mem_nil

/-- What is on record and desired is not named. -/
theorem not_named {a : Action} {i : Item} (ha : a ∈ t.actions options recorded)
    (hrecorded : recorded.Holds i) (hdesired : t.Desires i) : i ∉ a.named := fun hnamed =>
  (Action.created_or_deleted_of_named hnamed).elim
    (fun hi => not_holds_of_created ha hnamed hi hrecorded)
    fun hi => (holds_of_deleted ha hi).2 hdesired

end Topology

/-! ## Every entry counts -/

namespace Topology

variable {t : Topology} {options : PlanOptions} {recorded : State}

/-- A plan that lacks an entry does not name it anywhere else. -/
theorem exists_not_named {before after less : List Action} {a : Action}
    (hplan : t.actions options recorded = before ++ a :: after) (h : a.Drops less) :
    ∃ i ∈ a.named, ∀ b ∈ before ++ less ++ after, i ∉ b.named := by
  obtain ⟨xs, i, ys, hnamed, hless⟩ := h.named_eq
  refine ⟨i, hnamed ▸ List.mem_append_right _ List.mem_cons_self, fun b hb hin => ?_⟩
  have hnodup : ((t.actions options recorded).flatMap Action.named).Nodup := nodup_named
  rw [hplan, List.flatMap_append, List.flatMap_cons, hnamed, List.append_assoc, List.cons_append,
    ← List.append_assoc] at hnodup
  have hnot := (List.nodup_cons.1 (List.nodup_middle.1 hnodup)).1
  rw [List.append_assoc, ← List.append_assoc xs, ← hless, ← List.flatMap_append,
    ← List.flatMap_append, ← List.append_assoc] at hnot
  exact hnot (List.mem_flatMap.2 ⟨b, hb, hin⟩)

/-- A plan that lacks an entry leads to another state. -/
theorem applyAll_ne_of_drops {before after less : List Action} {a : Action}
    (hplan : t.actions options recorded = before ++ a :: after) (h : a.Drops less) :
    recorded.applyAll ((before ++ less ++ after).map (·.effect)) ≠
      recorded.applyAll ((t.actions options recorded).map (·.effect)) := by
  have ha : a ∈ t.actions options recorded := hplan ▸ List.mem_append_right _ List.mem_cons_self
  obtain ⟨i, hi, hgone⟩ := exists_not_named hplan h
  intro heq
  rcases Action.created_or_deleted_of_named hi with hcreated | hdeleted
  · have hend : (recorded.applyAll ((t.actions options recorded).map (·.effect))).Holds i := by
      refine State.holds_applyAll (.inr ⟨a.effect, List.mem_map_of_mem ha, hcreated⟩) ?_
      exact List.forall_mem_map.2 fun b hb hdeleted =>
        (holds_of_deleted hb hdeleted).2 (desires_of_created ha hcreated)
    rw [← heq] at hend
    rcases State.holds_or_created_of_applyAll hend with hbefore | ⟨e, he, hie⟩
    · exact not_holds_of_created ha hi hcreated hbefore
    · obtain ⟨b, hb, rfl⟩ := List.mem_map.1 he
      rcases Action.named_of_created hie with hb' | ⟨name, config, -, rfl⟩
      · exact hgone b hb hb'
      · exact Action.not_topic_of_created hi hcreated
  · obtain ⟨hbefore, hdesired⟩ := holds_of_deleted ha hdeleted
    have hend : (recorded.applyAll ((before ++ less ++ after).map (·.effect))).Holds i :=
      State.holds_applyAll (.inl hbefore) <| List.forall_mem_map.2 fun b hb hib =>
        hgone b hb (Action.named_of_deleted hib)
    rw [heq] at hend
    refine State.not_deleted_of_applyAll hend ?_ a.effect (List.mem_map_of_mem ha) hdeleted
    exact List.forall_mem_map.2 fun b hb hib => hdesired (desires_of_created hb hib)

end Topology

/-! ## The order of the actions -/

namespace Change

variable {α : Type} [Ord α]

/-- A change that adds only what is desired and removes only what is not. -/
def Toward (desired : OrderedSet α) : Change α → Prop
  | .add xs => ∀ x ∈ xs, x ∈ desired
  | .remove xs => ∀ x ∈ xs, ∀ y ∈ desired, compare x y ≠ .eq

variable [TransOrd α] {desired : OrderedSet α}

/-- What is added of an entry is what is desired of it. -/
theorem find?_of_forall_mem {xs : List α} (h : ∀ x ∈ xs, x ∈ desired) {x z : α}
    (hx : (xs.find? fun x => compare z x == .eq) = some x) : desired.find? z = some x :=
  OrderedSet.find?_eq_some_iff.2
    ⟨h x (List.mem_of_find?_eq_some hx), by simpa using List.find?_some hx⟩

/-- Nothing is desired of an entry that is removed. -/
theorem find?_of_any {xs : List α} (h : ∀ x ∈ xs, ∀ y ∈ desired, compare x y ≠ .eq) {z : α}
    (hz : (xs.any fun x => compare z x == .eq) = true) : desired.find? z = none := by
  obtain ⟨x, hx, hzx⟩ := List.any_eq_true.1 hz
  refine OrderedSet.find?_eq_none_iff.2 fun y hy hzy => h x hx y hy ?_
  exact TransCmp.eq_trans (OrientedCmp.eq_symm (beq_iff_eq.1 hzx)) hzy

/-- Adding what is desired and removing what is not may be done in either order. -/
theorem on_comm_add_remove {xs ys : List α} (hxs : ∀ x ∈ xs, x ∈ desired)
    (hys : ∀ x ∈ ys, ∀ y ∈ desired, compare x y ≠ .eq) (s : OrderedSet α) :
    (Change.remove ys).on ((Change.add xs).on s) = (Change.add xs).on ((Change.remove ys).on s) := by
  refine OrderedSet.ext_find? fun z => ?_
  simp only [find?_on, revise]
  split
  · next hz =>
    have hnone : (xs.find? fun x => compare z x == .eq) = none :=
      Option.eq_none_iff_forall_ne_some.2 fun x hx =>
        Option.some_ne_none x ((find?_of_forall_mem hxs hx).symm.trans (find?_of_any hys hz))
    rw [hnone, Option.or_none]
  · rfl

/-- Changes toward one set may be made in either order. -/
theorem Toward.on_comm {c d : Change α} (hc : c.Toward desired) (hd : d.Toward desired)
    (s : OrderedSet α) : d.on (c.on s) = c.on (d.on s) := by
  cases c with
  | add xs =>
    cases d with
    | add ys =>
      refine OrderedSet.ext_find? fun z => ?_
      simp only [find?_on, revise, Option.or_assoc]
      -- if both lists know the entry, then both as it is desired
      cases hx : xs.find? fun x => compare z x == .eq with
      | none => rw [Option.none_or, Option.or_none]
      | some x =>
        cases hy : ys.find? fun x => compare z x == .eq with
        | none => rfl
        | some y =>
          rw [Option.some.inj
            ((find?_of_forall_mem hc hx).symm.trans (find?_of_forall_mem hd hy))]
    | remove ys => exact on_comm_add_remove hc hd s
  | remove xs =>
    cases d with
    | add ys => exact (on_comm_add_remove hd hc s).symm
    | remove ys =>
      refine OrderedSet.ext_find? fun z => ?_
      simp only [find?_on, revise]
      split <;> split <;> rfl

end Change

/-- Changes toward one set may be made in any order. -/
theorem OrderedSet.changeAll_perm {α : Type} [Ord α] [TransOrd α] {desired : OrderedSet α}
    {cs ds : List (Change α)} (h : cs.Perm ds) (hcs : ∀ c ∈ cs, c.Toward desired)
    (s : OrderedSet α) : s.changeAll cs = s.changeAll ds :=
  h.foldl_eq' (fun c hc d hd s => (hcs c hc).on_comm (hcs d hd) s) s

namespace Topology

variable {t : Topology} {options : PlanOptions} {recorded : State} {a : Action}

theorem toward_bindings (ha : a ∈ t.actions options recorded) :
    ∀ c ∈ a.effect.onBindings, c.Toward t.bindings := by
  intro c hc
  cases a with
  | createBindings bs =>
    cases hc
    exact fun b hb => desires_of_created (i := .binding b) ha (List.mem_map_of_mem hb)
  | clearBindings bs =>
    cases hc
    intro b hb d hd heq
    obtain rfl := LawfulEqOrd.eq_of_compare heq
    exact (holds_of_deleted (i := .binding b) ha (List.mem_map_of_mem hb)).2 hd
  | _ => cases hc

theorem toward_topics (ha : a ∈ t.actions options recorded) :
    ∀ c ∈ a.effect.onTopics, c.Toward t.topicSet := by
  intro c hc
  cases a with
  | syncTopic name config =>
    cases hc
    rintro n hn
    obtain rfl := List.mem_singleton.1 hn
    exact desires_of_created (i := .topic n) ha List.mem_cons_self
  | deleteTopics names =>
    cases hc
    intro n hn m hm heq
    obtain rfl := LawfulEqOrd.eq_of_compare heq
    exact (holds_of_deleted (i := .topic n) ha (List.mem_map_of_mem hn)).2 hm
  | _ => cases hc

theorem toward_artefacts (ha : a ∈ t.actions options recorded) :
    ∀ c ∈ a.effect.onArtefacts, c.Toward t.artefacts := by
  intro c hc
  cases a with
  | createArtefact x =>
    cases hc
    rintro y hy
    obtain rfl := List.mem_singleton.1 hy
    exact desires_of_created (i := .artefact y) ha List.mem_cons_self
  | deleteArtefact x =>
    cases hc
    intro y hy z hz heq
    obtain rfl := List.mem_singleton.1 hy
    obtain rfl := LawfulEqOrd.eq_of_compare heq
    exact (holds_of_deleted (i := .artefact y) ha List.mem_cons_self).2 hz
  | _ => cases hc

/-- An account that is created is one that is desired, down to its description. -/
theorem toward_accounts (ha : a ∈ t.actions options recorded) :
    ∀ c ∈ a.effect.onAccounts, c.Toward t.accounts := by
  intro c hc
  rcases mem_actions ha with ⟨_, -, rfl⟩ | ⟨-, rfl⟩ | rfl | rfl | ⟨_, -, rfl⟩ | ⟨_, -, rfl⟩ |
    ⟨-, rfl⟩ | ⟨-, rfl⟩
  case inr.inl =>
    cases hc
    exact fun account haccount => (OrderedSet.mem_diff_iff.1 haccount).1
  case inr.inr.inr.inr.inr.inr.inl =>
    cases hc
    exact fun account haccount => (OrderedSet.mem_diff_iff.1 haccount).2
  all_goals cases hc

/-- The changes of one kind that a plan makes are all toward one set. -/
theorem forall_toward {α : Type} [Ord α] {desired : OrderedSet α} {f : Effect → Option (Change α)}
    (h : ∀ a ∈ t.actions options recorded, ∀ c ∈ f a.effect, c.Toward desired) :
    ∀ c ∈ ((t.actions options recorded).map (·.effect)).filterMap f, c.Toward desired := by
  intro c hc
  obtain ⟨e, he, hec⟩ := List.mem_filterMap.1 hc
  obtain ⟨a, ha, rfl⟩ := List.mem_map.1 he
  exact h a ha c hec

/-- A plan leads to the same state in every order of its actions. -/
theorem applyAll_perm {actions : List Action} (h : actions.Perm (t.actions options recorded)) :
    recorded.applyAll (actions.map (·.effect)) =
      recorded.applyAll ((t.actions options recorded).map (·.effect)) := by
  have heffects := (h.map (·.effect)).symm
  simp only [State.applyAll_eq]
  rw [OrderedSet.changeAll_perm (heffects.filterMap _) (forall_toward fun _ => toward_bindings),
    OrderedSet.changeAll_perm (heffects.filterMap _) (forall_toward fun _ => toward_accounts),
    OrderedSet.changeAll_perm (heffects.filterMap _) (forall_toward fun _ => toward_topics),
    OrderedSet.changeAll_perm (heffects.filterMap _) (forall_toward fun _ => toward_artefacts)]

end Topology

/-! ## The plan as a whole -/

/-- **No plan does more than it has to.** Populating a plan queues the actions of the topology at
its end and counts them. They come group by group, each list with its entries once and in increasing
order. No entry is both created and deleted. One that is recorded and desired is named by no action
but the one that brings its topic in line. Without any one entry the plan would lead to another
state, and in any other order to the same. -/
theorem Plan.populateCounting_minimal {ω : Type} (p : Plan ω) (admin : Admin ω)
    (options : PlanOptions) (t : Topology) :
    let actions := t.actions options p.state
    let final := p.state.applyAll (actions.map (·.effect))
    ((p.populateCounting admin options t).1.steps = p.steps ++ actions.map (·.toStep admin) ∧
      (p.populateCounting admin options t).2 = actions.length) ∧
    t.Grouped actions ∧
    (∀ a ∈ actions, ∀ b ∈ actions, ∀ i ∈ a.effect.created, i ∉ b.effect.deleted) ∧
    (∀ i, p.state.Holds i → t.Desires i → ∀ a ∈ actions,
      i ∈ a.effect.created ∨ i ∈ a.effect.deleted → ∃ name config, a = .syncTopic name config) ∧
    (∀ before a after less, actions = before ++ a :: after → a.Drops less →
      p.state.applyAll ((before ++ less ++ after).map (·.effect)) ≠ final) ∧
    ∀ reordered : List Action, reordered.Perm actions →
      p.state.applyAll (reordered.map (·.effect)) = final := by
  refine ⟨⟨rfl, ?_⟩, t.grouped_actions options p.state, fun a ha b hb i hi hdeleted => ?_,
    fun i hrecorded hdesired a ha hi => ?_, fun before a after less hplan hdrops =>
      Topology.applyAll_ne_of_drops hplan hdrops, fun reordered h => Topology.applyAll_perm h⟩
  · show (p.steps ++ _).length - p.steps.length = _
    rw [List.length_append, Nat.add_sub_cancel_left, List.length_map]
  · exact (Topology.holds_of_deleted hb hdeleted).2 (Topology.desires_of_created ha hi)
  · have hnot := Topology.not_named ha hrecorded hdesired
    rcases hi with hi | hi
    · obtain hnamed | ⟨name, config, rfl, -⟩ := Action.named_of_created hi
      · exact absurd hnamed hnot
      · exact ⟨name, config, rfl⟩
    · exact absurd (Action.named_of_deleted hi) hnot

end KafkaTopology
