import KafkaTopology.Proofs.Plan.Desk
import KafkaTopology.Proofs.Planner.Settlement
import KafkaTopology.Rehearsal
/-!
# Applying a topology

A plan that is populated for a topology and executed without a failing step commits the settled
state, and a plan that is made after that only brings topics in line (`Topology.apply_converges`).
Accounts keep the descriptions that were recorded for them.
-/
namespace KafkaTopology

open Std

variable {ω : Type}

/-- Without a refused text a rehearsal carries every action out. -/
theorem Rehearsal.run_admin_ok (a : Action) (r : Rehearsal) :
    ((a.run (admin none)).on r).1 = .ok () := by
  cases a with
  | createAccounts accounts => exact Attempt.forM_ok (fun _ _ => rfl) accounts r
  | clearAccounts accounts => exact Attempt.forM_ok (fun _ _ => rfl) accounts r
  | _ => rfl

theorem Rehearsal.succeed_admin (actions : List Action) (r : Rehearsal) :
    Plan.Succeed (actions.map (·.toStep (admin none))) r := by
  induction actions generalizing r with
  | nil => trivial
  | cons a actions ih => exact ⟨run_admin_ok a r, ih _⟩

namespace Topology

/-! ## Accounts -/

theorem description_of_mem_accounts {t : Topology} {a : Account} (h : a ∈ t.accounts) :
    a.description = none := by
  obtain ⟨_, -, rfl⟩ := List.mem_map.1 (OrderedSet.mem_of_mem_ofList h)
  rfl

/-- The settled accounts are the desired ones, one for each principal. -/
theorem principals_preferring (s t : OrderedSet Account) :
    (s.preferring t).toList.map (·.principal) = s.toList.map (·.principal) := by
  show (s.toList.map t.known).map (·.principal) = _
  rw [List.map_map]
  refine List.map_congr_left fun a _ => ?_
  exact Account.compare_eq_iff.1 (by rw [OrderedSet.compare_known_left, ReflOrd.compare_self])

/-- A settled account was recorded as it stands, or is new and has no description. -/
theorem mem_preferring_accounts {t : Topology} {recorded : OrderedSet Account} {a : Account}
    (h : a ∈ t.accounts.preferring recorded) :
    a ∈ recorded ∨ (∀ b ∈ recorded, b.principal ≠ a.principal) ∧ a.description = none := by
  obtain ⟨d, hd, rfl⟩ := OrderedSet.mem_preferring.1 h
  rw [OrderedSet.known]
  cases hfind : recorded.find? d with
  | some b => exact .inl (OrderedSet.find?_eq_some_iff.1 hfind).1
  | none =>
    refine .inr ⟨fun b hb heq => ?_, description_of_mem_accounts hd⟩
    exact OrderedSet.find?_eq_none_iff.1 hfind b hb (Account.compare_eq_iff.2 heq.symm)

/-! ## Plans -/

theorem steps_populate (t : Topology) (options : PlanOptions) (admin : Admin ω)
    {p : Plan (Desk ω)} (h : p.steps = []) :
    (p.populate admin.outer options t).steps =
      ((t.actions options p.state).map (·.toStep admin)).map Step.outer := by
  show p.steps ++ (t.actions options p.state).map (·.toStep admin.outer) = _
  rw [h, List.nil_append, List.map_map]
  exact List.map_congr_left fun a _ => a.toStep_outer admin

theorem effects_steps (admin : Admin ω) (actions : List Action) :
    (actions.map (·.toStep admin)).map (·.effect) = actions.map (·.effect) := by
  rw [List.map_map]
  rfl

/-- What an execution commits if no step fails and the store refuses nothing. -/
theorem run_populate (t : Topology) (options : PlanOptions) (admin : Admin ω)
    {p : Plan (Desk ω)} (hp : p.steps = []) {d : Desk ω} (hd : d.store.flushRefusal = none)
    (h : Plan.Succeed ((t.actions options p.state).map (·.toStep admin)) d.outside) :
    ∃ summary w, ((p.populate admin.outer options t).run Desk.medium false).run d =
      ((.ok summary,
        { p.populate admin.outer options t with
          backend := ⟨t.settled options p.state, none⟩, state := t.settled options p.state }),
        ⟨{ d.store with stored := t.settled options p.state, flushes := d.store.flushes + 1 }, w⟩)
    := by
  obtain ⟨w, hw⟩ := Plan.execute_of_succeed h p.state (.start false)
  rw [effects_steps, applyAll_actions] at hw
  have hstate : (p.populate admin.outer options t).state = p.state := rfl
  rw [Plan.run, if_neg Bool.false_ne_true, Plan.runAll_desk (steps_populate t options admin hp),
    hstate, hw, hd]
  exact ⟨_, w, rfl⟩

/-! ## Applying twice -/

/-- **Convergence.** Over any recorded state a plan for `t` whose steps all succeed commits what `t`
asks for: undesired topics stay unless they may be deleted, accounts stay as they are unless they
are managed, and a managed account keeps the description that was recorded for it. A plan made
after that brings every topic in line, in order, and does nothing else. -/
theorem apply_converges (t : Topology) (options : PlanOptions) (recorded : State)
    (admin : Admin ω) (sink : Sink) (w : ω)
    (hsucceed : Plan.Succeed ((t.actions options recorded).map (·.toStep admin)) w) :
    ∃ plan applied summary d,
      (Plan.init Desk.medium sink).run.run (Desk.holding recorded w) =
        (.ok plan, Desk.holding recorded w) ∧
      ((plan.populate admin.outer options t).run Desk.medium false).run
        (Desk.holding recorded w) = ((.ok summary, applied), d) ∧
      applied.state = d.store.stored ∧
      d.store.stored.bindings = t.bindings ∧
      d.store.stored.artefacts = t.artefacts ∧
      d.store.stored.topics =
        (if options.deletesTopics then t.topicSet else recorded.topics.union t.topicSet) ∧
      (if options.managesAccounts then
        d.store.stored.accounts.toList.map (·.principal) =
          t.accounts.toList.map (·.principal) ∧
        ∀ a ∈ d.store.stored.accounts, a ∈ recorded.accounts ∨
          (∀ b ∈ recorded.accounts, b.principal ≠ a.principal) ∧ a.description = none
      else d.store.stored.accounts = recorded.accounts) ∧
      ∀ sink' : Sink, ∃ next,
        (Plan.init Desk.medium sink').run.run d = (.ok next, d) ∧
        t.actions options next.state =
          t.topics.map (fun topic => .syncTopic topic.fullName topic.config) ∧
        (next.populate admin.outer options t).steps =
          t.topics.map fun topic =>
            (Action.syncTopic topic.fullName topic.config).toStep admin.outer := by
  have hinit := Plan.init_desk sink (Desk.holding recorded w) rfl
  obtain ⟨summary, w', hrun⟩ := t.run_populate options admin (d := Desk.holding recorded w)
    (p := ⟨[], ⟨recorded, none⟩, sink, recorded⟩) rfl rfl hsucceed
  refine ⟨_, _, summary, _, hinit, hrun, rfl, rfl, rfl, rfl, ?_, fun sink' => ?_⟩
  · show if options.managesAccounts then _ else _
    simp only [settled]
    cases options.managesAccounts with
    | false => rfl
    | true => exact ⟨principals_preferring _ _, fun a ha => mem_preferring_accounts ha⟩
  · refine ⟨_, Plan.init_desk sink' _ rfl, t.actions_settled options recorded, ?_⟩
    show [] ++ (t.actions options (t.settled options recorded)).map (·.toStep admin.outer) = _
    rw [actions_settled, List.nil_append, List.map_map]
    rfl

/-- A rehearsal in which a described account is kept and an obsolete topic is given up. -/
theorem apply_converges_rehearsal :
    let t : Topology := { (default : Topology) with
      projects := [{ (default : Project) with
        consumers := some [⟨"User:reader", none⟩]
        topics := [⟨"events", none, ∅, "acme.orders.events"⟩] }] }
    let recorded : State := ⟨∅, .ofList [⟨"User:reader", some "reads"⟩], .ofList ["old"], ∅⟩
    ∃ (applied : Plan (Desk Rehearsal)) (d : Desk Rehearsal),
      applied.state = d.store.stored ∧ d.store.stored.topics = t.topicSet ∧
      ∀ a ∈ d.store.stored.accounts, a ∈ recorded.accounts ∨
        (∀ b ∈ recorded.accounts, b.principal ≠ a.principal) ∧ a.description = none := by
  intro t recorded
  obtain ⟨_, applied, _, d, -, -, hstate, -, -, htopics, haccounts, -⟩ :=
    t.apply_converges ⟨true, true⟩ recorded (Rehearsal.admin none) .unlimited default
      (Rehearsal.succeed_admin _ _)
  exact ⟨applied, d, hstate, htopics, haccounts.2⟩

end Topology
end KafkaTopology
