import KafkaTopology.Proofs.Host.FileTree
import KafkaTopology.Proofs.Plan.Errands
import KafkaTopology.Proofs.StateFile
import KafkaTopology.Session
/-!
# How an apply ends early

The parts of a session one after the other: the topology is read, the tools are looked for, the
state is loaded, and then the errands of the plan are undertaken. The state file is written after
all of them and not at all if one fails.
-/
namespace KafkaTopology

/-! ## Before the plan is carried out -/

namespace Session

/-- A plan with steps is carried out and its final state written, and then the counts are
printed. -/
theorem execute_on {plan : Plan Host} (hne : plan.steps ≠ []) (statePath : String) (h : Host) :
    ∃ output, (execute plan statePath true).on h =
      match (Plan.execute plan.steps plan.state (.start false)).run { h with output := output } with
      | (.error e, w) => (.error e.failure, w)
      | (.ok (settled, summary), w) =>
        match (StateFile.write statePath settled).on w with
        | (.error f, w) => (.error (PlanError.commit f).failure, w)
        | (.ok _, w) => (Host.print summary.report).on w := by
  obtain ⟨_, hprint⟩ := Host.print_on (Report.outline plan.outline) h
  have hempty : ¬plan.steps.isEmpty := fun he => hne (List.isEmpty_iff.1 he)
  rw [execute, Attempt.on_bind_ok hprint]
  simp only [if_neg hempty, if_true, pure_bind]
  obtain ⟨output, hprint'⟩ := Host.print_on
    ["", Report.item ("→ Applying " ++ toString plan.size ++ " actions...")] { h with output := _ }
  refine ⟨output, ?_⟩
  rw [Attempt.on_bind_ok hprint', Attempt.on_bind, Attempt.on_lift, Plan.runAll_run]
  rcases (Plan.execute plan.steps plan.state (.start false)).run { h with output := output } with
    ⟨e | ⟨settled, summary⟩, w⟩
  · rfl
  simp only
  rw [Plan.commit_run, StateFile.save_on]
  rcases (StateFile.write statePath settled).on w with ⟨f | now, w'⟩ <;> rfl

end Session

/-! ## A topic that stays without its settings -/

namespace Stumble

/-- A topology with one topic, in one project. -/
def text : String :=
  "\x7b\"context\":\"shop\",\"projects\":[\x7b\"name\":\"pay\",\"topics\":" ++
    "[\x7b\"name\":\"orders\",\"config\":\x7b\"retention.ms\":\"1\"\x7d\x7d]\x7d]\x7d"

/-- A host with the tools at hand, one of which does not reach the cluster. -/
def host : Host where
  files := ⟨(["shop.json"], .file (.text text) false) ::
    KafkaTools.names.map fun name => ([name], .file .binary true)⟩
  environment := ⟨[], none⟩
  searchPath := [""]
  tools := fun _ c => if c.tool == "kafka-configs" then .failure "timed out" else .success
  servers := fun _ _ => .unreachable "timed out"
  clock := default
  consent := none
  output := ""
  calls := []

/-- What there is to do. -/
def action : Action := .syncTopic "shop.pay.orders" (.ofPairs [("retention.ms", "1")])

end Stumble

end KafkaTopology
