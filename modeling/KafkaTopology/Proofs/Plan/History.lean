import KafkaTopology.Proofs.Fold
import KafkaTopology.Proofs.Plan.Desk
import KafkaTopology.Rehearsal
/-!
# Histories of a plan

One plan is filled, previewed and executed in any order, and every step, every write of a preview
and every flush of the sink and of the store may fail each time. Steps stay queued and are executed
again by later runs.

* `Bench.Lawful.perform` — what one call preserves: the stored state is the fold of the effects of
  the steps that were queued at the last successful execution, and the plan's state is that state.
* `Bench.history_law` — so it is after every history, and a run that fails or previews moves
  neither of them.

Executing a queue again folds effects over a state into which they have been folded before; that
this adds nothing is `State.applyAll_applyAll_take`.
-/
namespace KafkaTopology

variable {ω : Type}

/-- A call of a plan. What fits into the sink, and whether the sink and the store refuse a flush, is
said for each run. -/
inductive PlanCall (ω : Type) where
  | add (s : Step ω)
  | run (dryRun : Bool) (room : Option Nat) (sinkRefusal flushRefusal : Option String)

/-- The steps that calls queue, in order. -/
def PlanCall.queue (calls : List (PlanCall ω)) : List (Step ω) :=
  calls.filterMap fun
    | .add s => some s
    | .run .. => none

/-- A plan in front of a desk, and how many steps were queued at the last execution that ended
well. -/
structure Bench (ω : Type) where
  plan : Plan (Desk ω)
  desk : Desk ω
  committed : Nat

namespace Bench

/-- A fresh plan over a store that holds `s`. -/
def opened (sink : Sink) (s : State) (w : ω) : Bench ω :=
  ⟨⟨[], ⟨s, none⟩, sink, s⟩, .holding s w, 0⟩

/-- Says what fits into the sink, and whether the sink and the store refuse a flush. -/
def prepared (b : Bench ω) (room : Option Nat) (sinkRefusal flushRefusal : Option String) :
    Bench ω :=
  { b with
    plan.sink.room := room
    plan.sink.flushRefusal := sinkRefusal
    desk.store.flushRefusal := flushRefusal }

/-- Previews or executes the plan. -/
def run (b : Bench ω) (dryRun : Bool) : Except PlanError RunSummary × Bench ω :=
  match (b.plan.run Desk.medium dryRun).run b.desk with
  | ((outcome, plan), desk) =>
    (outcome, ⟨plan, desk, if !dryRun && outcome.isOk then plan.size else b.committed⟩)

/-- Answers a call. -/
def perform (b : Bench ω) : PlanCall ω → Bench ω
  | .add s => { b with plan := b.plan.add s.outer }
  | .run dryRun room sinkRefusal flushRefusal =>
    ((b.prepared room sinkRefusal flushRefusal).run dryRun).2

/-- Answers calls, in order. -/
def after (b : Bench ω) (calls : List (PlanCall ω)) : Bench ω := calls.foldl perform b

/-- The law of a bench at which the steps of `queue` were added to a plan over `s₀`. -/
structure Lawful (s₀ : State) (queue : List (Step ω)) (b : Bench ω) : Prop where
  steps : b.plan.steps = queue.map Step.outer
  committed_le : b.committed ≤ queue.length
  stored : b.desk.store.stored = s₀.applyAll ((queue.map (·.effect)).take b.committed)
  state : b.plan.state = b.desk.store.stored

theorem opened_lawful (sink : Sink) (s₀ : State) (w : ω) : (opened sink s₀ w).Lawful s₀ [] :=
  ⟨rfl, Nat.zero_le _, rfl, rfl⟩

section
variable {s₀ : State} {queue : List (Step ω)} {b : Bench ω}

theorem Lawful.size (h : b.Lawful s₀ queue) : b.plan.size = queue.length := by
  rw [Plan.size, h.steps, List.length_map]

/-- Steps that are queued later are not committed. -/
theorem Lawful.add (h : b.Lawful s₀ queue) (s : Step ω) :
    (b.perform (.add s)).Lawful s₀ (queue ++ [s]) where
  steps := by
    show b.plan.steps ++ [s.outer] = _
    rw [h.steps, List.map_append, List.map_singleton]
  committed_le := by
    rw [List.length_append]
    exact Nat.le_add_right_of_le h.committed_le
  stored := by
    have hle : b.committed ≤ (queue.map (·.effect)).length := by
      rw [List.length_map]
      exact h.committed_le
    show b.desk.store.stored = s₀.applyAll (((queue ++ [s]).map (·.effect)).take b.committed)
    rw [List.map_append, List.take_append_of_le_length hle]
    exact h.stored
  state := h.state

theorem Lawful.prepared (h : b.Lawful s₀ queue) (room : Option Nat)
    (sinkRefusal flushRefusal : Option String) :
    (b.prepared room sinkRefusal flushRefusal).Lawful s₀ queue :=
  ⟨h.steps, h.committed_le, h.stored, h.state⟩

/-- A preview moves nothing but the sink. -/
theorem run_dry (b : Bench ω) :
    (b.run true).2.plan.steps = b.plan.steps ∧ (b.run true).2.plan.state = b.plan.state ∧
      (b.run true).2.desk = b.desk ∧ (b.run true).2.committed = b.committed :=
  ⟨b.plan.steps_preview, b.plan.state_preview, rfl, rfl⟩

/-- What an execution leaves: the steps' loop first, and the write to the store after it. -/
theorem Lawful.run_execute (h : b.Lawful s₀ queue) :
    b.run false =
      match (Plan.execute queue b.plan.state (.start false)).run b.desk.outside with
      | (.error e, w) => (.error e, { b with desk.outside := w })
      | (.ok (s, summary), w) =>
        match b.desk.store.flushRefusal with
        | some reason =>
          (.error (.commit (.ofMessage reason)),
            { b with plan.backend := b.plan.backend.refill s, desk.outside := w })
        | none =>
          (.ok summary,
            ⟨{ b.plan with backend := ⟨s, none⟩, state := s },
              ⟨{ b.desk.store with stored := s, flushes := b.desk.store.flushes + 1 }, w⟩,
              b.plan.size⟩) := by
  rw [run, Plan.run, if_neg Bool.false_ne_true, Plan.runAll_desk h.steps]
  rcases (Plan.execute queue b.plan.state (.start false)).run b.desk.outside with
    ⟨e | ⟨s, summary⟩, w⟩
  · rfl
  · cases b.desk.store.flushRefusal <;> rfl

/-- An execution that fails moves neither state, wherever it fails. -/
theorem Lawful.run_error (h : b.Lawful s₀ queue) {e : PlanError} (he : (b.run false).1 = .error e) :
    (b.run false).2.plan.steps = b.plan.steps ∧ (b.run false).2.plan.state = b.plan.state ∧
      (b.run false).2.desk.store.stored = b.desk.store.stored ∧
      (b.run false).2.committed = b.committed := by
  rw [h.run_execute] at he ⊢
  rcases hexec : (Plan.execute queue b.plan.state (.start false)).run b.desk.outside with
    ⟨e' | ⟨s, summary⟩, w⟩
  · exact ⟨rfl, rfl, rfl, rfl⟩
  · rcases hflush : b.desk.store.flushRefusal with _ | reason
    · simp [hexec, hflush] at he
    · exact ⟨rfl, rfl, rfl, rfl⟩

/-- An execution that ends well makes the fold over the whole queue the state of both. -/
theorem Lawful.run_ok (h : b.Lawful s₀ queue) {summary : RunSummary}
    (hok : (b.run false).1 = .ok summary) :
    (b.run false).2.plan.steps = b.plan.steps ∧
      (b.run false).2.plan.state = s₀.applyAll (queue.map (·.effect)) ∧
      (b.run false).2.desk.store.stored = s₀.applyAll (queue.map (·.effect)) ∧
      (b.run false).2.committed = queue.length ∧
      summary = RunSummary.countAll (.start false) (queue.map (·.effect)) := by
  rw [h.run_execute] at hok ⊢
  rcases hexec : (Plan.execute queue b.plan.state (.start false)).run b.desk.outside with
    ⟨e | ⟨s, summary'⟩, w⟩
  · simp [hexec] at hok
  · obtain ⟨-, hs, hsummary⟩ := Plan.execute_ok hexec
    rcases hflush : b.desk.store.flushRefusal with _ | reason
    · -- The queue is folded over a state that its first steps led to.
      have hfold : s = s₀.applyAll (queue.map (·.effect)) := by
        rw [hs, h.state, h.stored, State.applyAll_applyAll_take]
      simp only [hexec, hflush, Except.ok.injEq] at hok
      exact ⟨rfl, hfold, hfold, h.size, hok ▸ hsummary⟩
    · simp [hexec, hflush] at hok

end

/-- The law is kept by every call. -/
theorem Lawful.perform {s₀ : State} {queue : List (Step ω)} {b : Bench ω}
    (h : b.Lawful s₀ queue) (c : PlanCall ω) :
    (b.perform c).Lawful s₀ (queue ++ PlanCall.queue [c]) := by
  cases c with
  | add s => exact h.add s
  | run dryRun room sinkRefusal flushRefusal =>
    have hb := h.prepared room sinkRefusal flushRefusal
    show ((b.prepared room sinkRefusal flushRefusal).run dryRun).2.Lawful s₀ (queue ++ [])
    rw [List.append_nil]
    cases dryRun with
    | true =>
      obtain ⟨hsteps, hstate, hdesk, hcommitted⟩ :=
        (b.prepared room sinkRefusal flushRefusal).run_dry
      constructor
      · rw [hsteps, hb.steps]
      · rw [hcommitted]
        exact hb.committed_le
      · rw [hdesk, hcommitted]
        exact hb.stored
      · rw [hdesk, hstate]
        exact hb.state
    | false =>
      rcases hrun : ((b.prepared room sinkRefusal flushRefusal).run false).1 with e | summary
      · obtain ⟨hsteps, hstate, hstored, hcommitted⟩ := hb.run_error hrun
        constructor
        · rw [hsteps, hb.steps]
        · rw [hcommitted]
          exact hb.committed_le
        · rw [hstored, hcommitted]
          exact hb.stored
        · rw [hstored, hstate]
          exact hb.state
      · obtain ⟨hsteps, hstate, hstored, hcommitted, -⟩ := hb.run_ok hrun
        constructor
        · rw [hsteps, hb.steps]
        · exact hcommitted.le
        · rw [hstored, hcommitted, List.take_of_length_le (List.length_map _).le]
        · rw [hstored, hstate]

/-- The law holds after every history. -/
theorem Lawful.after {s₀ : State} {queue : List (Step ω)} {b : Bench ω} (h : b.Lawful s₀ queue)
    (calls : List (PlanCall ω)) : (b.after calls).Lawful s₀ (queue ++ PlanCall.queue calls) := by
  induction calls generalizing b queue with
  | nil =>
    rw [PlanCall.queue, List.filterMap_nil, List.append_nil]
    exact h
  | cons c calls ih =>
    have hqueue : queue ++ PlanCall.queue (c :: calls) =
        queue ++ PlanCall.queue [c] ++ PlanCall.queue calls := by
      rw [List.append_assoc, PlanCall.queue, PlanCall.queue, PlanCall.queue,
        ← List.filterMap_append, List.singleton_append]
    rw [hqueue]
    exact ih (h.perform c)

theorem Lawful.effects_length {s₀ : State} {queue : List (Step ω)} {b : Bench ω}
    (h : b.Lawful s₀ queue) : (queue.map (·.effect)).length = b.plan.size := by
  rw [h.size, List.length_map]

/-- **The law of histories.** A plan that is opened over `s₀` and called in any way has in its state
and in the store the fold over `s₀` of the effects that were queued at the last execution that ended
well. Every other run moves neither, and a run that ends well counts the whole queue. -/
theorem history_law (sink : Sink) (s₀ : State) (w : ω) :
    (Plan.init Desk.medium sink).run.run (Desk.holding s₀ w) =
      (.ok (opened sink s₀ w).plan, (opened sink s₀ w).desk) ∧
    ∀ calls : List (PlanCall ω),
      let effects := (PlanCall.queue calls).map (·.effect)
      let b := (opened sink s₀ w).after calls
      b.plan.steps = (PlanCall.queue calls).map Step.outer ∧
      b.committed ≤ effects.length ∧
      b.desk.store.stored = s₀.applyAll (effects.take b.committed) ∧
      b.plan.state = b.desk.store.stored ∧
      ∀ (dryRun : Bool) (room : Option Nat) (sinkRefusal flushRefusal : Option String),
        let after := ((b.prepared room sinkRefusal flushRefusal).run dryRun).2
        (∀ e, ((b.prepared room sinkRefusal flushRefusal).run dryRun).1 = .error e →
          after.plan.state = b.plan.state ∧ after.desk.store.stored = b.desk.store.stored ∧
            after.committed = b.committed) ∧
        (∀ summary, ((b.prepared room sinkRefusal flushRefusal).run dryRun).1 = .ok summary →
          if dryRun then
            after.plan.state = b.plan.state ∧ after.desk.store.stored = b.desk.store.stored ∧
              after.committed = b.committed ∧ summary.previewed = effects.length
          else
            after.committed = effects.length ∧ summary.applied = effects.length ∧
              summary.created + summary.removed = effects.length) := by
  refine ⟨Plan.init_desk sink _ rfl, fun calls => ?_⟩
  intro effects b
  have h : b.Lawful s₀ (PlanCall.queue calls) := (opened_lawful sink s₀ w).after calls
  have hlength : effects.length = b.plan.size := h.effects_length
  refine ⟨h.steps, ?_, h.stored, h.state, fun dryRun room sinkRefusal flushRefusal => ?_⟩
  · rw [List.length_map]
    exact h.committed_le
  intro after
  have hb := h.prepared room sinkRefusal flushRefusal
  obtain ⟨-, hstate, hdesk, hcommitted⟩ := (b.prepared room sinkRefusal flushRefusal).run_dry
  refine ⟨fun e he => ?_, fun summary hok => ?_⟩
  · cases dryRun with
    | true => exact ⟨hstate, congrArg (·.store.stored) hdesk, hcommitted⟩
    | false => exact (hb.run_error he).2
  · cases dryRun with
    | true =>
      refine ⟨hstate, congrArg (·.store.stored) hdesk, hcommitted, ?_⟩
      rw [hlength]
      exact Plan.previewed_of_ok (p := (b.prepared room sinkRefusal flushRefusal).plan) hok
    | false =>
      obtain ⟨-, -, -, hcommitted, hsummary⟩ := hb.run_ok hok
      refine ⟨?_, ?_, ?_⟩
      · rw [hcommitted, List.length_map]
      · rw [hsummary, RunSummary.applied_countAll]
        exact Nat.zero_add _
      · rw [hsummary, RunSummary.created_add_removed_countAll]
        exact Nat.zero_add _

/-- A topic is committed, and neither a refused step that is queued after it nor a preview whose end
is refused undoes anything. -/
theorem history_law_refused_step :
    let b := (opened .unlimited .empty default).after
      [.add (Rehearsal.step "orders" (.createTopic "orders") none), .run false none none none,
        .add (Rehearsal.step "cleanup" (.deleteTopics ["orders"]) (some "busy"))]
    b.desk.store.stored = State.empty.apply (.createTopic "orders") ∧
    ((b.prepared none none none).run false).2.desk.store.stored = b.desk.store.stored ∧
    ((b.prepared none (some "pipe closed") none).run true).1 = .error (.output "pipe closed") ∧
    ((b.prepared none (some "pipe closed") none).run true).2.plan.state = b.plan.state ∧
    ∃ summary, ((b.prepared none none none).run true).1 = .ok summary ∧ summary.previewed = 2 := by
  intro b
  obtain ⟨-, -, hstored, -, hrun⟩ := (history_law .unlimited .empty default).2
      [.add (Rehearsal.step "orders" (.createTopic "orders") none), .run false none none none,
        .add (Rehearsal.step "cleanup" (.deleteTopics ["orders"]) (some "busy"))]
  have herror : ((b.prepared none none none).run false).1 =
      .error (.action "cleanup" ⟨"action refused", ["busy"]⟩) := by rfl
  have hok : ((b.prepared none none none).run true).1 = .ok ⟨true, 2, 0, 0, 0⟩ := by rfl
  have hflush : ((b.prepared none (some "pipe closed") none).run true).1 =
      .error (.output "pipe closed") := by rfl
  exact ⟨hstored, ((hrun false none none none).1 _ herror).2.1, hflush,
    ((hrun true none (some "pipe closed") none).1 _ hflush).1, _, hok,
    ((hrun true none none none).2 _ hok).2.2.2⟩

end Bench
end KafkaTopology
