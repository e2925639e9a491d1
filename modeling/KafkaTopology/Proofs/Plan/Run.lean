import KafkaTopology.Plan
import KafkaTopology.Proofs.Attempt
import KafkaTopology.Proofs.OrderedSet
/-!
# Runs of a plan

What the loop over the steps does: it succeeds exactly if every step does in its turn, and then the
effects have been folded and counted in order (`execute_of_succeed`, `execute_ok`). A run that
executes is that loop followed by a commit (`runAll_run`); a preview writes lines and leaves
everything but the sink alone.
-/
namespace KafkaTopology

namespace RunSummary

/-- Counts executed steps, in order. -/
def countAll (summary : RunSummary) (effects : List Effect) : RunSummary :=
  effects.foldl (fun s e => s.count e.direction) summary

theorem countAll_cons (summary : RunSummary) (e : Effect) (es : List Effect) :
    summary.countAll (e :: es) = (summary.count e.direction).countAll es := rfl

theorem applied_countAll (summary : RunSummary) (es : List Effect) :
    (summary.countAll es).applied = summary.applied + es.length := by
  induction es generalizing summary with
  | nil => rfl
  | cons e es ih =>
    rw [countAll_cons, ih, List.length_cons]
    cases e.direction <;> simp only [count] <;> omega

theorem created_add_removed_countAll (summary : RunSummary) (es : List Effect) :
    (summary.countAll es).created + (summary.countAll es).removed =
      summary.created + summary.removed + es.length := by
  induction es generalizing summary with
  | nil => rfl
  | cons e es ih =>
    rw [countAll_cons, ih, List.length_cons]
    cases e.direction <;> simp only [count] <;> omega

end RunSummary

namespace Backend

@[simp]
theorem staged_refill (b : Backend) (s : State) : (b.refill s).staged = s := by
  show State.mk (OrderedSet.insertAll ∅ s.bindings.toList)
    (OrderedSet.insertAll ∅ s.accounts.toList) (OrderedSet.insertAll ∅ s.topics.toList)
    (OrderedSet.insertAll ∅ s.artefacts.toList) = s
  simp only [OrderedSet.insertAll_empty_toList]

theorem snapshot_eq (b : Backend) : b.snapshot = b.staged := by
  simp only [snapshot, State.ofLists, OrderedSet.ofList_toList]

end Backend

theorem State.eq_empty_of_size_eq_zero {s : State} (h : s.size = 0) : s = .empty := by
  obtain ⟨bindings, accounts, topics, artefacts⟩ := s
  simp only [State.size, OrderedSet.size, Nat.add_eq_zero_iff, List.length_eq_zero_iff] at h
  obtain ⟨⟨⟨hb, ha⟩, ht⟩, hc⟩ := h
  have hb : bindings = ∅ := OrderedSet.ext hb
  have ha : accounts = ∅ := OrderedSet.ext ha
  have ht : topics = ∅ := OrderedSet.ext ht
  have hc : artefacts = ∅ := OrderedSet.ext hc
  rw [hb, ha, ht, hc, State.empty]

/-- Lines that are all written have all been counted. -/
theorem Sink.writeLines_ok {s : Sink} {lines : List String} {n m : Nat}
    (h : (s.writeLines lines n).2 = .ok m) : m = n + lines.length := by
  induction lines generalizing s n with
  | nil =>
    cases h
    rfl
  | cons line rest ih =>
    rw [Sink.writeLines] at h
    split at h
    · rw [ih h, List.length_cons]
      omega
    · cases h

namespace Plan

variable {ω : Type}

/-- A plan begins with the state that its medium holds. -/
theorem init_run (medium : Medium ω) (sink : Sink) (w : ω) :
    (init medium sink).run.run w =
      match medium.fetch.on w with
      | (.error f, w) => (.error (.load f), w)
      | (.ok s, w) => (.ok ⟨[], ⟨s.state, s.writtenAt⟩, sink, s.state⟩, w) := by
  have hload : (Backend.load medium .fresh).run.run w =
      match medium.fetch.on w with
      | (.error f, w) => (.error f, w)
      | (.ok s, w) => (.ok ⟨s.state, s.writtenAt⟩, w) := by
    rw [← Attempt.on, Backend.load, Attempt.on_bind]
    rcases medium.fetch.on w with ⟨f | s, w₁⟩ <;> rfl
  rw [init, ExceptT.run_mk, run_bind, hload]
  rcases medium.fetch.on w with ⟨f | s, w₁⟩
  · rfl
  · show (Except.ok (Plan.mk [] ⟨s.state, s.writtenAt⟩ sink _), w₁) = _
    rw [Backend.snapshot_eq, Backend.size]
    split
    · rfl
    · next hsize =>
      have hempty : s.state = .empty :=
        State.eq_empty_of_size_eq_zero (Nat.eq_zero_of_not_pos hsize)
      simp only [hempty]

/-- A commit fills the backend and has the medium save what it holds. -/
theorem commit_run (medium : Medium ω) (p : Plan ω) (s : State) (w : ω) :
    (p.commit medium s).run w =
      match (medium.save s).on w with
      | (.error f, w) => ((.error (.commit f), { p with backend := p.backend.refill s }), w)
      | (.ok writtenAt, w) => ((.ok (), { p with backend := ⟨s, writtenAt⟩, state := s }), w) := by
  have hflush : ((p.backend.refill s).flush medium).run.run w =
      match (medium.save s).on w with
      | (.error f, w) => (.error f, w)
      | (.ok writtenAt, w) => (.ok ⟨s, writtenAt⟩, w) := by
    rw [← Attempt.on, Backend.flush, Attempt.on_bind, Backend.staged_refill]
    rcases (medium.save s).on w with ⟨f | writtenAt, w₁⟩ <;> rfl
  rw [commit, run_bind, hflush]
  rcases (medium.save s).on w with ⟨f | writtenAt, w₁⟩ <;> rfl

/-- Every step succeeds when the steps are carried out one after the other. -/
def Succeed : List (Step ω) → ω → Prop
  | [], _ => True
  | step :: rest, w => (step.run.on w).1 = .ok () ∧ Succeed rest (step.run.on w).2

theorem execute_nil (s : State) (summary : RunSummary) (w : ω) :
    (execute [] s summary).run w = (.ok (s, summary), w) := rfl

theorem execute_cons (step : Step ω) (rest : List (Step ω)) (s : State) (summary : RunSummary)
    (w : ω) :
    (execute (step :: rest) s summary).run w =
      match step.run.on w with
      | (.error f, w) => (.error (.action step.description f), w)
      | (.ok (), w) =>
        (execute rest (s.apply step.effect) (summary.count step.effect.direction)).run w := by
  rw [execute, run_bind]
  rcases h : step.run.on w with ⟨f | _, w₁⟩
  · rw [Attempt.on] at h
    rw [h]
    rfl
  · rw [Attempt.on] at h
    rw [h]

/-- The loop ends well only if every step succeeded, with all effects folded and counted. -/
theorem execute_ok {steps : List (Step ω)} {s s' : State} {summary summary' : RunSummary}
    {w w' : ω} (h : (execute steps s summary).run w = (.ok (s', summary'), w')) :
    Succeed steps w ∧ s' = s.applyAll (steps.map (·.effect)) ∧
      summary' = summary.countAll (steps.map (·.effect)) := by
  induction steps generalizing s summary w with
  | nil =>
    rw [execute_nil] at h
    cases h
    exact ⟨trivial, rfl, rfl⟩
  | cons step rest ih =>
    rw [execute_cons] at h
    rcases hrun : step.run.on w with ⟨f | _, w₁⟩
    · rw [hrun] at h
      cases h
    · rw [hrun] at h
      obtain ⟨hrest, hs, hsum⟩ := ih h
      exact ⟨⟨by rw [hrun], by rwa [hrun]⟩, hs, hsum⟩

/-- If every step succeeds, the loop ends well. -/
theorem execute_of_succeed {steps : List (Step ω)} {w : ω} (h : Succeed steps w) (s : State)
    (summary : RunSummary) :
    ∃ w', (execute steps s summary).run w =
      (.ok (s.applyAll (steps.map (·.effect)), summary.countAll (steps.map (·.effect))), w') := by
  induction steps generalizing s summary w with
  | nil => exact ⟨w, rfl⟩
  | cons step rest ih =>
    obtain ⟨hstep, hrest⟩ := h
    obtain ⟨w', hw'⟩ := ih hrest (s.apply step.effect) (summary.count step.effect.direction)
    refine ⟨w', ?_⟩
    rw [execute_cons]
    rcases hrun : step.run.on w with ⟨f | _, w₁⟩
    · simp [hrun] at hstep
    · rw [hrun] at hw'
      exact hw'

/-- The loop does to the world what the steps do in turn, and it ends as they do. -/
theorem execute_forM (steps : List (Step ω)) (s : State) (summary : RunSummary) (w : ω) :
    ((execute steps s summary).run w).2 = ((steps.forM (·.run)).on w).2 ∧
      ((execute steps s summary).run w).1.isOk = ((steps.forM (·.run)).on w).1.isOk := by
  induction steps generalizing s summary w with
  | nil => exact ⟨rfl, rfl⟩
  | cons step rest ih =>
    show _ = ((step.run >>= fun _ => rest.forM (·.run)).on w).2 ∧
      _ = ((step.run >>= fun _ => rest.forM (·.run)).on w).1.isOk
    rw [execute_cons, Attempt.on_bind]
    rcases step.run.on w with ⟨f | _, w₁⟩
    · exact ⟨rfl, rfl⟩
    · exact ih _ _ w₁

theorem runAll_run (medium : Medium ω) (p : Plan ω) (w : ω) :
    (p.runAll medium).run w =
      match (execute p.steps p.state (.start false)).run w with
      | (.error e, w) => ((.error e, p), w)
      | (.ok (s, summary), w) =>
        match (p.commit medium s).run w with
        | ((.error e, p), w) => ((.error e, p), w)
        | ((.ok (), p), w) => ((.ok summary, p), w) := by
  rw [runAll, run_bind]
  rcases (execute p.steps p.state (.start false)).run w with ⟨e | ⟨s, summary⟩, w₁⟩
  · rfl
  · show (p.commit medium s >>= _).run w₁ = _
    rw [run_bind]
    simp only
    rcases (p.commit medium s).run w₁ with ⟨⟨e | _, p'⟩, w₂⟩ <;> rfl

/-! ## Previews -/

theorem state_preview (p : Plan ω) : p.preview.2.state = p.state := by
  rw [preview]
  rcases p.sink.writeLines _ 0 with ⟨⟨written, room, _ | reason⟩, n | n⟩ <;> rfl

theorem steps_preview (p : Plan ω) : p.preview.2.steps = p.steps := by
  rw [preview]
  rcases p.sink.writeLines _ 0 with ⟨⟨written, room, _ | reason⟩, n | n⟩ <;> rfl

/-- A preview that ends well has counted every step. -/
theorem previewed_of_ok {p : Plan ω} {summary : RunSummary} (h : p.preview.1 = .ok summary) :
    summary.previewed = p.size := by
  rw [preview] at h
  rcases hlines : p.sink.writeLines (p.steps.map (·.description)) 0 with
    ⟨⟨written, room, _ | reason⟩, n | n⟩ <;> rw [hlines] at h
  case none.ok =>
    cases h
    have hn : n = 0 + (p.steps.map (·.description)).length :=
      Sink.writeLines_ok (by rw [hlines])
    simpa [size] using hn
  all_goals cases h

end Plan
end KafkaTopology
