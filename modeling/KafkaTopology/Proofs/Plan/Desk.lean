import KafkaTopology.Action
import KafkaTopology.Proofs.Plan.Run
/-!
# Plans over a memory store

A `Desk` is an outside world with a memory store beside it. Steps act on the outside alone
(`Step.outer`), and only a plan's commit reaches the store. `runAll_desk` says all that an
executing run does there: the steps' loop on the outside, then the one write to the store unless it
is refused.
-/
namespace KafkaTopology

/-- An outside world with a memory store that is no part of it. -/
structure Desk (ω : Type) where
  store : MemoryStore
  outside : ω

namespace Desk

variable {ω α β : Type}

/-- The store as a medium. -/
def medium : Medium (Desk ω) := MemoryStore.medium Desk.store (fun m d => { d with store := m })

/-- A desk whose store holds a state and refuses nothing. -/
def holding (s : State) (w : ω) : Desk ω := ⟨.ofState s, w⟩

/-- An attempt on the outside. -/
def outer (a : Attempt ω α) : Attempt (Desk ω) α :=
  ExceptT.mk fun d => ((a.on d.outside).1, { d with outside := (a.on d.outside).2 })

theorem on_outer (a : Attempt ω α) (d : Desk ω) :
    (outer a).on d = ((a.on d.outside).1, { d with outside := (a.on d.outside).2 }) := rfl

theorem outer_bind (x : Attempt ω α) (f : α → Attempt ω β) :
    outer (x >>= f) = outer x >>= fun a => outer (f a) := by
  funext d
  show (outer (x >>= f)).on d = (outer x >>= fun a => outer (f a)).on d
  rw [on_outer, Attempt.on_bind, Attempt.on_bind, on_outer]
  rcases x.on d.outside with ⟨e | a, w⟩ <;> rfl

theorem outer_forM (xs : List β) (f : β → Attempt ω Unit) :
    outer (xs.forM f) = xs.forM fun x => outer (f x) := by
  induction xs with
  | nil => rfl
  | cons x xs ih =>
    show outer (f x >>= fun _ => xs.forM f) =
      (outer (f x) >>= fun _ => xs.forM fun x => outer (f x))
    rw [outer_bind, ih]

end Desk

variable {ω : Type}

/-- A step on the outside. -/
def Step.outer (s : Step ω) : Step (Desk ω) := ⟨s.description, s.effect, Desk.outer s.run⟩

/-- An admin of the outside. -/
def Admin.outer (admin : Admin ω) : Admin (Desk ω) where
  syncTopic name config := Desk.outer (admin.syncTopic name config)
  deleteTopics names := Desk.outer (admin.deleteTopics names)
  addBindings bs := Desk.outer (admin.addBindings bs)
  removeBindings bs := Desk.outer (admin.removeBindings bs)
  upsertAccount a := Desk.outer (admin.upsertAccount a)
  deleteAccount a := Desk.outer (admin.deleteAccount a)
  createConnector a := Desk.outer (admin.createConnector a)
  deleteConnector a := Desk.outer (admin.deleteConnector a)

theorem Action.toStep_outer (admin : Admin ω) (a : Action) :
    a.toStep admin.outer = (a.toStep admin).outer := by
  cases a with
  | createAccounts accounts =>
    exact congrArg (Step.mk _ _) (Desk.outer_forM accounts admin.upsertAccount).symm
  | clearAccounts accounts =>
    exact congrArg (Step.mk _ _) (Desk.outer_forM accounts admin.deleteAccount).symm
  | _ => rfl

namespace Plan

/-- The loop over steps on the outside does not see the store. -/
theorem execute_outer (steps : List (Step ω)) (s : State) (summary : RunSummary) (d : Desk ω) :
    (execute (steps.map Step.outer) s summary).run d =
      (((execute steps s summary).run d.outside).1,
        { d with outside := ((execute steps s summary).run d.outside).2 }) := by
  induction steps generalizing s summary d with
  | nil => rfl
  | cons step rest ih =>
    rw [List.map_cons, execute_cons, execute_cons, Step.outer, Desk.on_outer]
    rcases step.run.on d.outside with ⟨f | _, w⟩
    · rfl
    · exact ih _ _ _

/-- A plan over a desk begins with the state that the store holds. -/
theorem init_desk (sink : Sink) (d : Desk ω) (h : d.store.loadRefusal = none) :
    (init Desk.medium sink).run.run d =
      (.ok ⟨[], ⟨d.store.stored, none⟩, sink, d.store.stored⟩, d) := by
  have hfetch : (Desk.medium (ω := ω)).fetch.on d = (.ok ⟨d.store.stored, none⟩, d) := by
    rw [Desk.medium, MemoryStore.medium, Attempt.on_bind_ok (Attempt.on_get d)]
    simp only [h]
    rfl
  rw [init_run, hfetch]

/-- A commit fills the backend, and writes what it holds to the store unless that is refused. -/
theorem commit_desk (p : Plan (Desk ω)) (s : State) (d : Desk ω) :
    (p.commit Desk.medium s).run d =
      match d.store.flushRefusal with
      | some reason =>
        ((.error (.commit (.ofMessage reason)), { p with backend := p.backend.refill s }), d)
      | none =>
        ((.ok (), { p with backend := ⟨s, none⟩, state := s }),
          { d with store := { d.store with stored := s, flushes := d.store.flushes + 1 } }) := by
  rw [commit_run, Desk.medium, MemoryStore.medium]
  simp only
  rw [Attempt.on_bind_ok (Attempt.on_get d)]
  rcases d.store.flushRefusal with _ | reason <;> rfl

/-- All that an executing run of steps on the outside does. -/
theorem runAll_desk {p : Plan (Desk ω)} {xs : List (Step ω)} (hp : p.steps = xs.map Step.outer)
    (d : Desk ω) :
    (p.runAll Desk.medium).run d =
      match (execute xs p.state (.start false)).run d.outside with
      | (.error e, w) => ((.error e, p), { d with outside := w })
      | (.ok (s, summary), w) =>
        match d.store.flushRefusal with
        | some reason =>
          ((.error (.commit (.ofMessage reason)), { p with backend := p.backend.refill s }),
            { d with outside := w })
        | none =>
          ((.ok summary, { p with backend := ⟨s, none⟩, state := s }),
            ⟨{ d.store with stored := s, flushes := d.store.flushes + 1 }, w⟩) := by
  rw [runAll_run]
  conv_lhs => rw [hp, execute_outer]
  rcases (execute xs p.state (.start false)).run d.outside with ⟨e | ⟨s, summary⟩, w⟩
  · rfl
  · simp only [commit_desk]
    cases d.store.flushRefusal <;> rfl

end Plan
end KafkaTopology
