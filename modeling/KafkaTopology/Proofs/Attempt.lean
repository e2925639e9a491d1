import KafkaTopology.Failure
import Mathlib.Init
/-!
# Laws of attempts

What each way of putting attempts together does to a world, said through `Attempt.on`.
-/
namespace KafkaTopology

theorem run_bind {ω α β : Type} (x : StateM ω α) (f : α → StateM ω β) (w : ω) :
    (x >>= f).run w = (f (x.run w).1).run (x.run w).2 := rfl

theorem exceptT_run_bind {ω ε α β : Type} (x : ExceptT ε (StateM ω) α)
    (f : α → ExceptT ε (StateM ω) β) (w : ω) :
    (x >>= f).run.run w =
      match x.run.run w with
      | (.ok a, w) => (f a).run.run w
      | (.error e, w) => (.error e, w) := by
  show ((ExceptT.bindCont f : Except ε α → StateM ω (Except ε β)) (x.run.run w).1).run
    (x.run.run w).2 = _
  rcases x.run.run w with ⟨e | a, w₁⟩ <;> rfl

namespace Attempt

variable {ω α β : Type}

@[simp]
theorem on_get (w : ω) : (getThe ω : Attempt ω ω).on w = (.ok w, w) := rfl

@[simp]
theorem on_modify (f : ω → ω) (w : ω) : (modifyThe ω f : Attempt ω Unit).on w = (.ok (), f w) := rfl

theorem on_bind (x : Attempt ω α) (f : α → Attempt ω β) (w : ω) :
    (x >>= f).on w =
      match x.on w with
      | (.ok a, w) => (f a).on w
      | (.error e, w) => (.error e, w) := by
  rw [on, exceptT_run_bind, on]
  rcases x.run.run w with ⟨e | a, w₁⟩ <;> rfl

theorem on_bind_ok {x : Attempt ω α} {a : α} {w w₁ : ω} (h : x.on w = (.ok a, w₁))
    (f : α → Attempt ω β) : (x >>= f).on w = (f a).on w₁ := by
  rw [on_bind, h]

theorem on_bind_error {x : Attempt ω α} {e : Failure} {w w₁ : ω} (h : x.on w = (.error e, w₁))
    (f : α → Attempt ω β) : (x >>= f).on w = (.error e, w₁) := by
  rw [on_bind, h]

/-- An outer message changes neither whether an attempt fails nor what it does. -/
theorem on_context (message : String) (x : Attempt ω α) (w : ω) :
    (x.context message).on w = ((x.on w).1.mapError (·.within message), (x.on w).2) := by
  rcases h : x.on w with ⟨e | a, w₁⟩ <;> change StateT.run x w = _ at h <;>
  · simp only [on, context, tryCatch, tryCatchThe, MonadExceptOf.tryCatch, ExceptT.tryCatch,
      ExceptT.run_mk]
    rw [run_bind, h]
    rfl

theorem on_lift (x : StateM ω α) (w : ω) :
    (liftM x : Attempt ω α).on w = (.ok (x.run w).1, (x.run w).2) := rfl

theorem forM_ok {f : α → Attempt ω Unit} (h : ∀ a w, ((f a).on w).1 = .ok ())
    (xs : List α) (w : ω) : ((xs.forM f).on w).1 = .ok () := by
  induction xs generalizing w with
  | nil => rfl
  | cons x xs ih =>
    show ((f x >>= fun _ => xs.forM f).on w).1 = .ok ()
    have hx := h x w
    rcases hrun : (f x).on w with ⟨e | _, w'⟩
    · simp [hrun] at hx
    · rw [on_bind_ok hrun]
      exact ih w'

end Attempt
end KafkaTopology
