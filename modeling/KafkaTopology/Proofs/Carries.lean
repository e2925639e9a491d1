import KafkaTopology.Proofs.Attempt
/-!
# Carrying out operations in order

`Carries log holds ops act` says that the attempt `act` carries out the operations `ops` one after
the other: what it adds to the log is all of them if it succeeds, and the first few of them if it
fails. What `holds` of the world beforehand holds of it afterwards. The predicate is closed under
the ways of putting attempts together, so the operations of a large attempt can be read off its
parts.
-/
namespace KafkaTopology

variable {ω ι α β : Type}

/-- An attempt that carries operations out in order, up to the first that fails. -/
def Carries (log : ω → List ι) (holds : ω → Prop) (ops : List ι) (act : Attempt ω α) : Prop :=
  ∀ w, holds w → holds (act.on w).2 ∧ ∃ done, log (act.on w).2 = log w ++ done ∧ done <+: ops ∧
    ((act.on w).1.isOk = true → done = ops)

namespace Carries

variable {log : ω → List ι} {holds : ω → Prop} {ops ops' : List ι}

theorem pure (a : α) : Carries log holds [] (pure a : Attempt ω α) :=
  fun _ hw => ⟨hw, [], (List.append_nil _).symm, List.nil_prefix, fun _ => rfl⟩

theorem bind {x : Attempt ω α} {f : α → Attempt ω β} (hx : Carries log holds ops x)
    (hf : ∀ a, Carries log holds ops' (f a)) : Carries log holds (ops ++ ops') (x >>= f) := by
  intro w hw
  obtain ⟨hw₁, done, hdone, hpre, hok⟩ := hx w hw
  rcases hrun : x.on w with ⟨e | a, w₁⟩
  · rw [hrun] at hw₁ hdone
    rw [Attempt.on_bind_error hrun]
    exact ⟨hw₁, done, hdone, hpre.trans (List.prefix_append _ _), fun h => by cases h⟩
  · rw [hrun] at hw₁ hdone hok
    obtain ⟨hw₂, done', hdone', hpre', hok'⟩ := hf a w₁ hw₁
    rw [Attempt.on_bind_ok hrun]
    have hall : done = ops := hok rfl
    refine ⟨hw₂, done ++ done', ?_, ?_, fun h => ?_⟩
    · rw [hdone', hdone, List.append_assoc]
    · rw [hall]
      exact (List.prefix_append_right_inj ops).2 hpre'
    · rw [hall, hok' h]

theorem forM {f : α → Attempt ω Unit} {ops : α → List ι} (h : ∀ a, Carries log holds (ops a) (f a))
    (xs : List α) : Carries log holds (xs.flatMap ops) (xs.forM f) := by
  induction xs with
  | nil => exact pure ()
  | cons x xs ih =>
    rw [List.flatMap_cons]
    exact (h x).bind fun _ => ih

theorem context {act : Attempt ω α} (h : Carries log holds ops act) (message : String) :
    Carries log holds ops (act.context message) := by
  intro w hw
  obtain ⟨hw', done, hdone, hpre, hok⟩ := h w hw
  rw [Attempt.on_context]
  refine ⟨hw', done, hdone, hpre, fun hs => hok ?_⟩
  rcases hrun : (act.on w).1 with e | a
  · rw [hrun] at hs
    cases hs
  · rfl

end Carries
end KafkaTopology
