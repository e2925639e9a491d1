import KafkaTopology.Proofs.OrderedSet
import KafkaTopology.State
/-!
# Folding effects

An effect changes one of the four sets of a state, by adding or by removing a list of entries.
What a sequence of changes does to a set is decided entry by entry (`find?_changeAll`), and there
it either forgets what was known before or only fills in what was missing. So a sequence that has
been folded once changes nothing when it is folded again (`applyAll_applyAll`).
-/
namespace KafkaTopology

open Std

/-- A change to a set. -/
inductive Change (α : Type) where
  | add (xs : List α)
  | remove (xs : List α)
deriving DecidableEq, Repr

namespace Change

variable {α : Type} [Ord α]

/-- What a change makes of what is known of the entry `z`. -/
def revise (z : α) : Change α → Option α → Option α
  | .add xs, known => known.or (xs.find? fun x => compare z x == .eq)
  | .remove xs, known => if (xs.any fun x => compare z x == .eq) then none else known

variable [TransOrd α]

/-- The set after a change. -/
def on : Change α → OrderedSet α → OrderedSet α
  | .add xs, s => s.insertAll xs
  | .remove xs, s => s.eraseAll xs

theorem find?_on (c : Change α) (s : OrderedSet α) (z : α) :
    (c.on s).find? z = c.revise z (s.find? z) := by
  cases c with
  | add xs => exact s.find?_insertAll xs z
  | remove xs => exact s.find?_eraseAll xs z

end Change

namespace OrderedSet

variable {α : Type} [Ord α] [TransOrd α]

/-- The set after changes, in order. -/
def changeAll (s : OrderedSet α) (cs : List (Change α)) : OrderedSet α :=
  cs.foldl (fun s c => c.on s) s

@[simp]
theorem changeAll_cons (s : OrderedSet α) (c : Change α) (cs : List (Change α)) :
    s.changeAll (c :: cs) = (c.on s).changeAll cs := rfl

theorem changeAll_append (s : OrderedSet α) (cs ds : List (Change α)) :
    s.changeAll (cs ++ ds) = (s.changeAll cs).changeAll ds := List.foldl_append

theorem find?_changeAll (s : OrderedSet α) (cs : List (Change α)) (z : α) :
    (s.changeAll cs).find? z = cs.foldl (fun known c => c.revise z known) (s.find? z) := by
  induction cs generalizing s with
  | nil => rfl
  | cons c cs ih => rw [changeAll_cons, ih, Change.find?_on, List.foldl_cons]

omit [TransOrd α] in
/-- Changes either decide what is known of an entry or supply it where nothing is known. -/
theorem foldl_revise_cases (cs : List (Change α)) (z : α) :
    (∃ v, ∀ known : Option α, cs.foldl (fun k c => c.revise z k) known = v) ∨
    (∃ v, ∀ known : Option α, cs.foldl (fun k c => c.revise z k) known = known.or v) := by
  induction cs with
  | nil => exact .inr ⟨none, fun known => Option.or_none.symm⟩
  | cons c cs ih =>
    rcases ih with ⟨v, hv⟩ | ⟨v, hv⟩
    · exact .inl ⟨v, fun known => hv _⟩
    · cases c with
      | add xs =>
        refine .inr ⟨(xs.find? fun x => compare z x == .eq).or v, fun known => ?_⟩
        rw [List.foldl_cons, hv, Change.revise, Option.or_assoc]
      | remove xs =>
        by_cases hz : (xs.any fun x => compare z x == .eq) = true
        · refine .inl ⟨v, fun known => ?_⟩
          rw [List.foldl_cons, hv, Change.revise, if_pos hz, Option.none_or]
        · refine .inr ⟨v, fun known => ?_⟩
          rw [List.foldl_cons, hv, Change.revise, if_neg hz]

/-- Changes that have been made once change nothing when they are made again. -/
theorem changeAll_changeAll (s : OrderedSet α) (cs : List (Change α)) :
    (s.changeAll cs).changeAll cs = s.changeAll cs := by
  refine ext_find? fun z => ?_
  rw [find?_changeAll, find?_changeAll]
  rcases foldl_revise_cases cs z with ⟨v, hv⟩ | ⟨v, hv⟩
  · rw [hv, hv]
  · rw [hv, hv, Option.or_assoc, Option.or_self]

end OrderedSet

/-! ## The change of each set -/

namespace Effect

/-- What an effect does to the bindings. -/
def onBindings : Effect → Option (Change Acl.Binding)
  | .createBindings bs => some (.add bs)
  | .clearBindings bs => some (.remove bs)
  | _ => none

/-- What an effect does to the accounts. -/
def onAccounts : Effect → Option (Change Account)
  | .createAccounts accounts => some (.add accounts)
  | .clearAccounts accounts => some (.remove accounts)
  | _ => none

/-- What an effect does to the topics. -/
def onTopics : Effect → Option (Change String)
  | .createTopic name => some (.add [name])
  | .deleteTopics names => some (.remove names)
  | _ => none

/-- What an effect does to the artefacts. -/
def onArtefacts : Effect → Option (Change Artefact)
  | .createArtefact a => some (.add [a])
  | .deleteArtefact a => some (.remove [a])
  | _ => none

end Effect

namespace State

theorem apply_eq (s : State) (e : Effect) :
    s.apply e = ⟨s.bindings.changeAll e.onBindings.toList, s.accounts.changeAll e.onAccounts.toList,
      s.topics.changeAll e.onTopics.toList, s.artefacts.changeAll e.onArtefacts.toList⟩ := by
  cases e <;> rfl

theorem applyAll_cons (s : State) (e : Effect) (es : List Effect) :
    s.applyAll (e :: es) = (s.apply e).applyAll es := rfl

theorem applyAll_append (s : State) (es fs : List Effect) :
    s.applyAll (es ++ fs) = (s.applyAll es).applyAll fs := List.foldl_append

/-- Each set goes through the changes that concern it. -/
theorem applyAll_eq (s : State) (es : List Effect) :
    s.applyAll es =
      ⟨s.bindings.changeAll (es.filterMap Effect.onBindings),
        s.accounts.changeAll (es.filterMap Effect.onAccounts),
        s.topics.changeAll (es.filterMap Effect.onTopics),
        s.artefacts.changeAll (es.filterMap Effect.onArtefacts)⟩ := by
  induction es generalizing s with
  | nil => rfl
  | cons e es ih =>
    rw [applyAll_cons, ih, apply_eq]
    cases e <;> rfl

/-- Effects that have been folded once change nothing when they are folded again. -/
theorem applyAll_applyAll (s : State) (es : List Effect) :
    (s.applyAll es).applyAll es = s.applyAll es := by
  simp only [applyAll_eq, OrderedSet.changeAll_changeAll]

/-- Folding effects over a state that the first few of them led to. -/
theorem applyAll_applyAll_take (s : State) (es : List Effect) (k : Nat) :
    (s.applyAll (es.take k)).applyAll es = s.applyAll es := by
  have hsplit : ∀ r : State, r.applyAll es = (r.applyAll (es.take k)).applyAll (es.drop k) :=
    fun r => by rw [← applyAll_append, List.take_append_drop]
  rw [hsplit, applyAll_applyAll, ← hsplit]

end State
end KafkaTopology
