import KafkaTopology.State
import Mathlib.Init
/-!
# Orders that tell everything apart

Bindings and artefacts that are equal in their order are equal. For accounts this fails: their
order ignores the description.
-/
namespace KafkaTopology

open Std

theorem eq_of_compareOn {α β : Type} [Ord β] [LawfulEqOrd β] {f : α → β} {a b : α}
    (h : compareOn f a b = .eq) : f a = f b := LawfulEqOrd.eq_of_compare h

theorem Acl.Resource.eq_of_rank_eq {r s : Resource} (h : r.rank = s.rank) : r = s := by
  cases r <;> cases s <;> first | rfl | cases h

theorem Acl.Pattern.eq_of_rank_eq {p q : Pattern} (h : p.rank = q.rank) : p = q := by
  cases p <;> cases q <;> first | rfl | cases h

theorem Acl.Operation.eq_of_rank_eq {o p : Operation} (h : o.rank = p.rank) : o = p := by
  cases o <;> cases p <;> first | rfl | cases h

instance : LawfulEqOrd Acl.Binding where
  eq_of_compare {a b} h := by
    change Acl.Binding.order a b = .eq at h
    simp only [Acl.Binding.order, compareLex_eq_eq] at h
    obtain ⟨hresource, hname, hpattern, hprincipal, hoperation, hhost⟩ := h
    obtain ⟨r, n, p, u, o, w⟩ := a
    obtain ⟨r', n', p', u', o', w'⟩ := b
    have hresource : r = r' := Acl.Resource.eq_of_rank_eq (eq_of_compareOn hresource)
    have hname : n = n' := eq_of_compareOn hname
    have hpattern : p = p' := Acl.Pattern.eq_of_rank_eq (eq_of_compareOn hpattern)
    have hprincipal : u = u' := eq_of_compareOn hprincipal
    have hoperation : o = o' := Acl.Operation.eq_of_rank_eq (eq_of_compareOn hoperation)
    have hhost : w = w' := eq_of_compareOn hhost
    rw [hresource, hname, hpattern, hprincipal, hoperation, hhost]

instance : LawfulEqOrd Artefact where
  eq_of_compare {a b} h := by
    change Artefact.order a b = .eq at h
    simp only [Artefact.order, compareLex_eq_eq] at h
    obtain ⟨hserver, hname, hpath⟩ := h
    obtain ⟨s, n, p⟩ := a
    obtain ⟨s', n', p'⟩ := b
    have hserver : s = s' := eq_of_compareOn hserver
    have hname : n = n' := eq_of_compareOn hname
    have hpath : p = p' := eq_of_compareOn hpath
    rw [hserver, hname, hpath]

theorem Account.compare_eq_iff {a b : Account} :
    compare a b = .eq ↔ a.principal = b.principal :=
  Std.LawfulEqOrd.compare_eq_iff_eq (α := String)

end KafkaTopology
