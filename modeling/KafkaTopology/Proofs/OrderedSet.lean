import KafkaTopology.OrderedSet
import Mathlib.Data.List.Pairwise
import Mathlib.Data.List.Sort
/-!
# Laws of ordered sets

Everything about a set is said through `find?`, its element that is equal in the order to a given
one. Sets with the same `find?` are the same set (`ext_find?`), and every operation has one
equation for it. Where equal in the order means equal, `isSome_find?_iff` turns these equations into
equations for membership.
-/
namespace KafkaTopology

open Std

theorem Increasing.nodup_map {α β : Type} [Ord α] {xs : List α} (h : Increasing xs) {f : α → β}
    (hf : ∀ a b, f a = f b → compare a b = .eq) : (xs.map f).Nodup :=
  List.pairwise_map.2 (h.imp fun {a b} hlt heq => by simp [hf a b heq] at hlt)

theorem Increasing.nodup {α : Type} [Ord α] [TransOrd α] {xs : List α} (h : Increasing xs) :
    xs.Nodup :=
  List.map_id xs ▸ h.nodup_map fun a b (heq : a = b) => heq ▸ ReflOrd.compare_self

namespace OrderedSet

section
variable {α : Type} [Ord α]

/-- The element that is equal to `x` in the order. -/
def find? (s : OrderedSet α) (x : α) : Option α := s.toList.find? (fun y => compare x y == .eq)

theorem mem_toList {s : OrderedSet α} {x : α} : x ∈ s.toList ↔ x ∈ s := Iff.rfl

theorem not_mem_empty (x : α) : x ∉ (∅ : OrderedSet α) := List.not_mem_nil

@[simp]
theorem find?_empty (x : α) : (∅ : OrderedSet α).find? x = none := rfl

theorem mem_filter {p : α → Bool} {s : OrderedSet α} {x : α} :
    x ∈ s.filter p ↔ x ∈ s ∧ p x = true := List.mem_filter

variable [TransOrd α]

/-- A set holds no two elements that are equal in the order. -/
theorem eq_of_compare_eq {s : OrderedSet α} {x y : α} (hx : x ∈ s) (hy : y ∈ s)
    (h : compare x y = .eq) : x = y := by
  have hne : s.toList.Pairwise (fun a b => compare a b ≠ .eq) :=
    s.increasing.imp (fun hlt heq => by simp [hlt] at heq)
  have : Std.Symm (fun a b : α => compare a b ≠ .eq) :=
    ⟨fun _ _ hab hba => hab (OrientedCmp.eq_symm hba)⟩
  by_contra hxy
  exact hne.forall hx hy hxy h

theorem find?_eq_some_iff {s : OrderedSet α} {x y : α} :
    s.find? x = some y ↔ y ∈ s ∧ compare x y = .eq := by
  constructor
  · intro h
    exact ⟨List.mem_of_find?_eq_some h, by simpa using List.find?_some h⟩
  · rintro ⟨hy, hxy⟩
    obtain ⟨z, hz⟩ : ∃ z, s.find? x = some z :=
      Option.isSome_iff_exists.1 (List.find?_isSome.2 ⟨y, hy, by simp [hxy]⟩)
    have hxz : compare x z = .eq := by simpa using List.find?_some hz
    have hzy : z = y := eq_of_compare_eq (List.mem_of_find?_eq_some hz) hy
      (TransCmp.eq_trans (OrientedCmp.eq_symm hxz) hxy)
    rw [hz, hzy]

theorem mem_iff_find?_self {s : OrderedSet α} {x : α} : x ∈ s ↔ s.find? x = some x := by
  simp [find?_eq_some_iff]

theorem find?_congr (s : OrderedSet α) {x y : α} (h : compare x y = .eq) :
    s.find? x = s.find? y := by
  ext z
  simp only [find?_eq_some_iff, TransCmp.congr_left h]

omit [TransOrd α] in
theorem find?_eq_none_iff {s : OrderedSet α} {x : α} :
    s.find? x = none ↔ ∀ y ∈ s, compare x y ≠ .eq := by
  simp [find?, List.find?_eq_none, mem_toList]

omit [TransOrd α] in
theorem contains_eq_isSome (s : OrderedSet α) (x : α) : s.contains x = (s.find? x).isSome := by
  rw [Bool.eq_iff_iff]
  simp [contains, find?, List.find?_isSome]

/-- A set is known by its elements. -/
theorem ext_mem {s t : OrderedSet α} (h : ∀ x, x ∈ s ↔ x ∈ t) : s = t := by
  have : Std.Irrefl (fun a b : α => compare a b = .lt) := ⟨fun a ha => by simp at ha⟩
  have : Std.Antisymm (fun a b : α => compare a b = .lt) :=
    ⟨fun a b hab hba => absurd hba (OrientedCmp.not_lt_of_lt hab)⟩
  exact OrderedSet.ext (List.Pairwise.eq_of_mem_iff s.increasing t.increasing h)

/-- A set is known by what it finds. -/
theorem ext_find? {s t : OrderedSet α} (h : ∀ x, s.find? x = t.find? x) : s = t :=
  ext_mem fun x => by rw [mem_iff_find?_self, mem_iff_find?_self, h]

/-! ## Removing -/

/-- Filtering by a test that does not tell equal elements apart. -/
theorem find?_filter (s : OrderedSet α) (p : α → Bool) (x : α)
    (hp : ∀ y, compare x y = .eq → p x = p y) :
    (s.filter p).find? x = if p x = true then s.find? x else none := by
  ext y
  split
  · rename_i hx
    rw [find?_eq_some_iff, find?_eq_some_iff, mem_filter]
    exact ⟨fun h => ⟨h.1.1, h.2⟩, fun h => ⟨⟨h.1, hp y h.2 ▸ hx⟩, h.2⟩⟩
  · rename_i hx
    rw [find?_eq_some_iff, mem_filter]
    exact ⟨fun h => absurd (hp y h.2 ▸ h.1.2) hx, fun h => by simp at h⟩

theorem find?_eraseAll (s : OrderedSet α) (xs : List α) (x : α) :
    (s.eraseAll xs).find? x =
      if (xs.any fun y => compare x y == .eq) then none else s.find? x := by
  have hcongr : ∀ z, compare x z = .eq →
      (xs.any fun y => compare y x == .eq) = (xs.any fun y => compare y z == .eq) :=
    fun z hz => by simp only [TransCmp.congr_right hz]
  have hswap : (xs.any fun y => compare y x == .eq) = (xs.any fun y => compare x y == .eq) := by
    have hcomm : ∀ y : α, compare y x = .eq ↔ compare x y = .eq := fun _ => OrientedCmp.eq_comm
    rw [Bool.eq_iff_iff]
    simp [hcomm]
  rw [eraseAll, find?_filter s _ x (fun z hz => by rw [hcongr z hz]), hswap]
  cases xs.any (fun y => compare x y == .eq) <;> rfl

omit [TransOrd α] in
theorem mem_diff_iff {s t : OrderedSet α} {x : α} :
    x ∈ s.diff t ↔ x ∈ s ∧ ∀ y ∈ t, compare x y ≠ .eq := by
  rw [diff, mem_filter, ← find?_eq_none_iff, contains_eq_isSome]
  cases t.find? x <;> simp

theorem find?_diff (s t : OrderedSet α) (x : α) :
    (s.diff t).find? x = if (t.find? x).isSome then none else s.find? x := by
  rw [diff, find?_filter s _ x fun y hy => by
    rw [contains_eq_isSome, contains_eq_isSome, t.find?_congr hy], contains_eq_isSome]
  cases (t.find? x).isSome <;> rfl

/-! ## Adding -/

/-- Looking in a list after an insertion. -/
theorem find?_insertInOrder {merge : α → α → α} (hm : Merges merge) (x z : α) {ys : List α}
    (h : Increasing ys) :
    (insertInOrder merge x ys).find? (fun y => compare z y == .eq) =
      if compare z x = .eq then
        some (((ys.find? fun y => compare x y == .eq).map (merge x)).getD x)
      else ys.find? (fun y => compare z y == .eq) := by
  induction ys with
  | nil => by_cases hzx : compare z x = .eq <;> simp [insertInOrder, hzx]
  | cons y ys ih =>
    have hys : Increasing ys := (List.pairwise_cons.1 h).2
    have hy : ∀ w ∈ ys, compare y w = .lt := (List.pairwise_cons.1 h).1
    unfold insertInOrder
    split
    · rename_i hxy
      have hnone : ((y :: ys).find? fun w => compare x w == .eq) = none := by
        rw [List.find?_eq_none]
        intro w hw
        rcases List.mem_cons.1 hw with rfl | hw
        · simp [hxy]
        · simp [TransCmp.lt_trans hxy (hy w hw)]
      by_cases hzx : compare z x = .eq
      · simp [hzx, hnone]
      · rw [List.find?_cons_of_neg (by simpa using hzx), if_neg hzx]
    · rename_i hxy
      have hmerge : compare z (merge x y) = compare z x := by
        rw [(hm x y z hxy).2, TransCmp.congr_right hxy]
      by_cases hzx : compare z x = .eq
      · simp [hzx, hmerge, hxy]
      · have hzy : ¬compare z y = .eq := by rwa [← TransCmp.congr_right hxy]
        simp [hzx, hzy, hmerge]
    · rename_i hxy
      by_cases hzx : compare z x = .eq
      · have hzy : compare z y = .gt := by rwa [TransCmp.congr_left hzx]
        simp [ih hys, hzx, hzy, hxy]
      · by_cases hzy : compare z y = .eq <;> simp [ih hys, hzx, hzy]

theorem find?_insert (s : OrderedSet α) (x z : α) :
    (s.insert x).find? z = (s.find? z).or (if compare z x = .eq then some x else none) := by
  have h := find?_insertInOrder merges_keep x z s.increasing
  rw [find?, insert, h]
  by_cases hzx : compare z x = .eq
  · rw [if_pos hzx, if_pos hzx, s.find?_congr hzx, find?]
    cases s.toList.find? (fun y => compare x y == .eq) <;> rfl
  · rw [if_neg hzx, if_neg hzx, Option.or_none, find?]

theorem find?_put (s : OrderedSet α) (x z : α) :
    (s.put x).find? z = if compare z x = .eq then some x else s.find? z := by
  have h := find?_insertInOrder merges_replace x z s.increasing
  rw [find?, put, h]
  by_cases hzx : compare z x = .eq
  · rw [if_pos hzx, if_pos hzx]
    cases s.toList.find? (fun y => compare x y == .eq) <;> rfl
  · rw [if_neg hzx, if_neg hzx, find?]

/-- What is there stays; then the first of the added elements counts. -/
theorem find?_insertAll (s : OrderedSet α) (xs : List α) (z : α) :
    (s.insertAll xs).find? z = (s.find? z).or (xs.find? fun x => compare z x == .eq) := by
  induction xs generalizing s with
  | nil => simp [insertAll]
  | cons x xs ih =>
    have hstep : s.insertAll (x :: xs) = (s.insert x).insertAll xs := rfl
    rw [hstep, ih, find?_insert, Option.or_assoc]
    by_cases hzx : compare z x = .eq <;> simp [hzx]

theorem find?_foldl_put (xs : List α) (s : OrderedSet α) (z : α) :
    (xs.foldl put s).find? z = (xs.reverse.find? fun x => compare z x == .eq).or (s.find? z) := by
  induction xs generalizing s with
  | nil => simp
  | cons x xs ih =>
    rw [List.foldl_cons, ih, find?_put, List.reverse_cons, List.find?_append, Option.or_assoc]
    by_cases hzx : compare z x = .eq <;> simp [hzx]

/-- Of the listed elements that are equal in the order the last counts. -/
theorem find?_ofList (xs : List α) (z : α) :
    (ofList xs).find? z = xs.reverse.find? fun x => compare z x == .eq := by
  rw [ofList, find?_foldl_put]
  exact Option.or_none

theorem mem_of_mem_ofList {xs : List α} {x : α} (h : x ∈ ofList xs) : x ∈ xs := by
  have hfind : xs.reverse.find? (fun y => compare x y == .eq) = some x := by
    rw [← find?_ofList, mem_iff_find?_self.1 h]
  exact List.mem_reverse.1 (List.mem_of_find?_eq_some hfind)

/-- Any list of a set's elements finds what the set finds. -/
theorem find?_of_mem_iff {s : OrderedSet α} {xs : List α} (h : ∀ y, y ∈ xs ↔ y ∈ s) (z : α) :
    (xs.find? fun x => compare z x == .eq) = s.find? z := by
  cases hz : xs.find? fun x => compare z x == .eq with
  | some y =>
    have hy : y ∈ s := (h y).1 (List.mem_of_find?_eq_some hz)
    exact (find?_eq_some_iff.2 ⟨hy, by simpa using List.find?_some hz⟩).symm
  | none =>
    refine (find?_eq_none_iff.2 fun y hy => ?_).symm
    simpa using List.find?_eq_none.1 hz y ((h y).2 hy)

theorem ofList_toList (s : OrderedSet α) : ofList s.toList = s :=
  ext_find? fun z => by rw [find?_ofList, find?_of_mem_iff fun y => List.mem_reverse]

theorem insertAll_empty_toList (s : OrderedSet α) : insertAll ∅ s.toList = s :=
  ext_find? fun z => by
    rw [find?_insertAll, find?_of_mem_iff fun y => Iff.rfl, find?_empty, Option.none_or]

/-- The elements of two sets; of equal ones that of the first set. -/
def union (s t : OrderedSet α) : OrderedSet α := s.insertAll t.toList

/-! ## Keeping what is known -/

/-- What `t` has in place of `x`, if it has an equal element. -/
def known (t : OrderedSet α) (x : α) : α := (t.find? x).getD x

theorem compare_known_left (t : OrderedSet α) (x z : α) : compare (t.known x) z = compare x z := by
  rw [known]
  cases hx : t.find? x with
  | none => rfl
  | some y => exact (TransCmp.congr_left (find?_eq_some_iff.1 hx).2).symm

theorem compare_known_right (t : OrderedSet α) (x z : α) :
    compare z (t.known x) = compare z x := by
  rw [known]
  cases hx : t.find? x with
  | none => rfl
  | some y => exact (TransCmp.congr_right (find?_eq_some_iff.1 hx).2).symm

/-- The elements of `s`, each as it stands in `t` if `t` has an equal one. -/
def preferring (s t : OrderedSet α) : OrderedSet α where
  toList := s.toList.map t.known
  increasing := by
    rw [Increasing, List.pairwise_map]
    refine s.increasing.imp fun {a b} hab => ?_
    rw [compare_known_left, compare_known_right]
    exact hab

theorem mem_preferring {s t : OrderedSet α} {x : α} :
    x ∈ s.preferring t ↔ ∃ y ∈ s, t.known y = x := List.mem_map

theorem find?_preferring (s t : OrderedSet α) (z : α) :
    (s.preferring t).find? z = (s.find? z).map fun x => (t.find? z).getD x := by
  rw [find?, preferring, List.find?_map]
  have hsame : ((fun y => compare z y == .eq) ∘ t.known) = fun y => compare z y == .eq :=
    funext fun y => by rw [Function.comp_apply, compare_known_right]
  rw [hsame]
  show (s.find? z).map t.known = _
  cases hz : s.find? z with
  | none => rfl
  | some x => rw [Option.map_some, Option.map_some, known,
      t.find?_congr (OrientedCmp.eq_symm (find?_eq_some_iff.1 hz).2)]

/-! ## Membership where only equal elements compare as equal -/

variable [LawfulEqOrd α]

theorem isSome_find?_iff {s : OrderedSet α} {x : α} : (s.find? x).isSome = true ↔ x ∈ s := by
  rw [Option.isSome_iff_exists]
  refine ⟨fun ⟨y, hy⟩ => ?_, fun hx => ⟨x, mem_iff_find?_self.1 hx⟩⟩
  obtain ⟨hy, hxy⟩ := find?_eq_some_iff.1 hy
  exact LawfulEqOrd.eq_of_compare hxy ▸ hy

theorem contains_iff_mem {s : OrderedSet α} {x : α} : s.contains x = true ↔ x ∈ s := by
  rw [contains_eq_isSome, isSome_find?_iff]

theorem mem_insertAll {s : OrderedSet α} {xs : List α} {z : α} :
    z ∈ s.insertAll xs ↔ z ∈ s ∨ z ∈ xs := by
  rw [← isSome_find?_iff, find?_insertAll, Option.isSome_or, Bool.or_eq_true, isSome_find?_iff]
  simp [List.find?_isSome]

theorem mem_insert {s : OrderedSet α} {x z : α} : z ∈ s.insert x ↔ z ∈ s ∨ z = x := by
  show z ∈ s.insertAll [x] ↔ _
  rw [mem_insertAll, List.mem_singleton]

theorem mem_union {s t : OrderedSet α} {z : α} : z ∈ s.union t ↔ z ∈ s ∨ z ∈ t := mem_insertAll

theorem mem_ofList {xs : List α} {z : α} : z ∈ ofList xs ↔ z ∈ xs := by
  rw [← isSome_find?_iff, find?_ofList]
  simp [List.find?_isSome]

theorem mem_eraseAll {s : OrderedSet α} {xs : List α} {z : α} :
    z ∈ s.eraseAll xs ↔ z ∈ s ∧ z ∉ xs := by
  rw [← isSome_find?_iff, find?_eraseAll, ← isSome_find?_iff]
  by_cases hz : z ∈ xs <;> simp [hz]

theorem mem_diff {s t : OrderedSet α} {z : α} : z ∈ s.diff t ↔ z ∈ s ∧ z ∉ t := by
  rw [diff, mem_filter, Bool.not_eq_true', ← Bool.not_eq_true, contains_iff_mem]

theorem preferring_eq_self (s t : OrderedSet α) : s.preferring t = s := by
  refine ext_mem fun x => ?_
  have hknown : ∀ y, t.known y = y := fun y =>
    LawfulEqOrd.eq_of_compare (by rw [compare_known_left, ReflOrd.compare_self])
  simp [mem_preferring, hknown]

end
end OrderedSet
end KafkaTopology
