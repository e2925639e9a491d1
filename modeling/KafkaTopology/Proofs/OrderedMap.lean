import KafkaTopology.Proofs.OrderedSet
import Mathlib.Data.List.Perm.Basic
/-!
# Laws of ordered maps

Setting a key changes what that key has and nothing else (`get?_set`), so that different keys may be
set in any order (`set_comm`). Mapping the elements of a set, or the values of a map, in a way that
keeps their order can be done before or after they are put together. A map is the list of its
entries (`toPairs_inj`), and those under an increasing list of keys stand in it in the order of the
keys (`filter_toPairs`).
-/
namespace KafkaTopology

/-! ## Lists in order -/

section
variable {α β : Type} [Ord α] [Ord β] {g : α → β}

theorem insertInOrder_map (hg : ∀ x y, compare (g x) (g y) = compare x y) (x : α) (xs : List α) :
    insertInOrder (fun new _ => new) (g x) (xs.map g) =
      (insertInOrder (fun new _ => new) x xs).map g := by
  induction xs with
  | nil => rfl
  | cons y ys ih =>
    rw [List.map_cons, insertInOrder, insertInOrder, hg, ih]
    cases compare x y <;> rfl

theorem OrderedSet.toList_ofList_map [Std.TransOrd α] [Std.TransOrd β]
    (hg : ∀ x y, compare (g x) (g y) = compare x y) (xs : List α) :
    (ofList (xs.map g)).toList = (ofList xs).toList.map g := by
  suffices h : ∀ (s : OrderedSet α) (t : OrderedSet β), t.toList = s.toList.map g →
      ((xs.map g).foldl put t).toList = (xs.foldl put s).toList.map g from h empty empty rfl
  induction xs with
  | nil => exact fun s t h => h
  | cons x xs ih =>
    intro s t h
    refine ih (s.put x) (t.put (g x)) ?_
    show insertInOrder _ (g x) t.toList = _
    rw [h, insertInOrder_map hg]
    rfl

theorem insertInOrder_perm {merge : α → α → α} {x : α} {ys : List α}
    (h : ∀ y ∈ ys, compare x y ≠ .eq) : (insertInOrder merge x ys).Perm (x :: ys) := by
  induction ys with
  | nil => rfl
  | cons y ys ih =>
    obtain ⟨hy, hys⟩ := List.forall_mem_cons.1 h
    rw [insertInOrder]
    cases hcompare : compare x y with
    | lt => rfl
    | eq => exact absurd hcompare hy
    | gt => exact ((ih hys).cons y).trans (.swap x y ys)

/-- A list without equal elements and the set of it have the same elements. -/
theorem OrderedSet.perm_toList_ofList [Std.TransOrd α] {xs : List α}
    (h : xs.Pairwise fun x y => compare x y ≠ .eq) : (ofList xs).toList.Perm xs := by
  suffices hfold : ∀ s : OrderedSet α, (∀ x ∈ xs, ∀ y ∈ s, compare x y ≠ .eq) →
      (xs.foldl put s).toList.Perm (xs ++ s.toList) by
    have hempty := hfold empty fun _ _ _ hy => absurd hy List.not_mem_nil
    rwa [show (empty : OrderedSet α).toList = [] from rfl, List.append_nil] at hempty
  induction xs with
  | nil => exact fun s _ => .refl _
  | cons x xs ih =>
    intro s hs
    obtain ⟨hx, hxs⟩ := List.pairwise_cons.1 h
    obtain ⟨hxs', hss⟩ := List.forall_mem_cons.1 hs
    have hput : (s.put x).toList.Perm (x :: s.toList) := insertInOrder_perm hxs'
    have hrest := ih hxs (s.put x) fun z hz y hy => by
      rcases List.mem_cons.1 (hput.mem_iff.1 hy) with rfl | hy
      · exact fun heq => hx z hz (Std.OrientedCmp.eq_symm heq)
      · exact hss z hz y hy
    exact hrest.trans ((hput.append_left xs).trans List.perm_middle)

end

/-! ## Maps -/

namespace OrderedMap

variable {κ β γ : Type} [Ord κ] [Std.TransOrd κ] {m : OrderedMap κ β}

theorem get?_set [Std.LawfulEqOrd κ] [DecidableEq κ] (key other : κ) (v : β) :
    (m.set key v).get? other = if other = key then some v else m.get? other := by
  have hget (m : OrderedMap κ β) : m.get? other = (m.find? ⟨other, v⟩).map Entry.value := rfl
  have hcompare : compare (⟨other, v⟩ : Entry κ β) ⟨key, v⟩ = .eq ↔ other = key :=
    Std.LawfulEqOrd.compare_eq_iff_eq (a := other) (b := key)
  rw [hget, hget, set, OrderedSet.find?_put]
  by_cases hother : other = key
  · rw [if_pos hother, if_pos (hcompare.2 hother)]
    rfl
  · rw [if_neg hother, if_neg (mt hcompare.1 hother)]

/-- Different keys may be set in any order. -/
theorem set_comm {key key' : κ} (h : compare key key' ≠ .eq) (v v' : β) :
    (m.set key v).set key' v' = (m.set key' v').set key v := by
  refine OrderedSet.ext_find? fun z => ?_
  simp only [set, OrderedSet.find?_put]
  by_cases hz : compare z ⟨key, v⟩ = .eq
  · have hz' : compare z ⟨key', v'⟩ ≠ .eq := fun hz' =>
      h (Std.TransCmp.eq_trans (Std.OrientedCmp.eq_symm hz) hz')
    rw [if_neg hz', if_pos hz, if_pos hz]
  · rw [if_neg hz, if_neg hz]

theorem mapValues_set (f : β → γ) (key : κ) (v : β) :
    (m.set key v).mapValues f = (m.mapValues f).set key (f v) := by
  refine OrderedSet.ext ?_
  exact (insertInOrder_map (g := fun e : Entry κ β => (⟨e.key, f e.value⟩ : Entry κ γ))
    (fun _ _ => rfl) ⟨key, v⟩ m.toList).symm

theorem get?_eq_some_iff [Std.LawfulEqOrd κ] {key : κ} {v : β} :
    m.get? key = some v ↔ ⟨key, v⟩ ∈ m := by
  have hget : m.get? key = (m.find? ⟨key, v⟩).map Entry.value := rfl
  rw [hget, Option.map_eq_some_iff]
  constructor
  · rintro ⟨e, he, rfl⟩
    obtain ⟨hmem, hcompare⟩ := OrderedSet.find?_eq_some_iff.1 he
    obtain rfl : key = e.key := Std.LawfulEqOrd.compare_eq_iff_eq.1 hcompare
    exact hmem
  · intro hmem
    exact ⟨_, OrderedSet.mem_iff_find?_self.1 hmem, rfl⟩

omit [Std.TransOrd κ] in
theorem toPairs_inj {m' : OrderedMap κ β} : m.toPairs = m'.toPairs ↔ m = m' := by
  constructor
  · intro h
    refine OrderedSet.ext (List.map_injective_iff.2 (fun e e' heq => ?_) h)
    cases e
    cases e'
    cases heq
    rfl
  · rintro rfl
    rfl

/-- The entries with keys of an increasing list are found by looking up its keys in turn. -/
theorem filter_toPairs [Std.LawfulEqOrd κ] [DecidableEq κ] {keys : List κ} (h : Increasing keys) :
    m.toPairs.filter (fun e => decide (e.1 ∈ keys)) =
      keys.filterMap fun key => (m.get? key).map (key, ·) := by
  let found := keys.filterMap fun key => (m.get? key).map fun v => (⟨key, v⟩ : Entry κ β)
  have hfound : Increasing found := by
    refine List.Pairwise.filterMap _ (fun key key' hlt e he e' he' => ?_) h
    obtain ⟨_, -, rfl⟩ := Option.map_eq_some_iff.1 (Option.mem_def.1 he)
    obtain ⟨_, -, rfl⟩ := Option.map_eq_some_iff.1 (Option.mem_def.1 he')
    exact hlt
  have hsame : m.filter (fun e => decide (e.key ∈ keys)) = ⟨found, hfound⟩ := by
    refine OrderedSet.ext_mem fun e => ?_
    rw [OrderedSet.mem_filter, decide_eq_true_iff]
    show _ ↔ e ∈ found
    simp only [found, List.mem_filterMap, Option.map_eq_some_iff, get?_eq_some_iff]
    constructor
    · rintro ⟨hmem, hkey⟩
      exact ⟨e.key, hkey, e.value, hmem, rfl⟩
    · rintro ⟨key, hkey, v, hmem, rfl⟩
      exact ⟨hmem, hkey⟩
  rw [toPairs, List.filter_map]
  refine (congrArg (List.map fun e => (e.key, e.value)) (congrArg (·.toList) hsame)).trans ?_
  simp only [found, List.map_filterMap, Option.map_map]
  rfl

end OrderedMap
end KafkaTopology
