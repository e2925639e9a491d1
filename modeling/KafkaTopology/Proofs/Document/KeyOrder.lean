import KafkaTopology.Proofs.Document.Toml.Value
import KafkaTopology.Proofs.OrderedMap
/-!
# The order of keys

A document whose mappings have no key twice (`Distinct`) has the same entries with its keys in order
as without (`perm_inKeyOrder`), so that every key has the same value, up to the order of keys in
that value (`get?_inKeyOrder`). Putting keys in order that are in order (`KeysIncrease`) changes
nothing.
-/
namespace KafkaTopology

/-! ## Sorting -/

namespace Document

open Toml (sorted)

theorem increasing_sorted (es : List (String × Document)) :
    Increasing ((sorted es).map Prod.fst) := by
  rw [sorted, OrderedMap.toPairs, List.map_map, Increasing, List.pairwise_map]
  exact (OrderedMap.ofPairs es).increasing

/-- What is in order stays as it is. -/
theorem sorted_of_increasing {es : List (String × Document)} (h : Increasing (es.map Prod.fst)) :
    sorted es = es := by
  let entries : List (Entry String Document) := es.map fun e => ⟨e.1, e.2⟩
  have hentries : Increasing entries := by
    rw [Increasing, List.pairwise_map] at h ⊢
    exact h
  have hself := OrderedSet.ofList_toList ⟨entries, hentries⟩
  show ((OrderedSet.ofList entries).toList.map fun e => (e.key, e.value)) = es
  rw [hself, List.map_map]
  exact List.map_id' es

/-- Sorting keeps entries with different keys. -/
theorem perm_sorted {es : List (String × Document)} (h : (es.map Prod.fst).Nodup) :
    (sorted es).Perm es := by
  have hpairwise : (es.map fun e => (⟨e.1, e.2⟩ : Entry String Document)).Pairwise
      fun x y => compare x y ≠ .eq := by
    rw [List.Nodup, List.pairwise_map] at h
    rw [List.pairwise_map]
    refine h.imp fun {a b} hab heq => hab ?_
    exact Std.compare_eq_iff_eq.1 (show compare a.1 b.1 = .eq from heq)
  have hperm := (OrderedSet.perm_toList_ofList hpairwise).map fun e => (e.key, e.value)
  rw [List.map_map] at hperm
  exact hperm.trans (.of_eq (List.map_id' es))

/-- Entries in order are determined by which they are. -/
theorem eq_of_perm_of_increasing {es es' : List (String × Document)}
    (h : Increasing (es.map Prod.fst)) (h' : Increasing (es'.map Prod.fst)) (hperm : es.Perm es') :
    es = es' := by
  rw [Increasing, List.pairwise_map] at h h'
  refine hperm.eq_of_pairwise (fun a b _ _ hab hba => ?_) h h'
  rw [Std.OrientedCmp.gt_of_lt hab] at hba
  cases hba

end Document

/-! ## Keys -/

namespace Entries

/-- Where no key comes twice, the order of the entries does not matter. -/
theorem get?_perm {es es' : Entries} (hperm : es.Perm es') (hkeys : (es.map Prod.fst).Nodup)
    (key : String) : get? key es = get? key es' := by
  induction hperm with
  | nil => rfl
  | cons e _ ih => rw [get?, get?, ih (List.nodup_cons.1 hkeys).2]
  | swap e e' es =>
    obtain ⟨k, d⟩ := e
    obtain ⟨k', d'⟩ := e'
    have hne : k' ≠ k := fun heq =>
      (List.nodup_cons.1 hkeys).1 (List.mem_cons.2 (.inl heq))
    simp only [get?]
    by_cases hk : k = key
    · rw [if_pos hk, if_neg (hk ▸ hne), if_pos hk]
    · rw [if_neg hk, if_neg hk]
  | trans h₁ _ ih₁ ih₂ =>
    rw [ih₁ hkeys, ih₂ ((h₁.map Prod.fst).nodup_iff.1 hkeys)]

theorem get?_map (f : Document → Document) (key : String) (es : Entries) :
    get? key (es.map fun e => (e.1, f e.2)) = (get? key es).map f := by
  induction es with
  | nil => rfl
  | cons e es ih =>
    simp only [List.map_cons, get?]
    split
    · rfl
    · exact ih

theorem get?_insert_self (key : String) (value : Document) (es : Entries) :
    get? key (es.insert key value) = some value := by
  induction es with
  | nil => exact if_pos rfl
  | cons e es ih =>
    rw [insert]
    split
    · next h => exact if_pos h
    · next h => rwa [get?, if_neg h]

theorem get?_insert_of_ne {key key' : String} (h : key' ≠ key) (value : Document) (es : Entries) :
    get? key' (es.insert key value) = get? key' es := by
  induction es with
  | nil => exact if_neg h.symm
  | cons e es ih =>
    rw [insert]
    split
    · next heq => rw [get?, get?, if_neg (heq ▸ h.symm), if_neg (heq ▸ h.symm)]
    · rw [get?, get?, ih]

/-- What is kept of the entries by their keys does not depend on a key that is not kept. -/
theorem filter_insert {p : String → Bool} {key : String} (h : p key = false) (value : Document)
    (es : Entries) : (es.insert key value).filter (fun e => p e.1) = es.filter fun e => p e.1 := by
  have hskip (value : Document) (es : Entries) :
      ((key, value) :: es : Entries).filter (fun e => p e.1) = es.filter fun e => p e.1 :=
    List.filter_cons_of_neg (by simp [h])
  induction es with
  | nil => exact hskip value []
  | cons e es ih =>
    rw [insert]
    split
    · next heq =>
      cases heq
      rw [hskip, hskip]
    · rw [List.filter_cons, List.filter_cons, ih]

end Entries

namespace Document

open Toml (sorted)

/-! ## Different keys, and keys in order -/

/-- Whether a document is neither a list nor a mapping. -/
def isLeaf : Document → Bool
  | .list _ | .mapping _ => false
  | _ => true

/-- A document in which no mapping has a key twice. -/
inductive Distinct : Document → Prop where
  | leaf {d : Document} (h : d.isLeaf = true) : Distinct d
  | list {items : List Document} (h : ∀ d ∈ items, Distinct d) : Distinct (.list items)
  | mapping {entries : List (String × Document)} (hvalues : ∀ e ∈ entries, Distinct e.2)
    (hkeys : (entries.map Prod.fst).Nodup) : Distinct (.mapping entries)

/-- A document in which the keys of every mapping increase. -/
inductive KeysIncrease : Document → Prop where
  | leaf {d : Document} (h : d.isLeaf = true) : KeysIncrease d
  | list {items : List Document} (h : ∀ d ∈ items, KeysIncrease d) : KeysIncrease (.list items)
  | mapping {entries : List (String × Document)} (hvalues : ∀ e ∈ entries, KeysIncrease e.2)
    (hkeys : Increasing (entries.map Prod.fst)) : KeysIncrease (.mapping entries)

theorem orderedEntries_eq_map (entries : List (String × Document)) :
    orderedEntries entries = entries.map fun e => (e.1, e.2.ordered) := by
  induction entries with
  | nil => rfl
  | cons e rest ih => rw [orderedEntries, ih, List.map_cons]

@[simp]
theorem ordered_list (items : List Document) :
    (list items).ordered = .list (items.map ordered) := by
  rw [ordered, orderedItems_eq_map]

theorem ordered_leaf {d : Document} (h : d.isLeaf = true) : d.ordered = d := by
  cases d <;> first | rfl | cases h

/-- Keys that are in order stay where they are. -/
theorem KeysIncrease.ordered_eq {d : Document} (h : d.KeysIncrease) : d.ordered = d := by
  induction h with
  | leaf h => exact ordered_leaf h
  | list _ ih => rw [ordered_list, List.map_congr_left ih, List.map_id']
  | mapping _ hkeys ih =>
    rw [ordered, orderedEntries_eq_map, List.map_congr_left fun e he => by rw [ih e he],
      List.map_id', sorted_of_increasing hkeys]

/-- The entries of a mapping with its keys in order. -/
def inKeyOrder (entries : List (String × Document)) : List (String × Document) :=
  sorted (orderedEntries entries)

theorem ordered_mapping_eq (entries : List (String × Document)) :
    (mapping entries).ordered = .mapping (inKeyOrder entries) := rfl

theorem map_fst_orderedEntries (entries : List (String × Document)) :
    (orderedEntries entries).map Prod.fst = entries.map Prod.fst := by
  rw [orderedEntries_eq_map, List.map_map]
  rfl

/-- Putting different keys in order keeps the entries. -/
theorem perm_inKeyOrder {entries : List (String × Document)} (h : (entries.map Prod.fst).Nodup) :
    (inKeyOrder entries).Perm (entries.map fun e => (e.1, e.2.ordered)) := by
  rw [← orderedEntries_eq_map]
  exact perm_sorted (by rwa [map_fst_orderedEntries])

theorem nodup_inKeyOrder {entries : List (String × Document)} (h : (entries.map Prod.fst).Nodup) :
    ((inKeyOrder entries).map Prod.fst).Nodup := by
  refine ((perm_inKeyOrder h).map Prod.fst).nodup_iff.2 ?_
  rwa [List.map_map]

theorem pairwise_inKeyOrder {r : String × Document → String × Document → Prop}
    (h : ∀ e e', e.1 ≠ e'.1 → r e e') {entries : List (String × Document)}
    (hkeys : (entries.map Prod.fst).Nodup) : (inKeyOrder entries).Pairwise r :=
  (List.pairwise_map.1 (nodup_inKeyOrder hkeys)).imp fun {e e'} => h e e'

/-- Putting different keys in order keeps what each of them stands for. -/
theorem get?_inKeyOrder {entries : List (String × Document)} (h : (entries.map Prod.fst).Nodup)
    (key : String) :
    Entries.get? key (inKeyOrder entries) = (Entries.get? key entries).map ordered := by
  rw [Entries.get?_perm (perm_inKeyOrder h) (nodup_inKeyOrder h), Entries.get?_map]

theorem increasing_inKeyOrder (entries : List (String × Document)) :
    Increasing ((inKeyOrder entries).map Prod.fst) := increasing_sorted _

/-- Keys that are in order stay where they are, whatever they stand for. -/
theorem inKeyOrder_of_increasing {entries : List (String × Document)}
    (h : Increasing (entries.map Prod.fst)) :
    inKeyOrder entries = entries.map fun e => (e.1, e.2.ordered) := by
  rw [← orderedEntries_eq_map]
  exact sorted_of_increasing (by rwa [map_fst_orderedEntries])

/-- Some of the entries are in order as they are among all of them. -/
theorem filter_inKeyOrder {entries : List (String × Document)} (h : (entries.map Prod.fst).Nodup)
    (p : String → Bool) :
    (inKeyOrder entries).filter (p ·.1) = inKeyOrder (entries.filter (p ·.1)) := by
  have hkeys : ((entries.filter (p ·.1)).map Prod.fst).Nodup :=
    h.sublist (List.filter_sublist.map _)
  refine eq_of_perm_of_increasing ((increasing_inKeyOrder entries).sublist
    (List.filter_sublist.map _)) (increasing_inKeyOrder _) ?_
  refine ((perm_inKeyOrder h).filter _).trans (.trans (.of_eq ?_) (perm_inKeyOrder hkeys).symm)
  rw [List.filter_map]
  rfl

theorem Distinct.nodup {entries : List (String × Document)}
    (h : (Document.mapping entries).Distinct) : (entries.map Prod.fst).Nodup := by
  cases h with
  | leaf h => cases h
  | mapping _ hkeys => exact hkeys

theorem Distinct.value {entries : List (String × Document)}
    (h : (Document.mapping entries).Distinct) {e : String × Document} (he : e ∈ entries) :
    e.2.Distinct := by
  cases h with
  | leaf h => cases h
  | mapping hvalues _ => exact hvalues e he

theorem Distinct.item {items : List Document} (h : (Document.list items).Distinct) {d : Document}
    (hd : d ∈ items) : d.Distinct := by
  cases h with
  | leaf h => cases h
  | list h => exact h d hd

theorem mem_of_get? {key : String} {entries : Entries} {d : Document}
    (h : Entries.get? key entries = some d) : (key, d) ∈ entries := by
  induction entries with
  | nil => cases h
  | cons e rest ih =>
    rw [Entries.get?] at h
    split at h
    · next hkey =>
      obtain rfl := Option.some.inj h
      exact hkey ▸ List.mem_cons_self
    · exact List.mem_cons_of_mem _ (ih h)

theorem Distinct.get? {entries : List (String × Document)} (h : (Document.mapping entries).Distinct)
    {key : String} {d : Document} (hd : Entries.get? key entries = some d) : d.Distinct :=
  h.value (mem_of_get? hd)

end Document
end KafkaTopology
