import KafkaTopology.Proofs.Document.KeyOrder
import Mathlib.Logic.Relation
/-!
# Places in a document

A `Place` says which keys are recognised at some point of a document and what stands under each of
them. An `Edit` puts the keys of a mapping in another order, drops an entry whose key is not
recognised, or does so further inside. Whatever edits make of a document, in either direction, it
stays the same without unrecognised keys (`pruned`), up to the order of keys (`Edit.alike`).
-/
namespace KafkaTopology

/-- What is recognised at some point of a document. -/
inductive Place where
  /-- Everything, as it is. -/
  | verbatim
  /-- A mapping with known keys, each in one or more spellings, or a list of their values. -/
  | record (fields : List (List String × Place))
  /-- A mapping that may have any keys. -/
  | keyed (value : Place)
  | list (each : Place)
  /-- One thing if it is a mapping and another if it is a list. -/
  | either (inMapping inList : Place)
  /-- A mapping with known keys; the other ones are kept, in their order. -/
  | root (fields : List (List String × Place))

namespace Place

/-- What stands under a key, if the key is recognised. -/
def under : Place → String → Option Place
  | .verbatim, _ | .list _, _ => some .verbatim
  | .record fields, key => (fields.find? (·.1.contains key)).map (·.2)
  | .keyed value, _ => some value
  | .either inMapping _, key => inMapping.under key
  | .root fields, key => some (((fields.find? (·.1.contains key)).map (·.2)).getD .verbatim)

/-- What stands at a position of a list. -/
def item : Place → Nat → Place
  | .verbatim, _ | .keyed _, _ | .root _, _ => .verbatim
  | .record fields, n => (fields[n]?.map (·.2)).getD .verbatim
  | .list each, _ => each
  | .either _ inList, n => inList.item n

/-- Whether a key has to keep its position among others. -/
def keepsOrder : Place → String → Bool
  | .root fields, key => !fields.any (·.1.contains key)
  | _, _ => false

/-- Keys that keep their position are recognised. -/
theorem keepsOrder_of_under {p : Place} {key : String} (h : p.under key = none) :
    p.keepsOrder key = false := by
  cases p <;> first | rfl | cases h

end Place

namespace Document

/-! ## Edits -/

/-- A document and what one edit makes of it. -/
inductive Edit : Place → Document → Document → Prop where
  /-- Keys change places. -/
  | reorder {p : Place} {entries entries' : Entries} (h : entries.Perm entries')
    (hkept : entries.filter (p.keepsOrder ·.1) = entries'.filter (p.keepsOrder ·.1)) :
    Edit p (.mapping entries) (.mapping entries')
  /-- An entry with an unrecognised key is dropped. -/
  | drop {p : Place} (before after : Entries) {key : String} (d : Document)
    (h : p.under key = none) :
    Edit p (.mapping (before ++ (key, d) :: after)) (.mapping (before ++ after))
  /-- What stands under a recognised key is edited. -/
  | value {p q : Place} (before after : Entries) {key : String} {d d' : Document}
    (h : p.under key = some q) (hd : Edit q d d') :
    Edit p (.mapping (before ++ (key, d) :: after)) (.mapping (before ++ (key, d') :: after))
  /-- An item of a list is edited. -/
  | item {p : Place} (before after : List Document) {d d' : Document}
    (hd : Edit (p.item before.length) d d') :
    Edit p (.list (before ++ d :: after)) (.list (before ++ d' :: after))

/-- Documents that come from each other by any number of edits. -/
abbrev Edited (p : Place) : Document → Document → Prop := Relation.EqvGen (Edit p)

/-! ## Without unrecognised keys -/

mutual

/-- The document without entries whose keys are not recognised. -/
def pruned : Place → Document → Document
  | p, .list items => .list (prunedItems p 0 items)
  | p, .mapping entries => .mapping (prunedEntries p entries)
  | _, d => d

/-- The same for the items of a list, from a position on. -/
def prunedItems : Place → Nat → List Document → List Document
  | _, _, [] => []
  | p, n, d :: rest => pruned (p.item n) d :: prunedItems p (n + 1) rest

/-- The same for the entries of a mapping. -/
def prunedEntries : Place → List (String × Document) → List (String × Document)
  | _, [] => []
  | p, (key, d) :: rest =>
    match p.under key with
    | some q => (key, pruned q d) :: prunedEntries p rest
    | none => prunedEntries p rest

end

section
variable {p q : Place}

@[simp]
theorem pruned_list (items : List Document) :
    (list items).pruned p = .list (prunedItems p 0 items) := by
  rw [pruned]

@[simp]
theorem pruned_mapping (entries : Entries) :
    (mapping entries).pruned p = .mapping (prunedEntries p entries) := by
  rw [pruned]

theorem prunedEntries_eq_filterMap (entries : Entries) :
    prunedEntries p entries =
      entries.filterMap fun e => (p.under e.1).map fun q => (e.1, e.2.pruned q) := by
  induction entries with
  | nil => rfl
  | cons e rest ih =>
    rw [prunedEntries, List.filterMap_cons, ih]
    cases p.under e.1 <;> rfl

theorem prunedItems_append (n : Nat) (xs ys : List Document) :
    prunedItems p n (xs ++ ys) = prunedItems p n xs ++ prunedItems p (n + xs.length) ys := by
  induction xs generalizing n with
  | nil => rfl
  | cons x xs ih =>
    rw [List.cons_append, prunedItems, prunedItems, ih, List.cons_append, List.length_cons,
      Nat.add_right_comm, Nat.add_assoc]

theorem length_prunedItems (n : Nat) (items : List Document) :
    (prunedItems p n items).length = items.length := by
  induction items generalizing n with
  | nil => rfl
  | cons d items ih => rw [prunedItems, List.length_cons, ih, List.length_cons]

/-- Where the position does not matter, every item is pruned alike. -/
theorem prunedItems_eq_map (h : ∀ n, p.item n = q) (n : Nat) (items : List Document) :
    prunedItems p n items = items.map (pruned q) := by
  induction items generalizing n with
  | nil => rfl
  | cons d items ih => rw [prunedItems, h, ih, List.map_cons]

/-- Where every key is recognised, every value is pruned alike. -/
theorem prunedEntries_eq_map (h : ∀ key, p.under key = some q) (entries : Entries) :
    prunedEntries p entries = entries.map fun e => (e.1, e.2.pruned q) := by
  rw [prunedEntries_eq_filterMap]
  simp only [h, Option.map_some]
  rw [List.filterMap_eq_map']

theorem pruned_either_list (items : List Document) :
    (list items).pruned (.either p q) = (list items).pruned q := by
  suffices h : ∀ n, prunedItems (.either p q) n items = prunedItems q n items by
    rw [pruned_list, pruned_list, h]
  induction items with
  | nil => exact fun n => rfl
  | cons d items ih => exact fun n => by rw [prunedItems, prunedItems, Place.item, ih]

theorem pruned_either_mapping (entries : Entries) :
    (mapping entries).pruned (.either p q) = (mapping entries).pruned p := by
  rw [pruned_mapping, pruned_mapping, prunedEntries_eq_filterMap, prunedEntries_eq_filterMap]
  rfl

theorem get?_prunedEntries (key : String) (entries : Entries) :
    Entries.get? key (prunedEntries p entries) =
      (p.under key).bind fun q => (Entries.get? key entries).map (pruned q) := by
  induction entries with
  | nil =>
    show none = _
    cases p.under key <;> rfl
  | cons e rest ih =>
    obtain ⟨k, d⟩ := e
    rw [prunedEntries]
    by_cases hk : k = key
    · subst hk
      cases hunder : p.under k with
      | none =>
        rw [hunder] at ih
        exact ih
      | some q => simp [Entries.get?]
    · rw [Entries.get?, if_neg hk, ← ih]
      cases p.under k with
      | none => rfl
      | some q => rw [Entries.get?, if_neg hk]

end

mutual

theorem pruned_verbatim : ∀ d : Document, d.pruned .verbatim = d
  | .list items => by rw [pruned, prunedItems_verbatim]
  | .mapping entries => by rw [pruned, prunedEntries_verbatim]
  | .null | .bool _ | .integer _ | .float _ | .text _ => rfl

theorem prunedItems_verbatim : ∀ (items : List Document) {n : Nat},
    prunedItems .verbatim n items = items
  | [], _ => rfl
  | d :: rest, _ => by
    rw [prunedItems, Place.item, prunedItems_verbatim rest]
    exact congrArg (· :: rest) (pruned_verbatim d)

theorem prunedEntries_verbatim : ∀ entries : List (String × Document),
    prunedEntries .verbatim entries = entries
  | [] => rfl
  | (key, d) :: rest => by
    rw [prunedEntries, Place.under, prunedEntries_verbatim rest]
    exact congrArg (fun x => (key, x) :: rest) (pruned_verbatim d)

end

/-! ## What edits leave as it is -/

/-- Keys that are in order come in one order only. -/
theorem inKeyOrder_perm {entries entries' : Entries} (h : entries.Perm entries')
    (hkeys : (entries.map Prod.fst).Nodup) : inKeyOrder entries = inKeyOrder entries' := by
  have hkeys' := (h.map Prod.fst).nodup_iff.1 hkeys
  refine eq_of_perm_of_increasing (increasing_inKeyOrder _) (increasing_inKeyOrder _) ?_
  exact (perm_inKeyOrder hkeys).trans ((h.map _).trans (perm_inKeyOrder hkeys').symm)

/-- Entries with different keys are known by the order of their keys and by which they are. -/
theorem eq_of_perm_of_keys {entries entries' : Entries} (h : entries.Perm entries')
    (hkeys : entries.map Prod.fst = entries'.map Prod.fst)
    (hnodup : (entries.map Prod.fst).Nodup) : entries = entries' := by
  induction entries generalizing entries' with
  | nil => exact h.nil_eq
  | cons e rest ih =>
    cases entries' with
    | nil => exact absurd h.symm.nil_eq nofun
    | cons e' rest' =>
      obtain ⟨hkey, hrest⟩ := List.cons.inj hkeys
      obtain ⟨hnew, hnodup⟩ := List.nodup_cons.1 hnodup
      obtain rfl : e = e' := by
        rcases List.mem_cons.1 (h.mem_iff.1 List.mem_cons_self) with he | he
        · exact he
        · exact absurd (hrest ▸ List.mem_map_of_mem he) hnew
      rw [ih ((List.perm_cons _).1 h) hrest hnodup]

/-- Documents that are the same up to the order of keys. -/
structure Alike (d d' : Document) : Prop where
  distinct : d.Distinct ↔ d'.Distinct
  ordered : d.Distinct → d.ordered = d'.ordered

namespace Alike

variable {d d' d'' : Document}

theorem refl (d : Document) : d.Alike d := ⟨.rfl, fun _ => rfl⟩

theorem symm (h : d.Alike d') : d'.Alike d :=
  ⟨h.distinct.symm, fun hd => (h.ordered (h.distinct.2 hd)).symm⟩

theorem trans (h : d.Alike d') (h' : d'.Alike d'') : d.Alike d'' :=
  ⟨h.distinct.trans h'.distinct,
    fun hd => (h.ordered hd).trans (h'.ordered (h.distinct.1 hd))⟩

theorem reorder {entries entries' : Entries} (h : entries.Perm entries') :
    (mapping entries).Alike (.mapping entries') := by
  have hdistinct {es es' : Entries} (h : es.Perm es') (hd : (mapping es).Distinct) :
      (mapping es').Distinct :=
    .mapping (fun _ he => hd.value (h.mem_iff.2 he)) ((h.map Prod.fst).nodup_iff.1 hd.nodup)
  refine ⟨⟨hdistinct h, hdistinct h.symm⟩, fun hd => ?_⟩
  rw [ordered_mapping_eq, ordered_mapping_eq, inKeyOrder_perm h hd.nodup]

theorem value (before after : Entries) (key : String) (h : d.Alike d') :
    (mapping (before ++ (key, d) :: after)).Alike (.mapping (before ++ (key, d') :: after)) := by
  have hdistinct {d d' : Document} (h : d.Distinct → d'.Distinct)
      (hd : (mapping (before ++ (key, d) :: after)).Distinct) :
      (mapping (before ++ (key, d') :: after)).Distinct := by
    refine .mapping (fun e he => ?_) (by simpa using hd.nodup)
    rcases List.mem_append.1 he with he | he
    · exact hd.value (List.mem_append_left _ he)
    · rcases List.mem_cons.1 he with rfl | he
      · exact h (hd.value (e := (key, d)) (List.mem_append_right _ List.mem_cons_self))
      · exact hd.value (List.mem_append_right _ (List.mem_cons_of_mem _ he))
  refine ⟨⟨hdistinct h.distinct.1, hdistinct h.distinct.2⟩, fun hd => ?_⟩
  have hvalue := hd.value (e := (key, d)) (List.mem_append_right _ List.mem_cons_self)
  rw [ordered_mapping_eq, ordered_mapping_eq, inKeyOrder, inKeyOrder, orderedEntries_eq_map,
    orderedEntries_eq_map, List.map_append, List.map_append, List.map_cons, List.map_cons,
    h.ordered hvalue]

theorem item (before after : List Document) (h : d.Alike d') :
    (list (before ++ d :: after)).Alike (.list (before ++ d' :: after)) := by
  have hdistinct {d d' : Document} (h : d.Distinct → d'.Distinct)
      (hd : (list (before ++ d :: after)).Distinct) :
      (list (before ++ d' :: after)).Distinct := by
    refine .list fun x hx => ?_
    rcases List.mem_append.1 hx with hx | hx
    · exact hd.item (List.mem_append_left _ hx)
    · rcases List.mem_cons.1 hx with rfl | hx
      · exact h (hd.item (List.mem_append_right _ List.mem_cons_self))
      · exact hd.item (List.mem_append_right _ (List.mem_cons_of_mem _ hx))
  refine ⟨⟨hdistinct h.distinct.1, hdistinct h.distinct.2⟩, fun hd => ?_⟩
  have hitem := hd.item (List.mem_append_right before (List.mem_cons_self (a := d) (l := after)))
  rw [ordered_list, ordered_list, List.map_append, List.map_append, List.map_cons, List.map_cons,
    h.ordered hitem]

end Alike

variable {p : Place} {d d' : Document}

/-- An edit changes no more of the recognised part of a document than the order of its keys. -/
theorem Edit.alike (h : Edit p d d') : (d.pruned p).Alike (d'.pruned p) := by
  induction h with
  | reorder h _ =>
    rw [pruned_mapping, pruned_mapping, prunedEntries_eq_filterMap, prunedEntries_eq_filterMap]
    exact .reorder (h.filterMap _)
  | drop before after d h =>
    rw [pruned_mapping, pruned_mapping, prunedEntries_eq_filterMap, prunedEntries_eq_filterMap,
      List.filterMap_append, List.filterMap_append, List.filterMap_cons_none (by rw [h]; rfl)]
    exact .refl _
  | value before after h _ ih =>
    simp only [pruned_mapping, prunedEntries_eq_filterMap, List.filterMap_append,
      List.filterMap_cons, h, Option.map_some]
    exact ih.value _ _ _
  | item before after _ ih =>
    simp only [pruned_list, prunedItems_append, prunedItems, Nat.zero_add]
    exact ih.item _ _

/-- Edits change no more of the recognised part of a document than the order of its keys. -/
theorem Edited.alike (h : Edited p d d') : (d.pruned p).Alike (d'.pruned p) := by
  induction h with
  | rel d d' h => exact h.alike
  | refl d => exact .refl _
  | symm d d' _ ih => exact ih.symm
  | trans d d' d'' _ _ ih ih' => exact ih.trans ih'

/-- The keys of a mapping that keep their position, in their order. -/
def keptKeys (p : Place) : Document → List String
  | .mapping entries => (entries.filter (p.keepsOrder ·.1)).map Prod.fst
  | _ => []

theorem Edit.keptKeys_eq (h : Edit p d d') : d.keptKeys p = d'.keptKeys p := by
  cases h with
  | reorder _ hkept => exact congrArg (List.map Prod.fst) hkept
  | drop before after d h =>
    have hkept := Place.keepsOrder_of_under h
    simp [keptKeys, hkept]
  | value before after h _ =>
    simp only [keptKeys, List.filter_append, List.map_append, List.filter_cons]
    split <;> rfl
  | item => rfl

theorem Edited.keptKeys_eq (h : Edited p d d') : d.keptKeys p = d'.keptKeys p := by
  induction h with
  | rel d d' h => exact h.keptKeys_eq
  | refl d => rfl
  | symm d d' _ ih => exact ih.symm
  | trans d d' d'' _ _ ih ih' => exact ih.trans ih'

theorem exists_of_mem_prunedItems {n : Nat} {items : List Document} {x : Document}
    (hx : x ∈ prunedItems p n items) : ∃ d ∈ items, ∃ q, d.pruned q = x := by
  induction items generalizing n with
  | nil => cases hx
  | cons d items ih =>
    rw [prunedItems] at hx
    rcases List.mem_cons.1 hx with rfl | hx
    · exact ⟨d, List.mem_cons_self, _, rfl⟩
    · obtain ⟨d', hd', q, hq⟩ := ih hx
      exact ⟨d', List.mem_cons_of_mem _ hd', q, hq⟩

theorem map_fst_prunedEntries_sublist (entries : Entries) :
    ((prunedEntries p entries).map Prod.fst).Sublist (entries.map Prod.fst) := by
  induction entries with
  | nil => exact .slnil
  | cons e rest ih =>
    rw [prunedEntries]
    split
    · exact ih.cons_cons _
    · exact ih.cons _

/-- What is distinct stays so without some of its keys. -/
theorem Distinct.pruned (h : d.Distinct) : (d.pruned p).Distinct := by
  induction h generalizing p with
  | @leaf d h =>
    refine .leaf ?_
    cases d <;> first | rfl | cases h
  | list _ ih =>
    rw [pruned_list]
    refine .list fun x hx => ?_
    obtain ⟨d, hd, q, rfl⟩ := exists_of_mem_prunedItems hx
    exact ih d hd
  | mapping _ hkeys ih =>
    rw [pruned_mapping]
    refine .mapping (fun e he => ?_) (hkeys.sublist (map_fst_prunedEntries_sublist _))
    rw [prunedEntries_eq_filterMap] at he
    obtain ⟨x, hx, he⟩ := List.mem_filterMap.1 he
    obtain ⟨q, -, rfl⟩ := Option.map_eq_some_iff.1 he
    exact ih x hx

end Document
end KafkaTopology
