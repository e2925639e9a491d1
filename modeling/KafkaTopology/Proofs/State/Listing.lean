import KafkaTopology.Proofs.Decode.Image
import KafkaTopology.Proofs.State.Items
import KafkaTopology.State.Codec
/-!
# States as plain lists

The four lists that a state is made of or is written as, before they are made sets. A document is
read as a state exactly as its lists are read, and of equal entries the first stays
(`Listing.decode_state`); of whole lists the last one does. Either way a state holds the entries
that are listed, and its own lists hold each of them once (`State.nodup_items`).
-/
namespace KafkaTopology

open Std

/-- Entries of all four kinds, in any order and any number of times. -/
structure Listing where
  bindings : List Acl.Binding
  accounts : List Account
  topics : List String
  artefacts : List Artefact
deriving DecidableEq

namespace Listing

/-- How lists are stored. -/
def schema : Schema Listing where
  name := "ReconciledState"
  blank := ⟨[], [], [], []⟩
  fields := [
    .defaulted "bindings" [] (Decoder.list Acl.Binding.schema.decode)
      fun v l => { l with bindings := v },
    .defaulted "service_accounts" [] (Decoder.list Account.schema.decode)
      fun v l => { l with accounts := v },
    .defaulted "topics" [] (Decoder.list Decoder.text) fun v l => { l with topics := v },
    .defaulted "artefacts" [] (Decoder.list Artefact.schema.decode)
      fun v l => { l with artefacts := v }]

/-- The state with the first of all equal entries. -/
def keepFirst (l : Listing) : State :=
  ⟨.insertAll ∅ l.bindings, .insertAll ∅ l.accounts, .insertAll ∅ l.topics,
    .insertAll ∅ l.artefacts⟩

/-- The state with the last of all equal entries. -/
def keepLast (l : Listing) : State := .ofLists l.bindings l.accounts l.topics l.artefacts

/-- What is listed. -/
def items (l : Listing) : List Item :=
  l.bindings.map .binding ++ l.accounts.map (fun a => .account a.principal) ++
    l.topics.map .topic ++ l.artefacts.map .artefact

theorem maps_schema : Schema.Maps keepFirst schema State.schema where
  name := rfl
  blank := rfl
  fields :=
    have hset {α : Type} [Ord α] [TransOrd α] (decode : Decoder α) (rules : DecodeRules)
        (d : Document) : State.decodeSet decode rules d =
          (Decoder.list decode rules d).map (OrderedSet.insertAll ∅) := by
      rw [State.decodeSet]
      cases Decoder.list decode rules d <;> rfl
    .cons (Field.maps_defaulted _ _ (hset _) fun _ _ => rfl) <|
      .cons (Field.maps_defaulted _ _ (hset _) fun _ _ => rfl) <|
      .cons (Field.maps_defaulted _ _ (hset _) fun _ _ => rfl) <|
      .cons (Field.maps_defaulted _ _ (hset _) fun _ _ => rfl) .nil

/-- A state is read as its lists are. -/
theorem decode_state (rules : DecodeRules) (d : Document) :
    State.schema.decode rules d = (schema.decode rules d).map keepFirst :=
  maps_schema.decode_eq rules d

theorem holds_keepFirst_iff (l : Listing) (i : Item) : l.keepFirst.Holds i ↔ i ∈ l.items := by
  cases i <;>
    simp [State.Holds, keepFirst, items, OrderedSet.not_mem_empty, OrderedSet.mem_insertAll,
      Account.exists_insertAll_iff]

theorem holds_keepLast_iff (l : Listing) (i : Item) : l.keepLast.Holds i ↔ i ∈ l.items := by
  cases i <;>
    simp [State.Holds, keepLast, State.ofLists, items, OrderedSet.mem_ofList,
      Account.exists_ofList_iff]

end Listing

namespace State

/-- The lists of a state. -/
def listing (s : State) : Listing :=
  ⟨s.bindings.toList, s.accounts.toList, s.topics.toList, s.artefacts.toList⟩

theorem listing_inj {s t : State} : s.listing = t.listing ↔ s = t := by
  refine ⟨fun h => ?_, fun h => h ▸ rfl⟩
  obtain ⟨hbindings, haccounts, htopics, hartefacts⟩ := Listing.mk.inj h
  cases s
  cases t
  exact State.mk.injEq .. ▸ ⟨OrderedSet.ext hbindings, OrderedSet.ext haccounts,
    OrderedSet.ext htopics, OrderedSet.ext hartefacts⟩

theorem holds_iff (s : State) (i : Item) : s.Holds i ↔ i ∈ s.listing.items := by
  cases i <;> simp [Holds, listing, Listing.items, OrderedSet.mem_toList]

theorem size_eq (s : State) : s.size = s.listing.items.length := by
  simp [size, OrderedSet.size, listing, Listing.items, Nat.add_assoc]

/-- No entry is listed twice. -/
theorem nodup_items (s : State) : s.listing.items.Nodup := by
  have hbindings := s.bindings.increasing.nodup_map (f := Item.binding)
    fun a b heq => Item.binding.inj heq ▸ ReflOrd.compare_self
  have haccounts := s.accounts.increasing.nodup_map (f := fun a => Item.account a.principal)
    fun a b heq => Account.compare_eq_iff.2 (Item.account.inj heq)
  have htopics := s.topics.increasing.nodup_map (f := Item.topic)
    fun a b heq => Item.topic.inj heq ▸ ReflOrd.compare_self
  have hartefacts := s.artefacts.increasing.nodup_map (f := Item.artefact)
    fun a b heq => Item.artefact.inj heq ▸ ReflOrd.compare_self
  -- what is left is that entries of different kinds differ
  simp only [Listing.items, listing, List.nodup_append, hbindings, haccounts, htopics, hartefacts]
  aesop

theorem keepFirst_listing (s : State) : s.listing.keepFirst = s := by
  rw [Listing.keepFirst, listing, OrderedSet.insertAll_empty_toList,
    OrderedSet.insertAll_empty_toList, OrderedSet.insertAll_empty_toList,
    OrderedSet.insertAll_empty_toList]

/-- What is read as the lists of a state is read as the state. -/
theorem decode_of_listing {rules : DecodeRules} {d : Document} {s : State}
    (h : Listing.schema.decode rules d = .ok s.listing) : schema.decode rules d = .ok s := by
  rw [Listing.decode_state, h]
  exact congrArg Except.ok s.keepFirst_listing

end State
end KafkaTopology
