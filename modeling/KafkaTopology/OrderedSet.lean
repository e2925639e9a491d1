/-!
# Ordered sets and maps

An `OrderedSet` is a strictly increasing list. Two elements that compare equal are the same element
of the set even when they differ in what the order ignores, so there are two ways to add one:
`insert` keeps what is there and `put` replaces it. An `OrderedMap` is an ordered set of entries
that are compared by their keys.
-/
namespace KafkaTopology

open Std

/-- Every element comes strictly before all later ones. -/
def Increasing {α : Type} [Ord α] (xs : List α) : Prop :=
  xs.Pairwise (fun a b => compare a b = .lt)

/-- Adds an element to an increasing list. Where an equal element stands, `merge new old` decides
what is kept. -/
def insertInOrder {α : Type} [Ord α] (merge : α → α → α) (x : α) : List α → List α
  | [] => [x]
  | y :: ys =>
    match compare x y with
    | .lt => x :: y :: ys
    | .eq => merge x y :: ys
    | .gt => y :: insertInOrder merge x ys

/-- A choice between two equal elements that stays equal to both. -/
def Merges {α : Type} [Ord α] (merge : α → α → α) : Prop :=
  ∀ x y z, compare x y = .eq →
    compare (merge x y) z = compare y z ∧ compare z (merge x y) = compare z y

section
variable {α : Type} [Ord α] {merge : α → α → α}

theorem merges_keep : Merges (fun (_ : α) old => old) := fun _ _ _ _ => ⟨rfl, rfl⟩

theorem merges_replace [TransOrd α] : Merges (fun (new : α) _ => new) := fun _ _ _ h =>
  ⟨TransCmp.congr_left h, TransCmp.congr_right h⟩

/-- An element that is before `x` and before everything in the list stays before everything. -/
theorem forall_lt_insertInOrder (hm : Merges merge) {a x : α} (hx : compare a x = .lt) {ys : List α}
    (h : ∀ y ∈ ys, compare a y = .lt) : ∀ y ∈ insertInOrder merge x ys, compare a y = .lt := by
  induction ys with
  | nil => simpa [insertInOrder] using hx
  | cons y ys ih =>
    intro z hz
    unfold insertInOrder at hz
    split at hz
    · rcases List.mem_cons.1 hz with rfl | hz
      · exact hx
      · exact h z hz
    · rename_i heq
      rcases List.mem_cons.1 hz with rfl | hz
      · rw [(hm x y a heq).2]
        exact h y (by simp)
      · exact h z (by simp [hz])
    · rcases List.mem_cons.1 hz with rfl | hz
      · exact h z (by simp)
      · exact ih (fun w hw => h w (by simp [hw])) z hz

theorem Increasing.insertInOrder [TransOrd α] (hm : Merges merge) (x : α) {ys : List α}
    (h : Increasing ys) :
    Increasing (insertInOrder merge x ys) := by
  induction ys with
  | nil => simp [KafkaTopology.insertInOrder, Increasing]
  | cons y ys ih =>
    have hy : ∀ z ∈ ys, compare y z = .lt := (List.pairwise_cons.1 h).1
    have hys : Increasing ys := (List.pairwise_cons.1 h).2
    unfold KafkaTopology.insertInOrder
    split
    · rename_i hlt
      refine List.pairwise_cons.2 ⟨fun z hz => ?_, h⟩
      rcases List.mem_cons.1 hz with rfl | hz
      · exact hlt
      · exact TransCmp.lt_trans hlt (hy z hz)
    · rename_i heq
      refine List.pairwise_cons.2 ⟨fun z hz => ?_, hys⟩
      rw [(hm x y z heq).1]
      exact hy z hz
    · rename_i hgt
      exact List.pairwise_cons.2
        ⟨forall_lt_insertInOrder hm (OrientedCmp.lt_of_gt hgt) hy, ih hys⟩

end

/-- A set that is listed in increasing order. -/
structure OrderedSet (α : Type) [Ord α] where
  toList : List α
  increasing : Increasing toList

namespace OrderedSet

section
variable {α : Type} [Ord α]

def empty : OrderedSet α := ⟨[], List.Pairwise.nil⟩

instance : EmptyCollection (OrderedSet α) := ⟨empty⟩
instance : Inhabited (OrderedSet α) := ⟨empty⟩

@[ext]
theorem ext {s t : OrderedSet α} (h : s.toList = t.toList) : s = t := by
  cases s
  cases t
  simpa using h

instance [DecidableEq α] : DecidableEq (OrderedSet α) := fun s t =>
  if h : s.toList = t.toList then isTrue (ext h) else isFalse (fun e => h (e ▸ rfl))

instance : Membership α (OrderedSet α) := ⟨fun s x => x ∈ s.toList⟩

def size (s : OrderedSet α) : Nat := s.toList.length

def isEmpty (s : OrderedSet α) : Bool := s.toList.isEmpty

def filter (p : α → Bool) (s : OrderedSet α) : OrderedSet α :=
  ⟨s.toList.filter p, s.increasing.filter p⟩

/-- Whether some element is equal to `x` in the order. -/
def contains (s : OrderedSet α) (x : α) : Bool := s.toList.any (fun y => compare x y == .eq)

/-- The elements of `s` that `t` does not contain. -/
def diff (s t : OrderedSet α) : OrderedSet α := s.filter (fun x => !t.contains x)

/-- Removes the elements that are equal in the order to a listed one. -/
def eraseAll (s : OrderedSet α) (xs : List α) : OrderedSet α :=
  s.filter (fun y => !xs.any (fun x => compare x y == .eq))

end

section
variable {α : Type} [Ord α] [TransOrd α]

/-- Adds an element unless an equal one is there. -/
def insert (s : OrderedSet α) (x : α) : OrderedSet α :=
  ⟨insertInOrder (fun _ old => old) x s.toList, s.increasing.insertInOrder merges_keep x⟩

/-- Adds an element in place of an equal one. -/
def put (s : OrderedSet α) (x : α) : OrderedSet α :=
  ⟨insertInOrder (fun new _ => new) x s.toList, s.increasing.insertInOrder merges_replace x⟩

/-- Adds elements one by one: of equal ones the first stays. -/
def insertAll (s : OrderedSet α) (xs : List α) : OrderedSet α := xs.foldl insert s

/-- The set of the elements of a list: of equal ones the last stays. -/
def ofList (xs : List α) : OrderedSet α := xs.foldl put empty

end
end OrderedSet

/-- A value under a key. -/
structure Entry (κ β : Type) where
  key : κ
  value : β
deriving DecidableEq, Repr, Inhabited

section
variable {κ β : Type} [Ord κ]

/-- Entries are compared by their keys alone. -/
instance : Ord (Entry κ β) := ⟨compareOn Entry.key⟩

instance [TransOrd κ] : TransOrd (Entry κ β) :=
  inferInstanceAs (TransCmp (compareOn Entry.key))

end

/-- A map that is listed in the order of its keys. -/
abbrev OrderedMap (κ β : Type) [Ord κ] := OrderedSet (Entry κ β)

namespace OrderedMap

variable {κ β : Type} [Ord κ]

def keys (m : OrderedMap κ β) : List κ := m.toList.map Entry.key

def get? (m : OrderedMap κ β) (k : κ) : Option β :=
  (m.toList.find? (fun e => compare k e.key == .eq)).map Entry.value

def set [TransOrd κ] (m : OrderedMap κ β) (k : κ) (v : β) : OrderedMap κ β := m.put ⟨k, v⟩

/-- The map of a list of pairs: of equal keys the last one's value stays. -/
def ofPairs [TransOrd κ] (ps : List (κ × β)) : OrderedMap κ β :=
  OrderedSet.ofList (ps.map fun (k, v) => ⟨k, v⟩)

/-- The keys and values, in the order of the keys. -/
def toPairs (m : OrderedMap κ β) : List (κ × β) := m.toList.map fun e => (e.key, e.value)

def mapValues {γ : Type} (f : β → γ) (m : OrderedMap κ β) : OrderedMap κ γ :=
  ⟨m.toList.map fun e => ⟨e.key, f e.value⟩, by
    have h := m.increasing
    unfold Increasing at h ⊢
    rw [List.pairwise_map]
    exact h⟩

end OrderedMap
end KafkaTopology
