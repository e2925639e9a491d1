import KafkaTopology.Document
import Mathlib.Data.List.Basic
/-!
# Paths into a document

A path goes down from a document to one of its parts, through mappings by a key and through lists
by a position. `Document.at?` is the part at the end of a path, and `Document.changeAt` is the
document with that part changed and everything else as it was.
-/
namespace KafkaTopology

namespace Entries

variable {key key' : String} {entries : Entries}

/-! ## Changing an entry -/

/-- Changes the value of a key. -/
def change (key : String) (f : Document → Document) : Entries → Entries
  | [] => []
  | (k, d) :: rest => if k = key then (k, f d) :: rest else (k, d) :: change key f rest

theorem get?_change (key : String) (f : Document → Document) (entries : Entries) :
    get? key (change key f entries) = (get? key entries).map f := by
  induction entries with
  | nil => rfl
  | cons e rest ih =>
    obtain ⟨k, d⟩ := e
    by_cases hk : k = key
    · simp [change, get?, hk]
    · simpa [change, get?, hk] using ih

theorem get?_change_of_ne (h : key' ≠ key) (f : Document → Document) (entries : Entries) :
    get? key' (change key f entries) = get? key' entries := by
  induction entries with
  | nil => rfl
  | cons e rest ih =>
    obtain ⟨k, d⟩ := e
    by_cases hk : k = key
    · subst hk
      simp [change, get?, Ne.symm h]
    · simp only [change, get?, if_neg hk, ih]

/-- A change under one key is not seen among the others. -/
theorem filter_change {p : String → Bool} (h : p key = false) (f : Document → Document)
    (entries : Entries) :
    (change key f entries).filter (fun e => p e.1) = entries.filter fun e => p e.1 := by
  induction entries with
  | nil => rfl
  | cons e rest ih =>
    obtain ⟨k, d⟩ := e
    by_cases hk : k = key
    · subst hk
      simp [change, h]
    · simp only [change, if_neg hk, List.filter_cons, ih]

/-! ## Writing a key in another way -/

/-- Writes one key in another way, wherever it stands. -/
def respell (key key' : String) (entries : Entries) : Entries :=
  entries.map fun e => (if e.1 = key then key' else e.1, e.2)

/-- What the key had is found under its new spelling, if nothing else was. -/
theorem get?_respell_new (h : key' ∉ entries.keys) :
    get? key' (entries.respell key key') = get? key entries := by
  induction entries with
  | nil => rfl
  | cons e rest ih =>
    obtain ⟨k, d⟩ := e
    obtain ⟨hne, hrest⟩ := not_or.1 (mt List.mem_cons.2 h)
    by_cases hk : k = key
    · simp [respell, get?, hk]
    · simpa [respell, get?, hk, Ne.symm hne] using ih hrest

theorem get?_respell_old (h : key ≠ key') (entries : Entries) :
    get? key (entries.respell key key') = none := by
  induction entries with
  | nil => rfl
  | cons e rest ih =>
    obtain ⟨k, d⟩ := e
    by_cases hk : k = key
    · simpa [respell, get?, hk, Ne.symm h] using ih
    · simpa [respell, get?, hk] using ih

theorem get?_respell_of_ne {other : String} (h : other ≠ key) (h' : other ≠ key')
    (entries : Entries) : get? other (entries.respell key key') = get? other entries := by
  induction entries with
  | nil => rfl
  | cons e rest ih =>
    obtain ⟨k, d⟩ := e
    by_cases hk : k = key
    · subst hk
      simpa [respell, get?, Ne.symm h, Ne.symm h'] using ih
    · simp only [respell, List.map_cons, if_neg hk, get?] at ih ⊢
      rw [ih]

theorem get?_eq_none_iff : get? key entries = none ↔ key ∉ entries.keys := by
  induction entries with
  | nil => simp [get?, keys]
  | cons e rest ih =>
    obtain ⟨k, d⟩ := e
    by_cases hk : k = key
    · simp [get?, keys, hk]
    · simpa [get?, keys, hk, Ne.symm hk] using ih

end Entries

namespace Document

/-! ## Steps and paths -/

/-- One step down in a document. -/
inductive PathStep where
  /-- To the value of a key of a mapping. -/
  | key (name : String)
  /-- To an item of a list. -/
  | item (index : Nat)

/-- What stands one step down, if there is anything. -/
def below? : PathStep → Document → Option Document
  | .key name, .mapping entries => Entries.get? name entries
  | .item index, .list items => items[index]?
  | _, _ => none

/-- What stands at the end of a path, if there is anything. -/
def at? : List PathStep → Document → Option Document
  | [], d => some d
  | step :: path, d => (d.below? step).bind (at? path)

/-- Changes what stands one step down. -/
def changeBelow (f : Document → Document) : PathStep → Document → Document
  | .key name, .mapping entries => .mapping (Entries.change name f entries)
  | .item index, .list items => .list (items.modify index f)
  | _, d => d

/-- Changes what stands at the end of a path. -/
def changeAt (f : Document → Document) : List PathStep → Document → Document
  | [], d => f d
  | step :: path, d => d.changeBelow (changeAt f path) step

/-- Writes one key of a mapping in another way. -/
def respell (key key' : String) : Document → Document
  | .mapping entries => .mapping (Entries.respell key key' entries)
  | d => d

theorem below?_key_eq_some_iff {name : String} {d m : Document} :
    d.below? (.key name) = some m ↔
      ∃ entries, d = .mapping entries ∧ Entries.get? name entries = some m := by
  cases d <;> simp [below?]

theorem below?_item_eq_some_iff {index : Nat} {d m : Document} :
    d.below? (.item index) = some m ↔ ∃ items, d = .list items ∧ items[index]? = some m := by
  cases d <;> simp [below?]

theorem at?_append (path path' : List PathStep) (d : Document) :
    d.at? (path ++ path') = (d.at? path).bind (at? path') := by
  induction path generalizing d with
  | nil => rfl
  | cons step path ih =>
    rw [List.cons_append, at?, at?, Option.bind_assoc]
    exact congrArg (Option.bind _) (funext ih)

theorem mem_at?_append {path path' : List PathStep} {d v m : Document} (hv : v ∈ d.at? path)
    (hm : m ∈ v.at? path') : m ∈ d.at? (path ++ path') := by
  rw [Option.mem_def] at hv hm ⊢
  rw [at?_append, hv, Option.bind_some, hm]

@[simp]
theorem at?_singleton (step : PathStep) (d : Document) : d.at? [step] = d.below? step :=
  Option.bind_fun_some _

theorem changeAt_append (f : Document → Document) (path path' : List PathStep) (d : Document) :
    d.changeAt f (path ++ path') = d.changeAt (changeAt f path') path := by
  induction path generalizing d with
  | nil => rfl
  | cons step path ih =>
    rw [List.cons_append, changeAt, changeAt]
    exact congrArg (changeBelow · step d) (funext ih)

/-- Null stays null, and nothing becomes null. -/
@[simp]
theorem isNull_changeBelow (f : Document → Document) (step : PathStep) (d : Document) :
    (d.changeBelow f step).isNull = d.isNull := by
  cases step <;> cases d <;> rfl

end Document
end KafkaTopology
