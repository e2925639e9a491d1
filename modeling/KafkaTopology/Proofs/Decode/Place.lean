import KafkaTopology.Decode
import KafkaTopology.Proofs.Document.Place
import KafkaTopology.Proofs.Except
/-!
# Decoders and unrecognised keys

A decoder that ignores what is not recognised at a place (`Decoder.Ignores`) reads a document and
the document without unrecognised keys alike, down to the error where it fails. The place of a
record has the fields of its schema, in their spellings and in their order (`Schema.ignores`).
-/
/-- Whatever stands on the left has something at its position on the right. -/
theorem List.Forall₂.exists_getElem? {α β : Type} {r : α → β → Prop} {xs : List α} {ys : List β}
    (h : List.Forall₂ r xs ys) {n : Nat} {x : α} (hx : xs[n]? = some x) :
    ∃ y, ys[n]? = some y ∧ r x y := by
  induction h generalizing n with
  | nil => cases hx
  | cons hxy _ ih =>
    cases n with
    | zero =>
      cases hx
      exact ⟨_, rfl, hxy⟩
    | succ n => exact ih hx

namespace KafkaTopology

open Document (pruned prunedItems prunedEntries)

namespace Decoder

variable {α : Type} {decode : Decoder α} {p : Place}

/-- Whether a decoder reads a document like the recognised part of it. -/
def Ignores (decode : Decoder α) (p : Place) : Prop :=
  ∀ rules d, decode rules (d.pruned p) = decode rules d

theorem ignores_verbatim (decode : Decoder α) : decode.Ignores .verbatim :=
  fun _ d => by rw [Document.pruned_verbatim]

theorem Ignores.option (h : decode.Ignores p) : (option decode).Ignores p := by
  intro rules d
  have hd := h rules d
  cases d with
  | null => rfl
  | list items =>
    rw [Document.pruned_list] at hd ⊢
    exact congrArg (Except.map some) hd
  | mapping entries =>
    rw [Document.pruned_mapping] at hd ⊢
    exact congrArg (Except.map some) hd
  | _ => rfl

theorem Ignores.list (h : decode.Ignores p) : (list decode).Ignores (.list p) := by
  intro rules d
  cases d with
  | list items =>
    rw [Document.pruned_list, Document.prunedItems_eq_map fun _ => rfl]
    show (items.map (pruned p)).mapM (decode rules) = items.mapM (decode rules)
    rw [List.mapM_map]
    exact List.mapM_congr_mem fun d _ => h rules d
  | mapping entries =>
    rw [Document.pruned_mapping]
    rfl
  | _ => rfl

theorem Ignores.pairs (h : decode.Ignores p) : (pairs decode).Ignores (.keyed p) := by
  intro rules d
  cases d with
  | list items =>
    rw [Document.pruned_list]
    rfl
  | mapping entries =>
    rw [Document.pruned_mapping, Document.prunedEntries_eq_map fun _ => rfl]
    simp only [Decoder.pairs, List.mapM_map]
    exact List.mapM_congr_mem fun e _ => by simp only [Function.comp_apply, h rules e.2]
  | _ => rfl

end Decoder

/-! ## Records -/

namespace Field

variable {ρ α : Type} {f : Field ρ} {p : Place}

/-- The same for a field. -/
def Ignores (f : Field ρ) (p : Place) : Prop :=
  ∀ rules d r, f.read rules (d.pruned p) r = f.read rules d r

theorem ignores_of_read {decode : Decoder α} {set : α → ρ → ρ}
    (h : f.read = fun rules d r => do return set (← decode rules d) r) (hdecode : decode.Ignores p) :
    f.Ignores p := by
  intro rules d r
  rw [h]
  simp only [hdecode rules d]

/-- Whether a field stands at a place under its own spellings. -/
def Stands (f : Field ρ) (e : List String × Place) : Prop :=
  e.1 = f.name :: f.aliases ∧ f.Ignores e.2

theorem Stands.isNamed_eq {e : List String × Place} (h : f.Stands e) (key : String) :
    f.isNamed key = e.1.contains key := by
  rw [isNamed, h.1, List.contains_cons, Bool.beq_comm]

end Field

namespace Schema

variable {ρ : Type} {schema : Schema ρ} {fields : List (List String × Place)}

theorem readEntries_pruned (h : List.Forall₂ Field.Stands schema.fields fields)
    (rules : DecodeRules) (seen : List String) (r : ρ) (entries : Entries) :
    schema.readEntries rules seen r (prunedEntries (.record fields) entries) =
      schema.readEntries rules seen r entries := by
  induction entries generalizing seen r with
  | nil => rfl
  | cons e rest ih =>
    obtain ⟨key, d⟩ := e
    have hfind := h.rel_find? fun _ _ hf => hf.isNamed_eq key
    rw [prunedEntries, Place.under]
    -- a key is recognised exactly if it names a field
    cases hfield : schema.fields.find? (·.isNamed key) with
    | none =>
      rw [hfield] at hfind
      cases hplace : fields.find? (·.1.contains key) with
      | none =>
        rw [readEntries, hfield]
        exact ih seen r
      | some e =>
        rw [hplace] at hfind
        cases hfind
    | some f =>
      rw [hfield] at hfind
      cases hplace : fields.find? (·.1.contains key) with
      | none =>
        rw [hplace] at hfind
        cases hfind
      | some e =>
        rw [hplace] at hfind
        obtain ⟨-, hignores⟩ : f.Stands e := by cases hfind with | some h => exact h
        rw [Option.map_some]
        simp only [readEntries, hfield, hignores rules d]
        split
        · rfl
        · exact congrArg (Except.bind _) (funext fun r => ih _ r)

theorem readItems_pruned {p : Place} {fs : List (Field ρ)} {k : Nat}
    (h : ∀ n, ∀ f ∈ fs[n]?, Field.Ignores f (p.item (k + n))) (rules : DecodeRules)
    (short : Nat → DecodeError) (n : Nat) (r : ρ) (items : List Document) :
    readItems rules short n fs r (prunedItems p k items) =
      (readItems rules short n fs r items).map (Prod.map id (prunedItems p (k + fs.length))) := by
  induction fs generalizing k n r items with
  | nil =>
    cases items <;> rfl
  | cons f fs ih =>
    have hrest : ∀ n, ∀ g ∈ fs[n]?, Field.Ignores g (p.item (k + 1 + n)) := fun n g hg => by
      rw [Nat.add_assoc, Nat.add_comm 1]
      exact h (n + 1) g hg
    have hlength : k + (f :: fs).length = k + 1 + fs.length := by
      rw [List.length_cons]
      omega
    cases items with
    | nil =>
      rw [prunedItems, readItems]
      split
      · rw [hlength, ← ih hrest, prunedItems]
      · rfl
    | cons d items =>
      have hfirst := h 0 f rfl rules d r
      rw [Nat.add_zero] at hfirst
      rw [prunedItems, readItems, readItems, hfirst, hlength]
      cases f.read rules d r with
      | error e => rfl
      | ok r' => exact ih hrest _ _ _

/-- A record ignores what is no field of it. -/
theorem ignores (h : List.Forall₂ Field.Stands schema.fields fields) :
    schema.decode.Ignores (.record fields) := by
  intro rules d
  cases d with
  | mapping entries =>
    rw [Document.pruned_mapping]
    simp only [decode, readEntries_pruned h]
  | list items =>
    have hfields : ∀ n, ∀ f ∈ schema.fields[n]?,
        Field.Ignores f ((Place.record fields).item (0 + n)) := by
      intro n f hf
      obtain ⟨e, he, hstands⟩ := h.exists_getElem? hf
      rw [Nat.zero_add, Place.item, he]
      exact hstands.2
    have hlength : (prunedItems (.record fields) 0 items).length = items.length :=
      Document.length_prunedItems _ _
    rw [Document.pruned_list]
    simp only [decode, readItems_pruned hfields, hlength]
    cases readItems rules _ 0 schema.fields schema.blank items with
    | error e => rfl
    | ok result =>
      obtain ⟨r, rest⟩ := result
      cases rest <;> rfl
  | _ => rfl

end Schema
end KafkaTopology
