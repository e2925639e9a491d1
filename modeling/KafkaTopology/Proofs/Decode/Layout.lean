import KafkaTopology.Decode
import KafkaTopology.Proofs.Except
import Mathlib.Data.List.Nodup
/-!
# How a record is laid out

A record is written as a mapping or as a list. Either way a document says which fields it holds and
with which values (`Document.laidOut`); the decoder reads these values one after the other into the
blank record, if the layout is one that the fields allow (`Schema.Admits`).
-/
namespace KafkaTopology

variable {α β ρ : Type}

/-- What a document holds for each of some parts: the values of the keys that name them, or the
items in the order of the parts. -/
def Document.laidOut (isNamed : α → String → Bool) (parts : List α) : Document → List (α × Document)
  | .mapping entries =>
    entries.filterMap fun e => (parts.find? (isNamed · e.1)).map (·, e.2)
  | .list items => parts.zip items
  | _ => []

theorem Document.laidOut_map (isNamed : β → String → Bool) (g : α → β) (parts : List α)
    (d : Document) : d.laidOut isNamed (parts.map g) =
      (d.laidOut (fun a => isNamed (g a)) parts).map (Prod.map g id) := by
  cases d with
  | mapping entries =>
    simp only [laidOut, List.map_filterMap, List.find?_map, Option.map_map]
    rfl
  | list items => simp [laidOut, List.zip_map_left]
  | _ => rfl

namespace Schema

/-- What a document holds for the fields of a record. -/
def laidOut (schema : Schema ρ) (d : Document) : List (Field ρ × Document) :=
  d.laidOut Field.isNamed schema.fields

/-- Whether a record may be laid out as it is: a mapping has each field at most once and the
required ones at least once, a list ends where only defaults remain. -/
def Admits (schema : Schema ρ) (d : Document) : Prop :=
  match d with
  | .mapping _ =>
    ((schema.laidOut d).map (·.1.name)).Nodup ∧
      ∀ f ∈ schema.fields, f.required = true → f.name ∈ (schema.laidOut d).map (·.1.name)
  | .list items =>
    items.length ≤ schema.fields.length ∧
      ∀ f ∈ schema.fields.drop items.length, f.hasDefault = true
  | _ => False

/-- Reads values into a record, one after the other. -/
def readAll (values : List (Field ρ × Document)) (r : ρ) : Except DecodeError ρ :=
  values.foldlM (fun r v => v.1.read .strict v.2 r) r

@[simp]
theorem readAll_nil (r : ρ) : readAll [] r = .ok r := rfl

theorem readAll_cons_eq_ok_iff {v : Field ρ × Document} {values : List (Field ρ × Document)}
    {r r' : ρ} :
    readAll (v :: values) r = .ok r' ↔
      ∃ r₁, v.1.read .strict v.2 r = .ok r₁ ∧ readAll values r₁ = .ok r' :=
  Except.bind_eq_ok_iff

theorem readEntries_eq_ok_iff {schema : Schema ρ} {entries : Entries} {seen seen' : List String}
    {r r' : ρ} :
    schema.readEntries .strict seen r entries = .ok (seen', r') ↔
      (∀ v ∈ schema.laidOut (.mapping entries), v.1.name ∉ seen) ∧
      ((schema.laidOut (.mapping entries)).map (·.1.name)).Nodup ∧
      readAll (schema.laidOut (.mapping entries)) r = .ok r' ∧
      ((schema.laidOut (.mapping entries)).map (·.1.name)).reverse ++ seen = seen' := by
  induction entries generalizing seen r with
  | nil => simp [readEntries, laidOut, Document.laidOut, and_comm]
  | cons e rest ih =>
    obtain ⟨key, d⟩ := e
    cases hfind : schema.fields.find? (·.isNamed key) with
    | none =>
      have hout : schema.laidOut (.mapping ((key, d) :: rest)) =
          schema.laidOut (.mapping rest) := by
        simp [laidOut, Document.laidOut, hfind]
      rw [hout, readEntries, hfind]
      exact ih
    | some f =>
      have hout : schema.laidOut (.mapping ((key, d) :: rest)) =
          (f, d) :: schema.laidOut (.mapping rest) := by
        simp [laidOut, Document.laidOut, hfind]
      rw [hout, readEntries, hfind]
      simp only
      split
      · next hseen =>
        exact ⟨nofun, fun h => absurd (List.contains_iff_mem.1 hseen) (h.1 _ List.mem_cons_self)⟩
      · next hseen =>
        have hseen : f.name ∉ seen := fun h => hseen (List.contains_iff_mem.2 h)
        simp only [Except.bind_eq_ok_iff, ih, readAll_cons_eq_ok_iff, List.map_cons,
          List.nodup_cons, List.reverse_cons, List.append_assoc, List.singleton_append]
        constructor
        · rintro ⟨r₁, hr₁, hfresh, hnodup, hall, hnames⟩
          refine ⟨List.forall_mem_cons.2 ⟨hseen, fun v hv h => ?_⟩, ⟨fun h => ?_, hnodup⟩,
            ⟨r₁, hr₁, hall⟩, hnames⟩
          · exact hfresh v hv (List.mem_cons_of_mem _ h)
          · obtain ⟨v, hv, hname⟩ := List.mem_map.1 h
            exact hfresh v hv (hname ▸ List.mem_cons_self)
        · rintro ⟨hfresh, ⟨hnew, hnodup⟩, ⟨r₁, hr₁, hall⟩, hnames⟩
          refine ⟨r₁, hr₁, fun v hv h => ?_, hnodup, hall, hnames⟩
          rcases List.mem_cons.1 h with hname | h
          · exact hnew (List.mem_map.2 ⟨v, hv, hname⟩)
          · exact (List.forall_mem_cons.1 hfresh).2 v hv h

theorem readItems_eq_ok_iff {short : Nat → DecodeError} {n : Nat} {fields : List (Field ρ)}
    {items rest : List Document} {r r' : ρ} :
    readItems .strict short n fields r items = .ok (r', rest) ↔
      readAll (fields.zip items) r = .ok r' ∧
      (∀ f ∈ fields.drop items.length, f.hasDefault = true) ∧ items.drop fields.length = rest := by
  induction fields generalizing n r items with
  | nil => simp [readItems]
  | cons f fields ih =>
    cases items with
    | nil =>
      rw [readItems]
      split
      · next h => simp [ih, h]
      · next h => simp [h]
    | cons d items =>
      simp only [readItems, Except.bind_eq_ok_iff, ih, List.zip_cons_cons, readAll_cons_eq_ok_iff,
        List.length_cons, List.drop_succ_cons]
      exact ⟨fun ⟨r₁, hr₁, hall, hrest⟩ => ⟨⟨r₁, hr₁, hall⟩, hrest⟩,
        fun ⟨⟨r₁, hr₁, hall⟩, hrest⟩ => ⟨r₁, hr₁, hall, hrest⟩⟩

theorem missing?_eq_none_iff {schema : Schema ρ} {seen : List String} :
    schema.missing? seen = none ↔ ∀ f ∈ schema.fields, f.required = true → f.name ∈ seen := by
  simp [missing?]

/-- A document decodes as a record exactly if it is laid out as the record may be, and its values
can be read one after the other. -/
theorem decode_eq_ok_iff {schema : Schema ρ} {d : Document} {r : ρ} :
    schema.decode .strict d = .ok r ↔
      schema.Admits d ∧ readAll (schema.laidOut d) schema.blank = .ok r := by
  cases d with
  | mapping entries =>
    simp only [decode, Except.bind_eq_ok_iff, Prod.exists, readEntries_eq_ok_iff, Admits]
    constructor
    · rintro ⟨seen, r', ⟨-, hnodup, hall, hseen⟩, h⟩
      split at h
      · cases h
      · next hmissing =>
        obtain rfl := Except.ok.inj h
        refine ⟨⟨hnodup, fun f hf hrequired => ?_⟩, hall⟩
        have hmem := missing?_eq_none_iff.1 hmissing f hf hrequired
        rw [← hseen, List.append_nil] at hmem
        exact List.mem_reverse.1 hmem
    · rintro ⟨⟨hnodup, hrequired⟩, hall⟩
      refine ⟨_, r, ⟨fun _ _ => List.not_mem_nil, hnodup, hall, rfl⟩, ?_⟩
      rw [missing?_eq_none_iff.2 fun f hf h => ?_]
      rw [List.append_nil]
      exact List.mem_reverse.2 (hrequired f hf h)
  | list items =>
    simp only [decode, Except.bind_eq_ok_iff, Prod.exists, readItems_eq_ok_iff, Admits]
    constructor
    · rintro ⟨r', rest, ⟨hall, hdefault, hrest⟩, h⟩
      split at h
      · next hempty =>
        obtain rfl := Except.ok.inj h
        have hlength : items.drop schema.fields.length = [] := by
          rw [hrest]
          simpa [DecodeRules.strict] using hempty
        exact ⟨⟨List.drop_eq_nil_iff.1 hlength, hdefault⟩, hall⟩
      · cases h
    · rintro ⟨⟨hlength, hdefault⟩, hall⟩
      exact ⟨r, [], ⟨hall, hdefault, List.drop_eq_nil_iff.2 hlength⟩, rfl⟩
  | _ =>
    refine ⟨fun h => ?_, fun h => h.1.elim⟩
    cases h

/-! ## What a record holds afterwards -/

/-- The value that a document holds for a field. -/
def value? (schema : Schema ρ) (name : String) (d : Document) : Option Document :=
  ((schema.laidOut d).find? (·.1.name == name)).map (·.2)

/-- What is read into one field is what the record holds for it afterwards: the fields that are read
later leave it. -/
theorem readAll_field {α : Type} {name : String} {proj : ρ → α} {value : Document → α}
    {values : List (Field ρ × Document)} {r r' : ρ} (h : readAll values r = .ok r')
    (hnodup : (values.map (·.1.name)).Nodup)
    (hread : ∀ v ∈ values, ∀ r r', v.1.read .strict v.2 r = .ok r' →
      proj r' = if v.1.name = name then value v.2 else proj r) :
    proj r' = ((values.find? (·.1.name == name)).map (value ·.2)).getD (proj r) := by
  induction values generalizing r with
  | nil =>
    cases h
    rfl
  | cons v values ih =>
    obtain ⟨r₁, hr₁, hall⟩ := readAll_cons_eq_ok_iff.1 h
    obtain ⟨hv, hvalues⟩ := List.forall_mem_cons.1 hread
    rw [List.map_cons] at hnodup
    obtain ⟨hnew, hnodup⟩ := List.nodup_cons.1 hnodup
    have hfirst := hv r r₁ hr₁
    have hrest := ih hall hnodup hvalues
    by_cases hname : v.1.name = name
    · have habsent : values.find? (·.1.name == name) = none := by
        refine List.find?_eq_none.2 fun w hw h => hnew ?_
        rw [hname, ← beq_iff_eq.1 h]
        exact List.mem_map_of_mem hw
      rw [habsent] at hrest
      rw [if_pos hname] at hfirst
      simpa [hname] using hrest.trans hfirst
    · rw [if_neg hname] at hfirst
      simpa [hname, hfirst] using hrest

theorem map_fst_zip_sublist : ∀ (l : List α) (l' : List β), List.Sublist ((l.zip l').map Prod.fst) l
  | [], _ => List.Sublist.refl _
  | _ :: _, [] => List.nil_sublist _
  | _ :: l, _ :: l' => (map_fst_zip_sublist l l').cons_cons _

theorem nodup_laidOut {schema : Schema ρ} {d : Document} (h : schema.Admits d)
    (hfields : (schema.fields.map (·.name)).Nodup) :
    ((schema.laidOut d).map (·.1.name)).Nodup := by
  cases d with
  | mapping entries => exact h.1
  | list items =>
    have hnames : (schema.fields.zip items).map (·.1.name) =
        ((schema.fields.zip items).map Prod.fst).map (·.name) := by
      rw [List.map_map]
      rfl
    show ((schema.fields.zip items).map (·.1.name)).Nodup
    rw [hnames]
    exact hfields.sublist ((map_fst_zip_sublist _ _).map _)
  | _ => exact h.elim

theorem mem_laidOut {schema : Schema ρ} {d : Document} {v : Field ρ × Document}
    (h : v ∈ schema.laidOut d) : v.1 ∈ schema.fields := by
  cases d with
  | mapping entries =>
    obtain ⟨e, -, he⟩ := List.mem_filterMap.1 h
    obtain ⟨f, hf, rfl⟩ := Option.map_eq_some_iff.1 he
    exact List.mem_of_find?_eq_some hf
  | list items => exact (List.of_mem_zip h).1
  | _ => cases h

/-- A decoded record holds in each field what the document holds for it, or what the blank record
holds. -/
theorem decode_field {schema : Schema ρ} {d : Document} {r : ρ}
    (h : schema.decode .strict d = .ok r) (hfields : (schema.fields.map (·.name)).Nodup)
    {α : Type} {name : String} {proj : ρ → α} {value : Document → α}
    (hread : ∀ f ∈ schema.fields, ∀ x r r', f.read .strict x r = .ok r' →
      proj r' = if f.name = name then value x else proj r) :
    proj r = ((schema.value? name d).map value).getD (proj schema.blank) := by
  obtain ⟨hadmits, hall⟩ := decode_eq_ok_iff.1 h
  rw [value?, Option.map_map]
  exact readAll_field hall (nodup_laidOut hadmits hfields) fun v hv =>
    hread v.1 (mem_laidOut hv) v.2

end Schema
end KafkaTopology
