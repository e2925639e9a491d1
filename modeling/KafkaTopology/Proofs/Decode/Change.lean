import KafkaTopology.Proofs.Decode.Form
import KafkaTopology.Proofs.Document.Path
import Mathlib.Data.List.Find
/-!
# Decoding a document after a change

A list or a record is decoded as before if the part that has changed is. A record is decoded as
before, too, if one of its fields is written in another of its spellings; a field may not come in
two of them.
-/
namespace KafkaTopology

theorem Decoder.list_changeBelow {α : Type} {decode : Decoder α} {rules : DecodeRules}
    {g : Document → Document} {j : Nat} {d : Document}
    (h : ∀ m ∈ d.below? (.item j), decode rules (g m) = decode rules m) :
    Decoder.list decode rules (d.changeBelow g (.item j)) = Decoder.list decode rules d := by
  cases d with
  | list items => exact Except.mapM_modify h
  | _ => rfl

namespace Schema

variable {ρ : Type} {schema : Schema ρ} {key key' : String}

theorem readEntries_change {rules : DecodeRules} {g : Document → Document} {entries : Entries}
    (h : ∀ f ∈ schema.fields, f.isNamed key = true →
      ∀ d ∈ Entries.get? key entries, ∀ r, f.read rules (g d) r = f.read rules d r)
    (seen : List String) (r : ρ) :
    schema.readEntries rules seen r (entries.change key g) =
      schema.readEntries rules seen r entries := by
  induction entries generalizing seen r with
  | nil => rfl
  | cons e rest ih =>
    obtain ⟨k, d⟩ := e
    by_cases hk : k = key
    · subst hk
      rw [Entries.change, if_pos rfl, readEntries, readEntries]
      cases hfind : schema.fields.find? (·.isNamed k) with
      | none => rfl
      | some f =>
        have hnamed : f.isNamed k = true := by simpa using List.find?_some hfind
        have hread := h f (List.mem_of_find?_eq_some hfind) hnamed d (by simp [Entries.get?])
        simp only [hread]
    · have hrest := ih (by simpa [Entries.get?, hk] using h)
      rw [Entries.change, if_neg hk, readEntries, readEntries]
      simp only [hrest]

/-- Two keys that name the same fields are read alike. -/
theorem readEntries_respell (h : ∀ f ∈ schema.fields, f.isNamed key' = f.isNamed key)
    (rules : DecodeRules) (seen : List String) (r : ρ) (entries : Entries) :
    schema.readEntries rules seen r (entries.respell key key') =
      schema.readEntries rules seen r entries := by
  induction entries generalizing seen r with
  | nil => rfl
  | cons e rest ih =>
    obtain ⟨k, d⟩ := e
    have hfind : schema.fields.find? (·.isNamed (if k = key then key' else k)) =
        schema.fields.find? (·.isNamed k) := by
      by_cases hk : k = key
      · subst hk
        rw [if_pos rfl]
        exact List.find?_congr h
      · rw [if_neg hk]
    have hrespell : Entries.respell key key' ((k, d) :: rest) =
        (if k = key then key' else k, d) :: Entries.respell key key' rest := rfl
    rw [hrespell, readEntries, readEntries, hfind]
    simp only [ih]

theorem decode_respell (h : ∀ f ∈ schema.fields, f.isNamed key' = f.isNamed key)
    (rules : DecodeRules) (d : Document) :
    schema.decode rules (d.respell key key') = schema.decode rules d := by
  cases d with
  | mapping entries =>
    have hentries := fun seen r => readEntries_respell h rules seen r entries
    simp only [Document.respell, decode, hentries]
  | _ => rfl

/-- A mapping that has two keys for one field does not decode. -/
theorem not_form_of_find? {f : Field ρ} {entries : Entries} (hne : key' ≠ key)
    (hf : schema.fields.find? (·.isNamed key) = some f)
    (hf' : schema.fields.find? (·.isNamed key') = some f)
    (hkey : key ∈ entries.keys) (hkey' : key' ∈ entries.keys) :
    ¬schema.decode.form (.mapping entries) := by
  intro hform
  obtain ⟨r, hr⟩ := Except.isOk_iff.1 hform
  obtain ⟨⟨hnodup, -⟩, -⟩ := decode_eq_ok_iff.1 hr
  obtain ⟨e, he, rfl⟩ := List.mem_map.1 hkey
  obtain ⟨e', he', rfl⟩ := List.mem_map.1 hkey'
  -- both entries give the name of the field, and the names of the fields that are laid out differ
  obtain ⟨before, after, rfl⟩ := List.append_of_mem he
  have hother : e' ∈ before ++ after := by
    have hentry : e' ≠ e := fun h => hne (congrArg Prod.fst h)
    simpa [hentry] using he'
  have hname : f.name ∈ ((schema.laidOut (.mapping (before ++ after))).map (·.1.name)) := by
    refine List.mem_map.2 ⟨(f, e'.2), List.mem_filterMap.2 ⟨e', hother, ?_⟩, rfl⟩
    rw [hf', Option.map_some]
  simp only [laidOut, Document.laidOut, List.filterMap_append, List.filterMap_cons, hf,
    Option.map_some, List.map_append, List.map_cons, List.nodup_middle, List.nodup_cons]
    at hname hnodup
  exact hnodup.1 hname

end Schema

end KafkaTopology
