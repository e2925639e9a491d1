import KafkaTopology.Decode
import KafkaTopology.Proofs.Except
/-!
# Records seen through a function

Two schemas may fill different records from the same fields. Where each field of the second one
reads what its counterpart reads, seen through a function, the second schema decodes what the first
one decodes, seen through that function (`Schema.Maps.decode_eq`): the same documents are refused,
for the same reasons.
-/
namespace KafkaTopology

variable {ρ σ : Type} {f : ρ → σ}

/-- A field that reads into `f r` what another one reads into `r`. -/
structure Field.Maps (f : ρ → σ) (p : Field ρ) (q : Field σ) : Prop where
  name : q.name = p.name
  aliases : q.aliases = p.aliases
  required : q.required = p.required
  hasDefault : q.hasDefault = p.hasDefault
  read : ∀ rules d r, q.read rules d (f r) = (p.read rules d r).map f

/-- Schemas with the same fields, of which the second one starts from what the first one does. -/
structure Schema.Maps (f : ρ → σ) (p : Schema ρ) (q : Schema σ) : Prop where
  name : q.name = p.name
  blank : q.blank = f p.blank
  fields : List.Forall₂ (Field.Maps f) p.fields q.fields

namespace Field

theorem Maps.isNamed_eq {p : Field ρ} {q : Field σ} (h : Maps f p q) (key : String) :
    p.isNamed key = q.isNamed key := by
  rw [isNamed, isNamed, h.name, h.aliases]

theorem maps_defaulted {α β : Type} {g : α → β} (name : String) (aliases : List String)
    {decode : Decoder α} {decode' : Decoder β} {set : α → ρ → ρ} {set' : β → σ → σ}
    (hdecode : ∀ rules d, decode' rules d = (decode rules d).map g)
    (hset : ∀ a r, set' (g a) (f r) = f (set a r)) :
    Maps f (defaulted name aliases decode set) (defaulted name aliases decode' set') where
  name := rfl
  aliases := rfl
  required := rfl
  hasDefault := rfl
  read rules d r := by
    show (do return set' (← decode' rules d) (f r)) =
      Except.map f (do return set (← decode rules d) r)
    rw [hdecode]
    cases decode rules d with
    | error e => rfl
    | ok a => exact congrArg Except.ok (hset a r)

end Field

namespace Schema.Maps

variable {p : Schema ρ} {q : Schema σ} (h : Maps f p q)

include h

theorem readEntries_eq (rules : DecodeRules) (seen : List String) (r : ρ) (entries : Entries) :
    q.readEntries rules seen (f r) entries =
      (p.readEntries rules seen r entries).map (Prod.map id f) := by
  induction entries generalizing seen r with
  | nil => rfl
  | cons e rest ih =>
    obtain ⟨key, d⟩ := e
    have hfind := h.fields.rel_find? fun _ _ hf => hf.isNamed_eq key
    rw [readEntries, readEntries]
    generalize p.fields.find? (·.isNamed key) = pf at hfind ⊢
    generalize q.fields.find? (·.isNamed key) = qf at hfind ⊢
    cases hfind with
    | none => exact ih seen r
    | @some pf qf hf =>
      simp only [hf.name, hf.read]
      split
      · rfl
      · cases pf.read rules d r with
        | error e => rfl
        | ok r' => exact ih _ r'

theorem missing?_eq (seen : List String) : q.missing? seen = p.missing? seen := by
  have hfind := h.fields.rel_find?
    (p := fun f => f.required && !seen.contains f.name)
    (q := fun f => f.required && !seen.contains f.name) fun _ _ hf => by rw [hf.required, hf.name]
  rw [missing?, missing?]
  generalize p.fields.find? _ = pf at hfind ⊢
  generalize q.fields.find? _ = qf at hfind ⊢
  cases hfind with
  | none => rfl
  | some hf => exact congrArg some hf.name

omit h in
theorem readItems_eq {ps : List (Field ρ)} {qs : List (Field σ)}
    (hfields : List.Forall₂ (Field.Maps f) ps qs) (rules : DecodeRules) (short : Nat → DecodeError)
    (n : Nat) (r : ρ) (items : List Document) :
    readItems rules short n qs (f r) items =
      (readItems rules short n ps r items).map (Prod.map f id) := by
  induction hfields generalizing n r items with
  | nil => cases items <;> rfl
  | @cons pf qf ps qs hf _ ih =>
    cases items with
    | nil =>
      rw [readItems, readItems, hf.hasDefault]
      split
      · exact ih (n + 1) r []
      · rfl
    | cons d items =>
      rw [readItems, readItems, hf.read]
      cases pf.read rules d r with
      | error e => rfl
      | ok r' => exact ih (n + 1) r' items

/-- What the second schema decodes. -/
theorem decode_eq (rules : DecodeRules) (d : Document) :
    q.decode rules d = (p.decode rules d).map f := by
  cases d with
  | mapping entries =>
    simp only [decode, h.blank, h.readEntries_eq, h.missing?_eq]
    cases p.readEntries rules [] p.blank entries with
    | error e => rfl
    | ok result =>
      simp only [bind, Except.bind, Except.map, Prod.map, id_eq]
      cases p.missing? result.1 <;> rfl
  | list items =>
    have hlength : q.fields.length = p.fields.length := h.fields.length_eq.symm
    simp only [decode, h.blank, h.name, hlength, readItems_eq h.fields]
    cases readItems rules _ 0 p.fields p.blank items with
    | error e => rfl
    | ok result =>
      simp only [bind, Except.bind, Except.map, Prod.map, id_eq]
      cases result.2.isEmpty || rules.longRecords <;> rfl
  | _ =>
    simp only [decode, h.name]
    rfl

end Schema.Maps
end KafkaTopology
