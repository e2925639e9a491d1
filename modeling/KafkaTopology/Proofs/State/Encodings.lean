import KafkaTopology.Plan.Summary
import KafkaTopology.Proofs.Decode.Layout
import KafkaTopology.Proofs.Orders
import KafkaTopology.Proofs.State.Codec
/-!
# Encodings

Decoders accept many forms and encoders write one. A decoder and an encoder are a pair
(`Decoder.RoundTrips`) if a written value is read back, and if a document that is accepted stands
for the same value, and is written in the same way, once it has been written again. It suffices that
written values are read back, as long as whatever is decoded is a value that can be written
(`Decoder.roundTrips`).
-/
namespace KafkaTopology

/-! ## Decoders and encoders -/

namespace Decoder

variable {α : Type} {decode : Decoder α} {write : α → Document} {valid : α → Prop}

/-- What a document is written as once it has been read. -/
def rewritten (decode : Decoder α) (write : α → Document) (d : Document) :
    Except DecodeError Document :=
  (decode .strict d).map write

theorem rewritten_eq_ok_iff {d d' : Document} :
    decode.rewritten write d = .ok d' ↔ ∃ a, decode .strict d = .ok a ∧ write a = d' := by
  rw [rewritten]
  cases decode .strict d <;> simp [Except.map]

/-- Whether a decoder and an encoder fit each other on the values that are valid. -/
structure RoundTrips (decode : Decoder α) (write : α → Document) (valid : α → Prop) : Prop where
  /-- A written value is read back. -/
  reads : ∀ a, valid a → decode .strict (write a) = .ok a
  /-- What a document is written as stands for the same value. -/
  keeps : ∀ d d', decode.rewritten write d = .ok d' → decode .strict d' = decode .strict d
  /-- What a document is written as is written as it is. -/
  settles : ∀ d d', decode.rewritten write d = .ok d' → decode.rewritten write d' = .ok d'

theorem roundTrips (hreads : ∀ a, valid a → decode .strict (write a) = .ok a)
    (hvalid : ∀ d a, decode .strict d = .ok a → valid a) : RoundTrips decode write valid := by
  have hkeeps : ∀ d d', decode.rewritten write d = .ok d' →
      decode .strict d' = decode .strict d := by
    intro d d' h
    obtain ⟨a, ha, rfl⟩ := rewritten_eq_ok_iff.1 h
    rw [ha, hreads a (hvalid d a ha)]
  refine ⟨hreads, hkeeps, fun d d' h => ?_⟩
  rw [rewritten, hkeeps d d' h]
  exact h

/-- The same where every value can be written. -/
theorem roundTrips_of_reads (hreads : ∀ a, decode .strict (write a) = .ok a) :
    RoundTrips decode write fun _ => True :=
  roundTrips (fun a _ => hreads a) fun _ _ _ => trivial

theorem count_natCast (rules : DecodeRules) {n : Nat} (h : n < Nat.pow 2 64) :
    count rules (.integer n) = .ok n := by
  have hfits : 0 ≤ (n : Int) ∧ (n : Int) < Nat.pow 2 64 := ⟨Int.natCast_nonneg n, Int.ofNat_lt.2 h⟩
  rw [count, if_pos hfits, Int.toNat_natCast]

theorem lt_of_count {rules : DecodeRules} {d : Document} {n : Nat} (h : count rules d = .ok n) :
    n < Nat.pow 2 64 := by
  cases d with
  | integer i =>
    rw [count] at h
    split at h
    · next hfits =>
      obtain rfl := Except.ok.inj h
      obtain ⟨hnonneg, hlt⟩ := hfits
      omega
    · cases h
  | _ => cases h

end Decoder

/-! ## What is read on the way to a record -/

namespace Schema

variable {ρ : Type} {schema : Schema ρ} {d : Document} {r : ρ}

/-- A property that every field keeps holds of what is read. -/
theorem readAll_invariant {p : ρ → Prop} {values : List (Field ρ × Document)} {r' : ρ}
    (hread : ∀ v ∈ values, ∀ r r', p r → v.1.read .strict v.2 r = .ok r' → p r')
    (hstart : p r) (h : readAll values r = .ok r') : p r' := by
  induction values generalizing r with
  | nil =>
    cases h
    exact hstart
  | cons v values ih =>
    obtain ⟨r₁, hr₁, hrest⟩ := readAll_cons_eq_ok_iff.1 h
    obtain ⟨hv, hvalues⟩ := List.forall_mem_cons.1 hread
    exact ih hvalues (hv r r₁ hstart hr₁) hrest

theorem decode_invariant {p : ρ → Prop} (h : schema.decode .strict d = .ok r)
    (hblank : p schema.blank)
    (hread : ∀ f ∈ schema.fields, ∀ x r r', p r → f.read .strict x r = .ok r' → p r') : p r :=
  readAll_invariant (fun v hv => hread v.1 (mem_laidOut hv) v.2) hblank (decode_eq_ok_iff.1 h).2

theorem exists_read_of_readAll {values : List (Field ρ × Document)} {r r' : ρ}
    (h : readAll values r = .ok r') {v : Field ρ × Document} (hv : v ∈ values) :
    ∃ r₁ r₂, v.1.read .strict v.2 r₁ = .ok r₂ := by
  induction values generalizing r with
  | nil => cases hv
  | cons first values ih =>
    obtain ⟨r₁, hr₁, hrest⟩ := readAll_cons_eq_ok_iff.1 h
    rcases List.mem_cons.1 hv with rfl | hv
    · exact ⟨r, r₁, hr₁⟩
    · exact ih hrest hv

/-- What a decoded document holds for a field has been read. -/
theorem exists_read_of_value? {name : String} {x : Document} (h : schema.decode .strict d = .ok r)
    (hx : schema.value? name d = some x) :
    ∃ f ∈ schema.fields, f.name = name ∧ ∃ r₁ r₂, f.read .strict x r₁ = .ok r₂ := by
  obtain ⟨v, hv, rfl⟩ := Option.map_eq_some_iff.1 hx
  have hmem : v ∈ schema.laidOut d := List.mem_of_find?_eq_some hv
  have hname := List.find?_some hv
  exact ⟨v.1, mem_laidOut hmem, beq_iff_eq.1 hname,
    exists_read_of_readAll (decode_eq_ok_iff.1 h).2 hmem⟩

end Schema

/-! ## Records -/

section
variable (rules : DecodeRules)

theorem Acl.Binding.reads_toDocument (b : Binding) : schema.decode rules b.toDocument = .ok b :=
  Schema.decode_mapping
    (Schema.readEntries_field rfl rfl (Field.read_mandatory (Resource.decode_word rules _) _) <|
      Schema.readEntries_field rfl rfl rfl <|
      Schema.readEntries_field rfl rfl (Field.read_mandatory (Pattern.decode_word rules _) _) <|
      Schema.readEntries_field rfl rfl rfl <|
      Schema.readEntries_field rfl rfl (Field.read_mandatory (Operation.decode_word rules _) _) <|
      Schema.readEntries_field rfl rfl rfl rfl)
    rfl

theorem Account.reads_toDocument (a : Account) : schema.decode rules a.toDocument = .ok a := by
  obtain ⟨principal, _ | description⟩ := a
  · exact Schema.decode_mapping (Schema.readEntries_field rfl rfl rfl rfl) rfl
  · exact Schema.decode_mapping
      (Schema.readEntries_field rfl rfl rfl <| Schema.readEntries_field rfl rfl rfl rfl) rfl

theorem Artefact.reads_toDocument (a : Artefact) : schema.decode rules a.toDocument = .ok a :=
  Schema.decode_mapping
    (Schema.readEntries_field rfl rfl rfl <| Schema.readEntries_field rfl rfl rfl <|
      Schema.readEntries_field rfl rfl rfl rfl) rfl

end

/-! ## Summaries -/

namespace RunSummary

/-- Whether the counts of a summary fit a word of 64 bits. -/
structure Fits (s : RunSummary) : Prop where
  previewed : s.previewed < Nat.pow 2 64
  applied : s.applied < Nat.pow 2 64
  created : s.created < Nat.pow 2 64
  removed : s.removed < Nat.pow 2 64

theorem reads_toDocument (rules : DecodeRules) {s : RunSummary} (h : s.Fits) :
    schema.decode rules s.toDocument = .ok s :=
  Schema.decode_mapping
    (Schema.readEntries_field rfl rfl rfl <|
      Schema.readEntries_field rfl rfl
        (Field.read_mandatory (Decoder.count_natCast rules h.previewed) _) <|
      Schema.readEntries_field rfl rfl
        (Field.read_mandatory (Decoder.count_natCast rules h.applied) _) <|
      Schema.readEntries_field rfl rfl
        (Field.read_mandatory (Decoder.count_natCast rules h.created) _) <|
      Schema.readEntries_field rfl rfl
        (Field.read_mandatory (Decoder.count_natCast rules h.removed) _) rfl)
    rfl

theorem fits_of_decode {d : Document} {s : RunSummary} (h : schema.decode .strict d = .ok s) :
    s.Fits := by
  have hzero : 0 < Nat.pow 2 64 := by decide
  refine Schema.decode_invariant h ⟨hzero, hzero, hzero, hzero⟩ fun f hf x r r' hr hread => ?_
  simp only [schema, List.mem_cons, List.not_mem_nil, or_false] at hf
  rcases hf with rfl | rfl | rfl | rfl | rfl <;>
    obtain ⟨v, hv, ⟨⟩⟩ := Except.bind_eq_ok_iff.1 hread
  · exact ⟨hr.previewed, hr.applied, hr.created, hr.removed⟩
  · exact { hr with previewed := Decoder.lt_of_count hv }
  · exact { hr with applied := Decoder.lt_of_count hv }
  · exact { hr with created := Decoder.lt_of_count hv }
  · exact { hr with removed := Decoder.lt_of_count hv }

end RunSummary

/-! ## States -/

namespace State

section
variable {α : Type} [Ord α] [Std.TransOrd α] {decode : Decoder α}

/-- A set holds of what is listed the first of all equal elements. -/
theorem exists_of_decodeSet {d : Document} {s : OrderedSet α}
    (h : decodeSet decode .strict d = .ok s) :
    ∃ xs, Decoder.list decode .strict d = .ok xs ∧
      ∀ x, x ∈ s ↔ xs.find? (fun y => compare x y == .eq) = some x := by
  obtain ⟨xs, hxs, ⟨⟩⟩ := Except.bind_eq_ok_iff.1 h
  refine ⟨xs, hxs, fun x => ?_⟩
  rw [OrderedSet.mem_iff_find?_self, OrderedSet.find?_insertAll, OrderedSet.find?_empty,
    Option.none_or]

end

theorem lists_toDocument (rules : DecodeRules) (s : State) :
    Listing.schema.decode rules s.toDocument = .ok s.listing := by
  have hbindings := Decoder.list_written (Acl.Binding.reads_toDocument rules) s.bindings.toList
  have haccounts := Decoder.list_written (Account.reads_toDocument rules) s.accounts.toList
  have htopics : Decoder.list Decoder.text rules (.list (s.topics.toList.map .text)) =
      .ok s.topics.toList := Decoder.list_written (fun _ => rfl) s.topics.toList
  have hartefacts := Decoder.list_written (Artefact.reads_toDocument rules) s.artefacts.toList
  exact Schema.decode_mapping
    (Schema.readEntries_field rfl rfl (Field.read_defaulted hbindings _) <|
      Schema.readEntries_field rfl rfl (Field.read_defaulted haccounts _) <|
      Schema.readEntries_field rfl rfl (Field.read_defaulted htopics _) <|
      Schema.readEntries_field rfl rfl (Field.read_defaulted hartefacts _) rfl)
    rfl

theorem reads_toDocument (rules : DecodeRules) (s : State) :
    schema.decode rules s.toDocument = .ok s :=
  decode_of_listing (s.lists_toDocument rules)

/-- The accounts of a state are those that its document lists. -/
theorem accounts_of_decode {d listed : Document} {s : State} (h : schema.decode .strict d = .ok s)
    (hlisted : schema.value? "service_accounts" d = some listed) :
    decodeSet Account.schema.decode .strict listed = .ok s.accounts := by
  let set? (x : Document) := (decodeSet Account.schema.decode .strict x).toOption
  have hfield : s.accounts = ((schema.value? "service_accounts" d).map
      fun x => (set? x).getD ∅).getD ∅ := by
    refine Schema.decode_field h (by decide) fun f hf x r r' hread => ?_
    simp only [schema, List.mem_cons, List.not_mem_nil, or_false] at hf
    rcases hf with rfl | rfl | rfl | rfl <;>
      obtain ⟨v, hv, ⟨⟩⟩ := Except.bind_eq_ok_iff.1 hread <;>
      simp [Field.defaulted, set?, hv, Except.toOption]
  obtain ⟨f, hf, hname, r₁, r₂, hread⟩ := Schema.exists_read_of_value? h hlisted
  obtain ⟨accounts, haccounts⟩ :
      ∃ accounts, decodeSet Account.schema.decode .strict listed = .ok accounts := by
    simp only [schema, List.mem_cons, List.not_mem_nil, or_false] at hf
    rcases hf with rfl | rfl | rfl | rfl <;> simp [Field.defaulted] at hname
    obtain ⟨accounts, haccounts, -⟩ := Except.bind_eq_ok_iff.1 hread
    exact ⟨accounts, haccounts⟩
  have hset : set? listed = some accounts := Except.toOption_eq_some_iff.2 haccounts
  rw [hlisted, Option.map_some, Option.getD_some, hset, Option.getD_some] at hfield
  rw [haccounts, hfield]

end State

/-! ## All of them -/

/-- **Encodings round-trip and normalise.** Every binding, account, artefact, summary with counts of
64 bits, and state is read back as it is written. Whatever document is accepted for one of them, in
whichever form, stands for the same value after it has been written again, and is then written as it
is. Of the accounts that a document lists, a state has the first one of each principal, with the
description that this one has, if any. -/
theorem encodings_roundTrip :
    Decoder.RoundTrips Acl.Binding.schema.decode Acl.Binding.toDocument (fun _ => True) ∧
    Decoder.RoundTrips Account.schema.decode Account.toDocument (fun _ => True) ∧
    Decoder.RoundTrips Artefact.schema.decode Artefact.toDocument (fun _ => True) ∧
    Decoder.RoundTrips RunSummary.schema.decode RunSummary.toDocument RunSummary.Fits ∧
    Decoder.RoundTrips State.schema.decode State.toDocument (fun _ => True) ∧
    ∀ d s listed, State.schema.decode .strict d = .ok s →
      State.schema.value? "service_accounts" d = some listed →
      ∃ accounts, Decoder.list Account.schema.decode .strict listed = .ok accounts ∧
        ∀ a, a ∈ s.accounts ↔ accounts.find? (fun b => a.principal == b.principal) = some a := by
  refine ⟨Decoder.roundTrips_of_reads (Acl.Binding.reads_toDocument .strict),
    Decoder.roundTrips_of_reads (Account.reads_toDocument .strict),
    Decoder.roundTrips_of_reads (Artefact.reads_toDocument .strict),
    Decoder.roundTrips (fun _ => RunSummary.reads_toDocument .strict)
      fun _ _ => RunSummary.fits_of_decode,
    Decoder.roundTrips_of_reads (State.reads_toDocument .strict), fun d s listed h hlisted => ?_⟩
  obtain ⟨accounts, haccounts, hfirst⟩ :=
    State.exists_of_decodeSet (State.accounts_of_decode h hlisted)
  have hsame (a b : Account) : (compare a b == .eq) = (a.principal == b.principal) := by
    rw [Bool.eq_iff_iff, beq_iff_eq, beq_iff_eq, Account.compare_eq_iff]
  simp only [hsame] at hfirst
  exact ⟨accounts, haccounts, hfirst⟩

/-! ## A state as it may be written -/

namespace Scrawled

/-- Accounts in both forms of a record, one of them with a key that means nothing, and one listed
twice. -/
def accounts : Document := .list [
  .list [.text "User:b", .text "billing"],
  .mapping [("description", .null), ("team", .text "ops"), ("principal", .text "User:a")],
  .mapping [("principal", .text "User:b"), ("description", .text "reports")]]

/-- A state as the list of its fields, without its artefacts. -/
def document : Document := .list [
  .list [], accounts, .list [.text "orders", .text "ledger", .text "orders"]]

def state : State :=
  .ofLists [] [⟨"User:a", none⟩, ⟨"User:b", some "billing"⟩] ["ledger", "orders"] []

def summary : RunSummary := ⟨false, 0, 3, 2, 1⟩

end Scrawled

/-- The account that is listed twice keeps its first description, and the summary its counts. -/
theorem encodings_roundTrip_scrawled :
    Scrawled.summary.Fits ∧
      RunSummary.schema.decode .strict Scrawled.summary.toDocument = .ok Scrawled.summary ∧
      State.schema.decode .strict Scrawled.document = .ok Scrawled.state ∧
      State.schema.value? "service_accounts" Scrawled.document = some Scrawled.accounts ∧
      ⟨"User:b", some "billing"⟩ ∈ Scrawled.state.accounts ∧
      State.schema.decode.rewritten State.toDocument Scrawled.state.toDocument =
        .ok Scrawled.state.toDocument := by
  obtain ⟨-, -, -, hsummary, hstate, hfirst⟩ := encodings_roundTrip
  have hfits : Scrawled.summary.Fits := by constructor <;> decide
  have hdecode : State.schema.decode .strict Scrawled.document = .ok Scrawled.state :=
    Except.toOption_eq_some_iff.1 (by decide +kernel)
  have hlisted : State.schema.value? "service_accounts" Scrawled.document =
      some Scrawled.accounts := rfl
  have hwritten : State.schema.decode.rewritten State.toDocument Scrawled.document =
      .ok Scrawled.state.toDocument := Decoder.rewritten_eq_ok_iff.2 ⟨_, hdecode, rfl⟩
  obtain ⟨accounts, haccounts, hkept⟩ := hfirst _ _ _ hdecode hlisted
  have haccounts' : Decoder.list Account.schema.decode .strict Scrawled.accounts =
      .ok [⟨"User:b", some "billing"⟩, ⟨"User:a", none⟩, ⟨"User:b", some "reports"⟩] := rfl
  obtain rfl := Except.ok.inj (haccounts.symm.trans haccounts')
  exact ⟨hfits, hsummary.reads _ hfits, hdecode, hlisted, (hkept _).2 (by decide),
    hstate.settles _ _ hwritten⟩

end KafkaTopology
