import KafkaTopology.Proofs.Document.Toml
import KafkaTopology.Proofs.Except
import KafkaTopology.Proofs.OrderedMap
import KafkaTopology.Proofs.State.Listing
import KafkaTopology.Proofs.Timestamp
import KafkaTopology.StateFile
/-!
# The stored form is read back

A state is written with its records in declaration order and read from mappings whose keys are in
increasing order. So each record comes with the order of its keys (`Document.ordered_mapping`), in
which it is read field by field. Lists of records are read item by item, and a state is read as its
lists are, so a written state is read back with its time (`StateRecord.ofToml?_toToml`).
-/
namespace KafkaTopology

/-! ## Keys in order -/

namespace Document

theorem Toml.sorted_map (f : String → Document) (keys : List String) :
    sorted (keys.map fun key => (key, f key)) =
      (OrderedSet.ofList keys).toList.map fun key => (key, f key) := by
  have hordered := OrderedSet.toList_ofList_map (g := fun key => (⟨key, f key⟩ : Entry String Document))
    (fun _ _ => rfl) keys
  rw [sorted, OrderedMap.toPairs, OrderedMap.ofPairs, List.map_map]
  exact (congrArg _ hordered).trans List.map_map

/-- A mapping whose keys are known is known in order. -/
theorem ordered_mapping {entries entries' : List (String × Document)} (keys keys' : List String)
    (hsorted : (OrderedSet.ofList keys).toList = keys')
    (hentries : orderedEntries entries =
      keys.map fun key => (key, ((orderedEntries entries).lookup key).getD .null))
    (hentries' : entries' =
      keys'.map fun key => (key, ((orderedEntries entries).lookup key).getD .null)) :
    (mapping entries).ordered = .mapping entries' := by
  rw [ordered, hentries, Toml.sorted_map, hsorted, hentries']

/-- A mapping with bare and different keys is plain if its values are. -/
theorem Plain.ofKeys {n : Nat} {entries : List (String × Document)} (keys : List String)
    (hkeys : entries.map Prod.fst = keys) (hbare : keys.all Toml.isBareKey = true)
    (hdistinct : keys.Nodup) (hvalues : ∀ e ∈ entries, Plain n e.2) :
    Plain (n + 1) (.mapping entries) := by
  subst hkeys
  exact .mapping hvalues (fun e he => List.all_eq_true.1 hbare e.1 (List.mem_map_of_mem he))
    hdistinct

theorem Plain.list_map {α : Type} {n : Nat} {write : α → Document} (h : ∀ a, Plain n (write a))
    (as : List α) : Plain (n + 1) (.list (as.map write)) :=
  .list fun _ hd => by
    obtain ⟨a, -, rfl⟩ := List.mem_map.1 hd
    exact h a

end Document

/-! ## Decoders -/

section
variable {rules : DecodeRules}

/-- Reading one more field. -/
theorem Schema.readEntries_field {ρ : Type} {schema : Schema ρ} {f : Field ρ} {key : String}
    {d : Document} {rest : Entries} {seen : List String} {r r₁ : ρ}
    {result : Except DecodeError (List String × ρ)}
    (hfind : schema.fields.find? (·.isNamed key) = some f) (hseen : seen.contains f.name = false)
    (hread : f.read rules d r = .ok r₁)
    (hrest : schema.readEntries rules (f.name :: seen) r₁ rest = result) :
    schema.readEntries rules seen r ((key, d) :: rest) = result := by
  rw [readEntries, hfind]
  simp only [hseen, hread]
  exact hrest

theorem Field.read_mandatory {ρ α : Type} {name : String} {decode : Decoder α} {set : α → ρ → ρ}
    {d : Document} {a : α} (h : decode rules d = .ok a) (r : ρ) :
    (mandatory name decode set).read rules d r = .ok (set a r) := by
  show (do return set (← decode rules d) r) = _
  rw [h]
  rfl

theorem Field.read_defaulted {ρ α : Type} {name : String} {aliases : List String}
    {decode : Decoder α} {set : α → ρ → ρ} {d : Document} {a : α} (h : decode rules d = .ok a)
    (r : ρ) : (defaulted name aliases decode set).read rules d r = .ok (set a r) := by
  show (do return set (← decode rules d) r) = _
  rw [h]
  rfl

/-- A mapping that can be read entry by entry decodes, if no required field is missing. -/
theorem Schema.decode_mapping {ρ : Type} {schema : Schema ρ} {entries : Entries}
    {seen : List String} {r : ρ}
    (hread : schema.readEntries rules [] schema.blank entries = .ok (seen, r))
    (hseen : schema.missing? seen = none) : schema.decode rules (.mapping entries) = .ok r := by
  refine Except.bind_eq_ok_iff.2 ⟨(seen, r), hread, ?_⟩
  simp only [hseen]

theorem Decoder.list_written {α : Type} {decode : Decoder α} {write : α → Document}
    (h : ∀ a, decode rules (write a) = .ok a) (as : List α) :
    list decode rules (.list (as.map write)) = .ok as := by
  show (as.map write).mapM (decode rules) = _
  induction as with
  | nil => rfl
  | cons a as ih =>
    rw [List.map_cons, List.mapM_cons, h, ih]
    rfl

/-- The same with the keys of the written values in order. -/
theorem Decoder.list_ordered {α : Type} {decode : Decoder α} {write : α → Document}
    (h : ∀ a, decode rules (write a).ordered = .ok a) (as : List α) :
    list decode rules (Document.list (as.map write)).ordered = .ok as := by
  rw [Document.ordered, Document.orderedItems_eq_map, List.map_map]
  exact list_written h as

end

open Document

/-! ## Records -/

namespace Acl

theorem Resource.decode_word (rules : DecodeRules) (r : Resource) :
    decode rules (.text r.word) = .ok r := by
  cases r <;> rfl

theorem Pattern.decode_word (rules : DecodeRules) (p : Pattern) :
    decode rules (.text p.word) = .ok p := by
  cases p <;> rfl

theorem Operation.decode_word (rules : DecodeRules) (o : Operation) :
    decode rules (.text o.word) = .ok o := by
  cases o <;> rfl

namespace Binding

theorem plain_toDocument (n : Nat) (b : Binding) : Plain (n + 1) b.toDocument :=
  .ofKeys ["resource_type", "resource_name", "pattern", "principal", "operation", "host"] rfl
    (by decide) (by decide) (by simp [Plain.text])

theorem ordered_toDocument (b : Binding) : b.toDocument.ordered = .mapping [
    ("host", .text b.host), ("operation", .text b.operation.word),
    ("pattern", .text b.pattern.word), ("principal", .text b.principal),
    ("resource_name", .text b.name), ("resource_type", .text b.resource.word)] :=
  ordered_mapping
    ["resource_type", "resource_name", "pattern", "principal", "operation", "host"]
    ["host", "operation", "pattern", "principal", "resource_name", "resource_type"]
    (by decide +kernel) rfl rfl

theorem decode_toDocument (rules : DecodeRules) (b : Binding) :
    schema.decode rules b.toDocument.ordered = .ok b := by
  rw [ordered_toDocument]
  refine Schema.decode_mapping
    (Schema.readEntries_field rfl rfl rfl <|
      Schema.readEntries_field rfl rfl (Field.read_mandatory (Operation.decode_word rules _) _) <|
      Schema.readEntries_field rfl rfl (Field.read_mandatory (Pattern.decode_word rules _) _) <|
      Schema.readEntries_field rfl rfl rfl <|
      Schema.readEntries_field rfl rfl rfl <|
      Schema.readEntries_field rfl rfl (Field.read_mandatory (Resource.decode_word rules _) _) rfl)
    rfl

end Binding
end Acl

namespace Account

theorem plain_toDocument (n : Nat) (a : Account) : Plain (n + 1) a.toDocument := by
  obtain ⟨principal, _ | description⟩ := a
  · exact .ofKeys ["principal"] rfl (by decide) (by decide) (by simp [Plain.text])
  · exact .ofKeys ["principal", "description"] rfl (by decide) (by decide) (by simp [Plain.text])

theorem decode_toDocument (rules : DecodeRules) (a : Account) :
    schema.decode rules a.toDocument.ordered = .ok a := by
  obtain ⟨principal, _ | description⟩ := a
  · have hordered : (toDocument ⟨principal, none⟩).ordered =
        .mapping [("principal", .text principal)] :=
      ordered_mapping ["principal"] ["principal"] (by decide +kernel) rfl rfl
    rw [hordered]
    exact Schema.decode_mapping (Schema.readEntries_field rfl rfl rfl rfl) rfl
  · have hordered : (toDocument ⟨principal, some description⟩).ordered =
        .mapping [("description", .text description), ("principal", .text principal)] :=
      ordered_mapping ["principal", "description"] ["description", "principal"] (by decide +kernel)
        rfl rfl
    rw [hordered]
    exact Schema.decode_mapping
      (Schema.readEntries_field rfl rfl rfl <| Schema.readEntries_field rfl rfl rfl rfl) rfl

end Account

namespace Artefact

theorem plain_toDocument (n : Nat) (a : Artefact) : Plain (n + 1) a.toDocument :=
  .ofKeys ["server_label", "name", "path"] rfl (by decide) (by decide) (by simp [Plain.text])

theorem decode_toDocument (rules : DecodeRules) (a : Artefact) :
    schema.decode rules a.toDocument.ordered = .ok a := by
  have hordered : a.toDocument.ordered = .mapping [
      ("name", .text a.name), ("path", .text a.path), ("server_label", .text a.server)] :=
    ordered_mapping ["server_label", "name", "path"] ["name", "path", "server_label"]
      (by decide +kernel) rfl rfl
  rw [hordered]
  exact Schema.decode_mapping
    (Schema.readEntries_field rfl rfl rfl <| Schema.readEntries_field rfl rfl rfl <|
      Schema.readEntries_field rfl rfl rfl rfl) rfl

end Artefact

/-! ## States -/

namespace State

theorem plain_toDocument (n : Nat) (s : State) : Plain (n + 3) s.toDocument :=
  .ofKeys ["bindings", "service_accounts", "topics", "artefacts"] rfl (by decide) (by decide) <| by
    simp [Plain.list_map, Acl.Binding.plain_toDocument, Account.plain_toDocument,
      Artefact.plain_toDocument, Plain.text]

theorem ordered_toDocument (s : State) : s.toDocument.ordered = .mapping [
    ("artefacts", (Document.list (s.artefacts.toList.map Artefact.toDocument)).ordered),
    ("bindings", (Document.list (s.bindings.toList.map Acl.Binding.toDocument)).ordered),
    ("service_accounts", (Document.list (s.accounts.toList.map Account.toDocument)).ordered),
    ("topics", (Document.list (s.topics.toList.map .text)).ordered)] :=
  ordered_mapping ["bindings", "service_accounts", "topics", "artefacts"]
    ["artefacts", "bindings", "service_accounts", "topics"] (by decide +kernel) rfl rfl

theorem lists_ordered (rules : DecodeRules) (s : State) :
    Listing.schema.decode rules s.toDocument.ordered = .ok s.listing := by
  rw [ordered_toDocument]
  have hartefacts := Decoder.list_ordered (Artefact.decode_toDocument rules) s.artefacts.toList
  have hbindings := Decoder.list_ordered (Acl.Binding.decode_toDocument rules) s.bindings.toList
  have haccounts := Decoder.list_ordered (Account.decode_toDocument rules) s.accounts.toList
  have htopics : Decoder.list Decoder.text rules
      (Document.list (s.topics.toList.map .text)).ordered = .ok s.topics.toList :=
    Decoder.list_ordered (fun _ => rfl) s.topics.toList
  exact Schema.decode_mapping
    (Schema.readEntries_field rfl rfl (Field.read_defaulted hartefacts _) <|
      Schema.readEntries_field rfl rfl (Field.read_defaulted hbindings _) <|
      Schema.readEntries_field rfl rfl (Field.read_defaulted haccounts _) <|
      Schema.readEntries_field rfl rfl (Field.read_defaulted htopics _) rfl)
    rfl

theorem decode_toDocument (rules : DecodeRules) (s : State) :
    schema.decode rules s.toDocument.ordered = .ok s :=
  decode_of_listing (s.lists_ordered rules)

end State

namespace StateRecord

theorem decodeTimestamp_stored {t : Timestamp} (h : t.IsInstant) (rules : DecodeRules) :
    decodeTimestamp rules (.text t.stored) = .ok t := by
  refine Except.bind_eq_ok_iff.2 ⟨t.stored, rfl, ?_⟩
  simp only [Timestamp.ofText?_stored h]

theorem decode_toDocument {r : StateRecord} (h : r.writtenAt.IsInstant) (rules : DecodeRules) :
    schema.decode rules r.toDocument.ordered = .ok r := by
  have hordered : r.toDocument.ordered = .mapping [
      ("last_updated", .text r.writtenAt.stored), ("state", r.state.toDocument.ordered)] :=
    ordered_mapping ["last_updated", "state"] ["last_updated", "state"] (by decide +kernel) rfl rfl
  have hstate := State.decode_toDocument rules r.state
  rw [hordered]
  exact Schema.decode_mapping
    (Schema.readEntries_field rfl rfl (Field.read_mandatory (decodeTimestamp_stored h rules) _) <|
      Schema.readEntries_field rfl rfl (Field.read_defaulted hstate _) rfl) rfl

/-- A text that spells the table of a record, in whichever layout, is read as the record. -/
theorem ofToml?_of_spells {r : StateRecord} {text : String} (h : r.writtenAt.IsInstant)
    (hspells : Document.ofToml? text = some r.toDocument.ordered) : ofToml? text = some r := by
  rw [ofToml?, hspells]
  show (schema.decode .lenient r.toDocument.ordered).toOption = _
  rw [decode_toDocument h]
  rfl

/-- **Round trip.** A record that is written at an instant is read back. -/
theorem ofToml?_toToml {r : StateRecord} (h : r.writtenAt.IsInstant) :
    ofToml? r.toToml = some r := by
  have hplain : Plain (Toml.nestingLimit + 1) r.toDocument :=
    .ofKeys ["last_updated", "state"] rfl (by decide) (by decide) <| by
      simp [Plain.text, Toml.nestingLimit, State.plain_toDocument 77]
  exact ofToml?_of_spells h (Document.ofToml?_toToml hplain)

end StateRecord
end KafkaTopology
