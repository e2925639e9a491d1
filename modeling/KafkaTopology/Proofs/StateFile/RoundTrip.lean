import KafkaTopology.Proofs.Backend
/-!
# State files are read back

A state and a time are written as one record and read back as they were, whatever texts the state
holds (`StateFile.reads_back`). The reader depends on the table that a text spells alone, so this
does not hang on how the writer lays the table out.
-/
namespace KafkaTopology

namespace StateFile

variable {path : String} {h : Host}

/-- A file that holds the text of a record is read as the record. -/
theorem read?_of_text {text : String} {r : StateRecord} (htext : h.files.readText path = .ok text)
    (hr : StateRecord.ofToml? text = some r) : (read? path).on h = (.ok (some r), h) := by
  have hholds : h.files.holds path = true := FileTree.holds_of_readText htext
  rw [read?, Attempt.on_bind_ok (Attempt.on_get h), if_pos hholds, Attempt.on_bind,
    Host.readText_on, htext]
  simp only [Except.mapError_ok, hr]
  rfl

/-- **State files round-trip.** Let a state with any texts be written at an instant of the calendar.
Then the text that is written is read as a record with the same time, the same bindings, topics and
artefacts and the same accounts with the same descriptions, and so is every other text that spells
the same table. A file that can be written is written, and read back as that record. -/
theorem reads_back (s : State) {t : Timestamp} (ht : t.IsInstant) :
    StateRecord.ofToml? (StateRecord.mk t s).toToml = some ⟨t, s⟩ ∧
      (∀ text, Document.ofToml? text = some (StateRecord.mk t s).toDocument.ordered →
        StateRecord.ofToml? text = some ⟨t, s⟩) ∧
      ∀ (path : String) (h : Host), h.clock = t → isWritable path h.files = true →
        ∃ files, (write path s).on h = (.ok t, { h with files }) ∧
          (read? path).on { h with files } = (.ok (some ⟨t, s⟩), { h with files }) := by
  have hwritten : StateRecord.ofToml? (StateRecord.mk t s).toToml = some ⟨t, s⟩ :=
    StateRecord.ofToml?_toToml ht
  refine ⟨hwritten, fun text => StateRecord.ofToml?_of_spells ht, ?_⟩
  rintro path h rfl hwritable
  obtain ⟨files, hwrite, htext, -⟩ := write_writable hwritable s
  exact ⟨files, hwrite, read?_of_text htext hwritten⟩

end StateFile

/-! ## A state with odd texts -/

namespace Visit

/-- Quotes, backslashes, line breaks, control characters and no text at all. -/
def oddState : State := .ofLists
  [⟨.topic, "it's", .literal, "\"User:a\"", .describeConfigs, ""⟩]
  [⟨"User:\\b", none⟩, ⟨"User:c", some "\"\"\"\n\x00\x7f"⟩]
  ["", "# no comment", "[state]", "'''", "é\t😀"]
  [⟨"main", "sink\r\n", "C:\\sink.json"⟩]

end Visit

/-- What is written at the last second of the year 2016, which was a leap second. -/
theorem StateFile.reads_back_odd :
    (⟨1483228799, 1500000000⟩ : Timestamp).IsInstant ∧
      StateRecord.ofToml? (StateRecord.mk ⟨1483228799, 1500000000⟩ Visit.oddState).toToml =
        some ⟨⟨1483228799, 1500000000⟩, Visit.oddState⟩ ∧
      isWritable "state.toml" Visit.host.files = true ∧
      ∃ files, (read? "state.toml").on { Visit.host with files } =
        (.ok (some ⟨Visit.host.clock, Visit.oddState⟩), { Visit.host with files }) := by
  have hleap : (⟨1483228799, 1500000000⟩ : Timestamp).IsInstant := by decide +kernel
  have hclock : Visit.host.clock.IsInstant := by decide +kernel
  obtain ⟨hread, -, -⟩ := reads_back Visit.oddState hleap
  obtain ⟨-, -, hfile⟩ := reads_back Visit.oddState hclock
  obtain ⟨files, -, hback⟩ := hfile "state.toml" Visit.host rfl Visit.isWritable_host
  exact ⟨hleap, hread, Visit.isWritable_host, files, hback⟩

end KafkaTopology
