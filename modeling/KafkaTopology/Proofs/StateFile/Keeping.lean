import KafkaTopology.Proofs.Host.Writing
import KafkaTopology.Proofs.State.Codec
import KafkaTopology.Proofs.StateFile
/-!
# What a state file keeps

Loading fetches what the file keeps (`StateFile.kept?`) and fails exactly if it keeps nothing that
can be read. Saving fails exactly if the file cannot be written (`StateFile.isWritable`); otherwise
the file keeps the saved state from then on, and it can be written again (`StateFile.save_writable`).
-/
namespace KafkaTopology.StateFile

/-- The state that a file keeps. A missing file keeps the empty state; a file that cannot be read or
that holds no state keeps none. -/
def kept? (path : String) (files : FileTree) : Option State :=
  if files.holds path then do
    let text ← (files.readText path).toOption
    let r ← StateRecord.ofToml? text
    return r.state
  else some .empty

/-- Whether the directories above a file can be made, and the file can then be written. -/
def isWritable (path : String) (files : FileTree) : Bool :=
  match parentMade path files with
  | (.ok (), files) => (files.writeText path "").isOk
  | (.error _, _) => false

variable {path : String} {h : Host} {s : State}

/-! ## Fetching -/

/-- What is fetched is what the file keeps. -/
theorem toOption_fetch (path : String) (h : Host) :
    ((medium path).fetch.on h).1.toOption.map (·.state) = kept? path h.files := by
  rw [medium, Attempt.on_bind, read?, Attempt.on_bind_ok (Attempt.on_get h), kept?]
  by_cases hholds : h.files.holds path
  · simp only [if_pos hholds]
    rw [Attempt.on_bind, Host.readText_on]
    rcases h.files.readText path with e | text
    · rfl
    · simp only [Except.mapError_ok]
      show _ = (StateRecord.ofToml? text).bind fun r => some r.state
      rcases StateRecord.ofToml? text with - | r <;> rfl
  · simp only [if_neg hholds]
    rfl

theorem fetch_kept (hkept : kept? path h.files = some s) :
    ∃ writtenAt, (medium path).fetch.on h = (.ok ⟨s, writtenAt⟩, h) := by
  have hstate := toOption_fetch path h
  have hsame := fetch_on path h
  rw [hkept] at hstate
  rcases hrun : (medium path).fetch.on h with ⟨e | ⟨s', writtenAt⟩, w⟩ <;> rw [hrun] at hstate hsame
  · cases hstate
  · obtain rfl : w = h := hsame
    obtain rfl : s' = s := Option.some.inj hstate
    exact ⟨writtenAt, rfl⟩

theorem fetch_unkept (hkept : kept? path h.files = none) :
    ∃ e, (medium path).fetch.on h = (.error e, h) := by
  have hstate := toOption_fetch path h
  have hsame := fetch_on path h
  rw [hkept] at hstate
  rcases hrun : (medium path).fetch.on h with ⟨e | _, w⟩ <;> rw [hrun] at hstate hsame
  · obtain rfl : w = h := hsame
    exact ⟨e, rfl⟩
  · cases hstate

/-! ## Saving -/

/-- The directories above a file are not made again while they are there. -/
theorem parentMade_again {files made written : FileTree}
    (hmade : parentMade path files = (.ok (), made)) (hkeeps : made.KeepsDirectories written) :
    parentMade path written = (.ok (), written) := by
  rcases hparent : Path.parent? path with - | dir <;> simp only [parentMade, hparent] at hmade ⊢
  by_cases hempty : dir.isEmpty
  · rw [if_pos hempty]
  · rw [if_neg hempty] at hmade ⊢
    have hdirectories : files.makeDirectories dir = (.ok (), made) := by
      rcases hrun : files.makeDirectories dir with ⟨e | ⟨⟩, made'⟩ <;> rw [hrun] at hmade
      · cases hmade
      · rw [← (Prod.mk.inj hmade).2]
    rw [FileTree.makeDirectories_again hdirectories hkeeps]
    rfl

theorem isWritable_iff {files : FileTree} :
    isWritable path files = true ↔
      ∃ made, parentMade path files = (.ok (), made) ∧ ∀ text, (made.writeText path text).isOk := by
  rw [isWritable]
  rcases parentMade path files with ⟨e | ⟨⟩, made⟩
  · simp
  · simp [FileTree.isOk_writeText_iff]

/-- A file that can be written holds the text of the record afterwards, and can be written again. -/
theorem write_writable (hwritable : isWritable path h.files = true) (s : State) :
    ∃ files, (write path s).on h = (.ok h.clock, { h with files }) ∧
      files.readText path = .ok (StateRecord.mk h.clock s).toToml ∧
      isWritable path files = true := by
  obtain ⟨made, hmade, hwrite⟩ := isWritable_iff.1 hwritable
  obtain ⟨files, hfiles⟩ := Except.isOk_iff.1 (hwrite (StateRecord.mk h.clock s).toToml)
  obtain ⟨hkeeps, -⟩ := FileTree.exists_of_writeText hfiles
  refine ⟨files, ?_, FileTree.readText_of_writeText hfiles, ?_⟩
  · rw [write_on, hmade]
    simp only [hfiles]
  · exact isWritable_iff.2 ⟨files, parentMade_again hmade hkeeps,
      FileTree.isOk_writeText_of_writeText hfiles⟩

/-- **Saving.** A file that can be written keeps what is saved, and can be written again. -/
theorem save_writable (hwritable : isWritable path h.files = true) (s : State) :
    ∃ files, ((medium path).save s).on h = (.ok (some h.clock), { h with files }) ∧
      (h.clock.IsInstant → kept? path files = some s) ∧ isWritable path files = true := by
  obtain ⟨files, hwrite, hread, hagain⟩ := write_writable hwritable s
  refine ⟨files, ?_, fun hclock => ?_, hagain⟩
  · rw [save_on, hwrite]
    rfl
  · have hrecord := StateRecord.ofToml?_toToml (r := ⟨h.clock, s⟩) hclock
    rw [kept?, if_pos (FileTree.holds_of_readText hread), hread]
    simp [Except.toOption, hrecord]

/-- A file that cannot be written is not saved; directories above it may have been made. -/
theorem save_unwritable (hwritable : isWritable path h.files = false) (s : State) :
    ∃ e, ((medium path).save s).on h =
      (.error e, { h with files := (parentMade path h.files).2 }) := by
  rw [save_on, write_on]
  rcases hmade : parentMade path h.files with ⟨e | ⟨⟩, made⟩
  · exact ⟨_, rfl⟩
  simp only
  rcases hfiles : made.writeText path (StateRecord.mk h.clock s).toToml with e | files
  · exact ⟨_, rfl⟩
  · have hwrite := FileTree.isOk_writeText_iff.1 (Except.isOk_iff.2 ⟨files, hfiles⟩)
    have hwritable' : isWritable path h.files = true :=
      isWritable_iff.2 ⟨made, hmade, fun _ => FileTree.isOk_writeText_iff.2 hwrite⟩
    rw [hwritable] at hwritable'
    cases hwritable'

end KafkaTopology.StateFile
