import KafkaTopology.Proofs.Attempt
import KafkaTopology.Proofs.Except
import KafkaTopology.StateFile
/-!
# State files on a host

What the steps of reading and of writing a state file do to the host. Reading changes nothing;
writing depends on the files and on the clock alone, and changes only files
(`StateFile.write_on_of_files`).
-/
namespace KafkaTopology

namespace Host

theorem print_on (lines : List String) (h : Host) :
    ∃ output, (print lines).on h = (.ok (), { h with output := output }) := ⟨_, rfl⟩

theorem settle_on {α : Type} (message : String) (r : Except FileError α) (h : Host) :
    (settle message r).on h = (r.mapError fun e => ⟨message, [e.message]⟩, h) := by
  cases r <;> rfl

theorem readText_on (path message : String) (h : Host) :
    (readText path message).on h =
      ((h.files.readText path).mapError fun e => ⟨message, [e.message]⟩, h) := by
  rw [readText, Attempt.on_bind_ok (Attempt.on_get h), settle_on]

theorem makeDirectories_on (path message : String) (h : Host) :
    (makeDirectories path message).on h =
      ((h.files.makeDirectories path).1.mapError fun e => ⟨message, [e.message]⟩,
        { h with files := (h.files.makeDirectories path).2 }) := by
  rw [makeDirectories, Attempt.on_bind_ok (Attempt.on_get h)]
  rw [Attempt.on_bind_ok (Attempt.on_modify _ h), settle_on]

theorem writeText_on (path text message : String) (h : Host) :
    (writeText path text message).on h =
      match h.files.writeText path text with
      | .error e => (.error ⟨message, [e.message]⟩, h)
      | .ok files => (.ok (), { h with files }) := by
  rw [writeText, Attempt.on_bind_ok (Attempt.on_get h), Attempt.on_bind, settle_on]
  rcases h.files.writeText path text with e | files <;> rfl

end Host

namespace StateFile

/-- What becomes of the files when the directories above one are made. -/
def parentMade (path : String) (files : FileTree) : Except Failure Unit × FileTree :=
  match Path.parent? path with
  | some dir =>
    if dir.isEmpty then (.ok (), files)
    else
      ((files.makeDirectories dir).1.mapError fun e =>
        ⟨"Failed to create state directory: " ++ dir, [e.message]⟩,
        (files.makeDirectories dir).2)
  | none => (.ok (), files)

theorem makeParent_on (path : String) (h : Host) :
    (makeParent path).on h =
      ((parentMade path h.files).1, { h with files := (parentMade path h.files).2 }) := by
  rw [makeParent, parentMade]
  rcases Path.parent? path with - | dir
  · rfl
  simp only
  by_cases hempty : dir.isEmpty
  · simp only [if_pos hempty]
    rfl
  · simp only [if_neg hempty]
    exact Host.makeDirectories_on _ _ h

theorem write_on (path : String) (s : State) (h : Host) :
    (write path s).on h =
      match parentMade path h.files with
      | (.error e, files) => (.error e, { h with files })
      | (.ok (), files) =>
        match files.writeText path (StateRecord.mk h.clock s).toToml with
        | .error e =>
          (.error ⟨"Failed to write state file: " ++ path, [e.message]⟩, { h with files })
        | .ok files => (.ok h.clock, { h with files }) := by
  rw [write, Attempt.on_bind, makeParent_on]
  rcases parentMade path h.files with ⟨e | ⟨⟩, files⟩
  · rfl
  simp only
  rw [Attempt.on_bind_ok (Attempt.on_get _), Attempt.on_bind, Host.writeText_on]
  simp only
  rcases files.writeText path (StateRecord.mk h.clock s).toToml with e | files' <;> rfl

/-- Reading a state file changes nothing. -/
theorem read?_on (path : String) (h : Host) : ((read? path).on h).2 = h := by
  rw [read?, Attempt.on_bind_ok (Attempt.on_get h)]
  split
  · rw [Attempt.on_bind, Host.readText_on]
    rcases h.files.readText path with e | text
    · rfl
    · simp only [Except.mapError_ok]
      rcases StateRecord.ofToml? text with - | r <;> rfl
  · rfl

/-- Loading a snapshot changes nothing. -/
theorem fetch_on (path : String) (h : Host) : ((medium path).fetch.on h).2 = h := by
  have hread := read?_on path h
  rw [medium, Attempt.on_bind]
  rcases hrun : (read? path).on h with ⟨e | - | r, w⟩ <;> rw [hrun] at hread <;> exact hread

theorem save_on (path : String) (s : State) (h : Host) :
    ((medium path).save s).on h =
      (((write path s).on h).1.map some, ((write path s).on h).2) := by
  rw [medium, Attempt.on_bind]
  rcases (write path s).on h with ⟨e | now, w⟩ <;> rfl

end StateFile

end KafkaTopology
