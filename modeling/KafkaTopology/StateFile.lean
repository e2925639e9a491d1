import KafkaTopology.Backend
import KafkaTopology.Config
import KafkaTopology.Document.Toml.Printer
import KafkaTopology.State.Codec
/-!
# State files (specification, section 10.3)

A medium that keeps the state in a TOML file, with the time at which it was written. A missing
file holds the empty state; saving makes the directories above the file.
-/
namespace KafkaTopology

/-- What a state file holds. -/
structure StateRecord where
  writtenAt : Timestamp
  state : State
deriving DecidableEq, Inhabited

namespace StateRecord

def decodeTimestamp : Decoder Timestamp
  | rules, d => do
    let s ← Decoder.text rules d
    match Timestamp.ofText? s with
    | some t => .ok t
    | none => .error (.notTimestamp s)

/-- How a record is stored. The state may be missing. -/
def schema : Schema StateRecord where
  name := "StateDocument"
  blank := ⟨⟨0, 0⟩, .empty⟩
  fields := [
    .mandatory "last_updated" decodeTimestamp fun v r => { r with writtenAt := v },
    .defaulted "state" [] State.schema.decode fun v r => { r with state := v }]

def toDocument (r : StateRecord) : Document :=
  .mapping [("last_updated", .text r.writtenAt.stored), ("state", r.state.toDocument)]

def ofToml? (text : String) : Option StateRecord := do
  (schema.decode .lenient (← Document.ofToml? text)).toOption

def toToml (r : StateRecord) : String := r.toDocument.toToml

end StateRecord

namespace StateFile

/-- Reads a state file, if it exists. -/
def read? (path : String) : Attempt Host (Option StateRecord) := do
  if (← getThe Host).files.holds path then
    let text ← Host.readText path ("Failed to read state file: " ++ path)
    match StateRecord.ofToml? text with
    | some r => return some r
    | none => throw ⟨"Failed to parse state file: " ++ path, [tomlComplaint]⟩
  else return none

def makeParent (path : String) : Attempt Host Unit :=
  match Path.parent? path with
  | some dir =>
    if dir.isEmpty then return ()
    else Host.makeDirectories dir ("Failed to create state directory: " ++ dir)
  | none => return ()

/-- Replaces a state file by a record of this moment, and answers when that is. -/
def write (path : String) (s : State) : Attempt Host Timestamp := do
  makeParent path
  let now := (← getThe Host).clock
  let text := (StateRecord.mk now s).toToml
  Host.writeText path text ("Failed to write state file: " ++ path)
  return now

/-- A state file as a medium. -/
def medium (path : String) : Medium Host where
  fetch := do
    match ← read? path with
    | some r => return ⟨r.state, some r.writtenAt⟩
    | none => return ⟨.empty, none⟩
  save s := return some (← write path s)

end StateFile
end KafkaTopology
