import KafkaTopology.State
import KafkaTopology.Failure
import KafkaTopology.Timestamp
/-!
# Backends (specification, section 6)

A backend stages a snapshot of the state in front of a medium that keeps it: `load` fetches what
the medium holds, `flush` replaces it as a whole. Between the two only the staged snapshot changes.
A load or a flush that fails leaves the backend as it was.
-/
namespace KafkaTopology

/-- What a medium holds: a state and, where it is known, when it was written. -/
structure Snapshot where
  state : State
  writtenAt : Option Timestamp
deriving DecidableEq, Inhabited

/-- A place in the world `ω` that keeps a state. -/
structure Medium (ω : Type) where
  /-- Fetches the kept state. -/
  fetch : Attempt ω Snapshot
  /-- Replaces the kept state and answers when it was written. -/
  save : State → Attempt ω (Option Timestamp)

/-- A snapshot in front of a medium. -/
structure Backend where
  staged : State
  writtenAt : Option Timestamp
deriving DecidableEq, Inhabited

namespace Backend

/-- A backend that has not been loaded. -/
def fresh : Backend := ⟨.empty, none⟩

def size (b : Backend) : Nat := b.staged.size

/-- The staged entries as one state. -/
def snapshot (b : Backend) : State :=
  .ofLists b.staged.bindings.toList b.staged.accounts.toList b.staged.topics.toList
    b.staged.artefacts.toList

def reset (b : Backend) : Backend := { b with staged := .empty }

def addBindings (b : Backend) (bs : List Acl.Binding) : Backend :=
  { b with staged := b.staged.addBindings bs }

def addAccounts (b : Backend) (accounts : List Account) : Backend :=
  { b with staged := b.staged.addAccounts accounts }

def addTopics (b : Backend) (names : List String) : Backend :=
  { b with staged := b.staged.addTopics names }

def addArtefacts (b : Backend) (artefacts : List Artefact) : Backend :=
  { b with staged := b.staged.addArtefacts artefacts }

/-- Stages exactly the entries of a state. -/
def refill (b : Backend) (s : State) : Backend :=
  (((b.reset.addBindings s.bindings.toList).addAccounts s.accounts.toList).addTopics
    s.topics.toList).addArtefacts s.artefacts.toList

variable {ω : Type}

/-- Stages what the medium holds. -/
def load (medium : Medium ω) (_ : Backend) : Attempt ω Backend := do
  let s ← medium.fetch
  return ⟨s.state, s.writtenAt⟩

/-- Has the medium keep what is staged. -/
def flush (medium : Medium ω) (b : Backend) : Attempt ω Backend := do
  let writtenAt ← medium.save b.staged
  return { b with writtenAt := writtenAt }

end Backend

/-! ## Memory -/

/-- A medium in memory. It counts how often it was written; loading and flushing may be refused. -/
structure MemoryStore where
  stored : State
  flushes : Nat
  loadRefusal : Option String
  flushRefusal : Option String
deriving DecidableEq, Inhabited

namespace MemoryStore

def ofState (s : State) : MemoryStore := ⟨s, 0, none, none⟩

/-- The medium in a world that has a memory store. -/
def medium {ω : Type} (get : ω → MemoryStore) (set : MemoryStore → ω → ω) : Medium ω where
  fetch := do
    let m := get (← getThe ω)
    match m.loadRefusal with
    | some reason => throw (.ofMessage reason)
    | none => return ⟨m.stored, none⟩
  save s := do
    let m := get (← getThe ω)
    match m.flushRefusal with
    | some reason => throw (.ofMessage reason)
    | none =>
      modifyThe ω (set { m with stored := s, flushes := m.flushes + 1 })
      return none

end MemoryStore
end KafkaTopology
