import KafkaTopology.Action
import KafkaTopology.Text.Occurrence
/-!
# Rehearsals

A world without a cluster: a memory store and the lines that were noted down in it. Plans can be
run against it, and any note that contains a given text can be refused.
-/
namespace KafkaTopology

/-- A memory store and the notes so far. -/
structure Rehearsal where
  store : MemoryStore
  notes : List String
deriving DecidableEq, Inhabited

namespace Rehearsal

/-- The memory store as a medium. -/
def medium : Medium Rehearsal :=
  MemoryStore.medium Rehearsal.store (fun m r => { r with store := m })

/-- Notes a line down. -/
def note (line : String) : Attempt Rehearsal Unit :=
  modifyThe Rehearsal fun r => { r with notes := r.notes ++ [line] }

/-- Notes a line down unless it contains the refused text. -/
def noteUnless (refused : Option String) (line : String) : Attempt Rehearsal Unit :=
  match refused with
  | some needle =>
    if Text.occursIn needle line then Attempt.fail ("refused: " ++ line) else note line
  | none => note line

/-- An admin that only notes down what it is asked to do. -/
def admin (refused : Option String) : Admin Rehearsal where
  syncTopic name config :=
    noteUnless refused ("sync " ++ name ++ " " ++ " ".intercalate (settings config))
  deleteTopics names := noteUnless refused ("delete " ++ ",".intercalate names)
  addBindings bs := noteUnless refused ("add-acls " ++ "; ".intercalate (bs.map (·.shown)))
  removeBindings bs := noteUnless refused ("remove-acls " ++ "; ".intercalate (bs.map (·.shown)))
  upsertAccount a := noteUnless refused ("upsert " ++ a.principal)
  deleteAccount a := noteUnless refused ("drop " ++ a.principal)
  createConnector a := noteUnless refused ("connector+ " ++ a.shown)
  deleteConnector a := noteUnless refused ("connector- " ++ a.shown)

/-- A step that notes its description down and then fails if it is told to. -/
def step (description : String) (effect : Effect) (refusal : Option String) : Step Rehearsal where
  description := description
  effect := effect
  run := do
    note description
    match refusal with
    | some reason => throw (Failure.mk "action refused" [reason])
    | none => pure ()

end Rehearsal
end KafkaTopology
