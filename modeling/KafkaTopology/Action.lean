import KafkaTopology.Plan
import KafkaTopology.OrderedSet
/-!
# Actions (specification, section 10.5)

The changes that a plan can make, what they do to the state and how readers see them. An `Admin`
carries them out; accounts are changed one by one, everything else in one call.
-/
namespace KafkaTopology

/-- What can be done to the cluster and to its Connect servers, in a world `ω`. -/
structure Admin (ω : Type) where
  syncTopic : String → OrderedMap String String → Attempt ω Unit
  deleteTopics : List String → Attempt ω Unit
  addBindings : List Acl.Binding → Attempt ω Unit
  removeBindings : List Acl.Binding → Attempt ω Unit
  upsertAccount : Account → Attempt ω Unit
  deleteAccount : Account → Attempt ω Unit
  createConnector : Artefact → Attempt ω Unit
  deleteConnector : Artefact → Attempt ω Unit

/-- A change to the cluster or to a Connect server. -/
inductive Action where
  | syncTopic (name : String) (config : OrderedMap String String)
  | deleteTopics (names : List String)
  | createBindings (bindings : List Acl.Binding)
  | clearBindings (bindings : List Acl.Binding)
  | createAccounts (accounts : List Account)
  | clearAccounts (accounts : List Account)
  | createArtefact (artefact : Artefact)
  | deleteArtefact (artefact : Artefact)
deriving DecidableEq, Inhabited

/-- The number of names that a description lists before it is cut short. -/
def listedNames : Nat := 3

/-- The first names of a list and how many there are besides. -/
def enumerate (names : List String) : String :=
  let more := names.length - listedNames
  let shown := names.take listedNames ++
    (if listedNames < names.length then ["and " ++ toString more ++ " more"] else [])
  ", ".intercalate shown

/-- Settings as `key=value`, in key order. -/
def settings (config : OrderedMap String String) : List String :=
  config.toPairs.map fun (k, v) => k ++ "=" ++ v

namespace Action

def description : Action → String
  | .syncTopic name config =>
    if config.isEmpty then "Sync topic " ++ name
    else "Sync topic " ++ name ++ " [" ++ ", ".intercalate (settings config) ++ "]"
  | .deleteTopics names => "Delete topics " ++ enumerate names
  | .createBindings bs =>
    "Create " ++ toString bs.length ++ " bindings: " ++ enumerate (bs.map (·.shown))
  | .clearBindings bs =>
    "Clear " ++ toString bs.length ++ " bindings: " ++ enumerate (bs.map (·.shown))
  | .createAccounts accounts =>
    "Create service accounts " ++ enumerate (accounts.map (·.principal))
  | .clearAccounts accounts =>
    "Delete service accounts " ++ enumerate (accounts.map (·.principal))
  | .createArtefact a => "Create connector " ++ a.shown
  | .deleteArtefact a => "Delete connector " ++ a.shown

/-- What the action does to the state once it has run. -/
def effect : Action → Effect
  | .syncTopic name _ => .createTopic name
  | .deleteTopics names => .deleteTopics names
  | .createBindings bs => .createBindings bs
  | .clearBindings bs => .clearBindings bs
  | .createAccounts accounts => .createAccounts accounts
  | .clearAccounts accounts => .clearAccounts accounts
  | .createArtefact a => .createArtefact a
  | .deleteArtefact a => .deleteArtefact a

def run {ω : Type} (admin : Admin ω) : Action → Attempt ω Unit
  | .syncTopic name config => admin.syncTopic name config
  | .deleteTopics names => admin.deleteTopics names
  | .createBindings bs => admin.addBindings bs
  | .clearBindings bs => admin.removeBindings bs
  | .createAccounts accounts => accounts.forM admin.upsertAccount
  | .clearAccounts accounts => accounts.forM admin.deleteAccount
  | .createArtefact a => admin.createConnector a
  | .deleteArtefact a => admin.deleteConnector a

/-- The action as a step of a plan. -/
def toStep {ω : Type} (admin : Admin ω) (a : Action) : Step ω :=
  ⟨a.description, a.effect, a.run admin⟩

end Action
end KafkaTopology
