import KafkaTopology.Acl
import KafkaTopology.Account
import KafkaTopology.Artefact
import KafkaTopology.OrderedSet
/-!
# Reconciled state (specification, section 3)

The bindings, service accounts, topics and artefacts that are known to exist after the last
applied plan, each an ordered set. `State.apply` folds the effect of an executed action into it.
-/
namespace KafkaTopology

/-- What is known to exist. -/
structure State where
  bindings : OrderedSet Acl.Binding
  accounts : OrderedSet Account
  topics : OrderedSet String
  artefacts : OrderedSet Artefact
deriving DecidableEq, Inhabited

/-- What an action does to the state once it has run. -/
inductive Effect where
  | createTopic (name : String)
  | deleteTopics (names : List String)
  | createBindings (bindings : List Acl.Binding)
  | clearBindings (bindings : List Acl.Binding)
  | createAccounts (accounts : List Account)
  | clearAccounts (accounts : List Account)
  | createArtefact (artefact : Artefact)
  | deleteArtefact (artefact : Artefact)
deriving DecidableEq, Repr, Inhabited

/-- Whether an action brings something into existence or takes it away. -/
inductive Direction where
  | create
  | delete
deriving DecidableEq, Repr, Inhabited

/-- The kind of state that an action touches. -/
inductive Target where
  | topic
  | bindings
  | accounts
  | artefact
deriving DecidableEq, Repr, Inhabited

namespace Direction

def word : Direction → String
  | .create => "create"
  | .delete => "delete"

end Direction

namespace Target

def shown : Target → String
  | .topic => "topic"
  | .bindings => "bindings"
  | .accounts => "service accounts"
  | .artefact => "artefact"

end Target

namespace Effect

def target : Effect → Target
  | .createTopic _ | .deleteTopics _ => .topic
  | .createBindings _ | .clearBindings _ => .bindings
  | .createAccounts _ | .clearAccounts _ => .accounts
  | .createArtefact _ | .deleteArtefact _ => .artefact

/-- Whether the effect adds or removes entries. -/
def direction : Effect → Direction
  | .createTopic _ | .createBindings _ | .createAccounts _ | .createArtefact _ => .create
  | .deleteTopics _ | .clearBindings _ | .clearAccounts _ | .deleteArtefact _ => .delete

def bindings : Effect → List Acl.Binding
  | .createBindings bs | .clearBindings bs => bs
  | _ => []

end Effect

namespace State

def empty : State := ⟨∅, ∅, ∅, ∅⟩

/-- The state of whole lists. Of two accounts with one principal the later one stays. -/
def ofLists (bindings : List Acl.Binding) (accounts : List Account) (topics : List String)
    (artefacts : List Artefact) : State :=
  ⟨.ofList bindings, .ofList accounts, .ofList topics, .ofList artefacts⟩

def size (s : State) : Nat :=
  s.bindings.size + s.accounts.size + s.topics.size + s.artefacts.size

def isEmpty (s : State) : Bool := s.size == 0

def addTopic (s : State) (name : String) : State := { s with topics := s.topics.insert name }

def addTopics (s : State) (names : List String) : State :=
  { s with topics := s.topics.insertAll names }

def removeTopics (s : State) (names : List String) : State :=
  { s with topics := s.topics.eraseAll names }

def addBindings (s : State) (bs : List Acl.Binding) : State :=
  { s with bindings := s.bindings.insertAll bs }

def removeBindings (s : State) (bs : List Acl.Binding) : State :=
  { s with bindings := s.bindings.eraseAll bs }

/-- Records accounts; a known account keeps its description. -/
def addAccounts (s : State) (accounts : List Account) : State :=
  { s with accounts := s.accounts.insertAll accounts }

/-- Forgets the accounts that have one of the principals. -/
def removeAccounts (s : State) (accounts : List Account) : State :=
  { s with accounts := s.accounts.eraseAll accounts }

def addArtefact (s : State) (a : Artefact) : State :=
  { s with artefacts := s.artefacts.insert a }

def addArtefacts (s : State) (artefacts : List Artefact) : State :=
  { s with artefacts := s.artefacts.insertAll artefacts }

def removeArtefact (s : State) (a : Artefact) : State :=
  { s with artefacts := s.artefacts.eraseAll [a] }

/-- The state after an executed action. -/
def apply (s : State) : Effect → State
  | .createTopic name => s.addTopic name
  | .deleteTopics names => s.removeTopics names
  | .createBindings bs => s.addBindings bs
  | .clearBindings bs => s.removeBindings bs
  | .createAccounts accounts => s.addAccounts accounts
  | .clearAccounts accounts => s.removeAccounts accounts
  | .createArtefact a => s.addArtefact a
  | .deleteArtefact a => s.removeArtefact a

/-- The state after executed actions, in order. -/
def applyAll (s : State) (effects : List Effect) : State := effects.foldl apply s

end State
end KafkaTopology
