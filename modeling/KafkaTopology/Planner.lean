import KafkaTopology.Action
import KafkaTopology.Topology.Grants
/-!
# Planning (specification, section 10.4)

`Topology.actions` lists the actions that move a recorded state to a topology. Every declared topic
is brought in line; everything else follows from the differences between the two. Accounts come
before the bindings that name them and go after them. A connector is known to its server by name
alone, so one whose definition moved is deleted before it is created again.
-/
namespace KafkaTopology

/-- Which optional changes a plan may make. -/
structure PlanOptions where
  deletesTopics : Bool
  managesAccounts : Bool
deriving DecidableEq, Repr, Inhabited

/-- The action on a list of entries, unless there is none. -/
def actionOn {α : Type} (make : List α → Action) (allowed : Bool) (entries : List α) :
    List Action :=
  if allowed && !entries.isEmpty then [make entries] else []

/-- The actions from a recorded state to a topology, in the order of their execution. -/
def Topology.actions (t : Topology) (options : PlanOptions) (recorded : State) : List Action :=
  let accounts := t.accounts.difference recorded.accounts
  let bindings := t.bindings.difference recorded.bindings
  let artefacts := t.artefacts.difference recorded.artefacts
  let topics := t.topicSet.difference recorded.topics
  t.topics.map (fun topic => .syncTopic topic.fullName topic.config) ++
    actionOn .createAccounts options.managesAccounts accounts.create ++
    actionOn .createBindings true bindings.create ++
    actionOn .clearBindings true bindings.delete ++
    artefacts.delete.map .deleteArtefact ++
    artefacts.create.map .createArtefact ++
    actionOn .clearAccounts options.managesAccounts accounts.delete ++
    actionOn .deleteTopics options.deletesTopics topics.delete

/-- Queues the actions that move the plan's state to a topology. -/
def Plan.populate {ω : Type} (p : Plan ω) (admin : Admin ω) (options : PlanOptions)
    (t : Topology) : Plan ω :=
  p.addAll ((t.actions options p.state).map (·.toStep admin))

/-- Queues the actions that move the plan's state to a topology, and counts them. -/
def Plan.populateCounting {ω : Type} (p : Plan ω) (admin : Admin ω) (options : PlanOptions)
    (t : Topology) : Plan ω × Nat :=
  let populated := p.populate admin options t
  (populated, populated.size - p.size)

end KafkaTopology
