import KafkaTopology.Proofs.Cluster.Deployment
import KafkaTopology.Proofs.Cluster.Operation
import KafkaTopology.Proofs.ConnectServers.Places
/-!
# Worlds

What stands outside of the program: topics, bindings by the arguments that describe them, users with
credentials, and connectors by the address of their list and their name. `World.step` says what an
operation does to it by reading the operation as those do that receive it: tools read the arguments
of a command, servers read the URL and the body of a request. No part touches another
(`World.after_eq`).
-/
namespace KafkaTopology

/-! ## Connectors of servers -/

/-- What an accepted request does to connectors. -/
inductive ConnectorChange where
  | deploy (place : Address) (name file : String)
  | withdraw (url : Url)

/-- The connectors of all servers, by the address of their list and their name. What is known of
each is the file that its definition is from. -/
abbrev Registry := Address → String → Option String

namespace Registry

/-- Connectors after a change. A server that has a connector of a name leaves it in place. -/
def on (g : Registry) : ConnectorChange → Registry
  | .deploy place name file => fun place' name' =>
    (g place' name').or (if place' = place ∧ name' = name then some file else none)
  | .withdraw u => fun place name => if u.Reaches place name then none else g place name

/-- Connectors after changes, in order. -/
def onAll (g : Registry) (changes : List ConnectorChange) : Registry := changes.foldl on g

/-- The connectors of the servers of a configuration, by their aliases. -/
def connectors (g : Registry) (servers : ConnectServers) : Connectors :=
  fun server name => (servers.address? server).bind fun place => g place name

end Registry

/-! ## Reading operations -/

namespace Operation

/-- What an operation does to the topics. -/
def topicMark? : Operation → Option (Mark String)
  | .tool "kafka-topics" ("--create" :: "--if-not-exists" :: "--topic" :: name :: _) =>
    some (.put name)
  | .tool "kafka-topics" ["--delete", "--if-exists", "--topic", name] => some (.drop name)
  | _ => none

/-- What an operation does to the bindings. -/
def aclMark? : Operation → Option (Mark (List String))
  | .tool "kafka-acls" ("--add" :: arguments) => some (.put arguments)
  | .tool "kafka-acls" ("--remove" :: "--force" :: arguments) => some (.drop arguments)
  | _ => none

/-- What an operation does to the users. -/
def userMark? : Operation → Option (Mark String)
  | .tool "kafka-configs"
      ["--alter", "--add-config", _, "--entity-type", "users", "--entity-name", user] =>
    some (.put user)
  | .tool "kafka-configs"
      ["--alter", "--delete-config", _, "--entity-type", "users", "--entity-name", user] =>
    some (.drop user)
  | _ => none

/-- What an operation does to the connectors. A definition is posted to a list, under the name that
it says itself; what is deleted is what the URL leads to. -/
def connectorChange? : Operation → Option ConnectorChange
  | .request (.post url definition) file =>
    match Url.ofText url, definition.get? "name" with
    | .ok u, some (.text name) => some (.deploy (u.listAt u.path) name file)
    | _, _ => none
  | .request (.delete url) _ => (Url.ofText url).toOption.map .withdraw
  | .tool .. => none

end Operation

/-- The topics, bindings and users of a cluster, and the connectors of Connect servers. -/
structure World where
  topics : Set String
  acls : Set (List String)
  users : Set String
  registry : Registry

namespace World

/-- The connectors of the servers of a configuration, by their aliases. -/
def connectors (w : World) (servers : ConnectServers) : Connectors :=
  w.registry.connectors servers

/-- The world after an operation. -/
def step (w : World) (o : Operation) : World where
  topics := Mark.onAll w.topics o.topicMark?.toList
  acls := Mark.onAll w.acls o.aclMark?.toList
  users := Mark.onAll w.users o.userMark?.toList
  registry := w.registry.onAll o.connectorChange?.toList

/-- The world after operations, in order. -/
def after (w : World) (ops : List Operation) : World := ops.foldl step w

/-- Each part goes through the marks that concern it. -/
theorem after_eq (w : World) (ops : List Operation) :
    w.after ops =
      ⟨Mark.onAll w.topics (ops.filterMap Operation.topicMark?),
        Mark.onAll w.acls (ops.filterMap Operation.aclMark?),
        Mark.onAll w.users (ops.filterMap Operation.userMark?),
        w.registry.onAll (ops.filterMap Operation.connectorChange?)⟩ := by
  induction ops generalizing w with
  | nil => rfl
  | cons o ops ih =>
    show (w.step o).after ops = _
    have hcons : ∀ {β : Type} (f : Operation → Option β),
        (o :: ops).filterMap f = (f o).toList ++ ops.filterMap f := by
      intro β f
      rw [List.filterMap_cons]
      cases f o <;> rfl
    rw [ih, step, hcons, hcons, hcons, hcons, Mark.onAll_append, Mark.onAll_append,
      Mark.onAll_append, Registry.onAll, Registry.onAll, Registry.onAll, List.foldl_append]

end World

end KafkaTopology
