import KafkaTopology.Proofs.Cluster.Apply
import KafkaTopology.Proofs.Cluster.World
/-!
# Scripts

What the operations of a plan do to each part of the world. Every tool reads its own commands and
leaves the other parts alone, so each part goes through one script: topics, bindings and users are
put and then dropped, connectors are withdrawn and then deployed.
-/
namespace KafkaTopology

namespace KafkaTools

variable (k : KafkaTools)

theorem read_addBinding (b : Acl.Binding) :
    k.read (k.addBinding b) = .tool "kafka-acls" ("--add" :: bindingArguments b) :=
  k.read_command (by simp [names]) _

theorem read_removeBinding (b : Acl.Binding) :
    k.read (k.removeBinding b) =
      .tool "kafka-acls" ("--remove" :: "--force" :: bindingArguments b) :=
  k.read_command (by simp [names]) _

theorem read_createTopic (name : String) (config : OrderedMap String String) :
    k.read (k.createTopic name config) =
      .tool "kafka-topics" ("--create" :: "--if-not-exists" :: "--topic" :: name ::
        config.toPairs.flatMap fun (key, value) => settingArguments key value) :=
  k.read_command (by simp [names]) _

theorem read_deleteTopic (name : String) :
    k.read (k.deleteTopic name) =
      .tool "kafka-topics" ["--delete", "--if-exists", "--topic", name] :=
  k.read_command (by simp [names]) _

theorem read_upsertAccount (a : Account) (password : String) :
    k.read (k.upsertAccount a password) =
      .tool "kafka-configs" ["--alter", "--add-config",
        mechanism ++ "=[password=" ++ password ++ "]", "--entity-type", "users", "--entity-name",
        userName a.principal] :=
  k.read_command (by simp [names]) _

theorem read_deleteAccount (a : Account) :
    k.read (k.deleteAccount a) =
      .tool "kafka-configs" ["--alter", "--delete-config", mechanism, "--entity-type", "users",
        "--entity-name", userName a.principal] :=
  k.read_command (by simp [names]) _

theorem read_alterTopic {name : String} {config : OrderedMap String String} {c : Command}
    (h : k.alterTopic? name config = some c) :
    ∃ rest, k.read c = .tool "kafka-configs" ("--alter" :: "--entity-type" :: rest) := by
  rw [alterTopic?] at h
  split at h
  · cases h
  · cases h
    exact ⟨_, k.read_command (by simp [names]) _⟩

end KafkaTools

namespace Action

variable (k : KafkaTools) (password : String) (a : Action)

/-- What an action does to the topics. -/
def topicMarks : Action → List (Mark String)
  | .syncTopic name _ => [.put name]
  | .deleteTopics names => names.map .drop
  | _ => []

/-- What an action does to the bindings. -/
def aclMarks : Action → List (Mark (List String))
  | .createBindings bs => (bs.map KafkaTools.bindingArguments).map .put
  | .clearBindings bs => (bs.map KafkaTools.bindingArguments).map .drop
  | _ => []

/-- The user of an account. -/
def user (a : Account) : String := KafkaTools.userName a.principal

/-- What an action does to the users. -/
def userMarks : Action → List (Mark String)
  | .createAccounts accounts => (accounts.map user).map .put
  | .clearAccounts accounts => (accounts.map user).map .drop
  | _ => []

section
variable {α β : Type} {f : Operation → Option β} {command : α → Command}

/-- Commands without a mark of one kind. -/
theorem filterMap_read_none (h : ∀ x, f (k.read (command x)) = none) (xs : List α) :
    ((xs.map command).map k.read).filterMap f = [] := by
  rw [List.map_map, List.filterMap_map, List.filterMap_eq_nil_iff]
  exact fun x _ => h x

/-- Commands with one mark of one kind each. -/
theorem filterMap_read_some {mark : α → β} (h : ∀ x, f (k.read (command x)) = some (mark x))
    (xs : List α) : ((xs.map command).map k.read).filterMap f = xs.map mark := by
  rw [List.map_map, List.filterMap_map, ← List.filterMap_eq_map]
  exact congrArg (xs.filterMap ·) (funext h)

/-- The settings of a topic leave marks of no kind. -/
theorem filterMap_syncTopic (hf : ∀ rest, f (.tool "kafka-configs"
    ("--alter" :: "--entity-type" :: rest)) = none) (name : String)
    (config : OrderedMap String String) :
    (((syncTopic name config).commands k password).map k.read).filterMap f =
      (f (k.read (k.createTopic name config))).toList := by
  have halter : ((k.alterTopic? name config).toList.map k.read).filterMap f = [] := by
    cases h : k.alterTopic? name config with
    | none => rfl
    | some c =>
      obtain ⟨rest, hread⟩ := k.read_alterTopic h
      simp [hread, hf]
  rw [commands, List.map_cons, List.filterMap_cons, halter]
  cases f (k.read (k.createTopic name config)) <;> rfl

end

theorem filterMap_topicMark? :
    ((a.commands k password).map k.read).filterMap Operation.topicMark? = a.topicMarks := by
  cases a with
  | syncTopic name config =>
    rw [filterMap_syncTopic k password (fun _ => rfl), k.read_createTopic]
    rfl
  | deleteTopics names =>
    exact filterMap_read_some k (fun n => by rw [k.read_deleteTopic]; rfl) names
  | createBindings bs => exact filterMap_read_none k (fun b => by rw [k.read_addBinding]; rfl) bs
  | clearBindings bs => exact filterMap_read_none k (fun b => by rw [k.read_removeBinding]; rfl) bs
  | createAccounts accounts =>
    exact filterMap_read_none k (fun a => by rw [k.read_upsertAccount]; rfl) accounts
  | clearAccounts accounts =>
    exact filterMap_read_none k (fun a => by rw [k.read_deleteAccount]; rfl) accounts
  | createArtefact a => rfl
  | deleteArtefact a => rfl

theorem filterMap_aclMark? :
    ((a.commands k password).map k.read).filterMap Operation.aclMark? = a.aclMarks := by
  cases a with
  | syncTopic name config =>
    rw [filterMap_syncTopic k password (fun _ => rfl), k.read_createTopic]
    rfl
  | deleteTopics names =>
    exact filterMap_read_none k (fun n => by rw [k.read_deleteTopic]; rfl) names
  | createBindings bs =>
    rw [aclMarks, List.map_map]
    exact filterMap_read_some k (fun b => by rw [k.read_addBinding]; rfl) bs
  | clearBindings bs =>
    rw [aclMarks, List.map_map]
    exact filterMap_read_some k (fun b => by rw [k.read_removeBinding]; rfl) bs
  | createAccounts accounts =>
    exact filterMap_read_none k (fun a => by rw [k.read_upsertAccount]; rfl) accounts
  | clearAccounts accounts =>
    exact filterMap_read_none k (fun a => by rw [k.read_deleteAccount]; rfl) accounts
  | createArtefact a => rfl
  | deleteArtefact a => rfl

theorem filterMap_userMark? :
    ((a.commands k password).map k.read).filterMap Operation.userMark? = a.userMarks := by
  cases a with
  | syncTopic name config =>
    rw [filterMap_syncTopic k password (fun _ => rfl), k.read_createTopic]
    rfl
  | deleteTopics names =>
    exact filterMap_read_none k (fun n => by rw [k.read_deleteTopic]; rfl) names
  | createBindings bs => exact filterMap_read_none k (fun b => by rw [k.read_addBinding]; rfl) bs
  | clearBindings bs => exact filterMap_read_none k (fun b => by rw [k.read_removeBinding]; rfl) bs
  | createAccounts accounts =>
    rw [userMarks, List.map_map]
    exact filterMap_read_some k (fun a => by rw [k.read_upsertAccount]; rfl) accounts
  | clearAccounts accounts =>
    rw [userMarks, List.map_map]
    exact filterMap_read_some k (fun a => by rw [k.read_deleteAccount]; rfl) accounts
  | createArtefact a => rfl
  | deleteArtefact a => rfl

end Action

namespace Topology

variable (t : Topology) (options : PlanOptions) (c : Circumstances) (recorded : State)

/-- The recorded topics that a plan gives up. -/
def givenUp : List String :=
  if options.deletesTopics then (t.topicSet.difference recorded.topics).delete else []

/-- The users that a plan makes. -/
def newUsers : List String :=
  if options.managesAccounts then
    (t.accounts.difference recorded.accounts).create.map Action.user else []

/-- The users that a plan takes away. -/
def oldUsers : List String :=
  if options.managesAccounts then
    (t.accounts.difference recorded.accounts).delete.map Action.user else []

/-- The bindings that a plan adds, by their arguments. -/
def newAcls : List (List String) :=
  (t.bindings.difference recorded.bindings).create.map KafkaTools.bindingArguments

/-- The bindings that a plan removes, by their arguments. -/
def oldAcls : List (List String) :=
  (t.bindings.difference recorded.bindings).delete.map KafkaTools.bindingArguments

/-- Commands of tools are all that leaves marks on what is no connector. -/
theorem filterMap_operations {β : Type} {f : Operation → Option β}
    (hf : ∀ r file, f (.request r file) = none) :
    (t.operations options c recorded).filterMap f =
      let k := KafkaTools.ofConfig c.config c.host.environment
      (t.actions options recorded).flatMap fun a =>
        ((a.commands k (k.passwordOr c.host.environment)).map k.read).filterMap f := by
  rw [operations, agenda, List.reduceOption, List.filterMap_filterMap, List.filterMap_flatMap]
  refine List.flatMap_congr fun a _ => ?_
  have hrequests : (a.connectorMarks.map
      (ConnectServers.operation? c.config.connectServers c.host)).filterMap
        (fun o => (id o).bind f) = [] := by
    rw [List.filterMap_map, List.filterMap_eq_nil_iff]
    intro m _
    simp only [Function.comp_apply, id_eq, Option.bind_eq_none_iff]
    intro o ho
    obtain ⟨r, file, rfl⟩ := ConnectServers.exists_request ho
    exact hf r file
  rw [Action.agenda, List.filterMap_append, hrequests, List.append_nil, List.filterMap_map]
  rfl

/-- The topics of a cluster: all that are declared, and then those that are given up. -/
theorem topicMarks_operations :
    (t.operations options c recorded).filterMap Operation.topicMark? =
      Mark.script t.topicNames (t.givenUp options recorded) := by
  rw [filterMap_operations _ _ _ _ fun _ _ => rfl]
  simp only [Action.filterMap_topicMark?]
  rw [flatMap_actions t options recorded rfl rfl rfl rfl rfl]
  simp only [Action.topicMarks, flatMap_none, ite_self, List.append_nil, Mark.script, topicNames,
    givenUp, List.map_map, ← List.map_eq_flatMap]
  cases options.deletesTopics <;> rfl

/-- The bindings of a cluster. -/
theorem aclMarks_operations :
    (t.operations options c recorded).filterMap Operation.aclMark? =
      Mark.script (t.newAcls recorded) (t.oldAcls recorded) := by
  rw [filterMap_operations _ _ _ _ fun _ _ => rfl]
  simp only [Action.filterMap_aclMark?]
  rw [flatMap_actions t options recorded rfl rfl rfl rfl rfl]
  simp only [Action.aclMarks, flatMap_none, ite_self, List.append_nil, List.nil_append,
    Mark.script, newAcls, oldAcls]

/-- The users of a cluster. -/
theorem userMarks_operations :
    (t.operations options c recorded).filterMap Operation.userMark? =
      Mark.script (t.newUsers options recorded) (t.oldUsers options recorded) := by
  rw [filterMap_operations _ _ _ _ fun _ _ => rfl]
  simp only [Action.filterMap_userMark?]
  rw [flatMap_actions t options recorded rfl rfl rfl rfl rfl]
  simp only [Action.userMarks, flatMap_none, ite_self, List.append_nil, List.nil_append,
    Mark.script, newUsers, oldUsers]
  cases options.managesAccounts <;> rfl

end Topology
end KafkaTopology
