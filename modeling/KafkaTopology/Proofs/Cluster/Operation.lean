import KafkaTopology.Proofs.Carries
import KafkaTopology.Proofs.Cluster.Mark
import KafkaTopology.Proofs.Plan.Errands
import Mathlib.Data.List.ReduceOption
/-!
# Operations

What an apply carries out: commands of the Kafka tools, with the arguments that follow those for the
connection, and requests to Connect servers. A `Tracked` host keeps what was asked for by the calls
that ended well; `Tracked.admin` is the admin of a configuration that is watched in this way.

* `Action.run_performs` — an action carries out its agenda in order, up to the first operation that
  fails or cannot be tried.
* `KafkaTools.read_command` — an operation is the same wherever the tools are installed and however
  they connect.
-/
namespace KafkaTopology

/-- One command of a tool, or one request to a Connect server. -/
inductive Operation where
  | tool (name : String) (arguments : List String)
  /-- A request for an artefact. A definition that is posted is from the file of the artefact. -/
  | request (r : Request) (file : String)
deriving Repr

/-! ## Commands -/

namespace KafkaTools

variable (k : KafkaTools)

/-- The operation of a command: the bare name of its tool, and its own arguments. -/
def read (c : Command) : Operation :=
  .tool ((names.find? fun name => k.invocation name == c.tool).getD c.tool)
    (c.arguments.drop (k.command "" []).arguments.length)

theorem not_isAbsolute {name : String} (h : name ∈ names) : Path.isAbsolute name = false := by
  have hall : names.all (fun n => !Path.isAbsolute n) = true := by decide +kernel
  simpa using List.all_eq_true.1 hall name h

/-- Different tools are invoked differently. -/
theorem invocation_injective {name name' : String} (h : name ∈ names) (h' : name' ∈ names)
    (heq : k.invocation name = k.invocation name') : name = name' := by
  simp only [invocation] at heq
  cases hdir : k.binDir with
  | none => simpa [hdir] using heq
  | some dir =>
    simp only [hdir, Path.join, not_isAbsolute h, not_isAbsolute h', Bool.false_eq_true,
      if_false] at heq
    split at heq
    · exact (String.append_right_inj _).1 heq
    · exact (String.append_right_inj _).1 heq

theorem read_command {name : String} (h : name ∈ names) (arguments : List String) :
    k.read (k.command name arguments) = .tool name arguments := by
  have hname : (names.find? fun n => k.invocation n == k.invocation name) = some name := by
    obtain ⟨n, hn⟩ : ∃ n, (names.find? fun n => k.invocation n == k.invocation name) = some n :=
      Option.isSome_iff_exists.1 (List.find?_isSome.2 ⟨name, h, beq_self_eq_true _⟩)
    have heq : k.invocation n = k.invocation name := by simpa using List.find?_some hn
    rw [hn, k.invocation_injective (List.mem_of_find?_eq_some hn) h heq]
  show Operation.tool ((names.find? fun n => k.invocation n == k.invocation name).getD _) _ = _
  rw [hname]
  cases hconfig : k.commandConfig <;> simp [command, hconfig]

end KafkaTools

/-! ## Requests -/

/-- The request that an errand is, if it can be sent. -/
def Errand.request? : Errand → Option Request
  | .ok (.send r) => some r
  | _ => none

namespace ConnectServers

/-- The request by which an artefact is deployed or withdrawn, if it can be sent. -/
def operation? (servers : ConnectServers) (h : Host) : Mark Artefact → Option Operation
  | .put a => (Errand.request? (servers.createErrand h a)).map (.request · a.path)
  | .drop a => (Errand.request? (servers.deleteErrand a)).map (.request · a.path)

variable {servers : ConnectServers} {h : Host} {a : Artefact}

theorem exists_request {m : Mark Artefact} {o : Operation} (ho : servers.operation? h m = some o) :
    ∃ r file, o = .request r file := by
  cases m with
  | put a =>
    obtain ⟨r, -, rfl⟩ := Option.map_eq_some_iff.1 ho
    exact ⟨r, a.path, rfl⟩
  | drop a =>
    obtain ⟨r, -, rfl⟩ := Option.map_eq_some_iff.1 ho
    exact ⟨r, a.path, rfl⟩

theorem errand_ne_run (r : Request) (url : String) (c : Command) : r.errand url ≠ .ok (.run c) := by
  rw [Request.errand]
  split <;> rintro ⟨⟩

theorem createErrand_ne_run (c : Command) : servers.createErrand h a ≠ .ok (.run c) := by
  rw [createErrand]
  split
  · rintro ⟨⟩
  split
  · rintro ⟨⟩
  split
  · rintro ⟨⟩
  · exact errand_ne_run _ _ c

theorem deleteErrand_ne_run (c : Command) : servers.deleteErrand a ≠ .ok (.run c) := by
  rw [deleteErrand]
  split
  · rintro ⟨⟩
  · exact errand_ne_run _ _ c

end ConnectServers

/-! ## Watching a host -/

/-- A host and the operations that were carried out on it. -/
structure Tracked where
  host : Host
  done : List Operation

/-- What is asked for, as an operation. A request is for an artefact with the given file. -/
def Issue.operation (k : KafkaTools) (file : String) : Issue → Operation
  | .run c => k.read c
  | .send r => .request r file

namespace Tracked

/-- An attempt that is watched: what is asked for by calls that end well is kept. -/
def watch (k : KafkaTools) (file : String) (act : Attempt Host Unit) : Attempt Tracked Unit :=
  ExceptT.mk fun w =>
    ((act.on w.host).1,
      ⟨(act.on w.host).2,
        w.done ++ ((act.on w.host).2.completed.drop w.host.completed.length).map
          (·.operation k file)⟩)

/-- The admin of a configuration, watched. -/
def admin (c : Config) (environment : Variables) : Admin Tracked :=
  let watch := watch (.ofConfig c environment)
  let admin := c.admin environment
  { syncTopic := fun name config => watch "" (admin.syncTopic name config)
    deleteTopics := fun names => watch "" (admin.deleteTopics names)
    addBindings := fun bs => watch "" (admin.addBindings bs)
    removeBindings := fun bs => watch "" (admin.removeBindings bs)
    upsertAccount := fun a => watch "" (admin.upsertAccount a)
    deleteAccount := fun a => watch "" (admin.deleteAccount a)
    createConnector := fun a => watch a.path (admin.createConnector a)
    deleteConnector := fun a => watch a.path (admin.deleteConnector a) }

/-- A watched host on which further calls were made, and nothing else. For each that ended well one
operation was kept. -/
def Continues (h : Host) (w : Tracked) : Prop :=
  ∃ made, w.host = h.having made ∧ w.done.length = (made.filter (·.isSuccess)).length

/-- An attempt on a watched host that carries operations out in order, up to the first that fails or
for which there is none, and that makes calls alone. -/
abbrev Performs (h : Host) (agenda : List (Option Operation)) (act : Attempt Tracked Unit) : Prop :=
  Carries (fun w => w.done.map some) (Continues h) agenda act

/-- Watching an attempt with errands of which each is one operation, if it can be made. -/
theorem performs_watch {h : Host} {k : KafkaTools} {file : String} {errands : List Errand}
    {agenda : List (Option Operation)} {act : Attempt Host Unit}
    (hread : List.Forall₂ (fun o e => ∀ i, e = .ok i → o = some (i.operation k file)) agenda
      errands)
    (hcalls : h.Undertakes errands act) : Performs h agenda (watch k file act) := by
  rintro ⟨_, done⟩ ⟨made, rfl, hcount⟩
  obtain ⟨further, hhost, -, hcase⟩ := hcalls made
  let successes := further.filter (·.isSuccess)
  let new := successes.map fun c => c.issue.operation k file
  have hdone : ((watch k file act).on ⟨h.having made, done⟩).2.done = done ++ new := by
    show done ++ ((act.on (h.having made)).2.completed.drop
      (h.having made).completed.length).map (·.operation k file) = _
    rw [hhost, Host.completed_having h (made ++ further), List.filter_append, List.map_append,
      ← List.append_assoc, ← Host.completed_having, List.drop_left, List.map_map]
    rfl
  refine ⟨⟨made ++ further, hhost, ?_⟩, new.map some, ?_, ?_⟩
  · rw [hdone, List.length_append, hcount, List.filter_append, List.length_append, List.length_map]
  · dsimp only
    rw [hdone, List.map_append]
  -- What ended well is the first of the errands, so it is the first of the operations.
  obtain ⟨hpre, hall⟩ : successes.map (fun c => .ok c.issue) <+: errands ∧
      ((act.on (h.having made)).1.isOk = true →
        successes.map (fun c => .ok c.issue) = errands) := by
    split at hcase
    · next hrun =>
      have hsuccesses : successes = further := List.filter_eq_self.2 hcase.2
      rw [hsuccesses, ← hcase.1]
      exact ⟨List.prefix_rfl, fun _ => rfl⟩
    · next hrun =>
      rw [hrun]
      exact ⟨hcase.successes_prefix, nofun⟩
  obtain ⟨rest, rfl⟩ := hpre
  have htake : agenda.take successes.length = new.map some := by
    have hfirst := List.forall₂_take_append _ _ _ hread
    rw [List.length_map, List.forall₂_map_right_iff] at hfirst
    rw [List.map_map, ← List.forall₂_eq_eq_eq, List.forall₂_map_right_iff]
    exact hfirst.imp fun o c ho => ho c.issue rfl
  rw [← htake]
  refine ⟨List.take_prefix _ _, fun hok => List.take_of_length_le ?_⟩
  have hlength := congrArg List.length (hall hok)
  rw [hread.length_eq, ← hlength, List.length_map]

end Tracked

/-! ## Actions -/

namespace Action

/-- The commands of an action, in order. New accounts get the password. -/
def commands (k : KafkaTools) (password : String) : Action → List Command
  | .syncTopic name config => k.createTopic name config :: (k.alterTopic? name config).toList
  | .deleteTopics names => names.map k.deleteTopic
  | .createBindings bs => bs.map k.addBinding
  | .clearBindings bs => bs.map k.removeBinding
  | .createAccounts accounts => accounts.map (k.upsertAccount · password)
  | .clearAccounts accounts => accounts.map k.deleteAccount
  | .createArtefact _ | .deleteArtefact _ => []

/-- What an action does to the connectors. -/
def connectorMarks : Action → List (Mark Artefact)
  | .createArtefact a => [.put a]
  | .deleteArtefact a => [.drop a]
  | _ => []

/-- What an action has to carry out, in order. There is nothing in the place of a request that
cannot be sent. -/
def agenda (c : Config) (h : Host) (a : Action) : List (Option Operation) :=
  let k := KafkaTools.ofConfig c h.environment
  ((a.commands k (k.passwordOr h.environment)).map k.read).map some ++
    a.connectorMarks.map (ConnectServers.operation? c.connectServers h)

theorem length_agenda (c : Config) (h : Host) (a : Action) :
    (a.agenda c h).length = (a.errands c h).length := by
  cases a <;> simp [agenda, errands, commands, connectorMarks]

/-- Watching an attempt that runs commands. -/
theorem performs_commands {h : Host} {k : KafkaTools} {commands : List Command}
    {act : Attempt Host Unit} (hcalls : h.Undertakes (commands.map h.errand) act) :
    Tracked.Performs h ((commands.map k.read).map some) (Tracked.watch k "" act) := by
  refine Tracked.performs_watch ?_ hcalls
  rw [List.map_map, List.forall₂_map_left_iff, List.forall₂_map_right_iff, List.forall₂_same]
  intro c _ i hi
  rw [h.errand_eq_ok c hi]
  rfl

/-- Watching an attempt that runs a command for each of some things. -/
theorem performs_each {α : Type} {h : Host} {k : KafkaTools} {message : α → String}
    (command : α → Command) (xs : List α) :
    Tracked.Performs h (((xs.map command).map k.read).map some)
      (Tracked.watch k "" (xs.forM fun x => KafkaTools.run (message x) (command x))) := by
  refine performs_commands ?_
  rw [List.map_map]
  exact KafkaTools.undertakes_each h message command xs

/-- An action carries out its agenda in order, up to the first operation that fails or cannot be
tried. -/
theorem run_performs (c : Config) (h : Host) (a : Action) :
    Tracked.Performs h (a.agenda c h) (a.run (Tracked.admin c h.environment)) := by
  have hforM {f : Account → Command} {g : Account → Attempt Tracked Unit}
      (hf : ∀ a, Tracked.Performs h
        (([f a].map (KafkaTools.ofConfig c h.environment).read).map some) (g a))
      (accounts : List Account) : Tracked.Performs h
        (((accounts.map f).map (KafkaTools.ofConfig c h.environment).read).map some)
        (accounts.forM g) := by
    rw [List.map_map, List.map_map, List.map_eq_flatMap]
    exact .forM hf accounts
  cases a <;> simp only [agenda, commands, connectorMarks, List.map_nil, List.map_cons,
    List.append_nil, List.nil_append]
  case syncTopic name config =>
    have hcalls : h.Undertakes ((_ :: _).map h.errand) _ :=
      KafkaTools.undertakes_syncTopic (.ofConfig c h.environment) h name config
    exact performs_commands hcalls
  case deleteTopics names => exact performs_each _ names
  case createBindings bs => exact performs_each _ bs
  case clearBindings bs => exact performs_each _ bs
  case createAccounts accounts =>
    refine hforM (fun a => Tracked.performs_watch (.cons (fun i hi => ?_) .nil)
      (KafkaTools.undertakes_createAccount _ h a)) accounts
    rw [KafkaTools.upsertErrand_eq_ok _ h a hi]
    rfl
  case clearAccounts accounts =>
    exact hforM (fun a => performs_commands (KafkaTools.undertakes_run h _ _)) accounts
  case createArtefact a =>
    refine Tracked.performs_watch (.cons (fun i hi => ?_) .nil)
      (ConnectServers.undertakes_createConnector _ h a)
    cases i with
    | run command => exact absurd hi (ConnectServers.createErrand_ne_run command)
    | send r => rw [ConnectServers.operation?, hi]; rfl
  case deleteArtefact a =>
    refine Tracked.performs_watch (.cons (fun i hi => ?_) .nil)
      (ConnectServers.undertakes_deleteConnector _ h a)
    cases i with
    | run command => exact absurd hi (ConnectServers.deleteErrand_ne_run command)
    | send r => rw [ConnectServers.operation?, hi]; rfl

end Action

/-! ## Watching changes nothing -/

namespace Tracked

/-- An attempt on a watched host that does to the host what another one does. -/
def Mirrors (x : Attempt Tracked Unit) (y : Attempt Host Unit) : Prop :=
  ∀ w, (x.on w).1 = (y.on w.host).1 ∧ (x.on w).2.host = (y.on w.host).2

theorem Mirrors.forM {α : Type} {f : α → Attempt Tracked Unit} {g : α → Attempt Host Unit}
    (h : ∀ a, Mirrors (f a) (g a)) (xs : List α) : Mirrors (xs.forM f) (xs.forM g) := by
  induction xs with
  | nil => exact fun _ => ⟨rfl, rfl⟩
  | cons x xs ih =>
    intro w
    show ((f x >>= fun _ => xs.forM f).on w).1 = ((g x >>= fun _ => xs.forM g).on w.host).1 ∧
      ((f x >>= fun _ => xs.forM f).on w).2.host = ((g x >>= fun _ => xs.forM g).on w.host).2
    obtain ⟨houtcome, hhost⟩ := h x w
    rw [Attempt.on_bind, Attempt.on_bind]
    rcases hf : (f x).on w with ⟨e | _, w₁⟩ <;> rcases hg : (g x).on w.host with ⟨e' | _, h₁⟩ <;>
      rw [hf, hg] at houtcome hhost
    · cases houtcome
      exact ⟨rfl, hhost⟩
    · cases houtcome
    · cases houtcome
    · obtain rfl : w₁.host = h₁ := hhost
      exact ih w₁

theorem mirrors_run (c : Config) (environment : Variables) (a : Action) :
    Mirrors (a.run (admin c environment)) (a.run (c.admin environment)) := by
  cases a with
  | createAccounts accounts => exact .forM (fun _ _ => ⟨rfl, rfl⟩) accounts
  | clearAccounts accounts => exact .forM (fun _ _ => ⟨rfl, rfl⟩) accounts
  | _ => exact fun _ => ⟨rfl, rfl⟩

/-- Executing actions on a watched host ends as it does on the host, and does the same there. -/
theorem execute_mirrors (c : Config) (environment : Variables) (actions : List Action) (s : State)
    (summary : RunSummary) (w : Tracked) :
    ((Plan.execute (actions.map (·.toStep (admin c environment))) s summary).run w).1 =
      ((Plan.execute (actions.map (·.toStep (c.admin environment))) s summary).run w.host).1 ∧
    ((Plan.execute (actions.map (·.toStep (admin c environment))) s summary).run w).2.host =
      ((Plan.execute (actions.map (·.toStep (c.admin environment))) s summary).run w.host).2 := by
  induction actions generalizing s summary w with
  | nil => exact ⟨rfl, rfl⟩
  | cons a actions ih =>
    obtain ⟨houtcome, hhost⟩ := mirrors_run c environment a w
    rw [List.map_cons, List.map_cons, Plan.execute_cons, Plan.execute_cons]
    simp only [Action.toStep]
    rcases hf : (a.run (admin c environment)).on w with ⟨e | _, w₁⟩ <;>
      rcases hg : (a.run (c.admin environment)).on w.host with ⟨e' | _, h₁⟩ <;>
      rw [hf, hg] at houtcome hhost
    · cases houtcome
      exact ⟨rfl, hhost⟩
    · cases houtcome
    · cases houtcome
    · obtain rfl : w₁.host = h₁ := hhost
      exact ih _ _ w₁

end Tracked
end KafkaTopology
