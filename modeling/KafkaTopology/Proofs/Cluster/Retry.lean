import KafkaTopology.Proofs.Cluster.Sync
import KafkaTopology.Proofs.Host.FileTree
import KafkaTopology.Proofs.Text.SplitOn
/-!
# Retries

Applies of one topology may fail any number of times, each wherever it likes. As long as none of
them succeeds the recorded state stays as it was, and the world stays halfway between that state and
the topology (`Site.Retried.halfway`). The first apply that succeeds brings the two back in sync,
unless it withdraws connectors whose names are no segments of a path: what is sent does not reach
them, or reaches others (`Site.retry_converges`, `Drill.kept_is_withdrawn`).
-/
namespace KafkaTopology

namespace Site

/-- Any number of applies that failed lead from one site to the other. Each met its own
circumstances; the last ones come first. -/
inductive Retried (t : Topology) (options : PlanOptions) (s : Site) :
    List Circumstances → Site → Prop where
  | none : Retried t options s [] s
  | again {cs : List Circumstances} {s' s'' : Site} {c : Circumstances} {e : PlanError}
    (h : Retried t options s cs s') (hfail : s'.apply t options c = (.error e, s'')) :
    Retried t options s (c :: cs) s''

variable {t : Topology} {options : PlanOptions} {cs : List Circumstances} {s s' s'' : Site}

/-- Applies that fail record nothing, and leave the world halfway. -/
theorem Retried.halfway (h : Retried t options s cs s') :
    s'.recorded = s.recorded ∧ World.Halfway t options s.recorded s.world s'.world := by
  induction h with
  | none => exact ⟨rfl, .refl⟩
  | again _ hfail ih =>
    obtain ⟨hsame, hhalfway⟩ := ih
    obtain ⟨hdone, rfl⟩ := apply_error hfail
    rw [hsame] at hdone ⊢
    exact ⟨rfl, hhalfway.after hdone⟩

/-- Applies that fail leave the connectors halfway, where each fits. -/
theorem Retried.connectors {servers : ConnectServers} (h : Retried t options s cs s')
    (hservers : servers.Apart) (hfits : ∀ c ∈ cs, c.Fits servers t)
    (hconnectors : (s.world.connectors servers).Holds s.recorded.artefacts.elements)
    (hrecorded : Artefact.Distinct s.recorded.artefacts.elements) :
    Connectors.Halfway servers t s.recorded (s'.world.connectors servers) := by
  induction h with
  | none => exact .of_holds hconnectors
  | again h hfail ih =>
    obtain ⟨hsame, -⟩ := h.halfway
    obtain ⟨hdone, rfl⟩ := apply_error hfail
    rw [hsame] at hdone ⊢
    exact (ih fun c hc => hfits c (List.mem_cons_of_mem _ hc)).after hservers
      (hfits _ List.mem_cons_self) hrecorded hdone

/-- **Retrying.** Let a site be in sync, with the cluster known by its own name only and with no two
connectors in one place and no two principals with one user. After any number of applies of `t` that
failed, one that succeeds records the settled state. The bindings are then the desired ones, the
users too if accounts are managed, and the topics are the former and the desired ones but for those
that are given up; if all of them were recorded, they are again.

Let the applies have met the same servers, and definition files that say the names of their
artefacts. The live connectors are then the desired ones, and the site is back in sync, if and only
if the names of all artefacts that `t` gives up are segments of a path as they stand. -/
theorem retry_converges {servers : ConnectServers} {c : Circumstances} {summary : RunSummary}
    (hsync : s.world.InSync servers s.recorded) (hnamed : ∀ b ∈ s.recorded.bindings, b.Named)
    (hrecorded : Artefact.Distinct s.recorded.artefacts.elements)
    (hdesired : Artefact.Distinct t.artefacts.elements)
    (husers : Set.InjOn KafkaTools.userName
      (Account.principal '' s.recorded.accounts.elements ∪
        Account.principal '' t.accounts.elements))
    (hretried : Retried t options s cs s') (hok : s'.apply t options c = (.ok summary, s'')) :
    s''.recorded = t.settled options s.recorded ∧
      s''.world.acls = KafkaTools.bindingArguments '' t.bindings.elements ∧
      s''.world.users =
        (if options.managesAccounts then Action.user '' t.accounts.elements else s.world.users) ∧
      s''.world.topics =
        (s.world.topics ∪ t.topicSet.elements) \ t.abandoned options s.recorded ∧
      (s.world.topics = s.recorded.topics.elements →
        s''.world.topics = s''.recorded.topics.elements) ∧
      (servers.Apart → (∀ c' ∈ c :: cs, c'.Fits servers t) →
        ((s''.world.connectors servers).Holds t.artefacts.elements ↔
            t.WithdrawsSegments s.recorded) ∧
          (s''.world.InSync servers s''.recorded ↔ t.WithdrawsSegments s.recorded)) := by
  obtain ⟨hsame, hhalfway⟩ := hretried.halfway
  have hall := map_operations hok
  obtain rfl := apply_ok hok
  rw [hsame] at hall ⊢
  obtain ⟨hacls, hwusers, htopics⟩ := hhalfway.settled c hsync hnamed husers
  refine ⟨rfl, hacls, hwusers, htopics, fun hknown => ?_, fun hservers hfits => ?_⟩
  · rw [htopics, t.elements_topics_settled, hknown]
  have hconnectors := (hretried.connectors hservers
      (fun c' hc' => hfits c' (List.mem_cons_of_mem c hc')) hsync.connectors hrecorded).holds_iff
    hservers (hfits c List.mem_cons_self) hrecorded hdesired hall
  exact ⟨hconnectors, (hhalfway.inSync_iff c hsync hnamed husers).trans hconnectors⟩

end Site

/-! ## A drill -/

namespace Drill

/-- One server, by its alias. -/
def servers : ConnectServers := .ofPairs [("main", "http://connect:8083/")]

def config : Config := { Config.standard with connectServers := servers }

/-- A connector of that server. -/
def connector (name path : String) : Artefact := ⟨"main", name, path⟩

/-- The name of a connector and nothing else. -/
def definition : String := "\x7b\"name\": \"sink\"\x7d"

/-- A host that lasts for `n` calls. It has the tool for bindings and three definitions of one
connector. -/
def host (n : Nat) (answer : List Call → Request → Answer) : Host where
  files := ⟨[(["bin"], .directory), (["bin", "kafka-acls"], .file .binary true),
    (["old.json"], .file (.text definition) false), (["new.json"], .file (.text definition) false),
    (["other.json"], .file (.text definition) false)]⟩
  environment := ⟨[], none⟩
  searchPath := ["bin"]
  tools := fun calls _ => if calls.length < n then .success else .failure "timed out"
  servers := fun calls r =>
    if calls.length < n then answer calls r else .unreachable "timed out"
  clock := default
  consent := none
  output := ""
  calls := []

/-- A server of one connector: after one definition was posted it is there. -/
def answer (calls : List Call) : Request → Answer
  | .delete _ => .status 204
  | .post .. =>
    if calls.any fun | .sent (.post ..) _ => true | _ => false then .status 409 else .status 201

/-- An apply that stops after `n` calls. -/
def stoppedAfter (n : Nat) : Circumstances := ⟨config, host n answer, none⟩

theorem lasts_host (n : Nat) {answer : List Call → Request → Answer}
    (hanswer : ∀ calls r, (Call.sent r (answer calls r)).isSuccess = true) :
    (host n answer).Lasts n := by
  intro made i
  by_cases hn : made.length < n
  · cases i with
    | run c => simp [Host.call, host, hn, Call.isSuccess]
    | send r => simp [Host.call, host, hn, hanswer]
  · cases i <;> simp [Host.call, host, hn, Call.isSuccess]

theorem isSuccess_answer (calls : List Call) (r : Request) :
    (Call.sent r (answer calls r)).isSuccess = true := by
  cases r with
  | delete url => rfl
  | post url body =>
    rw [answer]
    split <;> rfl

/-! ### The server -/

theorem get?_servers {label base : String} :
    servers.get? label = some base ↔ label = "main" ∧ base = "http://connect:8083/" := by
  have hservers : servers = OrderedMap.set ∅ "main" "http://connect:8083/" := rfl
  rw [hservers, OrderedMap.get?_set]
  by_cases hlabel : label = "main"
  · simp [hlabel, eq_comm]
  · simp only [hlabel, if_false, false_and, iff_false]
    exact nofun

/-- The base URL of the server. -/
def base : Url := ⟨"http", "connect:8083", "/"⟩

theorem isBase : Url.IsBase "http://connect:8083/" base :=
  ⟨Except.toOption_eq_some_iff.1 (by decide +kernel), by decide, by decide⟩

theorem apart_servers : servers.Apart where
  isBase label text h := by
    obtain ⟨-, rfl⟩ := get?_servers.1 h
    exact ⟨base, isBase⟩
  address label label' place h h' := by
    have hmain {label : String} (h : servers.address? label = some place) : label = "main" := by
      obtain ⟨text, hget, -⟩ := Option.bind_eq_some_iff.1 h
      exact (get?_servers.1 hget).1
    rw [hmain h, hmain h']

theorem isSome_address : (servers.address? "main").isSome = true := by
  rw [ConnectServers.address?_eq (get?_servers.2 ⟨rfl, rfl⟩) isBase]
  rfl

/-- The world that holds connectors of the server, and what else is recorded. -/
theorem inSync_holding {s : State} (hserver : ∀ a ∈ s.artefacts, a.server = "main")
    (hdistinct : Artefact.Distinct s.artefacts.elements) :
    (World.holding servers s).InSync servers s := by
  refine World.inSync_holding apart_servers (fun a ha => ?_) hdistinct
  rw [hserver a ha]
  exact isSome_address

/-! ### Calls that can be made -/

/-- Whether a command is fit for the host. -/
def fit (c : Command) : Bool :=
  c.tool == "kafka-acls" &&
    (c.tool :: c.arguments).all fun word =>
      !word.toList.contains '\x00' && word.utf8ByteSize < 131072

variable (n : Nat) (answer : List Call → Request → Answer)

theorem checkStartable_host : (host n answer).checkStartable "kafka-acls" = .ok () := by
  have hpath : Location.ofPath "bin/kafka-acls" = ([], ["bin", "kafka-acls"]) := by
    rw [Location.ofPath, Text.splitOn_eq _ (c := '/') rfl]
    decide
  have hjoin : Path.join "bin" "kafka-acls" = "bin/kafka-acls" := by decide +kernel
  have hcheck : FileTree.checkPath "bin/kafka-acls" = .ok () := by
    rw [FileTree.checkPath, String.contains_char_eq]
    decide
  have hbare : Host.isPath "kafka-acls" = false := by
    rw [Host.isPath, String.contains_char_eq]
    decide
  rw [Host.checkStartable, hbare]
  simp only [Bool.false_eq_true, if_false, host, List.map_cons, List.map_nil, hjoin,
    FileTree.checkExecutable, FileTree.entry, FileTree.locate, hcheck, hpath]
  decide

theorem isOk_errand {c : Command} (h : fit c = true) : ((host n answer).errand c).isOk = true := by
  rw [fit, Bool.and_eq_true, beq_iff_eq] at h
  rw [Host.errand, Host.checkCommand_plain h.2, h.1, checkStartable_host]
  rfl

theorem readText_host {path : String} (h : path ∈ ["old.json", "new.json", "other.json"]) :
    (host n answer).files.readText path = .ok definition := by
  have hplain : FileTree.isPlain path = true := by
    revert path
    decide
  have hentry : (host n answer).files.entries.lookup [path] =
      some (.file (.text definition) false) := by
    simp only [List.mem_cons, List.not_mem_nil, or_false] at h
    rcases h with rfl | rfl | rfl <;> rfl
  rw [FileTree.readText_plain _ hplain, hentry]

theorem ofJson?_definition :
    Document.ofJson? definition = some (.mapping [("name", .text "sink")]) := by
  cbv

theorem isOk_createErrand {path : String} (h : path ∈ ["old.json", "new.json", "other.json"]) :
    (servers.createErrand (host n answer) (connector "sink" path)).isOk = true := by
  have hurl : servers.connectorsUrl (connector "sink" path) =
      .ok "http://connect:8083/connectors" := by
    revert path
    decide
  have htext : (host n answer).files.readText (connector "sink" path).path = .ok definition :=
    readText_host n answer h
  simp only [ConnectServers.createErrand, htext, ofJson?_definition, hurl]
  decide +kernel

theorem isOk_entryUrl {name : String} (h : name ∈ ["sink", "sink#1"]) :
    (Url.ofText (ConnectServers.entryUrl "http://connect:8083/" name)).isOk = true := by
  revert name
  decide +kernel

/-- What is sent to delete a connector. -/
def delete (name : String) : Request :=
  .delete (ConnectServers.entryUrl "http://connect:8083/" name)

theorem deleteErrand_connector {name : String} (h : name ∈ ["sink", "sink#1"]) (path : String) :
    servers.deleteErrand (connector name path) = .ok (.send (delete name)) := by
  have hurl : servers.connectorUrl (connector name path) =
      .ok (ConnectServers.entryUrl "http://connect:8083/" name) :=
    ConnectServers.connectorUrl_eq_ok (get?_servers.2 ⟨rfl, rfl⟩)
  obtain ⟨u, hu⟩ : ∃ u, Url.ofText (ConnectServers.entryUrl "http://connect:8083/" name) = .ok u :=
    Except.isOk_iff.1 (isOk_entryUrl h)
  rw [ConnectServers.deleteErrand, hurl]
  simp only [Request.errand, hu]
  rfl

theorem isOk_deleteErrand {name : String} (h : name ∈ ["sink", "sink#1"]) (path : String) :
    (servers.deleteErrand (connector name path)).isOk = true := by
  rw [deleteErrand_connector h]
  rfl

/-- The host has the definitions of a topology whose artefacts are all about one connector. -/
theorem fits_host {t : Topology} (h : ∀ a ∈ t.artefacts, a.name = "sink" ∧
      a.path ∈ ["old.json", "new.json", "other.json"]) :
    (⟨config, host n answer, none⟩ : Circumstances).Fits servers t where
  servers := rfl
  named a ha text definition htext hjson := by
    obtain ⟨hname, hpath⟩ := h a ha
    have hsame : text = Drill.definition :=
      Except.ok.inj (htext.symm.trans (readText_host n answer hpath))
    rw [hsame, ofJson?_definition] at hjson
    rw [← Option.some.inj hjson, hname]
    rfl

/-! ### Topologies -/

/-- A topology with these streams applications and these connectors. -/
def topology (streams : List StreamApp) (artefacts : List Artefact) : Topology where
  context := "acme"
  attributes := []
  separator := "."
  platform := ⟨none, none, none, none⟩
  projects := [
    { name := "orders"
      qualifiedName := "acme.orders"
      order := ["context"]
      consumers := none
      producers := none
      streams := some streams
      connectors := some ⟨[], artefacts⟩
      schemas := none
      rbac := ∅
      topics := [] }]

/-- One streams application, to which belongs what begins with its name, and one connector. -/
def staffed : Topology :=
  topology [⟨"User:app", some "app", ⟨[], []⟩⟩] [connector "sink" "old.json"]

/-- The application is given up, and the connector has another definition. -/
def moved : Topology := topology [] [connector "sink" "new.json"]

/-- Only bindings and connectors are taken away, and accounts are not managed. -/
def options : PlanOptions := ⟨false, false⟩

/-- What is recorded once the application has its bindings. -/
def recorded : State := staffed.settled options .empty

/-- The binding of the application to its topics. -/
def topics : Acl.Binding := .startingWith .topic "app" "User:app" .all

/-- The binding of the application to its groups. -/
def groups : Acl.Binding := .startingWith .group "app" "User:app" .all

/-- The tools of the host. -/
def tools : KafkaTools := .ofConfig config ⟨[], none⟩

theorem actions_moved : moved.actions options recorded =
    [.clearBindings [topics, groups], .deleteArtefact (connector "sink" "old.json"),
      .createArtefact (connector "sink" "new.json")] := rfl

theorem isOk_errands_moved :
    ∀ e ∈ (moved.actions options recorded).flatMap (·.errands config (host n answer)),
      e.isOk = true := by
  have htopics : fit (tools.removeBinding topics) = true := by decide
  have hgroups : fit (tools.removeBinding groups) = true := by decide
  rw [actions_moved]
  simp only [List.flatMap_cons, List.flatMap_nil, Action.errands, List.map_cons, List.map_nil,
    List.cons_append, List.nil_append, List.forall_mem_cons]
  exact ⟨isOk_errand n answer htopics, isOk_errand n answer hgroups,
    isOk_deleteErrand (by decide) _, isOk_createErrand n answer (by decide),
    List.forall_mem_nil _⟩

theorem operation?_drop (h : Host) {name : String} (hname : name ∈ ["sink", "sink#1"])
    (path : String) :
    servers.operation? h (.drop (connector name path)) = some (.request (delete name) path) := by
  rw [ConnectServers.operation?, deleteErrand_connector hname]
  rfl

theorem agenda_moved (n : Nat) : moved.agenda options (stoppedAfter n) recorded =
    [some (tools.read (tools.removeBinding topics)), some (tools.read (tools.removeBinding groups)),
      some (.request (delete "sink") "old.json"),
      servers.operation? (stoppedAfter n).host (.put (connector "sink" "new.json"))] := by
  rw [← operation?_drop (stoppedAfter n).host (by decide)]
  rfl

theorem fits_moved (n : Nat) : (stoppedAfter n).Fits servers moved :=
  fits_host n answer fun a ha => by
    rw [List.mem_singleton.1 ha]
    decide

theorem segments_moved : moved.WithdrawsSegments recorded := by
  intro a ha _
  rw [List.mem_singleton.1 ha]
  decide

/-! ### Worlds -/

/-- A deletion that was accepted withdrew what it reaches. -/
theorem connectors_after_delete {name : String} (hname : name ∈ ["sink", "sink#1"]) (path : String)
    (w : World) : (w.after [.request (delete name) path]).connectors servers =
      (w.connectors servers).on servers.reaches (.drop (connector name path)) := by
  obtain ⟨change, hchange, hon⟩ :=
    Registry.connectors_on_drop (operation?_drop (host 0 answer) hname path)
  rw [World.after_eq, List.filterMap_cons_some hchange]
  exact hon w.registry

theorem acls_after_removal (b : Acl.Binding) (w : World) :
    (w.after [tools.read (tools.removeBinding b)]).acls =
      w.acls \ {KafkaTools.bindingArguments b} := by
  rw [tools.read_removeBinding]
  rfl

theorem not_mem_elements {α : Type} [Ord α] {s : OrderedSet α} (h : s.toList = []) (a : α) :
    a ∉ s.elements :=
  fun ha => absurd (show a ∈ s.toList from ha) (h ▸ List.not_mem_nil)

/-- Artefacts of which each has its name to itself. -/
theorem distinct_artefacts {s : OrderedSet Artefact} (h : (s.toList.map (·.name)).Nodup) :
    Artefact.Distinct s.elements := by
  intro a ha b hb _ hname
  exact List.inj_on_of_nodup_map h ha hb hname

theorem no_users {s : OrderedSet Account} {t : OrderedSet Account} (hs : s.toList = [])
    (ht : t.toList = []) : Set.InjOn KafkaTools.userName
      (Account.principal '' s.elements ∪ Account.principal '' t.elements) := by
  rintro _ (⟨a, ha, rfl⟩ | ⟨a, ha, rfl⟩)
  · exact absurd ha (not_mem_elements hs a)
  · exact absurd ha (not_mem_elements ht a)

/-- The first three operations of giving up the application and the connector. -/
def givenUp : List Operation :=
  [tools.read (tools.removeBinding topics), tools.read (tools.removeBinding groups),
    .request (delete "sink") "old.json"]

/-- Giving up the application and the connector stops before the new definition is posted. -/
theorem apply_moved_error {n : Nat} (hn : n ≤ 3) (w : World) :
    ∃ description cause, Site.apply ⟨w, recorded⟩ moved options (stoppedAfter n) =
        (.error (.action description cause), ⟨w.after (givenUp.take n), recorded⟩) ∧
      (moved.apply options (stoppedAfter n) recorded).done = givenUp.take n := by
  have hagenda : moved.agenda options (stoppedAfter n) recorded = givenUp.map some ++
      [servers.operation? (stoppedAfter n).host (.put (connector "sink" "new.json"))] :=
    agenda_moved n
  have hstops : ¬(moved.agenda options (stoppedAfter n) recorded).length ≤ n := by
    rw [hagenda]
    exact Nat.not_le_of_lt (Nat.lt_succ_of_le hn)
  obtain ⟨description, cause, done, hfail, hdone, htake⟩ :=
    Site.exists_apply_error (s := ⟨w, recorded⟩) (t := moved) (c := stoppedAfter n)
      (lasts_host n isSuccess_answer) rfl (isOk_errands_moved n answer) hstops
  have hgivenUp : done = givenUp.take n := by
    refine List.map_injective_iff.2 (Option.some_injective _) ?_
    rw [htake, hagenda, List.take_append_of_le_length hn, List.map_take]
  rw [hgivenUp] at hfail hdone
  exact ⟨description, cause, hfail, hdone.symm⟩

theorem apply_moved (w : World) :
    ∃ summary s', Site.apply ⟨w, recorded⟩ moved options (stoppedAfter 4) = (.ok summary, s') := by
  refine Site.exists_apply_ok (lasts_host 4 isSuccess_answer) rfl (isOk_errands_moved 4 answer) ?_
  rw [agenda_moved]
  rfl

/-- Neither the application nor the connector is left. -/
theorem after_givenUp (w : World) :
    (w.after givenUp).acls = (w.acls \ {KafkaTools.bindingArguments topics}) \
        {KafkaTools.bindingArguments groups} ∧
      (w.after givenUp).connectors servers "main" "sink" = none := by
  have hsplit : w.after givenUp = ((w.after [tools.read (tools.removeBinding topics)]).after
      [tools.read (tools.removeBinding groups)]).after [.request (delete "sink") "old.json"] := rfl
  have hreaches : servers.reaches (connector "sink" "old.json") "main" "sink" = true := by
    decide +kernel
  rw [hsplit]
  constructor
  · rw [← acls_after_removal, ← acls_after_removal]
    rfl
  · rw [connectors_after_delete (by decide), Connectors.on_drop, if_pos hreaches]

end Drill

/-- A retry after an apply that took the bindings and the connector of a site away. -/
theorem Site.retry_converges_drill :
    let s : Site := ⟨.holding Drill.servers Drill.recorded, Drill.recorded⟩
    s.world.InSync Drill.servers s.recorded ∧ Drill.servers.Apart ∧
      Drill.moved.WithdrawsSegments s.recorded ∧
      ∃ s' s'' summary, Retried Drill.moved Drill.options s [Drill.stoppedAfter 3] s' ∧
        (s'.world.connectors Drill.servers) "main" "sink" = none ∧
        s'.apply Drill.moved Drill.options (Drill.stoppedAfter 4) = (.ok summary, s'') ∧
        s''.world.InSync Drill.servers s''.recorded ∧ s''.world.acls = ∅ ∧
        s''.world.connectors Drill.servers "main" "sink" = some "new.json" := by
  intro s
  have hstaffed : Artefact.Distinct s.recorded.artefacts.elements :=
    Drill.distinct_artefacts (by decide)
  have hsync : s.world.InSync Drill.servers s.recorded :=
    Drill.inSync_holding (fun a ha => by rw [List.mem_singleton.1 ha]; rfl) hstaffed
  obtain ⟨_, _, hfail, -⟩ := Drill.apply_moved_error (le_refl 3) s.world
  have hretried : Retried Drill.moved Drill.options s [Drill.stoppedAfter 3] _ := .again .none hfail
  obtain ⟨summary, s'', hok⟩ := Drill.apply_moved (s.world.after Drill.givenUp)
  obtain ⟨-, hacls, -, -, -, hconnectors⟩ := retry_converges hsync
    (Drill.staffed.named_bindings) hstaffed (Drill.distinct_artefacts (by decide))
    (Drill.no_users rfl rfl) hretried hok
  obtain ⟨hholds, hinSync⟩ := hconnectors Drill.apart_servers fun c hc => by
    simp only [List.mem_cons, List.not_mem_nil, or_false] at hc
    rcases hc with rfl | rfl <;> exact Drill.fits_moved _
  refine ⟨hsync, Drill.apart_servers, Drill.segments_moved, _, s'', summary, hretried,
    (Drill.after_givenUp _).2, hok, hinSync.2 Drill.segments_moved, ?_,
    (hholds.2 Drill.segments_moved _ _ _).2 List.mem_cons_self⟩
  rw [hacls]
  ext arguments
  refine ⟨?_, False.elim⟩
  rintro ⟨b, hb, -⟩
  exact Drill.not_mem_elements rfl b hb

/-! ## Deletions that miss -/

namespace Drill

/-- A topology as it is written, with these artefacts and applications. -/
def document (streams : List Document) (artefacts : List Artefact) : Document :=
  .mapping [
    ("context", .text "acme"),
    ("projects", .list [
      .mapping [
        ("name", .text "orders"),
        ("topics", .list []),
        ("streams", .list streams),
        ("connectors", .mapping [
          ("artefacts", .list (artefacts.map fun a => .mapping [
            ("path", .text a.path), ("server", .text a.server), ("name", .text a.name)]))])]])]

/-- Two connectors, of which one has the name of the other up to a hash sign. -/
def hashed : State :=
  { State.empty with
    artefacts := .ofList [connector "sink" "old.json", connector "sink#1" "hashed.json"] }

/-- One of them. -/
def kept : Topology := topology [] [connector "sink" "old.json"]

/-- An apply that only has a connector to withdraw. -/
theorem apply_of_deletion {t : Topology} {recorded : State} {name path : String}
    (hactions : t.actions options recorded = [.deleteArtefact (connector name path)])
    (hname : name ∈ ["sink", "sink#1"]) {answer : List Call → Request → Answer}
    (hanswer : ∀ calls r, (Call.sent r (answer calls r)).isSuccess = true) (w : World) :
    ∃ summary, Site.apply ⟨w, recorded⟩ t options ⟨config, host 1 answer, none⟩ =
      (.ok summary, ⟨w.after [.request (delete name) path], t.settled options recorded⟩) := by
  have hagenda : t.agenda options ⟨config, host 1 answer, none⟩ recorded =
      [some (.request (delete name) path)] := by
    rw [Topology.agenda, hactions, ← operation?_drop (host 1 answer) hname]
    rfl
  have herrands : ∀ e ∈ (t.actions options recorded).flatMap
      (·.errands config (host 1 answer)), e.isOk = true := by
    rw [hactions]
    simp only [List.flatMap_cons, List.flatMap_nil, Action.errands, List.append_nil,
      List.forall_mem_singleton]
    exact isOk_deleteErrand hname path
  obtain ⟨summary, s', hok⟩ := Site.exists_apply_ok (s := ⟨w, recorded⟩)
    (c := ⟨config, host 1 answer, none⟩) (lasts_host 1 hanswer) rfl herrands
    (by rw [hagenda, List.length_singleton])
  refine ⟨summary, ?_⟩
  rw [hok, Site.apply_ok hok, Topology.operations, hagenda]
  rfl

/-- Giving up the one with the hash sign withdraws the other, and the site is not in sync. -/
theorem kept_is_withdrawn :
    let s : Site := ⟨.holding servers hashed, hashed⟩
    Topology.ofDocument ⟨.ofList ["main"], "."⟩ (document [] [connector "sink" "old.json"]) =
        .ok kept ∧
      s.world.InSync servers s.recorded ∧ (∀ b ∈ s.recorded.bindings, b.Named) ∧
      Artefact.Distinct s.recorded.artefacts.elements ∧
      Artefact.Distinct kept.artefacts.elements ∧
      Set.InjOn KafkaTools.userName (Account.principal '' s.recorded.accounts.elements ∪
        Account.principal '' kept.accounts.elements) ∧
      servers.Apart ∧ (stoppedAfter 1).Fits servers kept ∧
      ∃ s'' summary, s.apply kept options (stoppedAfter 1) = (.ok summary, s'') ∧
        connector "sink" "old.json" ∈ s''.recorded.artefacts ∧
        s''.world.connectors servers "main" "sink" = none ∧
        ¬s''.world.InSync servers s''.recorded := by
  intro s
  have hhashed : Artefact.Distinct s.recorded.artefacts.elements :=
    distinct_artefacts (by decide)
  have hserver : ∀ a ∈ hashed.artefacts, a.server = "main" := by
    intro a ha
    rcases List.mem_cons.1 ha with rfl | ha
    · rfl
    · rw [List.mem_singleton.1 ha]
      rfl
  have hfits : (stoppedAfter 1).Fits servers kept := fits_host 1 answer fun a ha => by
    rw [List.mem_singleton.1 ha]
    decide
  have hactions : kept.actions options hashed =
      [.deleteArtefact (connector "sink#1" "hashed.json")] := rfl
  obtain ⟨summary, hok⟩ := apply_of_deletion hactions (by decide) isSuccess_answer s.world
  have hgone : (s.world.after [.request (delete "sink#1") "hashed.json"]).connectors servers "main"
      "sink" = none := by
    have hreaches : servers.reaches (connector "sink#1" "hashed.json") "main" "sink" = true := by
      decide +kernel
    rw [connectors_after_delete (by decide), Connectors.on_drop, if_pos hreaches]
  refine ⟨rfl, inSync_holding hserver hhashed, fun b hb => absurd hb (not_mem_elements rfl b),
    hhashed, distinct_artefacts (by decide), no_users rfl rfl, apart_servers, hfits, _,
    summary, hok, List.mem_cons_self, hgone, fun hsync => ?_⟩
  have hlive := (hsync.connectors "main" "sink" "old.json").2 List.mem_cons_self
  rw [hgone] at hlive
  cases hlive

end Drill
end KafkaTopology
