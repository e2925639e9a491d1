import KafkaTopology.Proofs.Cluster.Script
import Mathlib.Data.Finset.Max
/-!
# Requests of a plan

What the requests of a plan do to the connectors of the servers, read from what is sent. A posted
definition makes a connector of the name that it says, at the server whose list it is posted to; a
deletion removes what its URL leads to.

* `Registry.connectors_on_put`, `Registry.connectors_on_drop` — a definition that says the name of
  its artefact makes the connector of the artefact, and a deletion withdraws what it reaches.
* `Topology.exists_marks` — what was carried out of a plan did to the connectors what a beginning of
  its script does.
* `ConnectServers.isSegment_of_holds` — a whole script leads to the desired connectors only if the
  names of all artefacts that it withdraws are segments of a path as they stand.
-/
namespace KafkaTopology

/-- Whether an apply of a topology meets these servers, and definition files that say the names of
their artefacts as far as they can be read. -/
structure Circumstances.Fits (c : Circumstances) (servers : ConnectServers) (t : Topology) :
    Prop where
  servers : c.config.connectServers = servers
  named : ∀ a ∈ t.artefacts, ∀ text definition, c.host.files.readText a.path = .ok text →
    Document.ofJson? text = some definition → definition.get? "name" = some (.text a.name)

/-! ## One request -/

namespace ConnectServers

variable {servers : ConnectServers} {h : Host} {a : Artefact} {o : Operation}

theorem request?_errand {r s : Request} {url : String}
    (h : Errand.request? (r.errand url) = some s) :
    s = r ∧ ∃ u, Url.ofText url = .ok u := by
  rw [Request.errand] at h
  cases hurl : Url.ofText url with
  | error reason =>
    rw [hurl] at h
    cases h
  | ok u =>
    rw [hurl] at h
    cases h
    exact ⟨rfl, u, rfl⟩

theorem connectorsUrl_eq_ok_iff {url : String} :
    servers.connectorsUrl a = .ok url ↔
      ∃ base, servers.get? a.server = some base ∧ url = trimSlashes base ++ "/connectors" := by
  rw [connectorsUrl]
  cases servers.get? a.server <;> simp [eq_comm]

theorem exists_post (ho : servers.operation? h (.put a) = some o) :
    ∃ base text definition u, servers.get? a.server = some base ∧
      h.files.readText a.path = .ok text ∧ Document.ofJson? text = some definition ∧
      Url.ofText (trimSlashes base ++ "/connectors") = .ok u ∧
      o = .request (.post (trimSlashes base ++ "/connectors") definition) a.path := by
  obtain ⟨r, hr, rfl⟩ := Option.map_eq_some_iff.1 ho
  rw [createErrand] at hr
  cases htext : h.files.readText a.path with
  | error reason =>
    rw [htext] at hr
    cases hr
  | ok text =>
    cases hjson : Document.ofJson? text with
    | none =>
      simp only [htext, hjson] at hr
      cases hr
    | some definition =>
      cases hurl : servers.connectorsUrl a with
      | error reason =>
        simp only [htext, hjson, hurl] at hr
        cases hr
      | ok url =>
        simp only [htext, hjson, hurl] at hr
        obtain ⟨rfl, u, hu⟩ := request?_errand hr
        obtain ⟨base, hbase, rfl⟩ := connectorsUrl_eq_ok_iff.1 hurl
        exact ⟨base, text, definition, u, hbase, rfl, hjson, hu, rfl⟩

theorem exists_delete (ho : servers.operation? h (.drop a) = some o) :
    ∃ base u, servers.get? a.server = some base ∧ Url.ofText (entryUrl base a.name) = .ok u ∧
      o = .request (.delete (entryUrl base a.name)) a.path := by
  obtain ⟨r, hr, rfl⟩ := Option.map_eq_some_iff.1 ho
  rw [deleteErrand] at hr
  cases hserver : servers.get? a.server with
  | none =>
    have hurl : servers.connectorUrl a = .error (.unknownServer a.server) := by
      rw [connectorUrl, connectorsUrl, hserver]
      rfl
    rw [hurl] at hr
    cases hr
  | some base =>
    rw [connectorUrl_eq_ok hserver] at hr
    obtain ⟨rfl, u, hu⟩ := request?_errand hr
    exact ⟨base, u, rfl, hu, rfl⟩

end ConnectServers

namespace Registry

open ConnectServers

variable {servers : ConnectServers} {h : Host} {a : Artefact} {o : Operation}

/-- A definition that says the name of its artefact makes the connector of the artefact. -/
theorem connectors_on_put (hservers : servers.Apart)
    (hnamed : ∀ text definition, h.files.readText a.path = .ok text →
      Document.ofJson? text = some definition → definition.get? "name" = some (.text a.name))
    (ho : servers.operation? h (.put a) = some o) :
    ∃ change, o.connectorChange? = some change ∧ ∀ g : Registry,
      (g.on change).connectors servers = (g.connectors servers).on servers.reaches (.put a) := by
  obtain ⟨base, text, definition, u, hbase, htext, hjson, hurl, rfl⟩ := exists_post ho
  obtain ⟨v, hv⟩ := hservers.isBase _ _ hbase
  have hplace : servers.address? a.server = some (u.listAt u.path) := by
    rw [address?_eq hbase hv, listAt_post hv hurl]
  refine ⟨.deploy (u.listAt u.path) a.name a.path, ?_, fun g => ?_⟩
  · rw [Operation.connectorChange?, hurl, hnamed text definition htext hjson]
  · funext server name
    rw [Connectors.on_put, connectors, connectors, on]
    by_cases hserver : a.server = server
    · rw [← hserver, hplace]
      simp only [Option.bind_some, Artefact.isAt_iff, true_and, @eq_comm _ name]
    · have hat : a.isAt server name = false := by simp [Artefact.isAt, hserver]
      rw [hat, if_neg Bool.false_ne_true, Option.or_none]
      cases hother : servers.address? server with
      | none => rfl
      | some place =>
        have hne : place ≠ u.listAt u.path :=
          fun heq => hserver (hservers.address _ _ _ hplace (heq ▸ hother))
        simp [hne]

/-- A deletion removes what it reaches. -/
theorem connectors_on_drop (ho : servers.operation? h (.drop a) = some o) :
    ∃ change, o.connectorChange? = some change ∧ ∀ g : Registry,
      (g.on change).connectors servers = (g.connectors servers).on servers.reaches (.drop a) := by
  obtain ⟨base, u, hbase, hurl, rfl⟩ := exists_delete ho
  refine ⟨.withdraw u, ?_, fun g => ?_⟩
  · rw [Operation.connectorChange?, hurl]
    rfl
  · funext server name
    have hreaches : servers.reaches a server name = true ↔
        ∃ place, servers.address? server = some place ∧ u.Reaches place name :=
      reaches_iff hbase hurl
    rw [Connectors.on_drop, connectors, connectors, on]
    cases hother : servers.address? server with
    | none => simp
    | some place =>
      simp only [hother, Option.some.injEq, exists_eq_left'] at hreaches
      simp only [Option.bind_some, hreaches]

/-- Requests that can be sent do to the connectors what they are sent for, in order. -/
theorem connectors_onAll (hservers : servers.Apart) {ops : List Operation}
    {ms : List (Mark Artefact)} (hnamed : ∀ a, .put a ∈ ms → ∀ text definition,
      h.files.readText a.path = .ok text → Document.ofJson? text = some definition →
      definition.get? "name" = some (.text a.name))
    (hops : ops.map some = ms.map (servers.operation? h)) (g : Registry) :
    (g.onAll (ops.filterMap Operation.connectorChange?)).connectors servers =
        (g.connectors servers).onAll servers.reaches ms ∧
      (ops.filterMap Operation.connectorChange?).length = ms.length := by
  induction ms generalizing ops g with
  | nil =>
    rw [List.map_nil, List.map_eq_nil_iff] at hops
    rw [hops]
    exact ⟨rfl, rfl⟩
  | cons m ms ih =>
    cases ops with
    | nil => cases hops
    | cons o ops =>
      obtain ⟨ho, hops⟩ := List.cons.inj hops
      obtain ⟨change, hchange, hon⟩ : ∃ change, o.connectorChange? = some change ∧
          ∀ g : Registry,
            (g.on change).connectors servers = (g.connectors servers).on servers.reaches m := by
        cases m with
        | put a => exact connectors_on_put hservers (hnamed a List.mem_cons_self) ho.symm
        | drop a => exact connectors_on_drop ho.symm
      obtain ⟨hconnectors, hlength⟩ := ih (fun a ha => hnamed a (List.mem_cons_of_mem m ha)) hops
        (g.on change)
      rw [List.filterMap_cons_some hchange]
      refine ⟨?_, congrArg (· + 1) hlength⟩
      show (((g.on change).onAll (ops.filterMap Operation.connectorChange?)).connectors servers) = _
      rw [hconnectors, hon]
      rfl

end Registry

/-! ## The requests of a plan -/

/-- Whether something on an agenda is no command of a tool. -/
def Operation.atServer : Option Operation → Bool
  | some (.tool ..) => false
  | _ => true

theorem Action.filter_agenda (c : Config) (h : Host) (a : Action) :
    (a.agenda c h).filter Operation.atServer =
      a.connectorMarks.map (ConnectServers.operation? c.connectServers h) := by
  rw [agenda, List.filter_append, List.filter_eq_nil_iff.2, List.nil_append,
    List.filter_eq_self.2]
  · intro o ho
    obtain ⟨m, -, rfl⟩ := List.mem_map.1 ho
    cases ho : ConnectServers.operation? c.connectServers h m with
    | none => rfl
    | some o =>
      obtain ⟨r, file, rfl⟩ := ConnectServers.exists_request ho
      rfl
  · intro o ho
    obtain ⟨_, htool, rfl⟩ := List.mem_map.1 ho
    obtain ⟨command, -, rfl⟩ := List.mem_map.1 htool
    exact Bool.false_ne_true

namespace Topology

variable (t : Topology) (options : PlanOptions) {c : Circumstances} {recorded : State}
  {servers : ConnectServers}

/-- The artefacts that a plan deploys. -/
def newArtefacts (recorded : State) : List Artefact :=
  (t.artefacts.difference recorded.artefacts).create

/-- The artefacts that a plan withdraws. -/
def oldArtefacts (recorded : State) : List Artefact :=
  (t.artefacts.difference recorded.artefacts).delete

theorem mem_newArtefacts {a : Artefact} :
    a ∈ t.newArtefacts recorded ↔ a ∈ t.artefacts ∧ a ∉ recorded.artefacts :=
  OrderedSet.mem_create

theorem mem_oldArtefacts {a : Artefact} :
    a ∈ t.oldArtefacts recorded ↔ a ∈ recorded.artefacts ∧ a ∉ t.artefacts :=
  OrderedSet.mem_delete

/-- The requests on an agenda, with nothing in the place of one that cannot be sent. -/
theorem filter_agenda :
    (t.agenda options c recorded).filter Operation.atServer =
      (Connectors.script (t.newArtefacts recorded) (t.oldArtefacts recorded)).map
        (ConnectServers.operation? c.config.connectServers c.host) := by
  rw [agenda, List.filter_flatMap]
  simp only [Action.filter_agenda]
  rw [flatMap_actions t options recorded rfl rfl rfl rfl rfl]
  simp only [Action.connectorMarks, List.map_nil, List.map_cons, flatMap_none, ite_self,
    List.append_nil, List.nil_append, Connectors.script, newArtefacts, oldArtefacts,
    ← List.map_eq_flatMap, List.map_append, List.map_map, Function.comp_def]

/-- What was carried out of a plan did to the connectors what a beginning of its script does, with
requests that could be sent. -/
theorem exists_marks (hservers : servers.Apart) (hfits : c.Fits servers t) {done : List Operation}
    (hdone : done.map some <+: t.agenda options c recorded) :
    ∃ ms, ms <+: Connectors.script (t.newArtefacts recorded) (t.oldArtefacts recorded) ∧
      (∀ m ∈ ms, ∃ o, servers.operation? c.host m = some o) ∧
      (∀ w : World, (w.after done).connectors servers =
        (w.connectors servers).onAll servers.reaches ms) ∧
      (ms = [] ↔ ∀ o ∈ done, o.connectorChange? = none) ∧
      (done.map some = t.agenda options c recorded →
        ms = Connectors.script (t.newArtefacts recorded) (t.oldArtefacts recorded)) := by
  let requests := done.filter (Operation.atServer ∘ some)
  have hrequests : (done.map some).filter Operation.atServer = requests.map some := List.filter_map
  have hpre := hdone.filter Operation.atServer
  rw [hrequests, filter_agenda, hfits.servers, List.prefix_map_iff] at hpre
  obtain ⟨ms, hms, hops⟩ := hpre
  have hchanges : done.filterMap Operation.connectorChange? =
      requests.filterMap Operation.connectorChange? := by
    rw [List.filterMap_filter]
    refine List.filterMap_congr fun o _ => ?_
    cases o <;> rfl
  have hnamed : ∀ a, .put a ∈ ms → ∀ text definition, c.host.files.readText a.path = .ok text →
      Document.ofJson? text = some definition → definition.get? "name" = some (.text a.name) :=
    fun a ha => hfits.named a (t.mem_newArtefacts.1 (Connectors.put_mem_script (hms.subset ha))).1
  have hall := Registry.connectors_onAll hservers hnamed hops
  rw [← hchanges] at hall
  refine ⟨ms, hms, fun m hm => ?_, fun w => ?_, ?_, fun hdone => ?_⟩
  · have hmem : servers.operation? c.host m ∈ requests.map some :=
      hops ▸ List.mem_map_of_mem hm
    obtain ⟨o, -, ho⟩ := List.mem_map.1 hmem
    exact ⟨o, ho.symm⟩
  · rw [World.after_eq]
    exact (hall w.registry).1
  · rw [← List.filterMap_eq_nil_iff, ← List.length_eq_zero_iff, ← (hall fun _ _ => none).2,
      List.length_eq_zero_iff]
  · have hsame : ms.map (servers.operation? c.host) =
        (Connectors.script (t.newArtefacts recorded) (t.oldArtefacts recorded)).map
          (servers.operation? c.host) := by
      rw [← hops, ← hrequests, hdone, filter_agenda, hfits.servers]
    exact hms.eq_of_length (by simpa using congrArg List.length hsame)

end Topology

/-! ## Names that are segments -/

namespace ConnectServers

open Url

variable {servers : ConnectServers} {h : Host} {a : Artefact}

/-- The deletion of an artefact whose name is a segment is about its connector and no other one. -/
theorem reaches_eq_isAt (hservers : servers.Apart)
    (hsent : ∃ o, servers.operation? h (.drop a) = some o) (hname : IsSegment a.name.toList) :
    servers.reaches a = a.isAt := by
  obtain ⟨o, ho⟩ := hsent
  obtain ⟨base, sent, hserver, hurl, -⟩ := exists_delete ho
  obtain ⟨u, hbase⟩ := hservers.isBase _ _ hserver
  funext server name
  rw [Bool.eq_iff_iff, Artefact.isAt_iff]
  exact reaches_iff_of_isSegment hserver hbase hurl hservers hname

/-- Let a script be carried out over connectors where each that it withdraws is live unless one of
its deletions reaches it. If the connectors are then those that are desired, the names of all that
are withdrawn are segments: of those that are not, the longest belongs to a connector that no
deletion reaches. -/
theorem isSegment_of_holds (hservers : servers.Apart) {cs : Connectors} {t : Set Artefact}
    {added removed : List Artefact}
    (hsent : ∀ a ∈ removed, ∃ o, servers.operation? h (.drop a) = some o)
    (hlive : ∀ a ∈ removed, (∀ b ∈ removed, ¬servers.reaches b a.server a.name = true) →
      cs a.server a.name = some a.path)
    (hremoved : ∀ a ∈ removed, a ∉ t)
    (hholds : (cs.onAll servers.reaches (Connectors.script added removed)).Holds t) :
    ∀ a ∈ removed, IsSegment a.name.toList := by
  by_contra! hnot
  obtain ⟨a₀, ha₀, hname₀⟩ := hnot
  obtain ⟨a, ha, hmax⟩ := Finset.exists_max_image
    (removed.toFinset.filter fun a => ¬IsSegment a.name.toList)
    (fun a => (octets a.name.toList).length)
    ⟨a₀, Finset.mem_filter.2 ⟨List.mem_toFinset.2 ha₀, hname₀⟩⟩
  obtain ⟨ha, hname⟩ := Finset.mem_filter.1 ha
  rw [List.mem_toFinset] at ha
  -- Some deletion reaches the connector, or else it is still live.
  obtain ⟨b, hb, hreaches⟩ : ∃ b ∈ removed, servers.reaches b a.server a.name = true := by
    by_contra! hnone
    refine hremoved a ha ((hholds a.server a.name a.path).1 ?_)
    exact Connectors.onAll_of_eq (fun _ hm => hm) (hlive a ha hnone) hnone
  obtain ⟨o, ho⟩ := hsent b hb
  obtain ⟨base, sent, hserver, hurl, -⟩ := exists_delete ho
  obtain ⟨u, hbase⟩ := hservers.isBase _ _ hserver
  by_cases hown : IsSegment b.name.toList
  · have hplace := (reaches_iff_of_isSegment hserver hbase hurl hservers hown).1 hreaches
    exact hname (hplace.2 ▸ hown)
  · rcases own_or_lt_of_reaches hserver hbase hurl hservers hreaches with ⟨hlabel, hsame⟩ | hlt
    · rw [← hlabel, ← hsame] at hreaches
      exact hown ((reaches_own_iff hserver hbase hurl).1 hreaches)
    · exact absurd (hmax b (Finset.mem_filter.2 ⟨List.mem_toFinset.2 hb, hown⟩)) (not_le.2 hlt)

end ConnectServers
end KafkaTopology
