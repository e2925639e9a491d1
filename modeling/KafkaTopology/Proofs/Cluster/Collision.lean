import KafkaTopology.Proofs.Cluster.Retry
/-!
# Connectors in one place

A server knows a connector by its name, an artefact also has a definition. A topology may ask for
two definitions in one place, and then a server can have only one of them. An apply fills each
place that is asked for with one of the definitions that are asked for there, whatever stood in it
before (`Connectors.Holds.mem_of_onAll_script`, `Connectors.Holds.isSome_onAll_script`). It also
leaves connectors in place that its deletions do not reach. So the live connectors are the desired
artefacts exactly if no place is asked for twice and the names of all artefacts that are withdrawn
are segments of a path (`Site.holds_connectors_iff`).
-/
namespace KafkaTopology

namespace Connectors

variable {cs : Connectors} {s t : Set Artefact} {added removed : List Artefact}
  {server name path : String}

/-- Connectors are artefacts of which no two share a place. -/
theorem Holds.distinct (h : cs.Holds s) : Artefact.Distinct s := by
  rintro ⟨server, name, path⟩ ha ⟨_, _, path'⟩ hb rfl rfl
  have hpath : some path = some path' := by
    rw [← (h server name path).2 ha, ← (h server name path').2 hb]
  rw [Option.some.inj hpath]

/-- A whole script leaves nothing that is not desired. -/
theorem Holds.mem_of_onAll_script (h : cs.Holds s) (hadded : ∀ a, a ∈ added ↔ a ∈ t ∧ a ∉ s)
    (hremoved : ∀ a, a ∈ removed ↔ a ∈ s ∧ a ∉ t)
    (hpath : cs.onAll Artefact.isAt (script added removed) server name = some path) :
    ⟨server, name, path⟩ ∈ t := by
  rw [onAll_script, Option.or_eq_some_iff] at hpath
  rcases hpath with hkept | ⟨-, hput⟩
  · split at hkept
    · cases hkept
    · rename_i hany
      by_contra hnot
      have hmem : (⟨server, name, path⟩ : Artefact) ∈ removed :=
        (hremoved _).2 ⟨(h _ _ _).1 hkept, hnot⟩
      exact hany (List.any_eq_true.2 ⟨_, hmem, Artefact.isAt_iff.2 ⟨rfl, rfl⟩⟩)
  · obtain ⟨a, ha, rfl⟩ := Option.map_eq_some_iff.1 hput
    obtain ⟨hmem, hat⟩ := Artefact.of_find?_isAt ha
    exact Artefact.eq_mk_of_isAt hat ▸ ((hadded a).1 hmem).1

/-- A whole script leaves no desired place empty. -/
theorem Holds.isSome_onAll_script (h : cs.Holds s) (hadded : ∀ a, a ∈ added ↔ a ∈ t ∧ a ∉ s)
    (hremoved : ∀ a, a ∈ removed ↔ a ∈ s ∧ a ∉ t) {a : Artefact} (ha : a ∈ t) :
    (cs.onAll Artefact.isAt (script added removed) a.server a.name).isSome = true := by
  rw [onAll_script, Option.isSome_or, Bool.or_eq_true]
  by_cases has : a ∈ s
  · -- What stands there already stays, for nothing else in its place was there to be withdrawn.
    left
    have hany : ¬removed.any (·.isAt a.server a.name) = true := by
      intro hany
      obtain ⟨b, hb, hat⟩ := List.any_eq_true.1 hany
      exact not_isAt_of_removed h.distinct hremoved has ha b hb hat
    rw [if_neg hany, (h a.server a.name a.path).2 has]
    rfl
  · right
    rw [Option.isSome_map, List.find?_isSome]
    exact ⟨a, (hadded a).2 ⟨ha, has⟩, Artefact.isAt_iff.2 ⟨rfl, rfl⟩⟩

end Connectors

namespace Site

variable {s s' : Site} {t : Topology} {options : PlanOptions} {c : Circumstances}

/-- **Connectors and artefacts.** Let exactly the recorded artefacts be live, and let a successful
apply of `t` have met definition files that say the names of their artefacts. Then its artefacts are
recorded. They are exactly the live connectors if and only if no server has two of them under one
name, and the names of all artefacts that `t` gives up are segments of a path as they stand. The
latter alone makes every live connector one of them, with one in each of their places. -/
theorem holds_connectors_iff {servers : ConnectServers} {summary : RunSummary}
    (hservers : servers.Apart) (hfits : c.Fits servers t)
    (hsync : (s.world.connectors servers).Holds s.recorded.artefacts.elements)
    (hok : s.apply t options c = (.ok summary, s')) :
    s'.recorded.artefacts = t.artefacts ∧
      (t.WithdrawsSegments s.recorded →
        (∀ server name path, s'.world.connectors servers server name = some path →
          ⟨server, name, path⟩ ∈ t.artefacts) ∧
        ∀ a ∈ t.artefacts, (s'.world.connectors servers a.server a.name).isSome = true) ∧
      ((s'.world.connectors servers).Holds t.artefacts.elements ↔
        Artefact.Distinct t.artefacts.elements ∧ t.WithdrawsSegments s.recorded) := by
  have hall := map_operations hok
  obtain rfl := apply_ok hok
  have hiff (hdesired : Artefact.Distinct t.artefacts.elements) :=
    (Connectors.Halfway.of_holds hsync).holds_iff hservers hfits hsync.distinct hdesired hall
  refine ⟨rfl, fun hsegments => ?_, fun h => ⟨h.distinct, (hiff h.distinct).1 h⟩,
    fun ⟨hdesired, hsegments⟩ => (hiff hdesired).2 hsegments⟩
  obtain ⟨ms, -, hafter, -, hscript⟩ :=
    t.exists_precise_marks options hservers hfits hsegments (by rw [hall])
  rw [hafter, hscript hall]
  exact ⟨fun server name path => hsync.mem_of_onAll_script (fun _ => t.mem_newArtefacts)
      (fun _ => t.mem_oldArtefacts),
    fun a => hsync.isSome_onAll_script (fun _ => t.mem_newArtefacts) (fun _ => t.mem_oldArtefacts)⟩

end Site

/-! ## A drill -/

namespace Drill

/-- A topology that asks for two definitions of one connector. -/
def torn : Topology := topology [] [connector "sink" "new.json", connector "sink" "other.json"]

/-- The connector with a definition that is not desired any more. -/
def outdated : State := { State.empty with artefacts := .ofList [connector "sink" "old.json"] }

theorem apply_torn (w : World) :
    ∃ summary s', Site.apply ⟨w, outdated⟩ torn options (stoppedAfter 3) = (.ok summary, s') := by
  have hactions : torn.actions options outdated = [.deleteArtefact (connector "sink" "old.json"),
    .createArtefact (connector "sink" "new.json"),
    .createArtefact (connector "sink" "other.json")] := rfl
  have hlength : (torn.agenda options (stoppedAfter 3) outdated).length ≤ 3 := by
    rw [Topology.agenda, hactions]
    decide
  have herrands : ∀ e ∈ (torn.actions options outdated).flatMap
      (·.errands config (host 3 answer)), e.isOk = true := by
    rw [hactions]
    simp only [List.flatMap_cons, List.flatMap_nil, Action.errands, List.cons_append,
      List.nil_append, List.forall_mem_cons]
    exact ⟨isOk_deleteErrand (by decide) _, isOk_createErrand 3 answer (by decide),
      isOk_createErrand 3 answer (by decide), List.forall_mem_nil _⟩
  exact Site.exists_apply_ok (s := ⟨w, outdated⟩) (c := stoppedAfter 3)
    (lasts_host 3 isSuccess_answer) rfl herrands hlength

end Drill

/-- Two definitions of one connector take the place of a third: one of them is live, and the live
connectors are not what is recorded. -/
theorem Site.holds_connectors_iff_drill :
    let s : Site := ⟨.holding Drill.servers Drill.outdated, Drill.outdated⟩
    Drill.servers.Apart ∧ (Drill.stoppedAfter 3).Fits Drill.servers Drill.torn ∧
      (s.world.connectors Drill.servers).Holds s.recorded.artefacts.elements ∧
      Drill.torn.WithdrawsSegments s.recorded ∧
      ∃ s' summary, s.apply Drill.torn Drill.options (Drill.stoppedAfter 3) = (.ok summary, s') ∧
        s'.recorded.artefacts = Drill.torn.artefacts ∧
        (s'.world.connectors Drill.servers "main" "sink").isSome = true ∧
        s'.world.connectors Drill.servers "main" "sink" ≠ some "old.json" ∧
        ¬(s'.world.connectors Drill.servers).Holds Drill.torn.artefacts.elements := by
  intro s
  have hone : ∀ a ∈ Drill.outdated.artefacts, a = Drill.connector "sink" "old.json" :=
    fun a => List.mem_singleton.1
  have hnew : Drill.connector "sink" "new.json" ∈ Drill.torn.artefacts := List.mem_cons_self
  have hother : Drill.connector "sink" "other.json" ∈ Drill.torn.artefacts :=
    List.mem_cons_of_mem _ List.mem_cons_self
  have hfits : (Drill.stoppedAfter 3).Fits Drill.servers Drill.torn :=
    Drill.fits_host 3 Drill.answer fun a ha => by
      rcases List.mem_cons.1 ha with rfl | ha
      · decide
      · rw [List.mem_singleton.1 ha]
        decide
  have hsync : (s.world.connectors Drill.servers).Holds s.recorded.artefacts.elements :=
    (Drill.inSync_holding (fun a ha => by rw [hone a ha]; rfl)
      (Drill.distinct_artefacts (by decide))).connectors
  have hsegments : Drill.torn.WithdrawsSegments s.recorded := by
    intro a ha _
    rw [hone a ha]
    decide
  obtain ⟨summary, s', hok⟩ := Drill.apply_torn s.world
  obtain ⟨hrecorded, hlive, hiff⟩ := holds_connectors_iff Drill.apart_servers hfits hsync hok
  obtain ⟨hlive, hfilled⟩ := hlive hsegments
  refine ⟨Drill.apart_servers, hfits, hsync, hsegments, s', summary, hok, hrecorded,
    hfilled (Drill.connector "sink" "new.json") hnew, fun hold => ?_, fun h => ?_⟩
  · have hmem : Drill.connector "sink" "old.json" ∈ Drill.torn.artefacts.toList :=
      hlive "main" "sink" "old.json" hold
    revert hmem
    decide
  · have hsame := (hiff.1 h).1 _ hnew _ hother rfl rfl
    revert hsame
    decide

/-! ## A deletion that misses -/

namespace Drill

/-- A server without the connectors that it is asked to delete. -/
def absent (_ : List Call) : Request → Answer
  | .delete _ => .status 404
  | .post .. => .status 201

/-- A connector with a hash sign in its name. -/
def lone : State := { State.empty with artefacts := .ofList [connector "sink#1" "hashed.json"] }

/-- Giving up a connector with a hash sign in its name leaves it in place. -/
theorem lone_is_kept :
    let s : Site := ⟨.holding servers lone, lone⟩
    let c : Circumstances := ⟨config, host 1 absent, none⟩
    Topology.ofDocument ⟨.ofList ["main"], "."⟩ (document [] []) = .ok (topology [] []) ∧
      servers.Apart ∧ c.Fits servers (topology [] []) ∧
      (s.world.connectors servers).Holds s.recorded.artefacts.elements ∧
      Artefact.Distinct (topology [] []).artefacts.elements ∧
      ∃ s' summary, s.apply (topology [] []) options c = (.ok summary, s') ∧
        s'.world.connectors servers "main" "sink#1" = some "hashed.json" ∧
        ¬(s'.world.connectors servers).Holds (topology [] []).artefacts.elements := by
  intro s c
  have hone : ∀ a ∈ lone.artefacts, a = connector "sink#1" "hashed.json" :=
    fun a => List.mem_singleton.1
  have hsync : s.world.InSync servers s.recorded :=
    inSync_holding (fun a ha => by rw [hone a ha]; rfl) (distinct_artefacts (by decide))
  have hanswer (calls : List Call) (r : Request) :
      (Call.sent r (absent calls r)).isSuccess = true := by
    cases r <;> rfl
  have hactions : (topology [] []).actions options lone =
      [.deleteArtefact (connector "sink#1" "hashed.json")] := rfl
  obtain ⟨summary, hok⟩ := apply_of_deletion hactions (by decide) hanswer s.world
  have hmisses : ¬servers.reaches (connector "sink#1" "hashed.json") "main" "sink#1" = true := by
    decide +kernel
  have hlive : (s.world.after [.request (delete "sink#1") "hashed.json"]).connectors servers "main"
      "sink#1" = some "hashed.json" := by
    rw [connectors_after_delete (by decide), Connectors.on_drop, if_neg hmisses]
    exact (hsync.connectors _ _ _).2 List.mem_cons_self
  refine ⟨rfl, apart_servers, fits_host 1 absent fun a ha => absurd ha (not_mem_elements rfl a),
    hsync.connectors, fun a ha => absurd ha (not_mem_elements rfl a), _, summary, hok, hlive,
    fun hholds => ?_⟩
  exact not_mem_elements rfl _ ((hholds _ _ _).1 hlive)

end Drill
end KafkaTopology
