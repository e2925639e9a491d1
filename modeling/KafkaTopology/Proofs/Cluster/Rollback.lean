import KafkaTopology.Proofs.Cluster.Retry
/-!
# Rollbacks

A failed apply records nothing, so whoever applies the old topology again plans from a state in
which it stands already: no binding is added or removed, and no connector is deployed or withdrawn
(`Topology.operations_settled`). What the failed apply did is not undone. The old topology holds
afterwards if and only if the failed apply had not begun to change it (`Site.rollback_keeps`).
-/
namespace KafkaTopology

/-- Connectors that hold the same artefacts are the same. -/
theorem Connectors.Holds.unique {cs cs' : Connectors} {s : Set Artefact} (h : cs.Holds s)
    (h' : cs'.Holds s) : cs = cs' := by
  funext server name
  ext path
  rw [h server name path, h' server name path]

namespace Topology

variable (t : Topology) (options : PlanOptions) (c : Circumstances) {recorded : State}

/-- Where the bindings and artefacts of a topology are recorded, a plan for it leaves all bindings
and connectors alone. -/
theorem operations_settled (hbindings : recorded.bindings = t.bindings)
    (hartefacts : recorded.artefacts = t.artefacts) :
    (t.operations options c recorded).filterMap Operation.aclMark? = [] ∧
      (t.operations options c recorded).filterMap Operation.connectorChange? = [] := by
  constructor
  · rw [aclMarks_operations, newAcls, oldAcls, hbindings, OrderedSet.difference_self]
    rfl
  · have hrequests : (t.agenda options c recorded).filter Operation.atServer = [] := by
      rw [filter_agenda, newArtefacts, oldArtefacts, hartefacts, OrderedSet.difference_self]
      rfl
    rw [List.filterMap_eq_nil_iff]
    intro o ho
    cases o with
    | tool name arguments => rfl
    | request r file =>
      have hmem : some (Operation.request r file) ∈ t.agenda options c recorded := by
        simpa [operations, List.reduceOption] using ho
      exact absurd rfl (List.filter_eq_nil_iff.1 hrequests _ hmem)

/-- What a plan adds was not there. -/
theorem not_mem_of_mem_newAcls (hnamed : ∀ b ∈ recorded.bindings, b.Named)
    {arguments : List String} (h : arguments ∈ t.newAcls recorded) :
    arguments ∉ KafkaTools.bindingArguments '' recorded.bindings.elements := by
  obtain ⟨b, hb, rfl⟩ := List.mem_map.1 h
  obtain ⟨hdesired, hnew⟩ := OrderedSet.mem_create.1 hb
  rintro ⟨b', hb', heq⟩
  have hsame := KafkaTools.bindingArguments_inj (hnamed b' hb') (t.named_bindings b hdesired) heq
  exact hnew (hsame ▸ hb')

/-- What a plan removes was there. -/
theorem mem_of_mem_oldAcls {arguments : List String} (h : arguments ∈ t.oldAcls recorded) :
    arguments ∈ KafkaTools.bindingArguments '' recorded.bindings.elements := by
  obtain ⟨b, hb, rfl⟩ := List.mem_map.1 h
  exact ⟨b, (OrderedSet.mem_delete.1 hb).1, rfl⟩

end Topology

namespace World

variable {t : Topology} {options : PlanOptions} {c : Circumstances} {recorded : State} {w : World}
  {done : List Operation}

/-- A plan that broke off has left the bindings alone only if it had not come to them. -/
theorem acls_after_iff (h : w.acls = KafkaTools.bindingArguments '' recorded.bindings.elements)
    (hnamed : ∀ b ∈ recorded.bindings, b.Named)
    (hdone : done <+: t.operations options c recorded) :
    (w.after done).acls = w.acls ↔ ∀ o ∈ done, o.aclMark? = none := by
  have hpre : done.filterMap Operation.aclMark? <+:
      Mark.script (t.newAcls recorded) (t.oldAcls recorded) := by
    rw [← t.aclMarks_operations options c]
    exact hdone.filterMap _
  rw [after_eq, ← List.filterMap_eq_nil_iff]
  refine Mark.onAll_eq_self_iff hpre (fun x hx => ?_) (fun x hx => ?_)
  · rw [h]
    exact t.not_mem_of_mem_newAcls hnamed hx
  · rw [h]
    exact t.mem_of_mem_oldAcls hx

/-- A plan that broke off has left the connectors alone only if it had not come to them, where the
names of all that it withdraws are segments. -/
theorem connectors_after_iff {servers : ConnectServers} (hservers : servers.Apart)
    (hfits : c.Fits servers t) (hsegments : t.WithdrawsSegments recorded)
    (h : (w.connectors servers).Holds recorded.artefacts.elements)
    (hdistinct : Artefact.Distinct t.artefacts.elements)
    (hdone : done.map some <+: t.agenda options c recorded) :
    (w.after done).connectors servers = w.connectors servers ↔
      ∀ o ∈ done, o.connectorChange? = none := by
  obtain ⟨ms, hms, hafter, hnil, -⟩ :=
    t.exists_precise_marks options hservers hfits hsegments hdone
  rw [hafter, ← hnil]
  exact Connectors.onAll_eq_self_iff h hdistinct (fun _ => t.mem_newArtefacts)
    (fun _ => t.mem_oldArtefacts) hms

end World

namespace Site

variable {t₁ t₂ : Topology} {o₁ o₂ o₃ : PlanOptions} {c₁ c₂ c₃ : Circumstances}
  {s₀ s₁ s₂ s₃ : Site} {summary₁ summary₃ : RunSummary} {e : PlanError}

/-- **Rolling back.** Let the bindings and connectors of `t₁` stand after a successful apply of it,
let an apply of `t₂` fail and an apply of `t₁` succeed after that. The last apply changes no binding
and no connector, so that both stay as the failed apply left them. The bindings are those of `t₁` if
and only if the failed apply had carried out no operation on bindings.

Let the failed apply have met definition files that say the names of their artefacts, and let the
names of all artefacts that `t₂` gives up be segments of a path. Then the connectors are those of
`t₁` if and only if the failed apply had neither deployed nor withdrawn one. -/
theorem rollback_keeps {servers : ConnectServers}
    (hdistinct : Artefact.Distinct t₂.artefacts.elements)
    (h₁ : s₀.apply t₁ o₁ c₁ = (.ok summary₁, s₁))
    (hacls : s₁.world.acls = KafkaTools.bindingArguments '' t₁.bindings.elements)
    (hconnectors : (s₁.world.connectors servers).Holds t₁.artefacts.elements)
    (h₂ : s₁.apply t₂ o₂ c₂ = (.error e, s₂)) (h₃ : s₂.apply t₁ o₃ c₃ = (.ok summary₃, s₃)) :
    let done := (t₂.apply o₂ c₂ s₁.recorded).done
    (∀ o ∈ t₁.operations o₃ c₃ s₂.recorded, o.aclMark? = none ∧ o.connectorChange? = none) ∧
      s₂.world = s₁.world.after done ∧
      s₃.world.acls = s₂.world.acls ∧
      s₃.world.registry = s₂.world.registry ∧
      (s₃.world.acls = KafkaTools.bindingArguments '' t₁.bindings.elements ↔
        ∀ o ∈ done, o.aclMark? = none) ∧
      (servers.Apart → c₂.Fits servers t₂ → t₂.WithdrawsSegments s₁.recorded →
        ((s₃.world.connectors servers).Holds t₁.artefacts.elements ↔
          ∀ o ∈ done, o.connectorChange? = none)) := by
  intro done
  have hrecorded : s₁.recorded = t₁.settled o₁ s₀.recorded := by rw [apply_ok h₁]
  have hbindings : s₁.recorded.bindings = t₁.bindings := by rw [hrecorded, Topology.settled]
  have hartefacts : s₁.recorded.artefacts = t₁.artefacts := by rw [hrecorded, Topology.settled]
  -- The failed apply leaves the record, so the last one starts from where it ends.
  obtain ⟨hdone, hs₂⟩ := apply_error h₂
  have hsame : s₂.recorded = s₁.recorded := by rw [hs₂]
  obtain ⟨hacl, hconnector⟩ := t₁.operations_settled o₃ c₃ (hsame ▸ hbindings)
    (hsame ▸ hartefacts)
  have hworld₂ : s₂.world = s₁.world.after done := by rw [hs₂]
  have hworld₃ : s₃.world = s₂.world.after (t₁.operations o₃ c₃ s₂.recorded) := by
    rw [apply_ok h₃]
  have hacls₃ : s₃.world.acls = s₂.world.acls := by
    rw [hworld₃, World.after_eq, hacl]
    rfl
  have hregistry₃ : s₃.world.registry = s₂.world.registry := by
    rw [hworld₃, World.after_eq, hconnector]
    rfl
  rw [← hbindings] at hacls
  rw [← hartefacts] at hconnectors
  refine ⟨fun o ho => ⟨?_, ?_⟩, hworld₂, hacls₃, hregistry₃, ?_, ?_⟩
  · exact List.filterMap_eq_nil_iff.1 hacl o ho
  · exact List.filterMap_eq_nil_iff.1 hconnector o ho
  · rw [hacls₃, hworld₂, ← hbindings, ← hacls]
    exact World.acls_after_iff hacls (hbindings ▸ t₁.named_bindings)
      (Topology.prefix_operations hdone)
  · intro hservers hfits hsegments
    have hconnectors₃ : s₃.world.connectors servers = (s₁.world.after done).connectors servers := by
      rw [World.connectors, hregistry₃, hworld₂, ← World.connectors]
    rw [hconnectors₃, ← hartefacts,
      ← World.connectors_after_iff hservers hfits hsegments hconnectors hdistinct hdone]
    refine ⟨fun h => h.unique hconnectors, fun h => ?_⟩
    rw [h]
    exact hconnectors

end Site

/-! ## A drill -/

namespace Drill

theorem apply_staffed_again (w : World) : ∃ summary,
    Site.apply ⟨w, recorded⟩ staffed options (stoppedAfter 0) = (.ok summary, ⟨w, recorded⟩) := by
  have hactions : staffed.actions options recorded = [] := rfl
  have hagenda : staffed.agenda options (stoppedAfter 0) recorded = [] := by
    rw [Topology.agenda, hactions, List.flatMap_nil]
  have herrands : ∀ e ∈ (staffed.actions options recorded).flatMap
      (·.errands config (host 0 answer)), e.isOk = true := by
    rw [hactions]
    exact List.forall_mem_nil _
  obtain ⟨summary, s', hok⟩ := Site.exists_apply_ok (s := ⟨w, recorded⟩) (c := stoppedAfter 0)
    (lasts_host 0 isSuccess_answer) rfl herrands (by rw [hagenda, List.length_nil])
  refine ⟨summary, ?_⟩
  rw [hok, Site.apply_ok hok, Topology.operations, hagenda]
  rfl

/-- Applying the application with its connector to an empty site brings it in sync. -/
theorem apply_staffed : ∃ summary w,
    Site.apply ⟨.holding servers .empty, .empty⟩ staffed options (stoppedAfter 3) =
        (.ok summary, ⟨w, recorded⟩) ∧
      w.InSync servers recorded := by
  have hactions : staffed.actions options .empty =
      [.createBindings [topics, groups], .createArtefact (connector "sink" "old.json")] := rfl
  have hlength : (staffed.agenda options (stoppedAfter 3) .empty).length ≤ 3 := by
    rw [Topology.agenda, hactions]
    decide
  have herrands : ∀ e ∈ (staffed.actions options .empty).flatMap
      (·.errands config (host 3 answer)), e.isOk = true := by
    have htopics : fit (tools.addBinding topics) = true := by decide
    have hgroups : fit (tools.addBinding groups) = true := by decide
    rw [hactions]
    simp only [List.flatMap_cons, List.flatMap_nil, Action.errands, List.map_cons, List.map_nil,
      List.cons_append, List.nil_append, List.forall_mem_cons]
    exact ⟨isOk_errand 3 answer htopics, isOk_errand 3 answer hgroups,
      isOk_createErrand 3 answer (by decide), List.forall_mem_nil _⟩
  obtain ⟨summary, s', hok⟩ := Site.exists_apply_ok
    (s := ⟨.holding servers .empty, .empty⟩) (t := staffed) (c := stoppedAfter 3)
    (lasts_host 3 isSuccess_answer) rfl herrands hlength
  have hempty : (World.holding servers .empty).InSync servers .empty :=
    inSync_holding (fun a ha => absurd ha (not_mem_elements rfl a))
      (distinct_artefacts List.nodup_nil)
  have hone : ∀ a ∈ staffed.accounts, a = ⟨"User:app", none⟩ := fun a => List.mem_singleton.1
  have husers : Set.InjOn KafkaTools.userName
      (Account.principal '' State.empty.accounts.elements ∪
        Account.principal '' staffed.accounts.elements) := by
    rintro _ (⟨a, ha, -⟩ | ⟨a, ha, rfl⟩)
    · exact absurd ha (not_mem_elements rfl a)
    · rintro _ (⟨b, hb, -⟩ | ⟨b, hb, rfl⟩) -
      · exact absurd hb (not_mem_elements rfl b)
      · rw [hone a ha, hone b hb]
  have hfits : (stoppedAfter 3).Fits servers staffed := fits_host 3 answer fun a ha => by
    rw [List.mem_singleton.1 ha]
    decide
  have hhalfway : Connectors.Halfway servers staffed .empty
      ((World.holding servers .empty).connectors servers) := .of_holds hempty.connectors
  have hall := Site.map_operations hok
  dsimp only at hall
  have hholds := hhalfway.holds_iff apart_servers hfits (distinct_artefacts List.nodup_nil)
    (distinct_artefacts (by decide)) hall
  have hsync := (World.Halfway.refl.inSync_iff (stoppedAfter 3) hempty
    (fun b hb => absurd hb (not_mem_elements rfl b)) husers).2 <|
      hholds.2 fun a ha => absurd ha (not_mem_elements rfl a)
  exact ⟨summary, _, by rw [hok, Site.apply_ok hok]; rfl, hsync⟩

/-- The document of the streams application. -/
def app : Document :=
  .mapping [("principal", .text "User:app"), ("applicationId", .text "app")]

/-- Rolling back does not restore the binding that a failed apply removed. -/
theorem rollback_loses_binding :
    Topology.ofDocument ⟨.ofList ["main"], "."⟩ (document [app] [connector "sink" "old.json"]) =
        .ok staffed ∧
      Topology.ofDocument ⟨.ofList ["main"], "."⟩ (document [] [connector "sink" "new.json"]) =
        .ok moved ∧
      Artefact.Distinct staffed.artefacts.elements ∧ Artefact.Distinct moved.artefacts.elements ∧
      ∃ s₁ s₂ s₃ summary₁ summary₃ description cause,
        Site.apply ⟨.holding servers .empty, .empty⟩ staffed options (stoppedAfter 3) =
          (.ok summary₁, s₁) ∧
        s₁.world.InSync servers s₁.recorded ∧
        s₁.apply moved options (stoppedAfter 1) = (.error (.action description cause), s₂) ∧
        s₂.apply staffed options (stoppedAfter 0) = (.ok summary₃, s₃) ∧
        s₃.world.acls ≠ KafkaTools.bindingArguments '' staffed.bindings.elements := by
  obtain ⟨summary₁, w, h₁, hsync⟩ := apply_staffed
  obtain ⟨description, cause, h₂, -⟩ := apply_moved_error (n := 1) (by decide) w
  obtain ⟨summary₃, h₃⟩ := apply_staffed_again (w.after (givenUp.take 1))
  refine ⟨rfl, rfl, distinct_artefacts (by decide), distinct_artefacts (by decide),
    _, _, _, summary₁, summary₃, description, cause, h₁, hsync, h₂, h₃, fun heq => ?_⟩
  have hmem : KafkaTools.bindingArguments topics ∈
      KafkaTools.bindingArguments '' staffed.bindings.elements :=
    ⟨topics, List.mem_cons_self, rfl⟩
  rw [← heq] at hmem
  have hfirst : givenUp.take 1 = [tools.read (tools.removeBinding topics)] := rfl
  rw [hfirst, acls_after_removal] at hmem
  exact hmem.2 rfl

end Drill

/-- Bindings and a connector that a failed apply had taken away stay away. -/
theorem Site.rollback_keeps_drill :
    Artefact.Distinct Drill.moved.artefacts.elements ∧ Drill.servers.Apart ∧
      (Drill.stoppedAfter 3).Fits Drill.servers Drill.moved ∧
      ∃ s₁ s₂ s₃ summary₁ summary₃ e,
        Site.apply ⟨.holding Drill.servers .empty, .empty⟩ Drill.staffed Drill.options
          (Drill.stoppedAfter 3) = (.ok summary₁, s₁) ∧
        s₁.world.acls = KafkaTools.bindingArguments '' Drill.staffed.bindings.elements ∧
        (s₁.world.connectors Drill.servers).Holds Drill.staffed.artefacts.elements ∧
        Drill.moved.WithdrawsSegments s₁.recorded ∧
        s₁.apply Drill.moved Drill.options (Drill.stoppedAfter 3) = (.error e, s₂) ∧
        s₂.apply Drill.staffed Drill.options (Drill.stoppedAfter 0) = (.ok summary₃, s₃) ∧
        s₃.world.acls = s₂.world.acls ∧
        s₃.world.acls ≠ KafkaTools.bindingArguments '' Drill.staffed.bindings.elements ∧
        ¬(s₃.world.connectors Drill.servers).Holds Drill.staffed.artefacts.elements := by
  obtain ⟨summary₁, w, h₁, hsync⟩ := Drill.apply_staffed
  obtain ⟨description, cause, h₂, hdone⟩ := Drill.apply_moved_error (le_refl 3) w
  obtain ⟨summary₃, h₃⟩ := Drill.apply_staffed_again (w.after (Drill.givenUp.take 3))
  have hdistinct : Artefact.Distinct Drill.moved.artefacts.elements :=
    Drill.distinct_artefacts (by decide)
  obtain ⟨-, -, hkept, -, hacls, hconnectors⟩ := rollback_keeps hdistinct h₁
    hsync.acls hsync.connectors h₂ h₃
  rw [hdone] at hacls hconnectors
  refine ⟨hdistinct, Drill.apart_servers, Drill.fits_moved 3, _, _, _, summary₁, summary₃, _, h₁,
    hsync.acls, hsync.connectors, Drill.segments_moved, h₂, h₃, hkept, ?_, ?_⟩
  · rw [ne_eq, hacls]
    intro hnone
    have hremoval := hnone _ List.mem_cons_self
    rw [Drill.tools.read_removeBinding] at hremoval
    cases hremoval
  · rw [hconnectors Drill.apart_servers (Drill.fits_moved 3) Drill.segments_moved]
    intro hnone
    obtain ⟨change, hchange, -⟩ := Registry.connectors_on_drop <|
      Drill.operation?_drop (Drill.host 0 Drill.answer) (by decide : "sink" ∈ _) "old.json"
    have hdeletion := hnone (.request (Drill.delete "sink") "old.json") (by simp [Drill.givenUp])
    rw [hchange] at hdeletion
    cases hdeletion

end KafkaTopology
