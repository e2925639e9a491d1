import KafkaTopology.Proofs.Cluster.Operation
import KafkaTopology.Proofs.Planner.Convergence
/-!
# Applies

One apply of a topology: a plan over the recorded state, carried out with the admin of a
configuration on a host. The tools and servers of the host end in any way, at any call.

* `Topology.apply_admin` — the host is watched, which changes nothing of what comes of an apply.
* `Topology.apply_cases` — what was carried out is a part of the agenda of the plan, from its
  beginning on, and only an apply that carried out all of it may record anything.
* `Topology.apply_of_lasts` — an apply can be stopped at every operation of its agenda.
-/
namespace KafkaTopology

/-- What an apply meets: a configuration, a host, and a store that may refuse the new state. -/
structure Circumstances where
  config : Config
  host : Host
  flushRefusal : Option String

/-- What comes of an apply. -/
structure Applied where
  outcome : Except PlanError RunSummary
  done : List Operation
  recorded : State

namespace Topology

/-- Applies a topology over a recorded state. -/
def apply (t : Topology) (options : PlanOptions) (c : Circumstances) (recorded : State) :
    Applied :=
  let before : Desk Tracked := ⟨⟨recorded, 0, none, c.flushRefusal⟩, ⟨c.host, []⟩⟩
  match (Plan.init Desk.medium .unlimited).run.run before with
  | (.error e, d) => ⟨.error e, d.outside.done, d.store.stored⟩
  | (.ok plan, d) =>
    let admin := (Tracked.admin c.config c.host.environment).outer
    match ((plan.populate admin options t).run Desk.medium false).run d with
    | ((outcome, _), d) => ⟨outcome, d.outside.done, d.store.stored⟩

/-- What a plan has to carry out, in order. There is nothing in the place of a request that cannot
be sent. -/
def agenda (t : Topology) (options : PlanOptions) (c : Circumstances) (recorded : State) :
    List (Option Operation) :=
  (t.actions options recorded).flatMap (·.agenda c.config c.host)

/-- The operations of a plan, in order. -/
def operations (t : Topology) (options : PlanOptions) (c : Circumstances) (recorded : State) :
    List Operation :=
  (t.agenda options c recorded).reduceOption

theorem execute_performs {h : Host} {admin : Admin Tracked}
    {agenda : Action → List (Option Operation)}
    (hrun : ∀ a : Action, Tracked.Performs h (agenda a) (a.run admin)) (actions : List Action)
    (s : State) (summary : RunSummary) (w : Tracked) (hw : w.Continues h) :
    ((Plan.execute (actions.map (·.toStep admin)) s summary).run w).2.Continues h ∧
    ∃ done, ((Plan.execute (actions.map (·.toStep admin)) s summary).run w).2.done.map some =
        w.done.map some ++ done ∧ done <+: actions.flatMap agenda ∧
      (((Plan.execute (actions.map (·.toStep admin)) s summary).run w).1.isOk = true →
        done = actions.flatMap agenda) := by
  have hforM : ((actions.map (·.toStep admin)).forM (·.run)) =
      actions.forM fun a => a.run admin := List.forM_map
  obtain ⟨hworld, hisOk⟩ := Plan.execute_forM (actions.map (·.toStep admin)) s summary w
  rw [hworld, hisOk, hforM]
  exact Carries.forM hrun actions w hw

/-- An apply is the loop over the steps of the plan, with one write to the store after it. -/
theorem apply_eq (t : Topology) (options : PlanOptions) (c : Circumstances) (recorded : State) :
    t.apply options c recorded =
      match (Plan.execute ((t.actions options recorded).map
          (·.toStep (Tracked.admin c.config c.host.environment))) recorded (.start false)).run
          ⟨c.host, []⟩ with
      | (.error e, w) => ⟨.error e, w.done, recorded⟩
      | (.ok (s, summary), w) =>
        match c.flushRefusal with
        | some reason => ⟨.error (.commit (.ofMessage reason)), w.done, recorded⟩
        | none => ⟨.ok summary, w.done, s⟩ := by
  rw [apply, Plan.init_desk .unlimited _ rfl]
  simp only [Plan.run, Bool.false_eq_true, if_false]
  rw [Plan.runAll_desk (steps_populate t options (Tracked.admin c.config c.host.environment) rfl)]
  have hstate : ∀ p : Plan (Desk Tracked),
      (p.populate (Tracked.admin c.config c.host.environment).outer options t).state = p.state :=
    fun _ => rfl
  rw [hstate]
  dsimp only
  generalize (Plan.execute ((t.actions options recorded).map
    (·.toStep (Tracked.admin c.config c.host.environment))) recorded (.start false)).run
    ⟨c.host, []⟩ = run
  rcases run with ⟨e | ⟨s, summary⟩, w⟩
  · rfl
  · cases c.flushRefusal <;> rfl

/-- Watching an apply changes nothing of what comes of it. -/
theorem apply_admin (t : Topology) (options : PlanOptions) (c : Circumstances)
    (recorded : State) :
    ((t.apply options c recorded).outcome, (t.apply options c recorded).recorded) =
      match ((Plan.execute ((t.actions options recorded).map
          (·.toStep (c.config.admin c.host.environment))) recorded (.start false)).run
          c.host).1 with
      | .error e => (.error e, recorded)
      | .ok (s, summary) =>
        match c.flushRefusal with
        | some reason => (.error (.commit (.ofMessage reason)), recorded)
        | none => (.ok summary, s) := by
  obtain ⟨houtcome, -⟩ := Tracked.execute_mirrors c.config c.host.environment
    (t.actions options recorded) recorded (.start false) ⟨c.host, []⟩
  rw [apply_eq, ← houtcome]
  generalize (Plan.execute ((t.actions options recorded).map
    (·.toStep (Tracked.admin c.config c.host.environment))) recorded (.start false)).run
    ⟨c.host, []⟩ = run
  rcases run with ⟨e | ⟨s, summary⟩, w⟩
  · rfl
  · cases c.flushRefusal <;> rfl

/-- An apply succeeds if all steps of the plan do, and the store refuses nothing. -/
theorem apply_of_succeed {t : Topology} {options : PlanOptions} {c : Circumstances}
    {recorded : State} (hflush : c.flushRefusal = none)
    (h : Plan.Succeed ((t.actions options recorded).map
      (·.toStep (Tracked.admin c.config c.host.environment))) ⟨c.host, []⟩) :
    ∃ summary, (t.apply options c recorded).outcome = .ok summary := by
  obtain ⟨w, hw⟩ := Plan.execute_of_succeed h recorded (.start false)
  rw [apply_eq, hw]
  dsimp only
  rw [hflush]
  exact ⟨_, rfl⟩

/-- **What an apply can do.** -/
theorem apply_cases (t : Topology) (options : PlanOptions) (c : Circumstances)
    (recorded : State) :
    (t.apply options c recorded).done.map some <+: t.agenda options c recorded ∧
    ((∃ summary, (t.apply options c recorded).outcome = .ok summary ∧
        (t.apply options c recorded).done.map some = t.agenda options c recorded ∧
        (t.apply options c recorded).recorded = t.settled options recorded) ∨
      ∃ e, (t.apply options c recorded).outcome = .error e ∧
        (t.apply options c recorded).recorded = recorded) := by
  obtain ⟨-, done, hdone, hpre, hall⟩ :=
    execute_performs (Action.run_performs c.config c.host) (t.actions options recorded) recorded
      (.start false) ⟨c.host, []⟩ ⟨[], c.host.having_nil.symm, rfl⟩
  rw [List.map_nil, List.nil_append] at hdone
  rw [apply_eq]
  rcases hrun : (Plan.execute ((t.actions options recorded).map
    (·.toStep (Tracked.admin c.config c.host.environment))) recorded (.start false)).run
    ⟨c.host, []⟩ with ⟨e | ⟨s, summary⟩, w⟩ <;> rw [hrun] at hdone hall ⊢ <;>
    obtain rfl : w.done.map some = done := hdone
  · exact ⟨hpre, .inr ⟨e, rfl, rfl⟩⟩
  · obtain ⟨-, hs, -⟩ := Plan.execute_ok hrun
    rw [effects_steps, applyAll_actions] at hs
    cases c.flushRefusal with
    | some reason => exact ⟨hpre, .inr ⟨_, rfl, rfl⟩⟩
    | none => exact ⟨hpre, .inl ⟨summary, rfl, hall rfl, hs⟩⟩

/-- Operations that are the beginning of an agenda are the first of its operations. -/
theorem prefix_operations {agenda : List (Option Operation)} {done : List Operation}
    (h : done.map some <+: agenda) : done <+: agenda.reduceOption := by
  have hdone : done = (done.map some).reduceOption := by simp [List.reduceOption]
  rw [hdone]
  exact h.filterMap id

/-- An apply that succeeds could carry out everything on its agenda, and did. -/
theorem map_done {t : Topology} {options : PlanOptions} {c : Circumstances} {recorded : State}
    {summary : RunSummary} (h : (t.apply options c recorded).outcome = .ok summary) :
    (t.operations options c recorded).map some = t.agenda options c recorded ∧
      (t.apply options c recorded).done = t.operations options c recorded := by
  obtain ⟨-, ⟨_, -, hdone, -⟩ | ⟨e, herror, -⟩⟩ := t.apply_cases options c recorded
  · have hall : (t.apply options c recorded).done = t.operations options c recorded := by
      rw [operations, ← hdone]
      simp [List.reduceOption]
    exact ⟨hall ▸ hdone, hall⟩
  · rw [herror] at h
    cases h

/-- An apply that succeeds carries everything out and records it. -/
theorem done_and_recorded {t : Topology} {options : PlanOptions} {c : Circumstances}
    {recorded : State} {summary : RunSummary}
    (h : (t.apply options c recorded).outcome = .ok summary) :
    (t.apply options c recorded).done = t.operations options c recorded ∧
      (t.apply options c recorded).recorded = t.settled options recorded := by
  obtain ⟨-, ⟨_, -, -, hrecorded⟩ | ⟨e, herror, -⟩⟩ := t.apply_cases options c recorded
  · exact ⟨(map_done h).2, hrecorded⟩
  · rw [herror] at h
    cases h

/-- **What an apply asks for.** Its calls are the errands of its actions, up to the first that fails
or cannot be made, and then the error names the action of that errand. One operation is carried out
for each call that ends well. -/
theorem apply_undertakes (t : Topology) (options : PlanOptions) (c : Circumstances)
    (recorded : State) :
    ∃ calls, c.host.Answers c.host.calls calls ∧
      (t.apply options c recorded).done.length = (calls.filter (·.isSuccess)).length ∧
      ((Completed ((t.actions options recorded).flatMap (·.errands c.config c.host)) calls ∧
          (c.flushRefusal = none →
            ∃ summary, (t.apply options c recorded).outcome = .ok summary)) ∨
        ∃ a cause, StopsIn (·.errands c.config c.host) (t.actions options recorded) a calls ∧
          (t.apply options c recorded).outcome = .error (.action a.description cause)) := by
  obtain ⟨⟨made, hmade, hcount⟩, -⟩ :=
    execute_performs (Action.run_performs c.config c.host) (t.actions options recorded) recorded
      (.start false) ⟨c.host, []⟩ ⟨[], c.host.having_nil.symm, rfl⟩
  obtain ⟨houtcome, hhost⟩ := Tracked.execute_mirrors c.config c.host.environment
    (t.actions options recorded) recorded (.start false) ⟨c.host, []⟩
  obtain ⟨calls, hcalls, hanswers, hcase⟩ := Plan.execute_undertakes c.config c.host
    (t.actions options recorded) [] recorded (.start false)
  rw [Host.having_nil] at hcalls hcase
  rw [← houtcome] at hcase
  -- The calls are the same on the watched host and on the one that is not watched.
  obtain rfl : made = calls := by
    have hsame := congrArg Host.calls (hmade.symm.trans (hhost.trans hcalls))
    exact List.append_cancel_left hsame
  rw [List.append_nil] at hanswers
  rw [apply_eq]
  rcases hrun : (Plan.execute ((t.actions options recorded).map
    (·.toStep (Tracked.admin c.config c.host.environment))) recorded (.start false)).run
    ⟨c.host, []⟩ with ⟨e | ⟨s, summary⟩, w⟩ <;> rw [hrun] at hcount hcase ⊢
  · obtain ⟨a, cause, hstops, rfl⟩ := hcase
    exact ⟨made, hanswers, hcount, .inr ⟨a, cause, hstops, rfl⟩⟩
  · cases hflush : c.flushRefusal with
    | some reason => exact ⟨made, hanswers, hcount, .inl ⟨hcase.1, nofun⟩⟩
    | none => exact ⟨made, hanswers, hcount, .inl ⟨hcase.1, fun _ => ⟨summary, rfl⟩⟩⟩

/-- **Every point of failure.** On a host that lasts for `n` calls, with errands that can all be
made, the first `n` operations of a plan are carried out. If these are all, the apply succeeds. -/
theorem apply_of_lasts {t : Topology} {options : PlanOptions} {c : Circumstances}
    {recorded : State} {n : Nat} (hlasts : c.host.Lasts n) (hflush : c.flushRefusal = none)
    (herrands : ∀ e ∈ (t.actions options recorded).flatMap (·.errands c.config c.host),
      e.isOk = true) :
    (t.apply options c recorded).done.map some = (t.agenda options c recorded).take n ∧
      if (t.agenda options c recorded).length ≤ n then
        ∃ summary, (t.apply options c recorded).outcome = .ok summary
      else
        ∃ description cause,
          (t.apply options c recorded).outcome = .error (.action description cause) := by
  have hlength : (t.agenda options c recorded).length =
      ((t.actions options recorded).flatMap (·.errands c.config c.host)).length := by
    simp only [agenda, List.length_flatMap, Action.length_agenda]
  obtain ⟨calls, hanswers, hcount, ⟨hcompleted, hok⟩ | ⟨a, cause, hstops, herror⟩⟩ :=
    t.apply_undertakes options c recorded
  · obtain ⟨summary, hsummary⟩ := hok hflush
    obtain ⟨hall, hdone⟩ := map_done hsummary
    have hle : (t.agenda options c recorded).length ≤ n := by
      rw [hlength, hcompleted.1, List.length_map]
      exact hlasts.length_le hanswers hcompleted
    rw [hdone, hall, List.take_of_length_le hle, if_pos hle]
    exact ⟨rfl, summary, hsummary⟩
  · obtain ⟨earlier, later, before, x, after, hactions, hx, hstop⟩ := hstops
    replace hx : a.errands c.config c.host = before ++ x :: after := hx
    have hsplit : (t.actions options recorded).flatMap (·.errands c.config c.host) =
        earlier.flatMap (·.errands c.config c.host) ++ before ++
          x :: (after ++ later.flatMap (·.errands c.config c.host)) := by
      rw [hactions, List.flatMap_append, List.flatMap_cons, hx]
      simp
    obtain ⟨hn, hsuccesses⟩ := hlasts.of_stopsAt hanswers (herrands x (by simp [hsplit])) hstop
    have hlt : ¬(t.agenda options c recorded).length ≤ n := by
      rw [hlength, hsplit, List.length_append, List.length_cons]
      omega
    rw [if_neg hlt]
    refine ⟨?_, _, cause, herror⟩
    rw [← hsuccesses, ← hcount]
    obtain ⟨hpre, -⟩ := t.apply_cases options c recorded
    simpa using List.prefix_iff_eq_take.1 hpre

end Topology
end KafkaTopology
