import KafkaTopology.Planner
import KafkaTopology.Proofs.Except
import KafkaTopology.Proofs.Host.Errands
import KafkaTopology.Proofs.Plan.Run
/-!
# The errands of a plan

The errands of each action, and that carrying the action out undertakes them. A plan's loop
undertakes the errands of its actions one after the other; where it stops, its error carries the
description of the action whose errand it was.
-/
namespace KafkaTopology

/-! ## Commands and requests -/

/-- Running a command. -/
def Host.errand (h : Host) (c : Command) : Errand :=
  match h.checkCommand c with
  | .error reason => .error (.start reason)
  | .ok () => .ok (.run c)

theorem Host.errand_eq_ok (h : Host) (c : Command) {i : Issue} (hi : h.errand c = .ok i) :
    i = .run c := by
  rw [errand] at hi
  split at hi <;> cases hi
  rfl

/-- Sending a request to a URL. -/
def Request.errand (r : Request) (url : String) : Errand :=
  match Url.ofText url with
  | .error reason => .error (.connect (.unusable reason))
  | .ok _ => .ok (.send r)

theorem Host.undertakes_execute (h : Host) (c : Command) :
    h.Undertakes [h.errand c] (execute c) := by
  have hrun (made : List Call) := execute_on c (h.having made)
  have hcheck (made : List Call) : (h.having made).checkCommand c = h.checkCommand c := rfl
  rw [errand]
  cases hc : h.checkCommand c with
  | error reason =>
    refine .of_hindered fun made => ?_
    rw [hrun, hcheck, hc]
    exact ⟨_, rfl⟩
  | ok _ =>
    refine .of_call fun made => ?_
    have houtcome : (h.having made).tools (h.having made).calls c =
      h.tools (h.calls ++ made) c := rfl
    rw [hrun, hcheck, hc]
    refine ⟨by rw [← having_having]; rfl, ?_⟩
    simp only [houtcome]
    rw [call, Call.isSuccess]
    cases h.tools (h.calls ++ made) c <;> rfl

namespace KafkaTools
variable (k : KafkaTools) (h : Host)

theorem undertakes_run (message : String) (c : Command) :
    h.Undertakes [h.errand c] (run message c) :=
  (h.undertakes_execute c).context message

theorem undertakes_each {α : Type} (message : α → String) (command : α → Command) (xs : List α) :
    h.Undertakes (xs.map fun x => h.errand (command x))
      (xs.forM fun x => run (message x) (command x)) := by
  rw [List.map_eq_flatMap]
  exact .forM (fun x => undertakes_run h (message x) (command x)) xs

theorem undertakes_syncTopic (name : String) (config : OrderedMap String String) :
    h.Undertakes
      (h.errand (k.createTopic name config) :: (k.alterTopic? name config).toList.map h.errand)
      (k.syncTopic name config) := by
  refine (undertakes_run h _ _).bind ?_
  cases k.alterTopic? name config with
  | none => exact .pure
  | some c => exact undertakes_run h _ c

/-- Giving an account the password of new accounts. -/
def upsertErrand (a : Account) : Errand :=
  match h.environment.get? k.passwordVariable with
  | some password => h.errand (k.upsertAccount a password)
  | none => .error (.noPassword k.passwordVariable)

theorem upsertErrand_eq_ok (a : Account) {i : Issue} (hi : k.upsertErrand h a = .ok i) :
    i = .run (k.upsertAccount a (k.passwordOr h.environment)) := by
  rw [upsertErrand] at hi
  split at hi
  · next password hget =>
    rw [passwordOr, hget]
    exact h.errand_eq_ok _ hi
  · cases hi

theorem undertakes_createAccount (a : Account) :
    h.Undertakes [k.upsertErrand h a] (k.createAccount a) := by
  have hpassword (made : List Call) := k.password_on (h.having made)
  have henv (made : List Call) : (h.having made).environment = h.environment := rfl
  rw [upsertErrand]
  cases hget : h.environment.get? k.passwordVariable with
  | none =>
    refine .of_hindered fun made => ?_
    rw [createAccount, Attempt.on_bind, hpassword, henv, hget]
    exact ⟨_, rfl⟩
  | some password =>
    intro made
    have hrun : (k.createAccount a).on (h.having made) =
        (run ("Failed to create account " ++ a.principal) (k.upsertAccount a password)).on
          (h.having made) := by
      rw [createAccount, Attempt.on_bind, hpassword, henv, hget]
    rw [hrun]
    exact undertakes_run h _ _ made

theorem undertakes_createAccounts (accounts : List Account) :
    h.Undertakes (accounts.map (k.upsertErrand h)) (accounts.forM k.createAccount) := by
  rw [List.map_eq_flatMap]
  exact .forM (k.undertakes_createAccount h) accounts

end KafkaTools

namespace ConnectServers
variable (servers : ConnectServers) (h : Host)

/-- Making a connector. -/
def createErrand (a : Artefact) : Errand :=
  match h.files.readText a.path with
  | .error reason => .error (.connect (.unreadable a.path reason))
  | .ok text =>
    match Document.ofJson? text with
    | none => .error (.connect (.malformed a.path))
    | some definition =>
      match servers.connectorsUrl a with
      | .error reason => .error (.connect reason)
      | .ok url => (Request.post url definition).errand url

/-- Deleting a connector. -/
def deleteErrand (a : Artefact) : Errand :=
  match servers.connectorUrl a with
  | .error reason => .error (.connect reason)
  | .ok url => (Request.delete url).errand url

/-- An exchange that ends before it sends a request. -/
theorem undertakes_unsent {e : Exchange Unit} {reason : ConnectError}
    (he : ∀ made, e.run.run (h.having made) = (.error reason, h.having made)) (message : String) :
    h.Undertakes [.error (.connect reason)] (attempt message e) := by
  refine .of_hindered fun made => ?_
  rw [attempt_on, he]
  exact ⟨_, rfl⟩

/-- An exchange that comes down to one request. -/
theorem undertakes_sent {e : Exchange Unit} {r : Request} {url : String}
    (he : ∀ made, e.run.run (h.having made) = (send r url r.settled).run.run (h.having made))
    (message : String) : h.Undertakes [r.errand url] (attempt message e) := by
  simp only [send_run] at he
  rw [Request.errand]
  cases hurl : Url.ofText url with
  | error reason =>
    refine undertakes_unsent h (fun made => ?_) message
    rw [he, hurl]
  | ok _ =>
    refine .of_call fun made => ?_
    have hanswer : (h.having made).servers (h.having made).calls r =
      h.servers (h.calls ++ made) r := rfl
    rw [attempt_on, he, hurl]
    refine ⟨by rw [← Host.having_having]; rfl, ?_⟩
    rw [hanswer, Host.call]
    cases h.servers (h.calls ++ made) r with
    | unreachable reason => rfl
    | status code =>
      by_cases hcode : 400 ≤ code ∧ code ≠ r.settled
      · have hrefused : ¬code < 400 := by omega
        simp [Call.isSuccess, hcode, hrefused]
      · have hgood : code < 400 ∨ code = r.settled := by omega
        simp [Call.isSuccess, hcode, hgood]

theorem undertakes_createConnector (a : Artefact) :
    h.Undertakes [servers.createErrand h a] (servers.createConnector a) := by
  have hcreate (made : List Call) := create_run servers a (h.having made)
  have hfiles (made : List Call) : (h.having made).files = h.files := rfl
  simp only [hfiles] at hcreate
  rw [createErrand]
  cases htext : h.files.readText a.path with
  | error reason =>
    simp only [htext] at hcreate ⊢
    exact undertakes_unsent h hcreate _
  | ok text =>
    cases hjson : Document.ofJson? text with
    | none =>
      simp only [htext, hjson] at hcreate ⊢
      exact undertakes_unsent h hcreate _
    | some definition =>
      cases hurl : servers.connectorsUrl a with
      | error reason =>
        simp only [htext, hjson, hurl] at hcreate ⊢
        exact undertakes_unsent h hcreate _
      | ok url =>
        simp only [htext, hjson, hurl] at hcreate ⊢
        exact undertakes_sent h hcreate _

theorem undertakes_deleteConnector (a : Artefact) :
    h.Undertakes [servers.deleteErrand a] (servers.deleteConnector a) := by
  have hdelete (made : List Call) := delete_run servers a (h.having made)
  rw [deleteErrand]
  cases hurl : servers.connectorUrl a with
  | error reason =>
    simp only [hurl] at hdelete
    exact undertakes_unsent h hdelete _
  | ok url =>
    simp only [hurl] at hdelete
    exact undertakes_sent h hdelete _

end ConnectServers

/-! ## Actions -/

namespace Action

/-- The errands of an action, in order. -/
def errands (c : Config) (h : Host) (action : Action) : List Errand :=
  let tools := KafkaTools.ofConfig c h.environment
  match action with
  | .syncTopic name config =>
    h.errand (tools.createTopic name config) ::
      (tools.alterTopic? name config).toList.map h.errand
  | .deleteTopics names => names.map fun name => h.errand (tools.deleteTopic name)
  | .createBindings bs => bs.map fun b => h.errand (tools.addBinding b)
  | .clearBindings bs => bs.map fun b => h.errand (tools.removeBinding b)
  | .createAccounts accounts => accounts.map (tools.upsertErrand h)
  | .clearAccounts accounts => accounts.map fun a => h.errand (tools.deleteAccount a)
  | .createArtefact a => [ConnectServers.createErrand c.connectServers h a]
  | .deleteArtefact a => [ConnectServers.deleteErrand c.connectServers a]

theorem undertakes_run (c : Config) (h : Host) (a : Action) :
    h.Undertakes (a.errands c h) (a.run (c.admin h.environment)) := by
  cases a with
  | syncTopic name config => exact KafkaTools.undertakes_syncTopic _ h name config
  | deleteTopics names => exact KafkaTools.undertakes_each h _ _ names
  | createBindings bs => exact KafkaTools.undertakes_each h _ _ bs
  | clearBindings bs => exact KafkaTools.undertakes_each h _ _ bs
  | createAccounts accounts => exact KafkaTools.undertakes_createAccounts _ h accounts
  | clearAccounts accounts => exact KafkaTools.undertakes_each h _ _ accounts
  | createArtefact a => exact ConnectServers.undertakes_createConnector _ h a
  | deleteArtefact a => exact ConnectServers.undertakes_deleteConnector _ h a

end Action

/-- Calls that end at an errand of one of some actions. -/
def StopsIn (errands : Action → List Errand) (actions : List Action) (a : Action)
    (done : List Call) : Prop :=
  ∃ earlier later before x after, actions = earlier ++ a :: later ∧
    errands a = before ++ x :: after ∧ StopsAt (earlier.flatMap errands ++ before) x done

theorem StopsIn.head {errands : Action → List Errand} {a : Action} {done : List Call}
    (h : Stops (errands a) done) (later : List Action) : StopsIn errands (a :: later) a done := by
  obtain ⟨before, x, after, herrands, hstop⟩ := h
  exact ⟨[], later, before, x, after, rfl, herrands, hstop⟩

theorem StopsIn.tail {errands : Action → List Errand} {a b : Action} {later : List Action}
    {done done' : List Call} (h : Completed (errands a) done) (h' : StopsIn errands later b done') :
    StopsIn errands (a :: later) b (done ++ done') := by
  obtain ⟨earlier, later, before, x, after, rfl, herrands, hstop⟩ := h'
  refine ⟨a :: earlier, later, before, x, after, rfl, herrands, ?_⟩
  rw [List.flatMap_cons, List.append_assoc]
  exact hstop.after h

namespace Plan

/-- How far a plan's loop gets: through the errands of all actions, or up to one errand of one
action, and then the error names that action. -/
theorem execute_undertakes (c : Config) (h : Host) (actions : List Action) (made : List Call)
    (s : State) (summary : RunSummary) :
    ∃ done,
      ((execute (actions.map (·.toStep (c.admin h.environment))) s summary).run
        (h.having made)).2 = h.having (made ++ done) ∧
      h.Answers (h.calls ++ made) done ∧
      match ((execute (actions.map (·.toStep (c.admin h.environment))) s summary).run
        (h.having made)).1 with
      | .ok (s', _) =>
        Completed (actions.flatMap (·.errands c h)) done ∧
          s' = s.applyAll (actions.map (·.effect))
      | .error e =>
        ∃ a cause, StopsIn (·.errands c h) actions a done ∧ e = .action a.description cause := by
  induction actions generalizing made s summary with
  | nil => exact ⟨[], by rw [List.append_nil]; rfl, trivial, .nil, rfl⟩
  | cons a actions ih =>
    obtain ⟨done, hhost, hanswers, hstep⟩ := a.undertakes_run c h made
    have hcons := execute_cons (a.toStep (c.admin h.environment))
      (actions.map (·.toStep (c.admin h.environment))) s summary (h.having made)
    have hrun : (a.toStep (c.admin h.environment)).run.on (h.having made) =
      (a.run (c.admin h.environment)).on (h.having made) := rfl
    rw [List.map_cons, hcons, hrun]
    rcases hact : (a.run (c.admin h.environment)).on (h.having made) with ⟨cause | ⟨⟩, w⟩
    · rw [hact] at hhost hstep
      exact ⟨done, hhost, hanswers, a, cause, .head hstep actions, rfl⟩
    · rw [hact] at hhost hstep
      obtain rfl : w = h.having (made ++ done) := hhost
      obtain ⟨done', hhost', hanswers', hrest⟩ := ih (made ++ done)
        (s.apply (a.toStep (c.admin h.environment)).effect)
        (summary.count (a.toStep (c.admin h.environment)).effect.direction)
      rw [← List.append_assoc] at hanswers'
      refine ⟨done ++ done', by rw [← List.append_assoc]; exact hhost',
        hanswers.append hanswers', ?_⟩
      simp only at hstep ⊢
      split
      · next hout =>
        rw [hout] at hrest
        rw [List.flatMap_cons]
        exact ⟨hstep.append hrest.1, hrest.2⟩
      · next hout =>
        rw [hout] at hrest
        obtain ⟨b, cause, hstop, rfl⟩ := hrest
        exact ⟨b, cause, .tail hstep hstop, rfl⟩

end Plan
end KafkaTopology
