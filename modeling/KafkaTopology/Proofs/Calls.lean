import KafkaTopology.ConnectServers
import KafkaTopology.Proofs.Attempt
/-!
# Calls of a host

What the tools and the Connect servers are asked for. `Host.execute_on` says what comes of running a
command. An exchange with a Connect server sends at most one request;
`ConnectServers.create_run` and `ConnectServers.delete_run` say what comes of it.
-/
namespace KafkaTopology

namespace Host

/-- What comes of running a command. -/
theorem execute_on (c : Command) (h : Host) :
    (execute c).on h =
      match h.checkCommand c with
      | .error e => (.error ⟨"Failed to execute: " ++ shownCommand c, [e.message]⟩, h)
      | .ok () =>
        (match h.tools h.calls c with
          | .success => .ok ()
          | .failure complaint =>
            .error (.ofMessage ("Command failed: " ++ c.tool ++ ": " ++ Text.trim complaint)),
          { h with calls := h.calls ++ [.ran c (h.tools h.calls c)] }) := by
  rw [execute, Attempt.on_bind_ok (Attempt.on_get h)]
  rcases h.checkCommand c with e | ⟨⟩
  · rfl
  · simp only
    rw [Attempt.on_bind_ok (Attempt.on_modify _ h)]
    cases h.tools h.calls c <;> rfl

/-- A command whose words can be handed over can be started if its tool can. -/
theorem checkCommand_plain {h : Host} {c : Command}
    (hplain : (c.tool :: c.arguments).all (fun word =>
      !word.toList.contains '\x00' && word.utf8ByteSize < 131072) = true) :
    h.checkCommand c = (h.checkStartable c.tool).mapError .tool := by
  rw [List.all_eq_true] at hplain
  have hnul : ¬(c.tool :: c.arguments).any (·.contains '\x00') = true := by
    intro hany
    obtain ⟨word, hword, hnul⟩ := List.any_eq_true.1 hany
    rw [String.contains_char_eq, decide_eq_true_eq] at hnul
    simpa [hnul] using hplain word hword
  have hlong : ¬(c.tool :: c.arguments).any (131072 ≤ ·.utf8ByteSize) = true := by
    intro hany
    obtain ⟨word, hword, hlong⟩ := List.any_eq_true.1 hany
    have hshort := hplain word hword
    simp only [Bool.and_eq_true, decide_eq_true_eq] at hlong hshort
    omega
  rw [checkCommand, if_neg hnul, if_neg hlong]

end Host

/-! ## Commands -/

namespace KafkaTools

variable (k : KafkaTools)

/-- A command that can be started and ends well. -/
theorem run_success (message : String) {h : Host} {c : Command}
    (hcheck : h.checkCommand c = .ok ()) (htool : h.tools h.calls c = .success) :
    (run message c).on h = (.ok (), { h with calls := h.calls ++ [.ran c .success] }) := by
  rw [run, Attempt.on_context, Host.execute_on, hcheck]
  dsimp only
  rw [htool]
  rfl

/-- The password of new accounts, or nothing if the variable with it is not set to a text. -/
def passwordOr (environment : Variables) : String :=
  (environment.get? k.passwordVariable).getD ""

theorem password_on (h : Host) :
    k.password.on h =
      match h.environment.get? k.passwordVariable with
      | some password => (.ok password, h)
      | none => (.error (k.noPassword (h.environment.value? k.passwordVariable)), h) := by
  rw [password, Attempt.on_bind_ok (Attempt.on_get h)]
  dsimp only
  cases h.environment.get? k.passwordVariable <;> rfl

end KafkaTools

/-! ## Requests -/

namespace ConnectServers

/-- What comes of a request. -/
theorem send_run (r : Request) (url : String) (done : Nat) (h : Host) :
    (send r url done).run.run h =
      match Url.ofText url with
      | .error reason => (.error (.unusable reason), h)
      | .ok _ =>
        (match h.servers h.calls r with
          | .unreachable reason => .error (.unreachable reason)
          | .status code => if 400 ≤ code ∧ code ≠ done then .error (.refused code url) else .ok (),
          { h with calls := h.calls ++ [.sent r (h.servers h.calls r)] }) := by
  rw [send]
  cases Url.ofText url with
  | error reason => rfl
  | ok _ =>
    show (match h.servers h.calls r with
      | .unreachable reason => (throw (ConnectError.unreachable reason) : Exchange Unit)
      | .status code =>
        if 400 ≤ code ∧ code ≠ done then throw (ConnectError.refused code url)
        else return ()).run.run
          { h with calls := h.calls ++ [Call.sent r (h.servers h.calls r)] } = _
    cases h.servers h.calls r with
    | unreachable reason => rfl
    | status code =>
      simp only
      split <;> rfl

theorem readDefinition_run (path : String) (h : Host) :
    (readDefinition path).run.run h =
      match h.files.readText path with
      | .error reason => (.error (.unreadable path reason), h)
      | .ok text =>
        match Document.ofJson? text with
        | none => (.error (.malformed path), h)
        | some definition => (.ok definition, h) := by
  have hget : (getThe Host : Exchange Host).run.run h = (.ok h, h) := rfl
  rw [readDefinition, exceptT_run_bind, hget]
  dsimp only
  rcases h.files.readText path with reason | text
  · rfl
  · dsimp only
    cases Document.ofJson? text <;> rfl

/-- What comes of making a connector. -/
theorem create_run (servers : ConnectServers) (a : Artefact) (h : Host) :
    (servers.create a).run.run h =
      match h.files.readText a.path with
      | .error reason => (.error (.unreadable a.path reason), h)
      | .ok text =>
        match Document.ofJson? text with
        | none => (.error (.malformed a.path), h)
        | some definition =>
          match servers.connectorsUrl a with
          | .error e => (.error e, h)
          | .ok url => (send (.post url definition) url 409).run.run h := by
  rw [create, exceptT_run_bind, readDefinition_run]
  rcases h.files.readText a.path with reason | text
  · rfl
  · dsimp only
    cases Document.ofJson? text with
    | none => rfl
    | some definition =>
      dsimp only
      rw [exceptT_run_bind]
      cases servers.connectorsUrl a <;> rfl

/-- What comes of deleting a connector. -/
theorem delete_run (servers : ConnectServers) (a : Artefact) (h : Host) :
    (servers.delete a).run.run h =
      match servers.connectorUrl a with
      | .error e => (.error e, h)
      | .ok url => (send (.delete url) url 404).run.run h := by
  rw [delete, exceptT_run_bind]
  cases servers.connectorUrl a <;> rfl

theorem attempt_on (message : String) (e : Exchange Unit) (h : Host) :
    (attempt message e).on h =
      (((e.run.run h).1.mapError ConnectError.failure).mapError (·.within message),
        (e.run.run h).2) := by
  rw [attempt, Attempt.on_context]
  rfl

end ConnectServers
end KafkaTopology
