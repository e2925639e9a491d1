import KafkaTopology.Proofs.ConnectServers.Aliases
/-!
# Requests for artefacts

When the attempts to create and to delete the connector of an artefact send a request, and which one
(`ConnectServers.createConnector_sends_iff`, `ConnectServers.deleteConnector_sends_iff`).
-/
namespace KafkaTopology

/-- Whether an attempt on a host makes one call, a request. -/
def Attempt.Sends (act : Attempt Host Unit) (h : Host) (r : Request) : Prop :=
  ∃ answer, (act.on h).2.calls = h.calls ++ [.sent r answer]

namespace ConnectServers

variable {servers : ConnectServers} {a : Artefact} {base : String} {h : Host} {r : Request}

/-- A request is sent exactly if its URL can be used. -/
theorem send_calls_iff {url : String} {done : Nat} {request : Request} :
    (∃ answer, ((send request url done).run.run h).2.calls = h.calls ++ [.sent r answer]) ↔
      (Url.ofText url).isOk = true ∧ r = request := by
  rw [send_run]
  cases Url.ofText url with
  | error reason => simp
  | ok _ =>
    constructor
    · rintro ⟨answer, hcalls⟩
      simp only [List.append_cancel_left_eq, List.cons.injEq, Call.sent.injEq] at hcalls
      exact ⟨rfl, hcalls.1.1.symm⟩
    · rintro ⟨-, rfl⟩
      exact ⟨_, rfl⟩

/-- What is posted is the definition as it stands in the file. -/
theorem createConnector_sends_iff (hbase : servers.get? a.server = some base) :
    (servers.createConnector a).Sends h r ↔
      ∃ text definition, h.files.readText a.path = .ok text ∧
        Document.ofJson? text = some definition ∧
        (Url.ofText (trimSlashes base ++ "/connectors")).isOk = true ∧
        r = .post (trimSlashes base ++ "/connectors") definition := by
  rw [Attempt.Sends, createConnector, attempt_on]
  dsimp only
  rw [create_run, connectorsUrl_eq_ok hbase]
  rcases h.files.readText a.path with reason | text
  · simp
  · dsimp only
    cases hjson : Document.ofJson? text with
    | none => simp [hjson]
    | some definition =>
      dsimp only
      rw [send_calls_iff]
      constructor
      · rintro ⟨hurl, hr⟩
        exact ⟨text, definition, rfl, hjson, hurl, hr⟩
      · rintro ⟨_, other, ⟨⟩, hother, hurl, rfl⟩
        rw [hjson] at hother
        cases hother
        exact ⟨hurl, rfl⟩

/-- What is deleted is the entry under the name of the artefact. -/
theorem deleteConnector_sends_iff (hbase : servers.get? a.server = some base) :
    (servers.deleteConnector a).Sends h r ↔
      (Url.ofText (trimSlashes base ++ "/connectors" ++ "/" ++ a.name)).isOk = true ∧
        r = .delete (trimSlashes base ++ "/connectors" ++ "/" ++ a.name) := by
  rw [Attempt.Sends, deleteConnector, attempt_on]
  dsimp only
  rw [delete_run, connectorUrl_eq_ok hbase]
  dsimp only
  rw [send_calls_iff]

end ConnectServers
end KafkaTopology
