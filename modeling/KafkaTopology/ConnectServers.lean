import KafkaTopology.Document.Json
import KafkaTopology.KafkaTools
import KafkaTopology.Url
/-!
# Kafka Connect servers (specification, section 10.5)

Connectors are made from definition files and deleted by name, each by one request. A connector
that exists already, or is gone already, is a success: requests can be repeated without harm.
-/
namespace KafkaTopology

/-- Why a connector could not be changed. -/
inductive ConnectError where
  | unknownServer (label : String)
  | unreadable (path : String) (reason : FileError)
  | malformed (path : String)
  | refused (code : Nat) (url : String)
  /-- No request can be sent to the URL. -/
  | unusable (reason : UrlError)
  | unreachable (reason : String)
deriving DecidableEq, Repr

def ConnectError.failure : ConnectError → Failure
  | .unknownServer name =>
    .ofMessage ("no Kafka Connect server configured for alias '" ++ name ++ "'")
  | .unreadable path reason =>
    ⟨"failed to read connector definition " ++ path ++ ": " ++ reason.message, [reason.message]⟩
  | .malformed path => .ofMessage ("invalid connector definition " ++ path)
  | .refused code url =>
    .ofMessage ("Kafka Connect returned HTTP " ++ toString code ++ " for " ++ url)
  | .unusable reason => unsent reason.message
  | .unreachable reason => unsent reason
where
  /-- There is no answer to a request. -/
  unsent (reason : String) : Failure := ⟨"request to Kafka Connect failed: " ++ reason, [reason]⟩

/-- The base URL of each server, by its alias. -/
abbrev ConnectServers := OrderedMap String String

namespace ConnectServers

/-- A request that may fail. -/
abbrev Exchange (α : Type) := ExceptT ConnectError (StateM Host) α

/-- A text without the slashes at its end. -/
def trimSlashes (url : String) : String :=
  String.ofList (url.toList.reverse.dropWhile (· == '/')).reverse

/-- Where the connectors of an artefact's server are. -/
def connectorsUrl (servers : ConnectServers) (a : Artefact) : Except ConnectError String :=
  match servers.get? a.server with
  | some url => .ok (trimSlashes url ++ "/connectors")
  | none => .error (.unknownServer a.server)

/-- Where the connector of an artefact is. -/
def connectorUrl (servers : ConnectServers) (a : Artefact) : Except ConnectError String := do
  return (← servers.connectorsUrl a) ++ "/" ++ a.name

def readDefinition (path : String) : Exchange Document := do
  match (← getThe Host).files.readText path with
  | .error reason => throw (.unreadable path reason)
  | .ok text =>
    match Document.ofJson? text with
    | some d => return d
    | none => throw (.malformed path)

/-- Sends a request. A status from 400 on is a refusal, unless it is the one that says that there
is nothing left to do. -/
def send (r : Request) (url : String) (done : Nat) : Exchange Unit := do
  match Url.ofText url with
  | .error reason => throw (.unusable reason)
  | .ok _ =>
    match ← Host.send r with
    | .unreachable reason => throw (.unreachable reason)
    | .status code => if 400 ≤ code ∧ code ≠ done then throw (.refused code url) else return ()

/-- Makes a connector unless it exists. -/
def create (servers : ConnectServers) (a : Artefact) : Exchange Unit := do
  let definition ← readDefinition a.path
  let url ← servers.connectorsUrl a
  send (.post url definition) url 409

/-- Deletes a connector if it exists. -/
def delete (servers : ConnectServers) (a : Artefact) : Exchange Unit := do
  let url ← servers.connectorUrl a
  send (.delete url) url 404

/-- An exchange as an attempt, with failures reported under a message. -/
def attempt (message : String) (e : Exchange Unit) : Attempt Host Unit :=
  Attempt.context message (ExceptT.adapt ConnectError.failure e)

def createConnector (servers : ConnectServers) (a : Artefact) : Attempt Host Unit :=
  attempt ("Failed to create connector " ++ a.shown) (servers.create a)

def deleteConnector (servers : ConnectServers) (a : Artefact) : Attempt Host Unit :=
  attempt ("Failed to delete connector " ++ a.shown) (servers.delete a)

end ConnectServers

/-- What a configuration reaches: the cluster through its tools, connectors through their servers.
Variables are looked up when the admin is made. -/
def Config.admin (c : Config) (environment : Variables) : Admin Host :=
  let tools := KafkaTools.ofConfig c environment
  { syncTopic := tools.syncTopic
    deleteTopics := tools.deleteTopics
    addBindings := tools.addBindings
    removeBindings := tools.removeBindings
    upsertAccount := tools.createAccount
    deleteAccount := tools.removeAccount
    createConnector := ConnectServers.createConnector c.connectServers
    deleteConnector := ConnectServers.deleteConnector c.connectServers }

end KafkaTopology
