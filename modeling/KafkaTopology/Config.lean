import KafkaTopology.Decode
import KafkaTopology.Document.Toml
import KafkaTopology.Host
import KafkaTopology.Planner
import KafkaTopology.Topology.OfDocument
/-!
# Configurations (specification, section 10.2)

How the program reaches the cluster, where it keeps its state and what it may manage. Everything
has a default; a configuration file overrides what it names. The separator of names must not be
empty.
-/
namespace KafkaTopology

/-- How the Kafka tools are run. -/
structure KafkaSettings where
  bootstrapServers : String
  /-- A file with client properties that the tools are to use. -/
  commandConfig : Option String
  /-- The directory of the tools; without it they are looked for in the search path. -/
  binDir : Option String
deriving DecidableEq, Repr, Inhabited

/-- What may be managed beyond topics and bindings. -/
structure ManageSettings where
  topicsDelete : Bool
  serviceAccounts : Bool
  /-- The variable with the password of new accounts. -/
  scramPasswordEnv : String
deriving DecidableEq, Repr, Inhabited

/-- A configuration. -/
structure Config where
  separator : String
  kafka : KafkaSettings
  /-- The base URL of each Kafka Connect server, by its alias. -/
  connectServers : OrderedMap String String
  stateFile : Option String
  manage : ManageSettings
deriving DecidableEq, Inhabited

/-- What a file that is no TOML, or not of the wanted shape, is reported as. -/
def tomlComplaint : String := "TOML parse error"

/-- The settings of the tools without a configuration. -/
def KafkaSettings.standard : KafkaSettings := ⟨"localhost:9092", none, none⟩

def KafkaSettings.schema : Schema KafkaSettings where
  name := "KafkaConfig"
  blank := standard
  fields := [
    .defaulted "bootstrap_servers" [] Decoder.text fun v s => { s with bootstrapServers := v },
    .defaulted "command_config" [] Decoder.text fun v s => { s with commandConfig := some v },
    .defaulted "bin_dir" [] Decoder.text fun v s => { s with binDir := some v }]

/-- What is managed without a configuration. -/
def ManageSettings.standard : ManageSettings := ⟨false, false, "STREAMFORM_SCRAM_PASSWORD"⟩

def ManageSettings.schema : Schema ManageSettings where
  name := "ManageConfig"
  blank := standard
  fields := [
    .defaulted "topics_delete" [] Decoder.bool fun v s => { s with topicsDelete := v },
    .defaulted "service_accounts" [] Decoder.bool fun v s => { s with serviceAccounts := v },
    .defaulted "scram_password_env" [] Decoder.text fun v s => { s with scramPasswordEnv := v }]

namespace Config

/-- The configuration without a file. -/
def standard : Config := ⟨".", .standard, ∅, none, .standard⟩

def connectSchema : Schema (OrderedMap String String) where
  name := "KafkaConnectConfig"
  blank := ∅
  fields := [
    .defaulted "servers" [] (Decoder.pairs Decoder.text) fun v _ => OrderedMap.ofPairs v]

def stateSchema : Schema (Option String) where
  name := "StateConfig"
  blank := none
  fields := [.defaulted "file" [] Decoder.text fun v _ => some v]

def schema : Schema Config where
  name := "Config"
  blank := standard
  fields := [
    .defaulted "separator" [] Decoder.text fun v c => { c with separator := v },
    .defaulted "kafka" [] KafkaSettings.schema.decode fun v c => { c with kafka := v },
    .defaulted "kafka_connect" [] connectSchema.decode fun v c => { c with connectServers := v },
    .defaulted "state" [] stateSchema.decode fun v c => { c with stateFile := v },
    .defaulted "manage" [] ManageSettings.schema.decode fun v c => { c with manage := v }]

/-- The configuration that a text describes, whatever its separator. -/
def ofToml? (text : String) : Option Config := do
  (schema.decode .lenient (← Document.ofToml? text)).toOption

def read (path : String) : Attempt Host Config := do
  let text ← Host.readText path ("Could not read " ++ path)
  match ofToml? text with
  | none => throw ⟨"Invalid config file: " ++ path, [tomlComplaint]⟩
  | some config =>
    if config.separator.isEmpty then
      Attempt.fail ("Invalid config file " ++ path ++ ": separator must not be empty")
    else return config

/-- What a host without a home directory is told. -/
def homeless : String := "Could not determine home directory"

/-- The configuration of a session: that of a named file, or of the standard one if it exists. -/
def load (explicit : Option String) : Attempt Host Config := do
  match explicit with
  | some path => read path
  | none =>
    let h ← getThe Host
    match h.environment.configFile? with
    | none => Attempt.fail homeless
    | some path => if h.files.holds path then read path else return standard

/-- What topologies are read against. -/
def naming (c : Config) : Naming :=
  ⟨.ofList c.connectServers.keys, c.separator⟩

/-- Which optional changes plans may make. -/
def planOptions (c : Config) : PlanOptions := ⟨c.manage.topicsDelete, c.manage.serviceAccounts⟩

/-- The variables that the paths of a configuration mention, and the one with the password. -/
def variableNames (c : Config) : List String :=
  c.manage.scramPasswordEnv ::
    (c.kafka.commandConfig.toList ++ c.kafka.binDir.toList ++ c.stateFile.toList).flatMap
      Variables.namesIn

def statePath (c : Config) : Attempt Host String := do
  let environment := (← getThe Host).environment
  match c.stateFile with
  | some file => return environment.expand file
  | none =>
    match environment.stateFile? with
    | some path => return path
    | none => Attempt.fail homeless

end Config
end KafkaTopology
