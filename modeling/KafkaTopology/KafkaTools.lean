import KafkaTopology.Config
import KafkaTopology.Text.Quoted
/-!
# The Kafka tools (specification, section 10.5)

The commands by which topics, bindings and accounts are changed. Each command can be repeated
without harm. Settings that a topic can only be given when it is made are flags of the command
that makes it (`creationFlag?`); all others are also set on a topic that exists already.
-/
namespace KafkaTopology

/-- How the tools are found and what all of their commands begin with. -/
structure KafkaTools where
  bootstrapServers : String
  commandConfig : Option String
  binDir : Option String
  passwordVariable : String
deriving DecidableEq, Repr, Inhabited

namespace KafkaTools

def ofConfig (c : Config) (environment : Variables) : KafkaTools where
  bootstrapServers := c.kafka.bootstrapServers
  commandConfig := c.kafka.commandConfig.map environment.expand
  binDir := c.kafka.binDir.map environment.expand
  passwordVariable := c.manage.scramPasswordEnv

def names : List String := ["kafka-topics", "kafka-acls", "kafka-configs"]

/-- How a tool is invoked. -/
def invocation (k : KafkaTools) (name : String) : String :=
  match k.binDir with
  | some dir => Path.join dir name
  | none => name

def missing (k : KafkaTools) (h : Host) : List String :=
  (names.map k.invocation).filter (!h.hasTool ·)

def command (k : KafkaTools) (name : String) (arguments : List String) : Command where
  tool := k.invocation name
  arguments :=
    ["--bootstrap-server", k.bootstrapServers] ++
      (match k.commandConfig with
        | some file => ["--command-config", file]
        | none => []) ++
      arguments

/-! ## Topics -/

/-- The flag for a setting that only matters when a topic is made. -/
def creationFlag? (key : String) : Option String :=
  if key == "partitions" || key == "num.partitions" then some "--partitions"
  else if key == "replication.factor" then some "--replication-factor"
  else none

/-- The arguments for one setting of a new topic. -/
def settingArguments (key value : String) : List String :=
  match creationFlag? key with
  | some flag => [flag, value]
  | none => ["--config", key ++ "=" ++ value]

/-- The settings that an existing topic can be given. -/
def plainSettings (config : OrderedMap String String) : List String :=
  (config.toPairs.filter fun (key, _) => (creationFlag? key).isNone).map
    fun (key, value) => key ++ "=" ++ value

/-- Makes a topic unless it exists. -/
def createTopic (k : KafkaTools) (name : String) (config : OrderedMap String String) : Command :=
  k.command "kafka-topics" <|
    ["--create", "--if-not-exists", "--topic", name] ++
      config.toPairs.flatMap fun (key, value) => settingArguments key value

/-- Sets what an existing topic can be given, if there is any of it. -/
def alterTopic? (k : KafkaTools) (name : String) (config : OrderedMap String String) :
    Option Command :=
  match plainSettings config with
  | [] => none
  | settings =>
    some <| k.command "kafka-configs"
      ["--alter", "--entity-type", "topics", "--entity-name", name, "--add-config",
        ",".intercalate settings]

def deleteTopic (k : KafkaTools) (name : String) : Command :=
  k.command "kafka-topics" ["--delete", "--if-exists", "--topic", name]

/-! ## Bindings -/

/-- The arguments that name a resource. A cluster needs no name. -/
def resourceArguments (b : Acl.Binding) : List String :=
  match b.resource with
  | .cluster => ["--cluster"]
  | resource => ["--" ++ resource.shown, b.name]

/-- The arguments that describe a binding. -/
def bindingArguments (b : Acl.Binding) : List String :=
  ["--allow-principal", b.principal, "--allow-host", b.host, "--operation", b.operation.shown] ++
    resourceArguments b ++ ["--resource-pattern-type", b.pattern.word]

def addBinding (k : KafkaTools) (b : Acl.Binding) : Command :=
  k.command "kafka-acls" ("--add" :: bindingArguments b)

def removeBinding (k : KafkaTools) (b : Acl.Binding) : Command :=
  k.command "kafka-acls" ("--remove" :: "--force" :: bindingArguments b)

/-! ## Accounts -/

/-- The credentials of accounts. -/
def mechanism : String := "SCRAM-SHA-512"

/-- The user of a principal. -/
def userName (principal : String) : String :=
  let kind := "User:"
  if kind.toList.isPrefixOf principal.toList then
    String.ofList (principal.toList.drop kind.length)
  else principal

/-- Changes the credentials of an account. -/
def changeAccount (k : KafkaTools) (a : Account) (change : List String) : Command :=
  k.command "kafka-configs"
    (["--alter"] ++ change ++ ["--entity-type", "users", "--entity-name", userName a.principal])

def upsertAccount (k : KafkaTools) (a : Account) (password : String) : Command :=
  k.changeAccount a ["--add-config", mechanism ++ "=[password=" ++ password ++ "]"]

def deleteAccount (k : KafkaTools) (a : Account) : Command :=
  k.changeAccount a ["--delete-config", mechanism]

/-- The report of a variable that gives no password. A value that is no text is shown. -/
def noPassword (k : KafkaTools) (value : Option VariableValue) : Failure :=
  ⟨"SCRAM password not set: export " ++ k.passwordVariable ++ " to create service accounts",
    [match value with
      | some (.octets bytes _) =>
        "environment variable was not valid unicode: " ++ Text.quotedOctets bytes
      | _ => "environment variable not found"]⟩

/-- The password of new accounts. -/
def password (k : KafkaTools) : Attempt Host String := do
  let environment := (← getThe Host).environment
  match environment.get? k.passwordVariable with
  | some password => return password
  | none => throw (k.noPassword (environment.value? k.passwordVariable))

/-! ## Running them -/

/-- Runs a command; a failure is reported under a message. -/
def run (message : String) (c : Command) : Attempt Host Unit :=
  Attempt.context message (Host.execute c)

/-- Brings a topic in line. -/
def syncTopic (k : KafkaTools) (name : String) (config : OrderedMap String String) :
    Attempt Host Unit := do
  run ("Failed to create topic " ++ name) (k.createTopic name config)
  match k.alterTopic? name config with
  | some c => run ("Failed to update configs of topic " ++ name) c
  | none => return ()

def deleteTopics (k : KafkaTools) (names : List String) : Attempt Host Unit :=
  names.forM fun name => run ("Failed to delete topic " ++ name) (k.deleteTopic name)

def addBindings (k : KafkaTools) (bs : List Acl.Binding) : Attempt Host Unit :=
  bs.forM fun b => run ("Failed to add ACL: " ++ b.shown) (k.addBinding b)

def removeBindings (k : KafkaTools) (bs : List Acl.Binding) : Attempt Host Unit :=
  bs.forM fun b => run ("Failed to remove ACL: " ++ b.shown) (k.removeBinding b)

def createAccount (k : KafkaTools) (a : Account) : Attempt Host Unit := do
  let password ← k.password
  run ("Failed to create account " ++ a.principal) (k.upsertAccount a password)

def removeAccount (k : KafkaTools) (a : Account) : Attempt Host Unit :=
  run ("Failed to delete account " ++ a.principal) (k.deleteAccount a)

end KafkaTools
end KafkaTopology
