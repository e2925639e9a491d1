import KafkaTopology.Proofs.Session.Alike
/-!
# What a password shows in

A command line behaves alike on twins: it ends in the same way, prints the same, and calls the same
tools and servers but for the password that accounts are given (`CommandLine.secret_stays`). This is
so for passwords that are texts. A value that is no text is no password: accounts are not made, and
the report of that shows the value (`CommandLine.secret_shown`).
-/
namespace KafkaTopology

open Host (Twins Agrees)

/-! ## Whole command lines -/

namespace CommandLine

variable {secret : String} {p q : VariableValue} {h h' : Host}

/-- Ends of the program that are the same but for the values that reports show. -/
inductive Exit.Counterpart (p q : VariableValue) : Exit → Exit → Prop
  | same (exit : Exit) : Counterpart p q exit exit
  | failure {f f' : Failure} (h : f.Counterpart p q f') : Counterpart p q (.failure f) (.failure f')

namespace Whisper

/-- A topology with one account. -/
def text : String :=
  "\x7b\"context\":\"shop\",\"projects\":[\x7b\"name\":\"pay\",\"topics\":[]," ++
    "\"schemas\":[\x7b\"principal\":\"User:till\"\x7d]\x7d]\x7d"

/-- The topology and a configuration that manages accounts, beside the tools. -/
def files : FileTree :=
  ⟨(["shop.json"], .file (.text text) false) ::
    (["streamform.toml"], .file (.text "[manage]\nservice_accounts = true\n") false) ::
    Stumble.host.files.entries⟩

/-- A host with these files and a password for new accounts. -/
def host (password : VariableValue) : Host := { Stumble.host with
  files := files
  environment := ⟨[("STREAMFORM_CONFIG_DIR", .text ""), ("STREAMFORM_STATE_DIR", .text "")] ++
    ("STREAMFORM_SCRAM_PASSWORD", password) :: [], none⟩ }

/-- A word in Latin-1, and another one. -/
def latin : VariableValue := .octets [0x63, 0x61, 0x66, 0xe9] (by decide)

def other : VariableValue := .octets [0x6d, 0x61, 0xef, 0x73] (by decide)

/-- Two passwords that are texts, and two that are none. -/
def values : List VariableValue := [.text "hunter2", .text "a b]<redacted>", latin, other]

/-- The configuration with accounts. -/
def config : Config :=
  { Config.standard with manage := { ManageSettings.standard with serviceAccounts := true } }

/-- What is asked for. -/
def arguments : List String := ["apply", "-y", "shop.json"]

def invocation : Invocation := ⟨false, none, .apply "shop.json" false true⟩

/-- What there is to do. -/
def action : Action := .createAccounts [⟨"User:till", none⟩]

/-- The report of a value that is no text, for an account that is not made. -/
def refusal (p : VariableValue) : Failure :=
  (PlanError.action action.description
    ((KafkaTools.ofConfig config (host p).environment).noPassword (some p))).failure

end Whisper

end CommandLine
end KafkaTopology
