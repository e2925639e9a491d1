import KafkaTopology.Path
import KafkaTopology.Text.Alphanumeric
/-!
# Environment variables

The variables of a session, and their expansion in paths. `$name` and `${name}` stand for a
variable, `${name:-text}` for a text if it is not set, `$$` for a dollar sign. A variable that is
not set, or whose value is no text, leaves the whole path as it is. Then a leading `~` stands for
the home directory.
-/
namespace KafkaTopology

/-- The value of a variable: a text, or else octets that are none. -/
inductive VariableValue where
  | text (s : String)
  | octets (bytes : List UInt8) (h : String.fromUTF8? bytes.toByteArray = none)
deriving DecidableEq, Inhabited

namespace VariableValue

instance : Coe String VariableValue := ⟨text⟩

/-- The value that octets are. -/
def ofOctets (bytes : List UInt8) : VariableValue :=
  match h : String.fromUTF8? bytes.toByteArray with
  | some s => .text s
  | none => .octets bytes h

def text? : VariableValue → Option String
  | .text s => some s
  | .octets .. => none

end VariableValue

/-- The variables of a session, by name. -/
structure Variables where
  entries : List (String × VariableValue)
  /-- The home directory of the account, for a session whose variables name none. -/
  accountHome : Option String
deriving DecidableEq, Inhabited

namespace Variables

/-- What an entry gives for a name. An entry is written as one, a name and a value with an equals
sign between them, and each of the equals signs in it ends a name. -/
def valueIn? (name : String) (entry : String × VariableValue) : Option VariableValue :=
  let wanted := (name ++ "=").toList
  let before := (entry.1 ++ "=").toList
  match entry.2 with
  | .text value =>
    (wanted.isPrefixOf? (before ++ value.toList)).map fun rest => .text (.ofList rest)
  | .octets bytes _ =>
    ((wanted.flatMap String.utf8EncodeChar).isPrefixOf?
      (before.flatMap String.utf8EncodeChar ++ bytes)).map .ofOctets

/-- The value of a variable, from the first entry that gives one. A name is not empty. -/
def value? (vs : Variables) (name : String) : Option VariableValue :=
  if name.isEmpty then none else vs.entries.findSome? (valueIn? name)

/-- The text of a variable, if it is set to one. -/
def get? (vs : Variables) (name : String) : Option String := (vs.value? name).bind (·.text?)

def set (vs : Variables) (name value : String) : Variables :=
  { vs with entries := vs.entries.filter (·.1 != name) ++ [(name, .text value)] }

/-- The home directory. An empty variable names none, and one that is no text names none that is
within reach. -/
def home? (vs : Variables) : Option String :=
  (vs.get? "HOME").filter (!·.isEmpty) <|> vs.accountHome

/-! ## Expansion -/

def isNameCharacter (c : Char) : Bool := c == '_' || Text.isAlphanumeric c

/-- Splits a text in braces into the name of a variable and what stands for it if it is not set. A
default needs a name before it. -/
def splitDefault : List Char → List Char → List Char × Option (List Char)
  | before, ':' :: '-' :: rest =>
    if before.isEmpty then (':' :: '-' :: rest, none) else (before.reverse, some rest)
  | before, c :: rest => splitDefault (c :: before) rest
  | before, [] => (before.reverse, none)

/-- A part of a text with variables. -/
inductive Part where
  | plain (text : List Char)
  | variable (name : List Char) (default : Option (List Char))
deriving DecidableEq, Repr

/-- The parts of a text. Every step takes a character, so fuel of the length of the text is
enough. -/
def parts : (fuel : Nat) → List Char → List Part
  | 0, _ => []
  | _, [] => []
  | fuel + 1, '$' :: rest =>
    match rest with
    | '$' :: rest => .plain ['$'] :: parts fuel rest
    | '\x7b' :: rest =>
      match rest.span (· != '\x7d') with
      | (inside, _ :: rest) =>
        let (name, default) := splitDefault [] inside
        .variable name default :: parts fuel rest
      | (_, []) => .plain ['$', '\x7b'] :: parts fuel rest
    | _ =>
      let (name, rest) := rest.span isNameCharacter
      if name.isEmpty then .plain ['$'] :: parts fuel rest
      else .variable name none :: parts fuel rest
  | fuel + 1, c :: rest => .plain [c] :: parts fuel rest

def namesIn (text : String) : List String :=
  (parts (text.length + 1) text.toList).filterMap fun
    | .plain _ => none
    | .variable name _ => some (String.ofList name)

/-- What a part stands for. -/
def valueOf? (vs : Variables) : Part → Option (List Char)
  | .plain text => some text
  | .variable name default =>
    match vs.get? (String.ofList name) with
    | some value => some value.toList
    | none => default

/-- The text with its variables replaced, if all of them are set. -/
def substitute? (vs : Variables) (text : List Char) : Option (List Char) := do
  return (← (parts (text.length + 1) text).mapM vs.valueOf?).flatten

/-- The text with a leading `~`, if it stands alone or before a separator, replaced by the home
directory. -/
def expandHome (vs : Variables) (text : List Char) : List Char :=
  match text, vs.home? with
  | ['~'], some home => home.toList
  | '~' :: '/' :: rest, some home => home.toList ++ '/' :: rest
  | _, _ => text

/-- Expands a path. A `~` that comes from a variable stays. -/
def expand (vs : Variables) (path : String) : String :=
  let cs := path.toList
  match vs.substitute? cs with
  | none => path
  | some expanded =>
    if cs.head? == some '~' then String.ofList (vs.expandHome expanded)
    else String.ofList expanded

/-! ## Locations of the program's own files -/

def programName : String := "streamform"

/-- A directory of the program: the one that its own variable names, or a directory of that name
below the one that a common variable names, or below a place in the home directory. -/
def directory? (vs : Variables) (own common : String) (inHome : List String) : Option String :=
  match vs.get? own with
  | some dir => some (vs.expand dir)
  | none =>
    match vs.get? common with
    | some dir => some (Path.join dir programName)
    | none => vs.home?.map fun home => (inHome ++ [programName]).foldl Path.join home

def configDirectory? (vs : Variables) : Option String :=
  vs.directory? "STREAMFORM_CONFIG_DIR" "XDG_CONFIG_HOME" [".config"]

def stateDirectory? (vs : Variables) : Option String :=
  vs.directory? "STREAMFORM_STATE_DIR" "XDG_STATE_HOME" [".local", "state"]

/-- The configuration file that is read unless another one is named. -/
def configFile? (vs : Variables) : Option String :=
  vs.configDirectory?.map (Path.join · "streamform.toml")

/-- The state file that is kept unless the configuration names another one. -/
def stateFile? (vs : Variables) : Option String :=
  vs.stateDirectory?.map (Path.join · "state.toml")

end Variables
end KafkaTopology
