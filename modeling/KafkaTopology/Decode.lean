import KafkaTopology.Document
import KafkaTopology.Binary64.Shortest
import KafkaTopology.Text.Quoted
/-!
# Typed decoding

Decoders turn a document into a typed value or say what was found in place of what was wanted
(`DecodeError`, worded once by `DecodeError.message`). A record is read by a `Schema`: from a
mapping, field by field in document order, or from a list of its fields in declaration order.
-/
namespace KafkaTopology

/-- What a document holds where something else was wanted. -/
inductive Found where
  | null
  | bool (value : Bool)
  | integer (value : Int)
  | float (value : Binary64)
  | text (value : String)
  | list
  | mapping
deriving DecidableEq, Repr

/-- What a decoder asks for. -/
inductive Wanted where
  | text
  | bool
  | list
  | mapping
  | count
  | unit
  | choice
  | oneEntry
  | record (name : String)
deriving DecidableEq, Repr

/-- Why a document does not decode. -/
inductive DecodeError where
  | wrongType (found : Found) (wanted : Wanted)
  | wrongValue (found : Found) (wanted : Wanted)
  | missingField (name : String)
  | repeatedField (name : String)
  | shortRecord (length : Nat) (record : String) (fields : Nat)
  | longRecord (length : Nat)
  | unknownChoice (name : String) (choices : List String)
  | notTimestamp (text : String)
deriving DecidableEq, Repr

namespace Found

/-- The kind of a document, with its value where it has a short one. -/
def ofDocument : Document → Found
  | .null => .null
  | .bool b => .bool b
  | .integer n => .integer n
  | .float x => .float x
  | .text s => .text s
  | .list _ => .list
  | .mapping _ => .mapping

def message : Found → String
  | .null => "null"
  | .bool b => "boolean `" ++ toString b ++ "`"
  | .integer n => "integer `" ++ toString n ++ "`"
  | .float x => "floating point `" ++ x.text ++ "`"
  | .text s => "string " ++ Text.quoted s
  | .list => "sequence"
  | .mapping => "map"

end Found

def Wanted.message : Wanted → String
  | .text => "a string"
  | .bool => "a boolean"
  | .list => "a sequence"
  | .mapping => "a map"
  | .count => "usize"
  | .unit => "unit"
  | .choice => "string or map"
  | .oneEntry => "map with a single key"
  | .record name => "struct " ++ name

/-- A list of choices as a message shows it. -/
def choicesMessage : List String → String
  | [] => "there are no variants"
  | [a] => "expected `" ++ a ++ "`"
  | [a, b] => "expected `" ++ a ++ "` or `" ++ b ++ "`"
  | cs => "expected one of " ++ ", ".intercalate (cs.map fun c => "`" ++ c ++ "`")

def DecodeError.message : DecodeError → String
  | .wrongType found wanted => "invalid type: " ++ found.message ++ ", expected " ++ wanted.message
  | .wrongValue found wanted =>
    "invalid value: " ++ found.message ++ ", expected " ++ wanted.message
  | .missingField name => "missing field `" ++ name ++ "`"
  | .repeatedField name => "duplicate field `" ++ name ++ "`"
  | .shortRecord n record fields =>
    "invalid length " ++ toString n ++ ", expected struct " ++ record ++ " with " ++
      toString fields ++ (if fields = 1 then " element" else " elements")
  | .longRecord n => "invalid length " ++ toString n ++ ", expected fewer elements in array"
  | .unknownChoice name choices => "unknown variant `" ++ name ++ "`, " ++ choicesMessage choices
  | .notTimestamp s => "invalid timestamp " ++ Text.quoted s

/-- How strictly a source's records and choices are read. -/
structure DecodeRules where
  /-- A list may hold more elements than the record has fields; they are ignored. -/
  longRecords : Bool
  /-- A choice written as a mapping may carry this. -/
  isUnit : Document → Bool

namespace DecodeRules

/-- No element beyond the fields of a record; a choice carries null. -/
def strict : DecodeRules := ⟨false, Document.isNull⟩

/-- Further elements are ignored; a choice carries an empty list or mapping. -/
def lenient : DecodeRules :=
  ⟨true, fun d => match d with | .list [] => true | .mapping [] => true | _ => false⟩

end DecodeRules

/-- Reads a document as a value of a type. -/
abbrev Decoder (α : Type) := DecodeRules → Document → Except DecodeError α

namespace Decoder

/-- The error for a document of another kind. -/
def mismatch {α : Type} (d : Document) (wanted : Wanted) : Except DecodeError α :=
  .error (.wrongType (.ofDocument d) wanted)

def text : Decoder String
  | _, .text s => .ok s
  | _, d => mismatch d .text

def bool : Decoder Bool
  | _, .bool b => .ok b
  | _, d => mismatch d .bool

/-- A natural number of at most 64 bits. -/
def count : Decoder Nat
  | _, .integer n =>
    if 0 ≤ n ∧ n < Nat.pow 2 64 then .ok n.toNat else .error (.wrongValue (.integer n) .count)
  | _, d => mismatch d .count

/-- Any document, as it is. -/
def any : Decoder Document := fun _ d => .ok d

/-- Null stands for no value. -/
def option {α : Type} (decode : Decoder α) : Decoder (Option α) := fun rules d =>
  match d with
  | .null => .ok none
  | d => (decode rules d).map some

def list {α : Type} (decode : Decoder α) : Decoder (List α) := fun rules d =>
  match d with
  | .list items => items.mapM (decode rules)
  | d => mismatch d .list

/-- The entries of a mapping, in document order. -/
def pairs {α : Type} (decode : Decoder α) : Decoder (List (String × α)) := fun rules d =>
  match d with
  | .mapping entries => entries.mapM (fun (k, v) => do return (k, ← decode rules v))
  | d => mismatch d .mapping

/-- One of some named values: its name, or a mapping with the name as its only key. -/
def choice {α : Type} (choices : List (String × α)) : Decoder α := fun rules d =>
  let named (name : String) : Except DecodeError α :=
    match choices.lookup name with
    | some a => .ok a
    | none => .error (.unknownChoice name (choices.map (·.1)))
  match d with
  | .text name => named name
  | .mapping [(name, payload)] => do
    let a ← named name
    if rules.isUnit payload then .ok a else mismatch payload .unit
  | .mapping _ => .error (.wrongValue .mapping .oneEntry)
  | d => mismatch d .choice

end Decoder

/-! ## Records -/

/-- One field of a record of type `ρ`. -/
structure Field (ρ : Type) where
  /-- The spelling that messages use. -/
  name : String
  /-- Other accepted spellings. -/
  aliases : List String
  /-- A mapping must have the field. -/
  required : Bool
  /-- A list may end before the field. -/
  hasDefault : Bool
  /-- Reads the field into a record. -/
  read : DecodeRules → Document → ρ → Except DecodeError ρ

namespace Field

/-- A field that must be there. -/
def mandatory {ρ α : Type} (name : String) (decode : Decoder α) (set : α → ρ → ρ) : Field ρ :=
  ⟨name, [], true, false, fun rules d r => do return set (← decode rules d) r⟩

/-- A field that keeps its default when it is absent. -/
def defaulted {ρ α : Type} (name : String) (aliases : List String) (decode : Decoder α)
    (set : α → ρ → ρ) : Field ρ :=
  ⟨name, aliases, false, true, fun rules d r => do return set (← decode rules d) r⟩

/-- A field that a mapping may leave out, but a list may not. -/
def omissible {ρ α : Type} (name : String) (aliases : List String) (decode : Decoder α)
    (set : α → ρ → ρ) : Field ρ :=
  ⟨name, aliases, false, false, fun rules d r => do return set (← decode rules d) r⟩

def isNamed {ρ : Type} (f : Field ρ) (key : String) : Bool :=
  f.name == key || f.aliases.contains key

end Field

/-- How a record is written: its name in messages, the record before any field is read, and its
fields in declaration order. -/
structure Schema (ρ : Type) where
  name : String
  blank : ρ
  fields : List (Field ρ)

namespace Schema
variable {ρ : Type}

/-- Reads entries in document order. `seen` holds the names of the fields that have been read; a
second spelling of one of them is an error, an unknown key is ignored. -/
def readEntries (schema : Schema ρ) (rules : DecodeRules) :
    List String → ρ → Entries → Except DecodeError (List String × ρ)
  | seen, r, [] => .ok (seen, r)
  | seen, r, (key, d) :: rest =>
    match schema.fields.find? (·.isNamed key) with
    | none => schema.readEntries rules seen r rest
    | some f =>
      if seen.contains f.name then .error (.repeatedField f.name)
      else do
        let r ← f.read rules d r
        schema.readEntries rules (f.name :: seen) r rest

/-- The first field, in declaration order, that a mapping should have had. -/
def missing? (schema : Schema ρ) (seen : List String) : Option String :=
  (schema.fields.find? (fun f => f.required && !seen.contains f.name)).map (·.name)

/-- Reads items in declaration order. A list that ends early is an error unless every remaining
field has a default; what is left over when the fields end is returned. -/
def readItems (rules : DecodeRules) (short : Nat → DecodeError) :
    Nat → List (Field ρ) → ρ → List Document → Except DecodeError (ρ × List Document)
  | _, [], r, items => .ok (r, items)
  | n, f :: fs, r, [] =>
    if f.hasDefault then readItems rules short (n + 1) fs r [] else .error (short n)
  | n, f :: fs, r, d :: items => do
    let r ← f.read rules d r
    readItems rules short (n + 1) fs r items

/-- The decoder of a record. -/
def decode (schema : Schema ρ) : Decoder ρ := fun rules d =>
  match d with
  | .mapping entries => do
    let (seen, r) ← schema.readEntries rules [] schema.blank entries
    match schema.missing? seen with
    | some name => .error (.missingField name)
    | none => .ok r
  | .list items => do
    let short (n : Nat) := DecodeError.shortRecord n schema.name schema.fields.length
    let (r, rest) ← readItems rules short 0 schema.fields schema.blank items
    if rest.isEmpty || rules.longRecords then .ok r else .error (.longRecord items.length)
  | d => Decoder.mismatch d (.record schema.name)

end Schema
end KafkaTopology
