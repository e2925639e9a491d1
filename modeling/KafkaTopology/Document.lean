import KafkaTopology.Binary64
/-!
# Documents

The tree that the JSON, YAML and TOML readers produce and that the typed decoders consume. A
mapping keeps its entries in the order of the text; a repeated key keeps its first position and
takes its last value (`Entries.insert`).
-/
namespace KafkaTopology

/-- A value of a configuration language. -/
inductive Document where
  | null
  | bool (value : Bool)
  | integer (value : Int)
  | float (value : Binary64)
  | text (value : String)
  | list (items : List Document)
  | mapping (entries : List (String × Document))
deriving Repr, BEq, Inhabited

/-- The entries of a mapping, in document order. -/
abbrev Entries := List (String × Document)

namespace Entries

def get? (key : String) : Entries → Option Document
  | [] => none
  | (k, v) :: rest => if k = key then some v else get? key rest

/-- Sets a key: a known key keeps its position, a new one comes last. -/
def insert (key : String) (value : Document) : Entries → Entries
  | [] => [(key, value)]
  | (k, v) :: rest =>
    if k = key then (k, value) :: rest else (k, v) :: insert key value rest

/-- The entries that remain when later spellings of a key overwrite earlier ones. -/
def ofPairs (pairs : List (String × Document)) : Entries :=
  pairs.foldl (fun es (k, v) => es.insert k v) []

def keys (es : Entries) : List String := es.map (·.1)

end Entries

namespace Document

def isNull : Document → Bool
  | .null => true
  | _ => false

def get? (key : String) : Document → Option Document
  | .mapping es => Entries.get? key es
  | _ => none

/-- The value of a key of a mapping, unless it is null. -/
def getPresent? (d : Document) (key : String) : Option Document :=
  match d.get? key with
  | some .null => none
  | other => other

/-! ## Interchange -/

mutual

/-- The document with every value that JSON has no form for replaced by null, if its integers fit
a signed or an unsigned word of 64 bits. -/
def interchange? : Document → Option Document
  | .integer i => if -(Nat.pow 2 63) ≤ i ∧ i < Nat.pow 2 64 then some (.integer i) else none
  | .float x => some (if x.isFinite then .float x else .null)
  | .list items => (interchangeItems? items).map .list
  | .mapping entries => (interchangeEntries? entries).map .mapping
  | d => some d

/-- The same for the items of a list. -/
def interchangeItems? : List Document → Option (List Document)
  | [] => some []
  | d :: rest => do return (← interchange? d) :: (← interchangeItems? rest)

/-- The same for the entries of a mapping. -/
def interchangeEntries? : List (String × Document) → Option (List (String × Document))
  | [] => some []
  | (k, d) :: rest => do return (k, ← interchange? d) :: (← interchangeEntries? rest)

end

end Document
end KafkaTopology
