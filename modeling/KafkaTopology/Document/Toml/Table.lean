import KafkaTopology.Document
import KafkaTopology.OrderedSet
/-!
# TOML tables under construction

The entries of a TOML text arrive one by one, under a header or with a dotted key. A `Table` keeps
how each of its tables came about (`Origin`), because that decides what may still be added: a
header may define a table once and none that dotted keys made, a dotted key may not extend what a
header defined, and a value is never extended.
-/
namespace KafkaTopology.Document.Toml

/-- How a table came about. -/
inductive Origin where
  /-- By its own header, or as an element of a list of tables. -/
  | header
  /-- By the header of a table inside it. -/
  | implied
  /-- By a dotted key, or as one that a dotted key has added a value to. -/
  | dotted
deriving DecidableEq, Repr

/-- What a key stands for. A list of tables holds its elements in reverse. -/
inductive Node where
  | value (d : Document)
  | table (origin : Origin) (entries : List (String × Node))
  | tables (elements : List (List (String × Node)))

/-- The entries of a table. -/
abbrev Table := List (String × Node)

namespace Table

def get? (t : Table) (key : String) : Option Node := t.lookup key

def set (t : Table) (key : String) (n : Node) : Table :=
  match t with
  | [] => [(key, n)]
  | (k, m) :: rest => if k = key then (k, n) :: rest else (k, m) :: set rest key n

/-- Changes the table at the end of a path of headers: missing tables are implied, and a list of
tables stands for its last element. -/
def within? (f : Table → Option Table) : List String → Table → Option Table
  | [], t => f t
  | k :: ks, t =>
    match t.get? k with
    | none => (within? f ks []).map fun t' => t.set k (.table .implied t')
    | some (.table origin t') => (within? f ks t').map fun t' => t.set k (.table origin t')
    | some (.tables (t' :: earlier)) =>
      (within? f ks t').map fun t' => t.set k (.tables (t' :: earlier))
    | some _ => none

/-- Gives a key of this table a value, by a dotted key of several parts if there are any. Such a key
leads through dotted and implied tables and into the last element of a list of tables, and the table
below this one that it adds the value to counts as dotted from then on. `extensible` tells whether a
value may be added to this table itself. -/
def assign? (d : Document) : (extensible : Bool) → List String → Table → Option Table
  | _, [], _ => none
  | extensible, [k], t =>
    match t.get? k with
    | none => if extensible then some (t.set k (.value d)) else none
    | some _ => none
  | _, k :: ks, t =>
    match t.get? k with
    | none => (assign? d true ks []).map fun t' => t.set k (.table .dotted t')
    | some (.table .header _) => none
    | some (.table origin t') =>
      let origin := if ks.length = 1 then .dotted else origin
      (assign? d true ks t').map fun t' => t.set k (.table origin t')
    | some (.tables (t' :: earlier)) =>
      (assign? d false ks t').map fun t' => t.set k (.tables (t' :: earlier))
    | some _ => none

/-- Defines a table of this table by its header. -/
def open? (k : String) (t : Table) : Option Table :=
  match t.get? k with
  | none => some (t.set k (.table .header []))
  | some (.table .implied t') => some (t.set k (.table .header t'))
  | some _ => none

/-- Adds an element to a list of tables of this table. -/
def append? (k : String) (t : Table) : Option Table :=
  match t.get? k with
  | none => some (t.set k (.tables [[]]))
  | some (.tables elements) => some (t.set k (.tables ([] :: elements)))
  | some _ => none

end Table

/-! ## Documents -/

/-- Entries in the order of their keys. -/
def sorted (es : List (String × Document)) : List (String × Document) :=
  (OrderedMap.ofPairs es).toPairs

mutual

def Node.document : Node → Document
  | .value d => d
  | .table _ entries => .mapping (sorted (Node.entries entries))
  | .tables elements => .list (Node.elements elements).reverse

def Node.entries : List (String × Node) → List (String × Document)
  | [] => []
  | (k, n) :: rest => (k, n.document) :: Node.entries rest

def Node.elements : List (List (String × Node)) → List Document
  | [] => []
  | t :: rest => .mapping (sorted (Node.entries t)) :: Node.elements rest

end

/-- The document of a table: a mapping with its keys in increasing order. -/
def Table.document (t : Table) : Document := .mapping (sorted (Node.entries t))

end KafkaTopology.Document.Toml
