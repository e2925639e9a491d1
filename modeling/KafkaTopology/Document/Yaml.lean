import KafkaTopology.Document.Yaml.Event
import KafkaTopology.Document.Yaml.Resolution
import KafkaTopology.Document.Yaml.Token.Lexer
/-!
# Reading YAML

`Document.ofYaml?` reads a text with one YAML document; a text without any is null. The key of an
entry is the text of a scalar whatever its tag. Lists and mappings may be nested 128 deep, and
aliases may be followed a hundred times as often as the text has events.
-/
namespace KafkaTopology.Document.Yaml

/-! ## Anchors -/

/-- The anchors of the events so far. -/
structure Anchors where
  /-- The number of each name, the latest first. -/
  names : List (String × Nat)
  /-- How many different names there are. -/
  count : Nat
  /-- The position of the node of each number, the latest first. -/
  nodes : List (Nat × Nat)
  /-- The number that each event refers to; zero for one that is no alias. -/
  uses : Array Nat

namespace Anchors

def empty : Anchors := ⟨[], 0, [], #[]⟩

/-- Anchors a node at the next position. Its number is the count of the names before it, so a name
that is used again shares its number with the next new name, and the later node takes it. -/
def name (a : Anchors) (anchor : Option String) : Anchors :=
  let number := a.count
  let position := a.uses.size
  let a := { a with uses := a.uses.push 0 }
  match anchor with
  | none => a
  | some n =>
    { a with names := (n, number) :: a.names
             count := if (a.names.lookup n).isSome then number else number + 1
             nodes := (number, position) :: a.nodes }

/-- Takes in one event. An alias must be known by then. -/
def add? (a : Anchors) : Event → Option Anchors
  | .alias n => do
    let number ← a.names.lookup n
    return { a with uses := a.uses.push number }
  | .scalar p .. => some (a.name p.anchor)
  | .sequenceStart p => some (a.name p.anchor)
  | .mappingStart p => some (a.name p.anchor)
  | .sequenceEnd => some (a.name none)
  | .mappingEnd => some (a.name none)

end Anchors

/-- The events of a document with the node that each alias stands for. -/
structure Composition where
  events : Array Event
  anchors : Anchors

def Composition.ofEvents? (es : List Event) : Option Composition := do
  return ⟨es.toArray, ← es.foldlM Anchors.add? .empty⟩

namespace Composition

/-- The position of the node that the alias at a position stands for. -/
def target? (k : Composition) (position : Nat) : Option Nat := do
  k.anchors.nodes.lookup (← k.anchors.uses[position]?)

/-! ## Nodes -/

/-- Lists and mappings may be nested this deep. -/
def nestingLimit : Nat := 128

/-- Aliases may be followed this often. -/
def aliasLimit (k : Composition) : Nat := 100 * k.events.size

/-- Where a reader of nodes stands: the next position, and how many aliases it has followed. -/
structure Progress where
  position : Nat
  followed : Nat

/-- Counts one more alias. -/
def follow? (k : Composition) (p : Progress) : Option Progress :=
  if p.followed < k.aliasLimit then some ⟨p.position + 1, p.followed + 1⟩ else none

/-- Whether the tag of a node is one that a value may carry. -/
def admitsTag (p : Properties) : Bool := p.tag.all Tag.isAdmitted

/-- The text of the scalar that is the next key. -/
def key? (k : Composition) (p : Progress) : Option (String × Progress) := do
  match ← k.events[p.position]? with
  | .scalar _ s _ => return (s, { p with position := p.position + 1 })
  | .alias _ =>
    let p' ← k.follow? p
    match ← k.events[← k.target? p.position]? with
    | .scalar _ s _ => return (s, p')
    | _ => none
  | _ => none

mutual

/-- The document of the node at the place of a reader. `depth` counts the levels that are left. -/
def node? (k : Composition) : (fuel depth : Nat) → Progress → Option (Document × Progress)
  | 0, _, _ => none
  | fuel + 1, depth, p => do
    let next : Progress := { p with position := p.position + 1 }
    match ← k.events[p.position]? with
    | .scalar properties s isPlain =>
      let d ←
        match properties.tag with
        | some tag => ofTagged? tag s isPlain
        | none => if isPlain then ofPlain? s else some (.text s)
      return (d, next)
    | .alias _ =>
      let p' ← k.follow? p
      let (d, q) ← node? k fuel depth { p' with position := ← k.target? p.position }
      return (d, { q with position := p'.position })
    | .sequenceStart properties =>
      if depth = 0 || !admitsTag properties then none else items? k fuel (depth - 1) next []
    | .mappingStart properties =>
      if depth = 0 || !admitsTag properties then none else entries? k fuel (depth - 1) next []
    | _ => none

def items? (k : Composition) : (fuel depth : Nat) → Progress → List Document →
    Option (Document × Progress)
  | 0, _, _, _ => none
  | fuel + 1, depth, p, acc => do
    match ← k.events[p.position]? with
    | .sequenceEnd => return (.list acc.reverse, { p with position := p.position + 1 })
    | _ =>
      let (d, p) ← node? k fuel depth p
      items? k fuel depth p (d :: acc)

def entries? (k : Composition) : (fuel depth : Nat) → Progress → List (String × Document) →
    Option (Document × Progress)
  | 0, _, _, _ => none
  | fuel + 1, depth, p, acc => do
    match ← k.events[p.position]? with
    | .mappingEnd =>
      return (.mapping (Entries.ofPairs acc.reverse), { p with position := p.position + 1 })
    | _ =>
      let (key, p) ← k.key? p
      let (d, p) ← node? k fuel depth p
      entries? k fuel depth p ((key, d) :: acc)

end

/-- The document of all events. A reader is inside at most one list or mapping a level, and at one
of its nodes, so this fuel is enough. -/
def document? (k : Composition) : Option Document :=
  if k.events.isEmpty then some .null
  else
    (node? k ((nestingLimit + 2) * (k.events.size + 3)) nestingLimit ⟨0, 0⟩).map (·.1)

end Composition
end KafkaTopology.Document.Yaml

namespace KafkaTopology

def Document.ofYaml? (text : String) : Option Document := do
  let ts ← Yaml.Token.ofText? text.toList
  let es ← Yaml.Event.ofTokens? ts.toList
  (← Yaml.Composition.ofEvents? es).document?

end KafkaTopology
