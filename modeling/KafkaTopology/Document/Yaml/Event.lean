import KafkaTopology.Document.Yaml.Token
/-!
# YAML events

The nodes of a document in the order of the text: a collection is a start, its nodes and an end.
`Event.ofTokens?` checks the tokens against the grammar. An omitted node becomes an empty plain
scalar.
-/
namespace KafkaTopology.Document.Yaml

/-- What may stand before a node. -/
structure Properties where
  anchor : Option String
  /-- The full tag, its handle replaced. -/
  tag : Option Tag
deriving DecidableEq, Repr, Inhabited

def Properties.none : Properties := ⟨Option.none, Option.none⟩

/-- A part of a document. -/
inductive Event where
  | alias (name : String)
  | scalar (properties : Properties) (text : String) ( isPlain : Bool)
  | sequenceStart (properties : Properties)
  | sequenceEnd
  | mappingStart (properties : Properties)
  | mappingEnd
deriving DecidableEq, Repr, Inhabited

/-- What the handles of tags stand for. -/
abbrev Handles := List (String × Tag)

/-- The handles that need no directive. -/
def Handles.standard : Handles :=
  [("!", .ofString "!"), ("!!", .ofKind "")]

/-- The full form of a tag. -/
def TagText.resolve? (handles : Handles) (t : TagText) : Option Tag :=
  if t.handle.isEmpty then some t.suffix else (handles.lookup t.handle).map (· ++ t.suffix)

namespace Event

def omitted : Event := .scalar .none "" true

/-- An anchor and a tag in either order, each at most once. -/
def properties? (handles : Handles) : List Token → Option (Properties × List Token)
  | .anchor name :: .tag t :: rest => do
    return (⟨some name, some (← t.resolve? handles)⟩, rest)
  | .anchor name :: rest => some (⟨some name, none⟩, rest)
  | .tag t :: .anchor name :: rest => do
    return (⟨some name, some (← t.resolve? handles)⟩, rest)
  | .tag t :: rest => do return (⟨none, some (← t.resolve? handles)⟩, rest)
  | rest => some (.none, rest)

/-- Where a node stands. -/
inductive Position where
  /-- A node of its own or an item of a list. -/
  | block
  /-- The key or value of a mapping, where a list need not be indented. -/
  | entry
  /-- A node inside brackets. -/
  | flow
deriving DecidableEq, Repr

/-- Whether a node is omitted after the indicator of a list item. -/
def endsItem : List Token → Bool
  | .blockEntry :: _ => true
  | .blockEnd :: _ => true
  | _ => false

/-- Whether a node is omitted after the indicator of a key or value. -/
def endsEntry : List Token → Bool
  | .key :: _ => true
  | .value :: _ => true
  | .blockEnd :: _ => true
  | _ => false

/-- Whether a value is omitted inside brackets. -/
def endsFlow (closing : Token) : List Token → Bool
  | .flowEntry :: _ => true
  | t :: _ => t == closing
  | [] => false

mutual

/-- A node. The events are collected in reverse. Every call below takes a token or follows one
that has. -/
def node? (handles : Handles) : (fuel : Nat) → Position → List Token → List Event →
    Option (List Token × List Event)
  | 0, _, _, _ => none
  | fuel + 1, position, ts, acc =>
    match ts with
    | .alias name :: rest => some (rest, .alias name :: acc)
    | _ => do
      let (properties, rest) ← properties? handles ts
      match rest with
      | .scalar s isPlain :: rest => some (rest, .scalar properties s isPlain :: acc)
      | .flowSequenceStart :: rest =>
        flowItems? handles fuel true rest (.sequenceStart properties :: acc)
      | .flowMappingStart :: rest =>
        flowEntries? handles fuel true rest (.mappingStart properties :: acc)
      | t :: rest' =>
        if t == .blockEntry && position == .entry then
          plainItems? handles fuel rest (.sequenceStart properties :: acc)
        else if t == .blockSequenceStart && position != .flow then
          items? handles fuel rest' (.sequenceStart properties :: acc)
        else if t == .blockMappingStart && position != .flow then
          entries? handles fuel rest' (.mappingStart properties :: acc)
        else if properties == .none then none
        else some (rest, .scalar properties "" true :: acc)
      | [] => if properties == .none then none else some (rest, .scalar properties "" true :: acc)

def items? (handles : Handles) : (fuel : Nat) → List Token → List Event →
    Option (List Token × List Event)
  | 0, _, _ => none
  | fuel + 1, ts, acc =>
    match ts with
    | .blockEntry :: rest =>
      if endsItem rest then items? handles fuel rest (omitted :: acc)
      else do
        let (rest, acc) ← node? handles fuel .block rest acc
        items? handles fuel rest acc
    | .blockEnd :: rest => some (rest, .sequenceEnd :: acc)
    | _ => none

/-- The items of a list at the indentation of the mapping around it. -/
def plainItems? (handles : Handles) : (fuel : Nat) → List Token → List Event →
    Option (List Token × List Event)
  | 0, _, _ => none
  | fuel + 1, ts, acc =>
    match ts with
    | .blockEntry :: rest =>
      if endsItem rest || endsEntry rest then plainItems? handles fuel rest (omitted :: acc)
      else do
        let (rest, acc) ← node? handles fuel .block rest acc
        plainItems? handles fuel rest acc
    | _ => some (ts, .sequenceEnd :: acc)

def entries? (handles : Handles) : (fuel : Nat) → List Token → List Event →
    Option (List Token × List Event)
  | 0, _, _ => none
  | fuel + 1, ts, acc =>
    match ts with
    | .key :: rest => do
      let (rest, acc) ←
        if endsEntry rest then some (rest, omitted :: acc)
        else node? handles fuel .entry rest acc
      let (rest, acc) ←
        match rest with
        | .value :: rest =>
          if endsEntry rest then some (rest, omitted :: acc)
          else node? handles fuel .entry rest acc
        | _ => some (rest, omitted :: acc)
      entries? handles fuel rest acc
    | .blockEnd :: rest => some (rest, .mappingEnd :: acc)
    | _ => none

/-- The items of a list in brackets, after its bracket (`first`) or after an item. A key among
them makes a mapping of one entry. -/
def flowItems? (handles : Handles) : (fuel : Nat) → (first : Bool) → List Token → List Event →
    Option (List Token × List Event)
  | 0, _, _, _ => none
  | fuel + 1, first, ts, acc =>
    match ts with
    | .flowSequenceEnd :: rest => some (rest, .sequenceEnd :: acc)
    | _ => do
      let ts ←
        if first then some ts
        else
          match ts with
          | .flowEntry :: rest => some rest
          | _ => none
      match ts with
      | .flowSequenceEnd :: rest => some (rest, .sequenceEnd :: acc)
      | .key :: rest => do
        let acc := .mappingStart .none :: acc
        let (rest, acc) ←
          match rest with
          | .value :: after => some (after, omitted :: acc)
          | .flowEntry :: after => some (after, omitted :: acc)
          | .flowSequenceEnd :: after => some (after, omitted :: acc)
          | _ => node? handles fuel .flow rest acc
        let (rest, acc) ← flowValue? handles fuel .flowSequenceEnd rest acc
        flowItems? handles fuel false rest (.mappingEnd :: acc)
      | _ => do
        let (rest, acc) ← node? handles fuel .flow ts acc
        flowItems? handles fuel false rest acc

/-- The value after a key in brackets; without a colon it is omitted. -/
def flowValue? (handles : Handles) : (fuel : Nat) → (closing : Token) → List Token →
    List Event → Option (List Token × List Event)
  | 0, _, _, _ => none
  | fuel + 1, closing, ts, acc =>
    match ts with
    | .value :: rest =>
      if endsFlow closing rest then some (rest, omitted :: acc)
      else node? handles fuel .flow rest acc
    | _ => some (ts, omitted :: acc)

/-- The entries of a mapping in braces, after its brace (`first`) or after an entry. A node
without a colon is a key without a value. -/
def flowEntries? (handles : Handles) : (fuel : Nat) → (first : Bool) → List Token → List Event →
    Option (List Token × List Event)
  | 0, _, _, _ => none
  | fuel + 1, first, ts, acc =>
    match ts with
    | .flowMappingEnd :: rest => some (rest, .mappingEnd :: acc)
    | _ => do
      let ts ←
        if first then some ts
        else
          match ts with
          | .flowEntry :: rest => some rest
          | _ => none
      match ts with
      | .flowMappingEnd :: rest => some (rest, .mappingEnd :: acc)
      | .key :: rest => do
        let (rest, acc) ←
          if endsFlow .flowMappingEnd rest || rest.head? == some .value then
            some (rest, omitted :: acc)
          else node? handles fuel .flow rest acc
        let (rest, acc) ← flowValue? handles fuel .flowMappingEnd rest acc
        flowEntries? handles fuel false rest acc
      | _ => do
        let (rest, acc) ← node? handles fuel .flow ts acc
        flowEntries? handles fuel false rest (omitted :: acc)

end

/-! ## Documents -/

/-- The directives before a document: the handles that they declare, and what follows. A version
may be given once and must be 1.1 or 1.2; a handle may be declared once. -/
def directives? (version : Bool) (declared : Handles) :
    List Token → Option (Handles × Bool × List Token)
  | .version major minor :: rest =>
    if version || major != 1 || (minor != 1 && minor != 2) then none
    else directives? true declared rest
  | .tagHandle handle replacement :: rest =>
    if (declared.lookup handle).isSome then none
    else directives? version ((handle, replacement) :: declared) rest
  | rest => some (declared ++ Handles.standard, version || !declared.isEmpty, rest)

/-- Whether the content of a document is omitted after its marker. -/
def endsDocument : List Token → Bool
  | [] => true
  | .documentStart :: _ => true
  | .documentEnd :: _ => true
  | .version .. :: _ => true
  | .tagHandle .. :: _ => true
  | _ => false

/-- The events of the only document of a text; none at all without tokens. After the document only
end markers may follow. -/
def ofTokens? (ts : List Token) : Option (List Event) := do
  let fuel := 3 * ts.length + 3
  let (handles, announced, rest) ← directives? false [] ts
  let (rest, acc) ←
    match rest with
    | .documentStart :: rest =>
      if endsDocument rest then some (rest, [omitted]) else node? handles fuel .block rest []
    | [] => if announced then none else some ([], [])
    | _ => if announced then none else node? handles fuel .block rest []
  if rest.all (· == .documentEnd) then some acc.reverse else none

end Event
end KafkaTopology.Document.Yaml
