import KafkaTopology.Document.Json.Token
/-!
# Reading JSON

`Document.ofJson?` reads one JSON value with nothing after it. Lists and mappings may be nested
127 deep. A repeated key keeps its first position and takes its last value.
-/
namespace KafkaTopology.Document.Json

/-- Lists and mappings within one another may not reach this number. -/
def nestingLimit : Nat := 128

mutual

/-- One value. `depth` counts the levels that are left, this one included. -/
def value? : (fuel depth : Nat) → List Token → Option (Document × List Token)
  | 0, _, _ => none
  | _, _, [] => none
  | fuel + 1, depth, t :: rest =>
    match t with
    | .atom d => some (d, rest)
    | .text s => some (.text s, rest)
    | .openList =>
      if depth ≤ 1 then none
      else
        match rest with
        | .closeList :: rest => some (.list [], rest)
        | _ => do
          let (items, rest) ← items? fuel (depth - 1) rest
          return (.list items, rest)
    | .openMapping =>
      if depth ≤ 1 then none
      else
        match rest with
        | .closeMapping :: rest => some (.mapping [], rest)
        | _ => do
          let (pairs, rest) ← pairs? fuel (depth - 1) rest
          return (.mapping (Entries.ofPairs pairs), rest)
    | _ => none

/-- The items of a list up to its closing bracket; at least one. -/
def items? : (fuel depth : Nat) → List Token → Option (List Document × List Token)
  | 0, _, _ => none
  | fuel + 1, depth, ts => do
    let (d, rest) ← value? fuel depth ts
    match rest with
    | .comma :: rest => do
      let (ds, rest) ← items? fuel depth rest
      return (d :: ds, rest)
    | .closeList :: rest => return ([d], rest)
    | _ => none

/-- The entries of a mapping up to its closing brace; at least one. -/
def pairs? : (fuel depth : Nat) → List Token → Option (List (String × Document) × List Token)
  | 0, _, _ => none
  | fuel + 1, depth, ts =>
    match ts with
    | .text key :: .colon :: rest => do
      let (d, rest) ← value? fuel depth rest
      match rest with
      | .comma :: rest => do
        let (ps, rest) ← pairs? fuel depth rest
        return ((key, d) :: ps, rest)
      | .closeMapping :: rest => return ([(key, d)], rest)
      | _ => none
    | _ => none

end

/-- The value that a token sequence spells. Every nested call has dropped a token or follows one
that has, so twice the number of tokens is enough fuel. -/
def document? (ts : List Token) : Option Document :=
  match value? (2 * ts.length + 1) nestingLimit ts with
  | some (d, []) => some d
  | _ => none

end KafkaTopology.Document.Json

namespace KafkaTopology

def Document.ofJson? (text : String) : Option Document := do
  let cs := text.toList
  let ts ← Json.tokens? (cs.length + 1) cs
  Json.document? ts

end KafkaTopology
