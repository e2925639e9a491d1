import KafkaTopology.Document.Toml.Scalar
import KafkaTopology.Document.Toml.Table
/-!
# TOML values

Keys, and values with their lists and tables in brackets. Between brackets breaks and comments may
stand wherever a blank may, and a comma may follow the last element.
-/
namespace KafkaTopology.Document.Toml

/-! ## Keys -/

/-- Whether a character may stand in a key without quotes. -/
def isKeyCharacter (c : Char) : Bool :=
  ('0' ≤ c && c ≤ '9') || ('A' ≤ c && c ≤ 'Z') || ('a' ≤ c && c ≤ 'z') || c == '_' || c == '-'

/-- One part of a key: a word, or a text between single or double quotes. -/
def keyPart? (cs : List Char) : Option (String × List Char) :=
  match cs with
  | '"' :: rest => basicText? (rest.length + 1) [] rest
  | '\'' :: rest => literalText? [] rest
  | _ =>
    let (word, rest) := cs.span isKeyCharacter
    if word.isEmpty then none else some (String.ofList word, rest)

/-- The parts of a key with points between them, and what follows them and their blanks. -/
def keyParts? : (fuel : Nat) → List Char → Option (List String × List Char)
  | 0, _ => none
  | fuel + 1, cs => do
    let (part, rest) ← keyPart? (skipBlanks cs)
    match skipBlanks rest with
    | '.' :: rest =>
      let (parts, rest) ← keyParts? fuel rest
      return (part :: parts, rest)
    | rest => return ([part], rest)

/-- Lists and tables in brackets may be nested this deep, and a key may have this many parts. -/
def nestingLimit : Nat := 80

/-- A key of one or more parts, and what follows it and its blanks. -/
def key? (cs : List Char) : Option (List String × List Char) :=
  (keyParts? (cs.length + 1) cs).filter (·.1.length ≤ nestingLimit)

/-! ## Values -/

mutual

/-- One value. `depth` counts the levels of brackets that are left. -/
def value? : (fuel depth : Nat) → List Char → Option (Document × List Char)
  | 0, _, _ => none
  | fuel + 1, depth, cs =>
    match cs with
    | [] => none
    | c :: rest =>
      if c == '"' || c == '\'' then (text? cs).map fun (s, rest) => (.text s, rest)
      else if c == '[' then if depth = 0 then none else items? fuel (depth - 1) [] rest
      else if c == '\x7b' then if depth = 0 then none else entries? fuel (depth - 1) [] rest
      else
        let (word, rest) := bareSpan cs
        (ofBare? word).map (·, rest)

def items? : (fuel depth : Nat) → List Document → List Char → Option (Document × List Char)
  | 0, _, _, _ => none
  | fuel + 1, depth, acc, cs =>
    match skipSpace (cs.length + 1) cs with
    | ']' :: rest => some (.list acc.reverse, rest)
    | cs => do
      let (d, rest) ← value? fuel depth cs
      match skipSpace (rest.length + 1) rest with
      | ',' :: rest => items? fuel depth (d :: acc) rest
      | ']' :: rest => return (.list (d :: acc).reverse, rest)
      | _ => none

def entries? : (fuel depth : Nat) → Table → List Char → Option (Document × List Char)
  | 0, _, _, _ => none
  | fuel + 1, depth, t, cs =>
    match skipSpace (cs.length + 1) cs with
    | '\x7d' :: rest => some (t.document, rest)
    | cs => do
      let (path, rest) ← key? cs
      match skipSpace (rest.length + 1) rest with
      | '=' :: rest =>
        let (d, rest) ← value? fuel depth (skipSpace (rest.length + 1) rest)
        let t ← t.assign? d true path
        match skipSpace (rest.length + 1) rest with
        | ',' :: rest => entries? fuel depth t rest
        | '\x7d' :: rest => return (t.document, rest)
        | _ => none
      | _ => none

end

end KafkaTopology.Document.Toml
