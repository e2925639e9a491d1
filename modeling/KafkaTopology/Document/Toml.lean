import KafkaTopology.Document.Toml.Value
/-!
# Reading TOML

`Document.ofToml?` reads a TOML text. The keys of each table come in increasing order, because
their order in the text has no meaning.
-/
namespace KafkaTopology.Document.Toml

/-- A line of a TOML text that says something. A value may take several lines of text. -/
inductive Statement where
  /-- The header of a table. -/
  | opens (path : List String)
  /-- The header of an element of a list of tables. -/
  | appends (path : List String)
  /-- A key and its value. -/
  | assigns (path : List String) (d : Document)
deriving BEq, Repr, Inhabited

def closing? (brackets : List Char) (cs : List Char) : Option (List Char) :=
  if brackets.isPrefixOf cs then lineEnd? (cs.drop brackets.length) else none

/-- The statement at the beginning of a line, and what follows its line. -/
def statement? (cs : List Char) : Option (Statement × List Char) :=
  match cs with
  | '[' :: '[' :: rest => do
    let (path, rest) ← key? rest
    return (.appends path, ← closing? [']', ']'] rest)
  | '[' :: rest => do
    let (path, rest) ← key? rest
    return (.opens path, ← closing? [']'] rest)
  | _ => do
    let (path, rest) ← key? cs
    match rest with
    | '=' :: rest =>
      let (d, rest) ← value? (rest.length + 1) nestingLimit (skipBlanks rest)
      return (.assigns path d, ← lineEnd? rest)
    | _ => none

/-- The statements of a text, collected in reverse. Every step takes a character. -/
def statements? : (fuel : Nat) → List Statement → List Char → Option (List Statement)
  | 0, _, _ => none
  | fuel + 1, acc, cs =>
    match skipSpace (cs.length + 1) cs with
    | [] => some acc.reverse
    | cs => do
      let (s, rest) ← statement? cs
      statements? fuel (s :: acc) rest

/-- What the statements have built so far, and the path of the last header. -/
structure Draft where
  root : Table
  path : List String

namespace Draft

def empty : Draft := ⟨[], []⟩

/-- Changes the table that holds the last key of a path. -/
def atLast? (f : String → Table → Option Table) (path : List String) (root : Table) :
    Option Table := do
  root.within? (f (← path.getLast?)) path.dropLast

def add? (draft : Draft) : Statement → Option Draft
  | .opens path => do return ⟨← atLast? Table.open? path draft.root, path⟩
  | .appends path => do return ⟨← atLast? Table.append? path draft.root, path⟩
  | .assigns path d => do
    return { draft with root := ← draft.root.within? (·.assign? d true path) draft.path }

end Draft

def characters (text : String) : List Char :=
  match text.toList with
  | '\ufeff' :: rest => rest
  | cs => cs

end KafkaTopology.Document.Toml

namespace KafkaTopology

def Document.ofToml? (text : String) : Option Document := do
  let cs := Toml.characters text
  let statements ← Toml.statements? (cs.length + 1) [] cs
  return (← statements.foldlM Toml.Draft.add? .empty).root.document

end KafkaTopology
