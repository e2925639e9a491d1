import KafkaTopology.Document.Toml.Value
import KafkaTopology.Binary64.Shortest
/-!
# Writing TOML

`Document.toToml` writes a mapping with one statement per entry. Nested mappings are written in
braces, and every item of a list is on a line of its own, so that files differ line by line as
their entries do. TOML has no null: an entry that is null is left out.
-/
namespace KafkaTopology.Document.Toml

def hexDigit (n : Nat) : Char :=
  if n < 10 then Char.ofNat (48 + n) else Char.ofNat (55 + n)

/-- The written form of one character of a text. Control characters are escaped. -/
def escapeCharacter (c : Char) : List Char :=
  match c with
  | '"' => ['\\', '"']
  | '\\' => ['\\', '\\']
  | '\n' => ['\\', 'n']
  | '\r' => ['\\', 'r']
  | '\t' => ['\\', 't']
  | '\x08' => ['\\', 'b']
  | '\x0c' => ['\\', 'f']
  | c =>
    if isPrintable c then [c]
    else ['\\', 'u', '0', '0', hexDigit (c.toNat / 16), hexDigit (c.toNat % 16)]

def writtenText (s : String) : List Char := '"' :: (s.toList.flatMap escapeCharacter ++ ['"'])

/-- A key: bare if its characters admit that. -/
def writtenKey (key : String) : List Char :=
  let cs := key.toList
  if !cs.isEmpty && cs.all isKeyCharacter then cs else writtenText key

def writtenFloat : Binary64 → String
  | .nan => "nan"
  | .infinite negative => if negative then "-inf" else "inf"
  | x => x.text

mutual

/-- A value. A null where a value is needed is written as an empty table. -/
def written : Document → List Char
  | .null => ['\x7b', '\x7d']
  | .bool b => (toString b).toList
  | .integer i => (toString i).toList
  | .float x => (writtenFloat x).toList
  | .text s => writtenText s
  | .list items => '[' :: (writtenItems items ++ (if items.isEmpty then [']'] else ['\n', ']']))
  | .mapping entries => '\x7b' :: (writtenEntries true entries ++ ['\x7d'])

def writtenItems : List Document → List Char
  | [] => []
  | d :: rest => '\n' :: ' ' :: ' ' :: (written d ++ ',' :: writtenItems rest)

/-- The entries of a table in braces, with commas between them. -/
def writtenEntries (first : Bool) : List (String × Document) → List Char
  | [] => []
  | (k, d) :: rest =>
    if d.isNull then writtenEntries first rest
    else
      (if first then [] else [',', ' ']) ++ writtenKey k ++ ' ' :: '=' :: ' ' :: written d ++
        writtenEntries false rest

end

/-- The statements of a mapping, each with the end of its line. -/
def writtenStatements : List (String × Document) → List Char
  | [] => []
  | (k, d) :: rest =>
    if d.isNull then writtenStatements rest
    else writtenKey k ++ ' ' :: '=' :: ' ' :: written d ++ '\n' :: writtenStatements rest

end KafkaTopology.Document.Toml

namespace KafkaTopology

/-- The TOML text of a mapping; any other document has none. -/
def Document.toToml : Document → String
  | .mapping entries => String.ofList (Document.Toml.writtenStatements entries)
  | _ => ""

end KafkaTopology
