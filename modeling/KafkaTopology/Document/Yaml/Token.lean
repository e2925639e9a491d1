import KafkaTopology.Document.Yaml.Scalar
import KafkaTopology.Document.Yaml.Tag
/-!
# YAML tokens

The lexemes of a YAML text, with the starts and ends of blocks that its indentation implies. This
module holds the tokens and the readers of single ones; `Token.Lexer` finds where each begins.
-/
namespace KafkaTopology.Document.Yaml

/-- The tag of a node as it is written. A tag in angle brackets has an empty handle; a lone `!` has
an empty handle and itself as its suffix. -/
structure TagText where
  handle : String
  suffix : Tag
deriving DecidableEq, Repr, Inhabited

/-- A lexeme of a YAML text. -/
inductive Token where
  | version (major minor : Nat)
  | tagHandle (handle : String) (replacement : Tag)
  | documentStart
  | documentEnd
  | blockSequenceStart
  | blockMappingStart
  | blockEnd
  | flowSequenceStart
  | flowSequenceEnd
  | flowMappingStart
  | flowMappingEnd
  | blockEntry
  | flowEntry
  | key
  | value
  | alias (name : String)
  | anchor (name : String)
  | tag (text : TagText)
  | scalar (text : String) ( isPlain : Bool)
deriving DecidableEq, Repr, Inhabited

namespace Token

/-! ## Anchors and aliases -/

def name? (c : Cursor) : Option (String × Cursor) :=
  let (name, c) := c.span isWord
  let ended :=
    match c.rest with
    | [] => true
    | x :: _ => isSpace x || "?:,]\x7d%@\x60".toList.contains x
  if name.isEmpty || !ended then none else some (String.ofList name, c)

/-! ## Tags -/

/-- The characters of a tag outside words; the last three only where no flow can end it. -/
def isTagMark (wide : Bool) (c : Char) : Bool :=
  ";/?:@&=+$.!~*'()".toList.contains c || (wide && ",[]".toList.contains c)

def octet? : List Char → Option (UInt8 × List Char)
  | '%' :: a :: b :: rest => (Text.natural? 16 [a, b]).map (·.toUInt8, rest)
  | _ => none

/-- How many octets the UTF-8 form of a character has that begins with this one. -/
def width? (first : UInt8) : Option Nat :=
  if first < 0x80 then some 1
  else if first / 32 == 6 then some 2
  else if first / 16 == 14 then some 3
  else if first / 8 == 30 then some 4
  else none

/-- The octets of a character that are all written with percent signs. Each has to be of the class
for its place, but there may be no character that has them. -/
def escapedOctets? (cs : List Char) : Option Tag := do
  let (first, rest) ← octet? cs
  let follow := fun (state : Tag × List Char) (_ : Unit) => do
    let (n, rest) ← octet? state.2
    if n / 64 == 2 then some (state.1 ++ [n], rest) else none
  let (octets, _) ← (List.replicate ((← width? first) - 1) ()).foldlM follow ([first], rest)
  return octets

/-- The octets of a tag, collected in reverse. -/
def tagOctets? (wide : Bool) : (fuel : Nat) → Tag → Cursor → Option (Tag × Cursor)
  | 0, _, _ => none
  | fuel + 1, acc, c =>
    match c.rest with
    | '%' :: _ => do
      let octets ← escapedOctets? c.rest
      tagOctets? wide fuel (octets.reverse ++ acc) (c.skip (3 * octets.length))
    | x :: _ =>
      if isWord x || isTagMark wide x then tagOctets? wide fuel (x.toUInt8 :: acc) (c.skip 1)
      else some (acc, c)
    | [] => some (acc, c)

/-- The rest of a tag, which may be empty only after a beginning. An octet zero ends what it
says. -/
def tagRest? (wide : Bool) (beginning : String) (mayBeEmpty : Bool) (c : Cursor) :
    Option (Tag × Cursor) := do
  let (acc, c') ← tagOctets? wide (c.rest.length + 1) (Tag.ofString beginning).reverse c
  if c'.index == c.index && !mayBeEmpty then none
  else return (acc.reverse.takeWhile (· != 0), c')

/-- A handle: an exclamation mark, word characters, and a second mark if there is one. -/
def handle? (c : Cursor) : Option (String × Cursor) :=
  match c.rest with
  | '!' :: _ =>
    let (word, c) := (c.skip 1).span isWord
    if c.rest.head? == some '!' then some (String.ofList ('!' :: word ++ ['!']), c.skip 1)
    else some (String.ofList ('!' :: word), c)
  | _ => none

/-- Whether a handle has a mark at either end. -/
def isClosedHandle (handle : String) : Bool :=
  handle.length ≥ 2 && handle.toList.getLast? == some '!'

/-- A tag. Inside brackets a comma may follow it, otherwise only the end of a word. -/
def tag? (flow : Bool) (c : Cursor) : Option (TagText × Cursor) := do
  let (s, c) ←
    match c.rest with
    | '!' :: '<' :: _ => do
      let (suffix, c) ← tagRest? true "" false (c.skip 2)
      if c.rest.head? == some '>' then some ((⟨"", suffix⟩ : TagText), c.skip 1) else none
    | _ => do
      let (handle, c) ← handle? c
      if isClosedHandle handle then
        let (suffix, c) ← tagRest? false "" false c
        some (⟨handle, suffix⟩, c)
      else
        let (suffix, c) ← tagRest? false (String.ofList (handle.toList.drop 1)) true c
        some (if suffix.isEmpty then ⟨"", .ofString "!"⟩ else ⟨"!", suffix⟩, c)
  if endsWord c.rest || (flow && c.rest.head? == some ',') then some (s, c) else none

/-! ## Directives -/

def number? (c : Cursor) : Option (Nat × Cursor) :=
  let (digits, c) := c.span Text.isDigit
  if 9 < digits.length then none else (Text.natural? 10 digits).map (·, c)

/-- A directive after its percent sign, to the end of its line. -/
def directive? (c : Cursor) : Option (Token × Cursor) := do
  let (name, c) := c.span isWord
  if !endsWord c.rest then none
  else
    let c := c.dropWhile isBlank
    match String.ofList name with
    | "YAML" =>
      let (major, c) ← number? c
      if c.rest.head? == some '.' then
        let (minor, c) ← number? (c.skip 1)
        return (.version major minor, ← c.skipLineEnd?)
      else none
    | "TAG" =>
      let (handle, c) ← handle? c
      if (isClosedHandle handle || handle == "!") && c.rest.head?.any isBlank then
        let (replacement, c) ← tagRest? true "" false (c.dropWhile isBlank)
        if endsWord c.rest then return (.tagHandle handle replacement, ← c.skipLineEnd?) else none
      else none
    | _ => none

end Token
end KafkaTopology.Document.Yaml
