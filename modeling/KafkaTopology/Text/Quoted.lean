import KafkaTopology.Text.Printable
/-!
# Quoted text in messages

`Text.quoted` shows a text so that it fits one line and every unusual character is visible: the
common controls have letters, and what cannot be printed by itself is written as `\u` with its
code in braces. `Text.quotedOctets` does the same for octets that need not be a text.
-/
namespace KafkaTopology.Text

/-- The shown form of one character. -/
def shownChar (c : Char) : List Char :=
  match c with
  | '"' => ['\\', '"']
  | '\\' => ['\\', '\\']
  | '\n' => ['\\', 'n']
  | '\r' => ['\\', 'r']
  | '\t' => ['\\', 't']
  | '\x00' => ['\\', '0']
  | c =>
    if isPrintable c then [c]
    else ['\\', 'u', '\x7b'] ++ Nat.toDigits 16 c.toNat ++ ['\x7d']

/-- A text in double quotes, with what is not printable escaped. -/
def quoted (s : String) : String :=
  String.ofList ('"' :: (s.toList.flatMap shownChar ++ ['"']))

/-! ## Octets -/

/-- The first character of octets, with the octets after it. -/
def firstCharacter? (bytes : List UInt8) : Option (Char × List UInt8) :=
  [1, 2, 3, 4].findSome? fun size => do
    let s ← String.fromUTF8? (bytes.take size).toByteArray
    return (← s.toList.head?, bytes.drop size)

/-- Octets with what is not printable escaped. One that belongs to no character is written as `\x`
with its two digits. Every step takes an octet, so fuel of the number of octets is enough. -/
def shownOctets : (fuel : Nat) → List UInt8 → List Char
  | 0, _ => []
  | _, [] => []
  | fuel + 1, byte :: rest =>
    match firstCharacter? (byte :: rest) with
    | some ('\'', rest) => '\\' :: '\'' :: shownOctets fuel rest
    | some (c, rest) => shownChar c ++ shownOctets fuel rest
    | none =>
      let digits := (Nat.toDigits 16 byte.toNat).map Char.toUpper
      '\\' :: 'x' :: digits ++ shownOctets fuel rest

/-- Octets in double quotes, with what is not printable escaped. -/
def quotedOctets (bytes : List UInt8) : String :=
  String.ofList ('"' :: (shownOctets bytes.length bytes ++ ['"']))

end KafkaTopology.Text
