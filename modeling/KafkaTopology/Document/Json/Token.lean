import KafkaTopology.Document
import KafkaTopology.Text.Digit
/-!
# JSON tokens

The lexemes of a JSON text. Numbers already have their value: an integer that fits 64 bits stays
an integer, `-0` and everything else is a double (`Numeral.value?`).
-/
namespace KafkaTopology.Document.Json

/-- A lexeme of a JSON text. -/
inductive Token where
  | openList
  | closeList
  | openMapping
  | closeMapping
  | comma
  | colon
  | text (value : String)
  | atom (value : Document)
deriving BEq, Inhabited

/-- Whether a character may stand between tokens. -/
def isBlank (c : Char) : Bool := c == ' ' || c == '\n' || c == '\t' || c == '\r'

/-! ## Texts -/

def hex4? (cs : List Char) : Option (Nat × List Char) :=
  if (cs.take 4).length < 4 then none else (Text.natural? 16 (cs.take 4)).map (·, cs.drop 4)

/-- The character of an escape that stands for itself by one letter. -/
def simpleEscape? (c : Char) : Option Char :=
  match c with
  | '"' => some '"'
  | '\\' => some '\\'
  | '/' => some '/'
  | 'b' => some '\x08'
  | 'f' => some '\x0c'
  | 'n' => some '\n'
  | 'r' => some '\r'
  | 't' => some '\t'
  | _ => none

/-- What follows `\u`: one unit, or two that form a surrogate pair. A lone surrogate is refused. -/
def unicodeEscape? (cs : List Char) : Option (Char × List Char) := do
  let (n, rest) ← hex4? cs
  if 0xDC00 ≤ n ∧ n < 0xE000 then none
  else if 0xD800 ≤ n ∧ n < 0xDC00 then
    match rest with
    | '\\' :: 'u' :: rest =>
      let (m, rest) ← hex4? rest
      if 0xDC00 ≤ m ∧ m < 0xE000 then
        some (Char.ofNat (0x10000 + (n - 0xD800) * 0x400 + (m - 0xDC00)), rest)
      else none
    | _ => none
  else some (Char.ofNat n, rest)

/-- The rest of a text after its opening quote, collected in reverse. -/
def scanText : Nat → List Char → List Char → Option (String × List Char)
  | 0, _, _ => none
  | _, _, [] => none
  | fuel + 1, acc, c :: rest =>
    if c == '"' then some (String.ofList acc.reverse, rest)
    else if c == '\\' then
      match rest with
      | 'u' :: rest => do
        let (c, rest) ← unicodeEscape? rest
        scanText fuel (c :: acc) rest
      | e :: rest => do
        let c ← simpleEscape? e
        scanText fuel (c :: acc) rest
      | [] => none
    else if c.toNat < 32 then none
    else scanText fuel (c :: acc) rest

/-! ## Numbers -/

/-- The greatest significand that is collected digit by digit. -/
def significandLimit : Nat := Nat.pow 2 64 - 1

/-- The greatest exponent that is collected digit by digit. -/
def exponentLimit : Nat := Nat.pow 2 31 - 1

/-- The double of a collected significand and exponent: the significand is rounded, then scaled by
a rounded power of ten of at most 308. Overflow is an error. The steps shrink `exponent`. -/
def scale? (f : Binary64) (exponent : Int) : Nat → Option Binary64
  | 0 => some f
  | fuel + 1 =>
    if exponent.natAbs ≤ 308 then
      if 0 ≤ exponent then
        let f := f.scaleUp exponent.toNat
        if f.isFinite then some f else none
      else some (f.scaleDown (-exponent).toNat)
    else if f.isZero then some f
    else if 0 ≤ exponent then none
    else scale? (f.scaleDown 308) (exponent + 308) fuel

/-- The signed double of a significand and an exponent. After four reductions by `10 ^ 308` any
64-bit significand has become zero. -/
def double? (negative : Bool) (significand : Nat) (exponent : Int) : Option Document := do
  let f ← scale? (Binary64.ofNat significand) exponent 6
  return .float (if negative then f.neg else f)

def dropDigits (cs : List Char) : List Char := cs.dropWhile Text.isDigit

/-- Digits of an exponent; `none` in the value when they exceed `exponentLimit`. -/
def scanExponentDigits : Nat → List Char → Option Nat × List Char
  | n, c :: rest =>
    match Text.digit? 10 c with
    | some d => if exponentLimit < n * 10 + d then (none, dropDigits (c :: rest))
                else scanExponentDigits (n * 10 + d) rest
    | none => (some n, c :: rest)
  | n, [] => (some n, [])

def scanExponent (negative : Bool) (significand : Nat) (start : Int) (cs : List Char) :
    Option (Document × List Char) :=
  let (down, cs) : Bool × List Char :=
    match cs with
    | '+' :: rest => (false, rest)
    | '-' :: rest => (true, rest)
    | _ => (false, cs)
  match cs with
  | [] => none
  | c :: _ =>
    if !Text.isDigit c then none
    else
      match scanExponentDigits 0 cs with
      | (some e, rest) => do
        let clamp (x : Int) : Int := max (-(Nat.pow 2 31)) (min (Nat.pow 2 31 - 1) x)
        let d ← double? negative significand (clamp (if down then start - e else start + e))
        return (d, rest)
      | (none, rest) =>
        if significand ≠ 0 ∧ down = false then none
        else some (.float (Binary64.zero negative), rest)

/-- The end of a number that has a fraction or an exponent. -/
def finishDouble (negative : Bool) (significand : Nat) (exponent : Int) (cs : List Char) :
    Option (Document × List Char) :=
  match cs with
  | 'e' :: rest => scanExponent negative significand exponent rest
  | 'E' :: rest => scanExponent negative significand exponent rest
  | _ => do
    let d ← double? negative significand exponent
    return (d, cs)

/-- The digits of a fraction. Those that would exceed the limit of the significand are dropped. -/
def scanFraction (negative : Bool) : Nat → Int → Bool → List Char → Option (Document × List Char)
  | significand, exponent, any, c :: rest =>
    match Text.digit? 10 c with
    | some d =>
      if significandLimit < significand * 10 + d then
        finishDouble negative significand exponent (dropDigits (c :: rest))
      else scanFraction negative (significand * 10 + d) (exponent - 1) true rest
    | none => if any then finishDouble negative significand exponent (c :: rest) else none
  | significand, exponent, any, [] =>
    if any then finishDouble negative significand exponent [] else none

/-- The further digits of an integer part beyond the limit only raise the exponent. -/
def scanLong (negative : Bool) (significand : Nat) : Int → List Char →
    Option (Document × List Char)
  | exponent, c :: rest =>
    if Text.isDigit c then scanLong negative significand (exponent + 1) rest
    else if c == '.' then scanFraction negative significand exponent false rest
    else finishDouble negative significand exponent (c :: rest)
  | exponent, [] => finishDouble negative significand exponent []

/-- The end of an integer part within the limit. -/
def finishInteger (negative : Bool) (significand : Nat) (cs : List Char) :
    Option (Document × List Char) :=
  match cs with
  | '.' :: rest => scanFraction negative significand 0 false rest
  | 'e' :: rest => scanExponent negative significand 0 rest
  | 'E' :: rest => scanExponent negative significand 0 rest
  | _ =>
    if negative = false then some (.integer significand, cs)
    else if significand ≠ 0 ∧ significand ≤ Nat.pow 2 63 then some (.integer (-significand), cs)
    else some (.float (Binary64.ofNat significand).neg, cs)

/-- The digits of an integer part after the first. -/
def scanInteger (negative : Bool) : Nat → List Char → Option (Document × List Char)
  | significand, c :: rest =>
    match Text.digit? 10 c with
    | some d =>
      if significandLimit < significand * 10 + d then
        scanLong negative significand 0 (c :: rest)
      else scanInteger negative (significand * 10 + d) rest
    | none => finishInteger negative significand (c :: rest)
  | significand, [] => finishInteger negative significand []

/-- A number after its sign. A leading zero stands alone. -/
def scanNumber (negative : Bool) (cs : List Char) : Option (Document × List Char) :=
  match cs with
  | [] => none
  | c :: rest =>
    match Text.digit? 10 c with
    | none => none
    | some 0 =>
      match rest with
      | d :: _ => if Text.isDigit d then none else finishInteger negative 0 rest
      | [] => finishInteger negative 0 rest
    | some d => scanInteger negative d rest

/-! ## Token sequences -/

/-- The tokens of a JSON text. Every step takes at least one character, so fuel of the length of
the text is enough. -/
def tokens? : Nat → List Char → Option (List Token)
  | 0, cs => if cs.isEmpty then some [] else none
  | fuel + 1, cs =>
    match cs with
    | [] => some []
    | '[' :: rest => (tokens? fuel rest).map (.openList :: ·)
    | ']' :: rest => (tokens? fuel rest).map (.closeList :: ·)
    | '\x7b' :: rest => (tokens? fuel rest).map (.openMapping :: ·)
    | '\x7d' :: rest => (tokens? fuel rest).map (.closeMapping :: ·)
    | ',' :: rest => (tokens? fuel rest).map (.comma :: ·)
    | ':' :: rest => (tokens? fuel rest).map (.colon :: ·)
    | '"' :: rest => do
      let (s, rest) ← scanText (rest.length + 1) [] rest
      return .text s :: (← tokens? fuel rest)
    | 't' :: 'r' :: 'u' :: 'e' :: rest => (tokens? fuel rest).map (.atom (.bool true) :: ·)
    | 'f' :: 'a' :: 'l' :: 's' :: 'e' :: rest =>
      (tokens? fuel rest).map (.atom (.bool false) :: ·)
    | 'n' :: 'u' :: 'l' :: 'l' :: rest => (tokens? fuel rest).map (.atom .null :: ·)
    | '-' :: rest => do
      let (d, rest) ← scanNumber true rest
      return .atom d :: (← tokens? fuel rest)
    | c :: rest =>
      if isBlank c then tokens? fuel rest
      else do
        let (d, rest) ← scanNumber false cs
        return .atom d :: (← tokens? fuel rest)

end KafkaTopology.Document.Json
