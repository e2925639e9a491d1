import KafkaTopology.Document
import KafkaTopology.Document.Yaml.Tag
import KafkaTopology.Text.Digit
/-!
# The values of YAML scalars

What a scalar without a tag stands for (`ofPlain?`), and one with a tag (`ofTagged?`). A word that
is no null, truth value or number is a text. An infinity or an undefined number is null.
-/
namespace KafkaTopology.Document.Yaml

def isNull (s : String) : Bool := s == "null" || s == "Null" || s == "NULL" || s == "~"

def bool? (s : String) : Option Bool :=
  if s == "true" || s == "True" || s == "TRUE" then some true
  else if s == "false" || s == "False" || s == "FALSE" then some false
  else none

/-! ## Integers -/

/-- Whether a word is a zero followed by further digits. Such a word is a text. -/
def isPadded (unsigned : List Char) : Bool :=
  match unsigned with
  | '0' :: rest => !rest.isEmpty && rest.all Text.isDigit
  | _ => false

/-- The natural number that a word without a sign spells, in base ten or after `0x`, `0o` or
`0b`. -/
def magnitude? (unsigned : List Char) : Option Nat :=
  match unsigned with
  | '0' :: 'x' :: digits => Text.natural? 16 digits
  | '0' :: 'o' :: digits => Text.natural? 8 digits
  | '0' :: 'b' :: digits => Text.natural? 2 digits
  | _ => if isPadded unsigned then none else Text.natural? 10 unsigned

/-- Whether a word has a minus sign, and the word without its sign. -/
def splitSign : List Char → Bool × List Char
  | '-' :: rest => (true, rest)
  | '+' :: rest => (false, rest)
  | rest => (false, rest)

def integer? (s : String) : Option Int :=
  let (negative, unsigned) := splitSign s.toList
  (magnitude? unsigned).map (fun n => if negative then -(n : Int) else n)

/-- Whether an integer fits a signed or an unsigned word of so many bits. -/
def fits (bits : Nat) (i : Int) : Bool :=
  -(Nat.pow 2 (bits - 1) : Int) ≤ i && i < (Nat.pow 2 bits : Int)

/-! ## Decimal fractions -/

/-- The exponent that follows a fraction, zero if there is none. -/
def exponent? : List Char → Option Int
  | [] => some 0
  | e :: rest =>
    if e == 'e' || e == 'E' then
      let (negative, digits) := splitSign rest
      (Text.natural? 10 digits).map (fun n => if negative then -(n : Int) else n)
    else none

/-- The finite double nearest to a decimal fraction; it needs a digit before or after the point. -/
def decimal? (negative : Bool) (unsigned : List Char) : Option Binary64 := do
  let (whole, rest) := unsigned.span Text.isDigit
  let (fraction, rest) :=
    match rest with
    | '.' :: rest => rest.span Text.isDigit
    | _ => ([], rest)
  let digits ← Text.natural? 10 (whole ++ fraction)
  let exponent ← exponent? rest
  let x := Binary64.ofDecimal negative digits (exponent - fraction.length)
  if x.isFinite then some x else none

/-- The document of a word that spells a number with a fraction, an infinity or no number. -/
def float? (s : String) : Option Document :=
  if s == ".nan" || s == ".NaN" || s == ".NAN" then some .null
  else
    let (negative, unsigned) := splitSign s.toList
    let word := String.ofList unsigned
    if word == ".inf" || word == ".Inf" || word == ".INF" then some .null
    else (decimal? negative unsigned).map .float

/-! ## Scalars -/

/-- The document of an integer. One that exceeds 64 bits, but not 128, cannot be represented. -/
def ofInteger? (i : Int) : Option Document := if fits 64 i then some (.integer i) else none

def ofPlain? (s : String) : Option Document :=
  if s.isEmpty || isNull s then some .null
  else
    match bool? s with
    | some b => some (.bool b)
    | none =>
      match (integer? s).filter (fits 128) with
      | some i => ofInteger? i
      | none =>
        if isPadded (splitSign s.toList).2 then some (.text s)
        else some ((float? s).getD (.text s))

/-- The document of a scalar with a tag. The tags of the four other kinds of values demand a word
of their kind, an own tag that is admitted changes nothing, and any other tag makes a text. -/
def ofTagged? (tag : Tag) (s : String) (isPlain : Bool) : Option Document :=
  if !tag.isAdmitted then none
  else if tag.isOwn then if isPlain then ofPlain? s else some (.text s)
  else if tag == .ofKind "bool" then (bool? s).map .bool
  else if tag == .ofKind "int" then ((integer? s).filter (fits 128)).bind ofInteger?
  else if tag == .ofKind "float" then float? s
  else if tag == .ofKind "null" then if isNull s then some .null else none
  else some (.text s)

end KafkaTopology.Document.Yaml
