import KafkaTopology.Document
import KafkaTopology.Text.Digit
import KafkaTopology.Timestamp
/-!
# TOML scalars

The texts, numbers, truth values, dates and times of TOML, and the blanks, comments and breaks
between them. A date or time becomes a mapping with the one key `Toml.momentKey`.
-/
namespace KafkaTopology.Document.Toml

/-! ## Blanks -/

def isBlank (c : Char) : Bool := c == ' ' || c == '\t'

/-- Whether a character may stand in a comment or in a text of one line. -/
def isPrintable (c : Char) : Bool := c == '\t' || (0x20 ≤ c.toNat && c.toNat != 0x7F)

def skipBlanks (cs : List Char) : List Char := cs.dropWhile isBlank

def break? : List Char → Option (List Char)
  | '\n' :: rest => some rest
  | '\r' :: '\n' :: rest => some rest
  | _ => none

def skipComment (cs : List Char) : List Char :=
  match skipBlanks cs with
  | '#' :: rest => rest.dropWhile isPrintable
  | rest => rest

/-- What follows this line; only blanks and a comment may be left of it. -/
def lineEnd? (cs : List Char) : Option (List Char) :=
  match skipComment cs with
  | [] => some []
  | rest => break? rest

def skipSpace : (fuel : Nat) → List Char → List Char
  | 0, cs => cs
  | fuel + 1, cs =>
    match break? (skipComment cs) with
    | some rest => skipSpace fuel rest
    | none => skipComment cs

/-! ## Texts -/

/-- The character of an escape after its backslash, and what follows it. -/
def escape? : List Char → Option (Char × List Char)
  | [] => none
  | c :: rest =>
    match c with
    | 'b' => some ('\x08', rest)
    | 't' => some ('\t', rest)
    | 'n' => some ('\n', rest)
    | 'f' => some ('\x0c', rest)
    | 'r' => some ('\r', rest)
    | 'e' => some ('\x1b', rest)
    | '"' => some ('"', rest)
    | '\\' => some ('\\', rest)
    | 'x' => Text.numberedCharacter? 2 rest
    | 'u' => Text.numberedCharacter? 4 rest
    | 'U' => Text.numberedCharacter? 8 rest
    | _ => none

/-- A text between double quotes, after the first, collected in reverse. -/
def basicText? : (fuel : Nat) → List Char → List Char → Option (String × List Char)
  | 0, _, _ => none
  | _, _, [] => none
  | fuel + 1, acc, c :: rest =>
    if c == '"' then some (String.ofList acc.reverse, rest)
    else if c == '\\' then do
      let (x, rest) ← escape? rest
      basicText? fuel (x :: acc) rest
    else if isPrintable c then basicText? fuel (c :: acc) rest
    else none

/-- A text between single quotes, after the first, collected in reverse. -/
def literalText? (acc : List Char) : List Char → Option (String × List Char)
  | [] => none
  | c :: rest =>
    if c == '\'' then some (String.ofList acc.reverse, rest)
    else if isPrintable c then literalText? (c :: acc) rest
    else none

/-- A run of quotes inside a text of several lines: fewer than three belong to the text, three end
it, and two more before those belong to it. The first number counts the quotes of the text. -/
def quoteRun (quote : Char) (cs : List Char) : Nat × Bool × List Char :=
  let n := (cs.takeWhile (· == quote)).length
  if n < 3 then (n, false, cs.drop n) else (min n 5 - 3, true, cs.drop (min n 5))

def skipLines : (fuel : Nat) → List Char → List Char
  | 0, cs => cs
  | fuel + 1, cs =>
    match break? (skipBlanks cs) with
    | some rest => skipLines fuel rest
    | none => skipBlanks cs

/-- What follows an escaped line break with the blanks before it and all blanks and breaks after
it. -/
def joinLines? (cs : List Char) : Option (List Char) :=
  (break? (skipBlanks cs)).map fun rest => skipLines (rest.length + 1) rest

/-- A text of several lines, after its opening quotes, collected in reverse. Only between double
quotes (`escapes`) does a backslash escape. -/
def longText? (quote : Char) (escapes : Bool) :
    (fuel : Nat) → List Char → List Char → Option (String × List Char)
  | 0, _, _ => none
  | _, _, [] => none
  | fuel + 1, acc, c :: rest =>
    if c == quote then
      let (own, closed, rest) := quoteRun quote (c :: rest)
      let acc := List.replicate own quote ++ acc
      if closed then some (String.ofList acc.reverse, rest)
      else longText? quote escapes fuel acc rest
    else if escapes && c == '\\' then
      match joinLines? rest with
      | some rest => longText? quote escapes fuel acc rest
      | none => do
        let (x, rest) ← escape? rest
        longText? quote escapes fuel (x :: acc) rest
    else if isPrintable c || c == '\n' then longText? quote escapes fuel (c :: acc) rest
    else
      match break? (c :: rest) with
      | some rest => longText? quote escapes fuel ('\n' :: '\r' :: acc) rest
      | none => none

/-- What follows the line break at this place, or this place if there is none. -/
def skipBreak (cs : List Char) : List Char := (break? cs).getD cs

/-- A text that begins with a quote. The break right after three quotes does not belong to it. -/
def text? (cs : List Char) : Option (String × List Char) :=
  match cs with
  | '"' :: '"' :: '"' :: rest => longText? '"' true (rest.length + 1) [] (skipBreak rest)
  | '"' :: rest => basicText? (rest.length + 1) [] rest
  | '\'' :: '\'' :: '\'' :: rest => longText? '\'' false (rest.length + 1) [] (skipBreak rest)
  | '\'' :: rest => literalText? [] rest
  | _ => none

/-! ## Numbers -/

/-- Digits without the underscores between them; none may stand elsewhere. -/
def ungroup? (isDigit : Char → Bool) : List Char → Option (List Char)
  | [] => some []
  | '_' :: _ => none
  | c :: '_' :: d :: rest =>
    if isDigit c && isDigit d then (ungroup? isDigit (d :: rest)).map (c :: ·) else none
  | c :: rest => if isDigit c then (ungroup? isDigit rest).map (c :: ·) else none

/-- The number that grouped digits spell. -/
def grouped? (base : Nat) (cs : List Char) : Option Nat := do
  Text.natural? base (← ungroup? (fun c => (Text.digit? base c).isSome) cs)

/-- The digits before a point: a zero stands alone. -/
def whole? (cs : List Char) : Option (List Char) := do
  match ← ungroup? Text.isDigit cs with
  | [] => none
  | ['0'] => some ['0']
  | '0' :: _ => none
  | digits => some digits

/-- Whether a numeral has a minus sign, and the numeral without its sign. -/
def splitSign : List Char → Bool × List Char
  | '-' :: rest => (true, rest)
  | '+' :: rest => (false, rest)
  | rest => (false, rest)

def integer? (cs : List Char) : Option Int :=
  match cs with
  | '0' :: 'x' :: digits => (grouped? 16 digits).map (fun n => (n : Int))
  | '0' :: 'o' :: digits => (grouped? 8 digits).map (fun n => (n : Int))
  | '0' :: 'b' :: digits => (grouped? 2 digits).map (fun n => (n : Int))
  | _ => do
    let (negative, unsigned) := splitSign cs
    let n ← Text.natural? 10 (← whole? unsigned)
    return if negative then -(n : Int) else n

def exponent? : List Char → Option Int
  | [] => some 0
  | e :: rest =>
    if e == 'e' || e == 'E' then do
      let (negative, digits) := splitSign rest
      let n ← grouped? 10 digits
      return if negative then -(n : Int) else n
    else none

/-- The digits after the point of a numeral, none if it has no point, and what follows them. -/
def fraction? : List Char → Option (List Char × List Char)
  | '.' :: rest => do
    let (digits, rest) := rest.span (fun c => Text.isDigit c || c == '_')
    let digits ← ungroup? Text.isDigit digits
    if digits.isEmpty then none else some (digits, rest)
  | rest => some ([], rest)

/-- The double that a numeral with a fraction or an exponent spells. -/
def float? (cs : List Char) : Option Binary64 :=
  let (negative, unsigned) := splitSign cs
  if unsigned == ['i', 'n', 'f'] then some (.infinite negative)
  else if unsigned == ['n', 'a', 'n'] then some .nan
  else do
    let (whole, rest) := unsigned.span (fun c => Text.isDigit c || c == '_')
    let whole ← whole? whole
    let (fraction, rest) ← fraction? rest
    let exponent ← exponent? rest
    let digits ← Text.natural? 10 (whole ++ fraction)
    let x := Binary64.ofDecimal negative digits (exponent - fraction.length)
    if x.isFinite then some x else none

/-! ## Dates and times -/

/-- The key under which a date or time is found. -/
def momentKey : String := "$__toml_private_datetime"

/-- Exactly two digits, as a number in a range. -/
def pair? (least greatest : Nat) (cs : List Char) : Option Nat := do
  let n ← Text.natural? 10 cs
  if cs.length = 2 ∧ least ≤ n ∧ n ≤ greatest then some n else none

/-- Whether ten characters spell a date of the calendar. -/
def isDate (cs : List Char) : Bool :=
  match cs with
  | [a, b, c, d, '-', e, f, '-', g, h] =>
    match Text.natural? 10 [a, b, c, d], pair? 1 12 [e, f], pair? 1 31 [g, h] with
    | some year, some month, some day => day ≤ Timestamp.daysInMonth year month
    | _, _, _ => false
  | _ => false

/-- The written form of a fraction of a second: at most nine digits, without zeros at the end
except for the first. -/
def fractionText (digits : List Char) : List Char :=
  let kept := ((digits.take 9).reverse.dropWhile (· == '0')).reverse
  '.' :: (if kept.isEmpty then ['0'] else kept)

/-- A time of the day in its written form, and what follows it. The seconds and their fraction may
be omitted; a leap second is admitted. -/
def time? (cs : List Char) : Option (List Char × List Char) :=
  match cs with
  | a :: b :: ':' :: c :: d :: rest => do
    let _ ← pair? 0 23 [a, b]
    let _ ← pair? 0 59 [c, d]
    let minutes := [a, b, ':', c, d]
    match rest with
    | ':' :: e :: f :: rest =>
      let _ ← pair? 0 60 [e, f]
      let seconds := minutes ++ [':', e, f]
      match rest with
      | '.' :: rest =>
        let (digits, rest) := rest.span Text.isDigit
        if digits.isEmpty then none else some (seconds ++ fractionText digits, rest)
      | rest => some (seconds, rest)
    | ':' :: _ => none
    | rest => some (minutes, rest)
  | _ => none

/-- The written form of a distance from universal time. -/
def offset? (cs : List Char) : Option (List Char) :=
  match cs with
  | [] => some []
  | ['Z'] => some ['Z']
  | ['z'] => some ['Z']
  | [sign, a, b, ':', c, d] => do
    let _ ← pair? 0 23 [a, b]
    let _ ← pair? 0 59 [c, d]
    let zero := [a, b, c, d].all (· == '0')
    if sign == '+' || (sign == '-' && zero) then some ['+', a, b, ':', c, d]
    else if sign == '-' then some cs
    else none
  | _ => none

/-- The written form of a date, a time, or both with or without an offset. -/
def moment? (cs : List Char) : Option String := do
  let date := cs.take 10
  if isDate date then
    match cs.drop 10 with
    | [] => some (String.ofList date)
    | t :: rest =>
      if t == 'T' || t == 't' || t == ' ' then
        let (time, rest) ← time? rest
        let offset ← offset? rest
        some (String.ofList (date ++ 'T' :: time ++ offset))
      else none
  else
    match ← time? cs with
    | (time, []) => some (String.ofList time)
    | _ => none

/-! ## Bare values -/

/-- Whether a character belongs to a value that is neither a text nor a collection. -/
def isBare (c : Char) : Bool :=
  c.isAlphanum || c == '_' || c == '-' || c == '+' || c == '.' || c == ':'

/-- The characters of a bare value, and what follows them. A space and a digit after a date go on
with its time. -/
def bareSpan (cs : List Char) : List Char × List Char :=
  let (word, rest) := cs.span isBare
  match rest with
  | ' ' :: c :: rest =>
    if isDate word && Text.isDigit c then
      let (time, rest) := (c :: rest).span isBare
      (word ++ ' ' :: time, rest)
    else (word, ' ' :: c :: rest)
  | _ => (word, rest)

/-- The document of a bare value. An integer must fit a signed or an unsigned word of 128 bits. -/
def ofBare? (cs : List Char) : Option Document :=
  if cs == ['t', 'r', 'u', 'e'] then some (.bool true)
  else if cs == ['f', 'a', 'l', 's', 'e'] then some (.bool false)
  else
    match integer? cs with
    | some i => if -(Nat.pow 2 127) ≤ i ∧ i < Nat.pow 2 128 then some (.integer i) else none
    | none =>
      match float? cs with
      | some x => some (.float x)
      | none => (moment? cs).map fun s => .mapping [(momentKey, .text s)]

end KafkaTopology.Document.Toml
