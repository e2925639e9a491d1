import KafkaTopology.Text.Blank
/-!
# Timestamps

An instant in Coordinated Universal Time with nanoseconds. `Timestamp.ofText?` reads a relaxed form
of RFC 3339: blanks may stand around the components, a blank may replace the `T`, and an offset
may lack its colon. `text` writes the instant with the offset `+00:00`, `stored` with a `Z`.
-/
namespace KafkaTopology

/-- An instant: seconds since the start of 1970, and nanoseconds. In a leap second the nanoseconds
go on beyond a thousand million. -/
structure Timestamp where
  seconds : Int
  nanos : Nat
deriving DecidableEq, Repr, Inhabited

namespace Timestamp

/-! ## Days -/

/-- The number of days from the start of 1970 to a date of the Gregorian calendar. The year is
taken to begin in March, so that a leap day ends it. -/
def daysOfDate (year : Int) (month day : Nat) : Int :=
  let y := if month ≤ 2 then year - 1 else year
  let era := y / 400
  let yearOfEra := y - era * 400
  let monthFromMarch : Int := if 2 < month then month - 3 else month + 9
  let dayOfYear := (153 * monthFromMarch + 2) / 5 + day - 1
  let dayOfEra := yearOfEra * 365 + yearOfEra / 4 - yearOfEra / 100 + dayOfYear
  era * 146097 + dayOfEra - 719468

def dateOfDays (days : Int) : Int × Nat × Nat :=
  let z := days + 719468
  let era := z / 146097
  let dayOfEra := z - era * 146097
  let yearOfEra := (dayOfEra - dayOfEra / 1460 + dayOfEra / 36524 - dayOfEra / 146096) / 365
  let dayOfYear := dayOfEra - (365 * yearOfEra + yearOfEra / 4 - yearOfEra / 100)
  let monthFromMarch := (5 * dayOfYear + 2) / 153
  let day := dayOfYear - (153 * monthFromMarch + 2) / 5 + 1
  let month := if monthFromMarch < 10 then monthFromMarch + 3 else monthFromMarch - 9
  let year := yearOfEra + era * 400 + (if month ≤ 2 then 1 else 0)
  (year, month.toNat, day.toNat)

def isLeapYear (year : Int) : Bool := year % 4 == 0 && (year % 100 != 0 || year % 400 == 0)

def daysInMonth (year : Int) (month : Nat) : Nat :=
  if month == 2 then (if isLeapYear year then 29 else 28)
  else if month == 4 || month == 6 || month == 9 || month == 11 then 30
  else 31

/-- The years that an instant may fall in, as it is written and in Coordinated Universal Time. -/
def yearInRange (year : Int) : Bool := -262143 ≤ year && year ≤ 262142

def year (t : Timestamp) : Int := (dateOfDays (t.seconds / 86400)).1

/-! ## Writing -/

/-- A number with leading zeros. -/
def padded (width n : Nat) : String :=
  let ds := Nat.toDigits 10 n
  String.ofList (List.replicate (width - ds.length) '0' ++ ds)

/-- A year: four digits, with a sign when it has more or is negative. -/
def yearText (year : Int) : String :=
  if 0 ≤ year ∧ year ≤ 9999 then padded 4 year.toNat
  else (if year < 0 then "-" else "+") ++ padded 4 year.natAbs

def dateText (t : Timestamp) : String :=
  let (y, m, d) := dateOfDays (t.seconds / 86400)
  yearText y ++ "-" ++ padded 2 m ++ "-" ++ padded 2 d

def timeText (t : Timestamp) : String :=
  let s := (t.seconds % 86400).toNat
  let second := s % 60 + t.nanos / 1000000000
  padded 2 (s / 3600) ++ ":" ++ padded 2 (s / 60 % 60) ++ ":" ++ padded 2 second

/-- The fraction of a second in the fewest of 0, 3, 6 or 9 digits. -/
def fractionText (t : Timestamp) : String :=
  let n := t.nanos % 1000000000
  if n == 0 then ""
  else if n % 1000000 == 0 then "." ++ padded 3 (n / 1000000)
  else if n % 1000 == 0 then "." ++ padded 6 (n / 1000)
  else "." ++ padded 9 n

/-- The instant with the offset `+00:00`. -/
def text (t : Timestamp) : String :=
  t.dateText ++ "T" ++ t.timeText ++ t.fractionText ++ "+00:00"

/-- The instant as it is stored. -/
def stored (t : Timestamp) : String :=
  t.dateText ++ "T" ++ t.timeText ++ t.fractionText ++ "Z"

/-- The instant for readers, in whole seconds. -/
def shown (t : Timestamp) : String := t.dateText ++ " " ++ t.timeText ++ " UTC"

/-! ## Reading -/

def skipBlanks (cs : List Char) : List Char := cs.dropWhile Text.isBlank

/-- Splits at most `max` leading digits off. -/
def spanDigits : Nat → List Char → List Char × List Char
  | 0, cs => ([], cs)
  | _ + 1, [] => ([], [])
  | max + 1, c :: cs =>
    if c.isDigit then
      let (ds, rest) := spanDigits max cs
      (c :: ds, rest)
    else ([], c :: cs)

def numberOf (ds : List Char) : Nat := ds.foldl (fun n c => n * 10 + (c.toNat - 48)) 0

/-- A number of one to `max` digits. -/
def number? (max : Nat) (cs : List Char) : Option (Nat × List Char) :=
  match spanDigits max cs with
  | ([], _) => none
  | (ds, rest) => some (numberOf ds, rest)

/-- A number between bounds after optional blanks. -/
def component? (low high : Nat) (cs : List Char) : Option (Nat × List Char) := do
  let (n, rest) ← number? 2 (skipBlanks cs)
  if low ≤ n ∧ n ≤ high then some (n, rest) else none

/-- A year after optional blanks: four digits at most unless it has a sign. -/
def year? (cs : List Char) : Option (Int × List Char) :=
  match skipBlanks cs with
  | '-' :: rest => (number? rest.length rest).map fun (n, rest) => (-(n : Int), rest)
  | '+' :: rest => (number? rest.length rest).map fun (n, rest) => ((n : Int), rest)
  | cs => (number? 4 cs).map fun (n, rest) => ((n : Int), rest)

/-- A separator after optional blanks. -/
def separator? (c : Char) (cs : List Char) : Option (List Char) :=
  match skipBlanks cs with
  | d :: rest => if d = c then some rest else none
  | [] => none

/-- Nanoseconds after an optional point; digits beyond the ninth are dropped. -/
def fraction? : List Char → Option (Nat × List Char)
  | '.' :: cs =>
    match spanDigits 9 cs with
    | ([], _) => none
    | (ds, rest) => some (numberOf ds * Nat.pow 10 (9 - ds.length), rest.dropWhile Char.isDigit)
  | cs => some (0, cs)

/-- The digits of an offset: hours, optional colons and blanks, minutes. -/
def offsetDigits? (cs : List Char) : Option (Int × List Char) :=
  match cs with
  | a :: b :: rest =>
    if a.isDigit && b.isDigit then
      match rest.dropWhile (fun c => c == ':' || Text.isBlank c) with
      | m :: n :: rest =>
        if m.isDigit && n.isDigit && m ≤ '5' then
          some (((numberOf [a, b] * 3600 + numberOf [m, n] * 60 : Nat) : Int), rest)
        else none
      | _ => none
    else none
  | _ => none

/-- An offset in seconds: `Z`, `UTC` in any case, or a sign with hours and minutes. -/
def offset? (cs : List Char) : Option (Int × List Char) :=
  match cs with
  | a :: b :: c :: rest =>
    if a.toLower == 'u' && b.toLower == 't' && c.toLower == 'c' then some (0, rest)
    else signed? cs
  | cs => signed? cs
where
  /-- An offset that is not spelled out. -/
  signed? : List Char → Option (Int × List Char)
    | 'Z' :: rest => some (0, rest)
    | 'z' :: rest => some (0, rest)
    | '+' :: rest => offsetDigits? rest
    | '-' :: rest => (offsetDigits? rest).map fun (n, rest) => (-n, rest)
    | '\u2212' :: rest => (offsetDigits? rest).map fun (n, rest) => (-n, rest)
    | _ => none

/-- The instant that a text spells. -/
def ofText? (text : String) : Option Timestamp := do
  let (year, cs) ← year? text.toList
  let cs ← separator? '-' cs
  let (month, cs) ← component? 1 12 cs
  let cs ← separator? '-' cs
  let (day, cs) ← component? 1 31 cs
  let cs ← match cs with
    | 'T' :: rest => some rest
    | 't' :: rest => some rest
    | ' ' :: rest => some rest
    | _ => none
  let (hour, cs) ← component? 0 23 cs
  let cs ← separator? ':' cs
  let (minute, cs) ← component? 0 59 cs
  let cs ← separator? ':' cs
  let (second, cs) ← component? 0 60 cs
  let (nanos, cs) ← fraction? cs
  let (offset, cs) ← offset? (skipBlanks cs)
  let valid := (skipBlanks cs).isEmpty && yearInRange year && day ≤ daysInMonth year month &&
    -86400 < offset && offset < 86400
  if valid then
    let days := daysOfDate year month day
    let (second, nanos) := if second == 60 then (59, nanos + 1000000000) else (second, nanos)
    let t : Timestamp := ⟨days * 86400 + hour * 3600 + minute * 60 + second - offset, nanos⟩
    if yearInRange t.year then some t else none
  else none

end Timestamp
end KafkaTopology
