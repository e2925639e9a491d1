import KafkaTopology.Binary64
/-!
# The shortest decimal of a double

`shortest` finds the fewest digits that read back as the same double, and of the decimals with
that many digits the one nearest to it. `Binary64.text` lays the digits out: positional from
`1e-5` up to `1e16`, always with a fractional part, and with an exponent elsewhere.
-/
namespace KafkaTopology.Binary64

/-- A positive decimal `digits * 10 ^ exponent`. -/
structure Decimal where
  digits : Nat
  exponent : Int
deriving DecidableEq, Repr

/-- Drops trailing zeros of the digits, at most `fuel` of them. -/
def Decimal.trim : Nat → Decimal → Decimal
  | 0, d => d
  | fuel + 1, d =>
    if d.digits ≠ 0 ∧ d.digits % 10 = 0 then Decimal.trim fuel ⟨d.digits / 10, d.exponent + 1⟩
    else d

/-- The open or closed interval of numbers that round to a positive double, scaled to natural
numbers over one denominator. The ends belong to it when the significand is even. -/
structure Interval where
  low : Nat
  value : Nat
  high : Nat
  den : Nat
  closed : Bool

/-- The rounding interval of `m * 2 ^ e`. Below a power of two the doubles lie twice as dense. -/
def interval (m : Nat) (e : Int) : Interval :=
  let narrow := m == Nat.pow 2 52 && minExponent < e
  let below := if narrow then 1 else 2
  let (scale, den) := ratio 1 (e - 2)
  ⟨(4 * m - below) * scale, 4 * m * scale, (4 * m + 2) * scale, den, m % 2 == 0⟩

/-- Whether the number `num / den`, over the interval's own denominator, lies in the interval. -/
def Interval.contains (i : Interval) (num den : Nat) : Bool :=
  let x := num * i.den
  let low := i.low * den
  let high := i.high * den
  if i.closed then low ≤ x && x ≤ high else low < x && x < high

def Decimal.ratio (d : Decimal) : Nat × Nat :=
  if 0 ≤ d.exponent then (d.digits * Nat.pow 10 d.exponent.toNat, 1)
  else (d.digits, Nat.pow 10 (-d.exponent).toNat)

/-- The two neighbours of the value on the grid of multiples of `10 ^ exponent`. -/
def Interval.neighbours (i : Interval) (exponent : Int) : Decimal × Decimal :=
  let q :=
    if 0 ≤ exponent then i.value / (i.den * Nat.pow 10 exponent.toNat)
    else i.value * Nat.pow 10 (-exponent).toNat / i.den
  (⟨q, exponent⟩, ⟨q + 1, exponent⟩)

/-- The neighbour on a grid that reads back; of two the nearer, and the even one on a tie. -/
def Interval.pick (i : Interval) (exponent : Int) : Option Decimal :=
  let (lo, hi) := i.neighbours exponent
  let (a, b) := lo.ratio
  let (c, d) := hi.ratio
  let loFits := lo.digits ≠ 0 && i.contains a b
  let hiFits := i.contains c d
  if loFits && hiFits then
    -- distances `value - lo` and `hi - value` over the common denominator
    let dLo := i.value * b - a * i.den
    let dHi := c * i.den - i.value * d
    if dLo < dHi then some lo
    else if dHi < dLo then some hi
    else if lo.digits % 2 == 0 then some lo else some hi
  else if loFits then some lo
  else if hiFits then some hi
  else none

/-- Tries grids of one digit, two digits and so on. -/
def Interval.search (i : Interval) (top : Int) : Nat → Nat → Decimal
  | 0, n => ⟨0, top - n⟩
  | fuel + 1, n => (i.pick (top - n)).getD (i.search top fuel (n + 1))

/-- An estimate from above of the decimal exponent of `num / den`, corrected by at most two steps
of `10`: the result `k` has `10 ^ (k - 1) ≤ num / den < 10 ^ k`. -/
def decimalTop (num den : Nat) : Int :=
  let reaches (k : Int) : Bool :=
    if 0 ≤ k then den * Nat.pow 10 k.toNat ≤ num else den ≤ num * Nat.pow 10 (-k).toNat
  let start : Int := floorLog2 num den * 30103 / 100000 - 1
  let k := if reaches (start + 1) then start + 1 else start
  let k := if reaches (k + 1) then k + 1 else k
  let k := if reaches (k + 1) then k + 1 else k
  k + 1

/-- The shortest decimal that reads back as `m * 2 ^ e`, for positive `m`. -/
def shortest (m : Nat) (e : Int) : Decimal :=
  let i := interval m e
  (i.search (decimalTop i.value i.den) 18 1).trim 400

def digitsOf (n : Nat) : List Char := Nat.toDigits 10 n

def Decimal.layout (d : Decimal) : List Char :=
  let ds := digitsOf d.digits
  let n : Int := ds.length
  -- the number is `0.ds * 10 ^ point`
  let point := n + d.exponent
  if -5 < point ∧ point ≤ 16 then
    if point ≤ 0 then '0' :: '.' :: (List.replicate (-point).toNat '0' ++ ds)
    else if n ≤ point then ds ++ List.replicate (point - n).toNat '0' ++ ['.', '0']
    else ds.take point.toNat ++ '.' :: ds.drop point.toNat
  else
    let e := point - 1
    let lead := ds.take 1 ++ (if ds.length == 1 then [] else '.' :: ds.drop 1)
    let sign := if 0 ≤ e then '+' else '-'
    lead ++ 'e' :: sign :: digitsOf e.natAbs

/-- The text of a double; the non-finite ones have no number text and read `null`. -/
def text : Binary64 → String
  | .finite n m e =>
    let body := if m == 0 then ['0', '.', '0'] else (shortest m e).layout
    String.ofList (if n then '-' :: body else body)
  | _ => "null"

end KafkaTopology.Binary64
