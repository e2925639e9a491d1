/-!
# Double-precision numbers

A finite double is a sign, a significand and a power of two; every operation is exact integer
arithmetic followed by one rounding, to the nearest double and to the even significand on a tie
(`ofRatio`). Nothing here uses machine floating point, so each value can be reasoned about.
-/
namespace KafkaTopology

/-- A double. A finite one stands for `significand * 2 ^ exponent`, with its sign apart so that
zero keeps one. Of the representations of a value the operations below return the one with the
longest significand of at most 53 bits and an exponent of at least -1074. -/
inductive Binary64 where
  | nan
  | infinite (negative : Bool)
  | finite (negative : Bool) (significand : Nat) (exponent : Int)
deriving DecidableEq, Repr, Inhabited

namespace Binary64

def zero (negative : Bool) : Binary64 := .finite negative 0 (-1074)

def minExponent : Int := -1074

def maxExponent : Int := 971

/-- The integer nearest to `num / den`; a tie goes to the even one. -/
def roundDiv (num den : Nat) : Nat :=
  let q := num / den
  let r := num % den
  if 2 * r < den then q
  else if den < 2 * r then q + 1
  else if q % 2 == 0 then q else q + 1

/-- The greatest `e` with `2 ^ e ≤ num / den`, for positive `num` and `den`. -/
def floorLog2 (num den : Nat) : Int :=
  let e : Int := (Nat.log2 num : Int) - (Nat.log2 den : Int)
  let reached : Bool :=
    if 0 ≤ e then den * Nat.pow 2 e.toNat ≤ num else den ≤ num * Nat.pow 2 (-e).toNat
  if reached then e else e - 1

/-- The double nearest to `num / den`, ties to even; beyond the greatest double it is infinite. -/
def ofRatio (negative : Bool) (num den : Nat) : Binary64 :=
  if num == 0 then zero negative
  else
    let e := max minExponent (floorLog2 num den - 52)
    let m :=
      if 0 ≤ e then roundDiv num (den * Nat.pow 2 e.toNat)
      else roundDiv (num * Nat.pow 2 (-e).toNat) den
    let (m, e) := if m == Nat.pow 2 53 then (Nat.pow 2 52, e + 1) else (m, e)
    if maxExponent < e then .infinite negative
    else if m == 0 then zero negative
    else .finite negative m e

def ofNat (n : Nat) : Binary64 := ofRatio false n 1

/-- The double nearest to `digits * 10 ^ exponent`. Exponents far beyond the range of doubles are
answered without computing the power. -/
def ofDecimal (negative : Bool) (digits : Nat) (exponent : Int) : Binary64 :=
  if digits == 0 then zero negative
  else
    if 400 < exponent then .infinite negative
    else if (Nat.log2 digits : Int) / 3 + exponent < -400 then zero negative
    else if 0 ≤ exponent then ofRatio negative (digits * Nat.pow 10 exponent.toNat) 1
    else ofRatio negative digits (Nat.pow 10 (-exponent).toNat)

def neg : Binary64 → Binary64
  | .nan => .nan
  | .infinite n => .infinite (!n)
  | .finite n m e => .finite (!n) m e

/-- Numerator and denominator of a significand with its power of two. -/
def ratio (significand : Nat) (exponent : Int) : Nat × Nat :=
  if 0 ≤ exponent then (significand * Nat.pow 2 exponent.toNat, 1)
  else (significand, Nat.pow 2 (-exponent).toNat)

/-- The rounded product of a double with a power of ten that is itself rounded first. -/
def scaleUp : Binary64 → Nat → Binary64
  | .finite n m e, k =>
    match ofNat (Nat.pow 10 k) with
    | .finite _ m' e' =>
      let (a, b) := ratio m e
      let (c, d) := ratio m' e'
      ofRatio n (a * c) (b * d)
    | other => other
  | x, _ => x

/-- The rounded quotient of a double by a power of ten that is itself rounded first. -/
def scaleDown : Binary64 → Nat → Binary64
  | .finite n m e, k =>
    match ofNat (Nat.pow 10 k) with
    | .finite _ m' e' =>
      let (a, b) := ratio m e
      let (c, d) := ratio m' e'
      ofRatio n (a * d) (b * c)
    | _ => zero n
  | x, _ => x

def isFinite : Binary64 → Bool
  | .finite .. => true
  | _ => false

def isZero : Binary64 → Bool
  | .finite _ m _ => m == 0
  | _ => false

end Binary64
end KafkaTopology
