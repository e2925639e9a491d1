import Mathlib.Data.String.Basic
import Mathlib.Order.Basic
/-!
# Octets of texts

Texts are compared by their characters. The octets of UTF-8 say the same: the first octet of a
character tells how many follow it, and the more do the higher it is; those that follow are the last
digits of the character's number in base 64. So a text is before another if and only if its octets
are (`Text.compare_eq_lt_iff`).
-/
namespace KafkaTopology.Text

/-- The octets of a text in UTF-8. -/
def octets (s : String) : List UInt8 := s.toUTF8.data.toList

namespace Octets

/-- Octets that are before others, whatever follows either. -/
def Before (xs ys : List UInt8) : Prop := ∀ us vs : List UInt8, xs ++ us < ys ++ vs

theorem Before.of_lt {a b : UInt8} (h : a < b) (xs ys : List UInt8) : Before (a :: xs) (b :: ys) :=
  fun _ _ => List.cons_lt_cons_iff.2 (.inl h)

theorem Before.cons {xs ys : List UInt8} (h : Before xs ys) (a : UInt8) :
    Before (a :: xs) (a :: ys) :=
  fun us vs => List.cons_lt_cons_iff.2 (.inr ⟨rfl, h us vs⟩)

/-! ## Characters -/

/-- The last `k` digits of a number in base 64, as octets that follow the first. -/
def continuation : (k n : Nat) → List UInt8
  | 0, _ => []
  | k + 1, n => .ofNat (n / 64 ^ k % 64 + 128) :: continuation k n

/-- How many octets follow the first. -/
def following (n : Nat) : Nat :=
  if n ≤ 0x7f then 0 else if n ≤ 0x7ff then 1 else if n ≤ 0xffff then 2 else 3

/-- Where the first octets begin that so many others follow, and those end that fewer do. -/
def mark : Nat → Nat
  | 0 => 0
  | 1 => 192
  | 2 => 224
  | 3 => 240
  | _ => 256

/-- The first octet of a character. -/
def first (n : Nat) : Nat := n / 64 ^ following n + mark (following n)

theorem toNat_lt (c : Char) : c.toNat < 0x110000 := by
  rcases c.valid with h | ⟨-, h⟩
  · exact Nat.lt_trans h (by decide)
  · exact h

theorem following_cases (n : Nat) :
    n ≤ 0x7f ∧ following n = 0 ∨ 0x7f < n ∧ n ≤ 0x7ff ∧ following n = 1 ∨
      0x7ff < n ∧ n ≤ 0xffff ∧ following n = 2 ∨ 0xffff < n ∧ following n = 3 := by
  unfold following
  split_ifs <;> omega

theorem utf8EncodeChar_eq (c : Char) :
    String.utf8EncodeChar c =
      .ofNat (first c.toNat) :: continuation (following c.toNat) c.toNat := by
  have hn := toNat_lt c
  rw [first]
  rcases following_cases c.toNat with ⟨hle, hk⟩ | ⟨hlt, hle, hk⟩ | ⟨hlt, hle, hk⟩ | ⟨hlt, hk⟩
  · simp [String.utf8EncodeChar, hk, hle, mark, continuation]
  · have hmod : c.toNat / 64 % 32 = c.toNat / 64 := Nat.mod_eq_of_lt (by omega)
    simp [String.utf8EncodeChar, hk, hle, Nat.not_le.2 hlt, mark, continuation, hmod]
  · have hmod : c.toNat / 4096 % 16 = c.toNat / 4096 := Nat.mod_eq_of_lt (by omega)
    have h0 : ¬c.toNat ≤ 0x7f := by omega
    simp [String.utf8EncodeChar, hk, hle, h0, Nat.not_le.2 hlt, mark, continuation, hmod]
  · have hmod : c.toNat / 262144 % 8 = c.toNat / 262144 := Nat.mod_eq_of_lt (by omega)
    have h0 : ¬c.toNat ≤ 0x7f := by omega
    have h1 : ¬c.toNat ≤ 0x7ff := by omega
    simp [String.utf8EncodeChar, hk, h0, h1, Nat.not_le.2 hlt, mark, continuation, hmod]

theorem mark_mono : Monotone mark :=
  monotone_nat_of_le_succ fun
    | 0 | 1 | 2 | 3 => by decide
    | _ + 4 => Nat.le_refl _

theorem first_lt_mark {n : Nat} (h : n < 0x110000) : first n < mark (following n + 1) := by
  rw [first]
  rcases following_cases n with ⟨hle, hk⟩ | ⟨hlt, hle, hk⟩ | ⟨hlt, hle, hk⟩ | ⟨hlt, hk⟩ <;>
    rw [hk] <;> simp only [mark] <;> omega

theorem first_lt_size {n : Nat} (h : n < 0x110000) : first n < UInt8.size :=
  calc first n < mark (following n + 1) := first_lt_mark h
    _ ≤ mark (following n + 4) := mark_mono (by omega)
    _ = UInt8.size := rfl

/-- The more octets follow the first, the higher it is. -/
theorem first_lt_of_following_lt {m n : Nat} (hm : m < 0x110000)
    (h : following m < following n) : first m < first n :=
  calc first m < mark (following m + 1) := first_lt_mark hm
    _ ≤ mark (following n) := mark_mono h
    _ ≤ first n := Nat.le_add_left _ _

theorem following_mono {m n : Nat} (h : m < n) : following m ≤ following n := by
  have := following_cases m
  have := following_cases n
  omega

/-- Of two numbers the smaller one has the smaller first octet, or the same one and smaller digits
behind it. -/
theorem first_cases {m n : Nat} (h : m < n) (hm : m < 0x110000) :
    first m < first n ∨ following m = following n ∧ first m = first n ∧
      m % 64 ^ following n < n % 64 ^ following n := by
  rcases Nat.lt_or_eq_of_le (following_mono h) with hlt | hk
  · exact .inl (first_lt_of_following_lt hm hlt)
  · rw [first, first, hk]
    rcases Nat.lt_or_eq_of_le (Nat.div_le_div_right (c := 64 ^ following n) h.le) with hlt | hdiv
    · exact .inl (Nat.add_lt_add_right hlt _)
    · refine .inr ⟨rfl, by rw [hdiv], ?_⟩
      have hm := Nat.div_add_mod m (64 ^ following n)
      have hn := Nat.div_add_mod n (64 ^ following n)
      rw [hdiv] at hm
      omega

theorem digit_lt_size (n k : Nat) : n / 64 ^ k % 64 + 128 < UInt8.size := by
  have hlt : n / 64 ^ k % 64 < 64 := Nat.mod_lt _ (by decide)
  show _ < 256
  omega

theorem before_continuation {k m n : Nat} (h : m % 64 ^ k < n % 64 ^ k) :
    Before (continuation k m) (continuation k n) := by
  induction k with
  | zero => exact absurd h (by rw [Nat.pow_zero, Nat.mod_one, Nat.mod_one]; exact Nat.lt_irrefl 0)
  | succ k ih =>
    rw [continuation, continuation]
    rw [Nat.mod_pow_succ, Nat.mod_pow_succ] at h
    rcases Nat.lt_trichotomy (m / 64 ^ k % 64) (n / 64 ^ k % 64) with hlt | heq | hgt
    · exact .of_lt ((UInt8.ofNat_lt_iff_lt (digit_lt_size m k) (digit_lt_size n k)).2
        (Nat.add_lt_add_right hlt 128)) _ _
    · rw [heq] at h ⊢
      exact (ih (Nat.lt_of_add_lt_add_right h)).cons _
    · -- a higher digit outweighs all that follow it
      have hn : n % 64 ^ k < 64 ^ k := Nat.mod_lt _ (Nat.pow_pos (by decide))
      have hle : 64 ^ k * (n / 64 ^ k % 64 + 1) ≤ 64 ^ k * (m / 64 ^ k % 64) :=
        Nat.mul_le_mul_left _ hgt
      rw [Nat.mul_add, Nat.mul_one] at hle
      omega

/-- The octets of a smaller character are before those of a greater one. -/
theorem before_utf8EncodeChar {c d : Char} (h : c < d) :
    Before (String.utf8EncodeChar c) (String.utf8EncodeChar d) := by
  rw [utf8EncodeChar_eq, utf8EncodeChar_eq]
  rcases first_cases (m := c.toNat) (n := d.toNat) h (toNat_lt c) with hlt | ⟨hk, heq, hlt⟩
  · exact .of_lt ((UInt8.ofNat_lt_iff_lt (first_lt_size (toNat_lt c))
      (first_lt_size (toNat_lt d))).2 hlt) _ _
  · rw [hk, heq]
    exact (before_continuation hlt).cons _

theorem flatMap_utf8EncodeChar_lt {cs ds : List Char} (h : cs < ds) :
    cs.flatMap String.utf8EncodeChar < ds.flatMap String.utf8EncodeChar := by
  induction cs generalizing ds with
  | nil =>
    cases ds with
    | nil => exact absurd h (List.lt_irrefl _)
    | cons d ds =>
      rw [List.flatMap_cons, utf8EncodeChar_eq]
      exact List.nil_lt_cons _ _
  | cons c cs ih =>
    cases ds with
    | nil => exact absurd h (List.not_lt_nil _)
    | cons d ds =>
      rw [List.flatMap_cons, List.flatMap_cons]
      rcases List.cons_lt_cons_iff.1 h with hlt | ⟨rfl, hlt⟩
      · exact before_utf8EncodeChar hlt _ _
      · exact List.append_left_lt (ih hlt)

end Octets

/-! ## Texts -/

theorem octets_eq (s : String) : octets s = s.toList.flatMap String.utf8EncodeChar := by
  obtain ⟨cs, rfl⟩ : ∃ cs, s = String.ofList cs := ⟨s.toList, String.ofList_toList.symm⟩
  rw [octets, String.toList_ofList, String.toUTF8_eq_toByteArray, String.toByteArray_ofList]
  exact List.toList_data_toByteArray

theorem octets_lt_of_lt {s t : String} (h : s < t) : octets s < octets t := by
  rw [octets_eq, octets_eq]
  exact Octets.flatMap_utf8EncodeChar_lt h

/-- Texts are in the order of their octets. -/
theorem compare_eq_lt_iff {s t : String} : compare s t = .lt ↔ octets s < octets t := by
  constructor
  · intro h
    exact octets_lt_of_lt (compareOfLessAndEq_eq_lt.1 h)
  · intro h
    refine compareOfLessAndEq_eq_lt.2 ?_
    rcases lt_trichotomy s t with hlt | rfl | hgt
    · exact hlt
    · exact absurd h (List.lt_irrefl _)
    · exact absurd h (List.lt_asymm (octets_lt_of_lt hgt))

theorem octets_inj {s t : String} : octets s = octets t ↔ s = t :=
  ⟨fun h => String.toByteArray_inj.1 (ByteArray.ext (Array.toList_inj.1 h)), fun h => h ▸ rfl⟩

end KafkaTopology.Text
