import KafkaTopology.Proofs.Timestamp.Calendar
/-!
# Stored instants

An instant of the calendar that is stored is read back (`Timestamp.ofText?_stored`). Each part of the
text is a number in digits between separators, so reading it comes down to `Timestamp.Spells`.
-/
namespace KafkaTopology.Timestamp

/-! ## Numbers -/

/-- A list of decimal digits and the number that they spell. -/
structure Spells (ds : List Char) (n : Nat) : Prop where
  isDigit : ∀ c ∈ ds, c.isDigit = true
  numberOf_eq : numberOf ds = n

theorem numberOf_eq_ofDigitChars (ds : List Char) : numberOf ds = Nat.ofDigitChars 10 ds 0 := by
  have hstep : (fun (n : Nat) (c : Char) => n * 10 + (c.toNat - 48)) =
      fun n c => 10 * n + (c.toNat - '0'.toNat) := by
    funext n c
    rw [Nat.mul_comm]
    rfl
  rw [numberOf, Nat.ofDigitChars, hstep]

theorem numberOf_zeros (width : Nat) (ds : List Char) :
    numberOf (List.replicate width '0' ++ ds) = numberOf ds := by
  induction width with
  | zero => rfl
  | succ width ih => exact ih

theorem toList_padded (width n : Nat) :
    (padded width n).toList =
      List.replicate (width - (Nat.toDigits 10 n).length) '0' ++ Nat.toDigits 10 n := by
  rw [padded, String.toList_ofList]

theorem spells_padded (width n : Nat) : Spells (padded width n).toList n where
  isDigit c hc := by
    rw [toList_padded] at hc
    rcases List.mem_append.1 hc with hc | hc
    · rw [(List.mem_replicate.1 hc).2]
      rfl
    · exact Nat.isDigit_of_mem_toDigits (by decide) (by decide) hc
  numberOf_eq := by
    rw [toList_padded, numberOf_zeros, numberOf_eq_ofDigitChars,
      Nat.ofDigitChars_toDigits (by decide) (by decide)]

theorem length_padded {width n : Nat} (hwidth : 0 < width) (h : n < Nat.pow 10 width) :
    (padded width n).toList.length = width := by
  have hlength := (Nat.length_toDigits_le_iff (by decide) hwidth).2 h
  rw [toList_padded, List.length_append, List.length_replicate]
  omega

theorem toList_padded_ne_nil (width n : Nat) : (padded width n).toList ≠ [] := by
  rw [toList_padded]
  exact List.append_ne_nil_of_right_ne_nil _ (List.ne_nil_of_length_pos Nat.length_toDigits_pos)

variable {ds rest : List Char} {n : Nat}

/-- Digits are split off up to what is no digit, or up to their greatest number. -/
theorem spanDigits_append {max : Nat} (hds : ∀ c ∈ ds, c.isDigit = true)
    (h : ds.length = max ∨ (ds.length ≤ max ∧ ∀ c ∈ rest.head?, c.isDigit = false)) :
    spanDigits max (ds ++ rest) = (ds, rest) := by
  induction ds generalizing max with
  | nil =>
    cases max with
    | zero => rw [spanDigits]; rfl
    | succ max =>
      obtain h | ⟨-, hrest⟩ := h
      · cases h
      cases rest with
      | nil => rfl
      | cons c rest => rw [List.nil_append, spanDigits, hrest c rfl, if_neg Bool.false_ne_true]
  | cons c ds ih =>
    cases max with
    | zero =>
      rcases h with h | ⟨h, -⟩ <;> simp at h
    | succ max =>
      have hds' : ∀ d ∈ ds, d.isDigit = true := fun d hd => hds d (List.mem_cons_of_mem c hd)
      have hrest : spanDigits max (ds ++ rest) = (ds, rest) := ih hds' (by simpa using h)
      rw [List.cons_append, spanDigits, if_pos (hds c List.mem_cons_self), hrest]

theorem number?_append {max : Nat} (hspells : Spells ds n) (hne : ds ≠ [])
    (h : ds.length = max ∨ (ds.length ≤ max ∧ ∀ c ∈ rest.head?, c.isDigit = false)) :
    number? max (ds ++ rest) = some (n, rest) := by
  rw [number?, spanDigits_append hspells.isDigit h]
  cases ds with
  | nil => exact absurd rfl hne
  | cons c ds => rw [← hspells.numberOf_eq]

/-! ## Blanks and separators -/

theorem isBlank_of_isDigit {c : Char} (h : c.isDigit = true) : Text.isBlank c = false := by
  have hbounds : 48 ≤ c.toNat ∧ c.toNat ≤ 57 := by
    simpa [Char.isDigit, UInt32.le_iff_toNat_le] using h
  simp [Text.isBlank]
  omega

theorem skipBlanks_cons {c : Char} (h : Text.isBlank c = false) (cs : List Char) :
    skipBlanks (c :: cs) = c :: cs := by
  rw [skipBlanks, List.dropWhile_cons_of_neg (by simp [h])]

theorem separator?_cons {c : Char} (h : Text.isBlank c = false) (rest : List Char) :
    separator? c (c :: rest) = some rest := by
  rw [separator?, skipBlanks_cons h]
  exact if_pos rfl

/-- A number in digits begins with a digit. -/
theorem exists_padded (width n : Nat) :
    ∃ c cs, (padded width n).toList = c :: cs ∧ c.isDigit = true := by
  cases h : (padded width n).toList with
  | nil => exact absurd h (toList_padded_ne_nil width n)
  | cons c cs => exact ⟨c, cs, rfl, (spells_padded width n).isDigit c (h ▸ List.mem_cons_self)⟩

theorem skipBlanks_padded (width n : Nat) (rest : List Char) :
    skipBlanks ((padded width n).toList ++ rest) = (padded width n).toList ++ rest := by
  obtain ⟨c, cs, hpadded, hc⟩ := exists_padded width n
  rw [hpadded, List.cons_append, skipBlanks_cons (isBlank_of_isDigit hc)]

/-! ## Components -/

theorem component?_padded {low high : Nat} (hlow : low ≤ n) (hhigh : n ≤ high) (h : high < 100)
    (rest : List Char) : component? low high ((padded 2 n).toList ++ rest) = some (n, rest) := by
  have hlength : (padded 2 n).toList.length = 2 :=
    length_padded (by decide) (show n < 100 by omega)
  have hnumber : number? 2 ((padded 2 n).toList ++ rest) = some (n, rest) :=
    number?_append (spells_padded 2 n) (toList_padded_ne_nil 2 n) (.inl hlength)
  rw [component?, skipBlanks_padded, hnumber]
  exact if_pos ⟨hlow, hhigh⟩

/-- With a sign a year may have any number of digits. -/
theorem number?_signed (n : Nat) (rest : List Char) :
    number? ((padded 4 n).toList ++ '-' :: rest).length ((padded 4 n).toList ++ '-' :: rest) =
      some (n, '-' :: rest) :=
  number?_append (spells_padded 4 n) (toList_padded_ne_nil 4 n) (.inr ⟨by simp, by simp⟩)

theorem year?_minus (n : Nat) (rest : List Char) :
    year? ('-' :: ((padded 4 n).toList ++ '-' :: rest)) = some (-(n : Int), '-' :: rest) := by
  rw [year?, skipBlanks_cons (by decide)]
  simp only [number?_signed, Option.map_some]

theorem year?_plus (n : Nat) (rest : List Char) :
    year? ('+' :: ((padded 4 n).toList ++ '-' :: rest)) = some ((n : Int), '-' :: rest) := by
  rw [year?, skipBlanks_cons (by decide)]
  simp only [number?_signed, Option.map_some]

theorem year?_padded {n : Nat} (h : n < 10000) (rest : List Char) :
    year? ((padded 4 n).toList ++ '-' :: rest) = some ((n : Int), '-' :: rest) := by
  have hnumber : number? 4 ((padded 4 n).toList ++ '-' :: rest) = some (n, '-' :: rest) :=
    number?_append (spells_padded 4 n) (toList_padded_ne_nil 4 n)
      (.inl (length_padded (by decide) h))
  obtain ⟨c, cs, hpadded, hc⟩ := exists_padded 4 n
  rw [year?, skipBlanks_padded]
  rw [hpadded, List.cons_append] at hnumber ⊢
  split
  · next heq => exact absurd hc (by rw [(List.cons.inj heq).1]; decide)
  · next heq => exact absurd hc (by rw [(List.cons.inj heq).1]; decide)
  · simp only [hnumber, Option.map_some]

/-- A year is read up to the dash that follows it. -/
theorem year?_yearText (year : Int) (rest : List Char) :
    year? ((yearText year).toList ++ '-' :: rest) = some (year, '-' :: rest) := by
  by_cases hplain : 0 ≤ year ∧ year ≤ 9999
  · rw [yearText, if_pos hplain, year?_padded (by omega), Int.toNat_of_nonneg hplain.1]
  rw [yearText, if_neg hplain, String.toList_append, List.append_assoc]
  by_cases hnegative : year < 0
  · have hsign : "-".toList = ['-'] := rfl
    rw [if_pos hnegative, hsign, List.singleton_append, year?_minus,
      Int.ofNat_natAbs_of_nonpos (Int.le_of_lt hnegative), Int.neg_neg]
  · have hsign : "+".toList = ['+'] := rfl
    rw [if_neg hnegative, hsign, List.singleton_append, year?_plus,
      Int.natAbs_of_nonneg (Int.not_lt.1 hnegative)]

theorem fraction?_padded {width m : Nat} (hwidth : 0 < width) (hwidth' : width ≤ 9)
    (h : n < Nat.pow 10 width) (hm : n * Nat.pow 10 (9 - width) = m) :
    fraction? ('.' :: ((padded width n).toList ++ ['Z'])) = some (m, ['Z']) := by
  have hlength : (padded width n).toList.length = width := length_padded hwidth h
  have hspan : spanDigits 9 ((padded width n).toList ++ ['Z']) = ((padded width n).toList, ['Z']) :=
    spanDigits_append (spells_padded width n).isDigit (.inr ⟨by omega, by simp⟩)
  have hnumber := (spells_padded width n).numberOf_eq
  rw [fraction?, hspan]
  split
  · next heq => exact absurd (Prod.mk.inj heq).1 (toList_padded_ne_nil width n)
  · next heq =>
    obtain ⟨rfl, rfl⟩ := Prod.mk.inj heq
    rw [hnumber, hlength, hm]
    rfl

theorem fraction?_fractionText (t : Timestamp) :
    fraction? (t.fractionText.toList ++ ['Z']) = some (t.nanos % 1000000000, ['Z']) := by
  have hpoint (width n : Nat) : ("." ++ padded width n).toList ++ ['Z'] =
      '.' :: ((padded width n).toList ++ ['Z']) := by
    rw [String.toList_append]
    rfl
  rw [fractionText]
  simp only [beq_iff_eq]
  split
  · next hzero =>
    rw [hzero]
    rfl
  split
  · next hmilli =>
    rw [hpoint]
    exact fraction?_padded (by decide) (by decide) (show _ < 1000 by omega)
      (show _ * 1000000 = _ by omega)
  split
  · next hmicro =>
    rw [hpoint]
    exact fraction?_padded (by decide) (by decide) (show _ < 1000000 by omega)
      (show _ * 1000 = _ by omega)
  · rw [hpoint]
    exact fraction?_padded (by decide) (by decide) (show _ < 1000000000 by omega)
      (show _ * 1 = _ by omega)

/-! ## Instants -/

/-- An instant of the calendar: its year is one that can be written, and a second that goes on
beyond its end is the last of a minute. -/
structure IsInstant (t : Timestamp) : Prop where
  nanos_lt : t.nanos < 2000000000
  leap : 1000000000 ≤ t.nanos → t.seconds % 60 = 59
  year_inRange : yearInRange t.year = true

instance (t : Timestamp) : Decidable t.IsInstant :=
  decidable_of_iff (t.nanos < 2000000000 ∧ (1000000000 ≤ t.nanos → t.seconds % 60 = 59) ∧
      yearInRange t.year = true)
    ⟨fun ⟨hnanos, hleap, hyear⟩ => ⟨hnanos, hleap, hyear⟩,
      fun ⟨hnanos, hleap, hyear⟩ => ⟨hnanos, hleap, hyear⟩⟩

variable {t : Timestamp}

/-- A leap second is written as the second 60 of its minute, and read as it was. -/
theorem IsInstant.second_eq (h : t.IsInstant) {second : Nat} (hsecond : second < 60)
    (hlast : t.seconds % 60 = second) :
    (if second + t.nanos / 1000000000 == 60 then (59, t.nanos % 1000000000 + 1000000000)
      else (second + t.nanos / 1000000000, t.nanos % 1000000000)) = (second, t.nanos) := by
  have hnanos := h.nanos_lt
  by_cases hlong : 1000000000 ≤ t.nanos
  · have hleap := h.leap hlong
    rw [if_pos (beq_iff_eq.2 (by omega)), Prod.mk.injEq]
    omega
  · rw [if_neg (mt beq_iff_eq.1 (by omega)), Prod.mk.injEq]
    omega

theorem toList_stored {year : Int} {month day : Nat}
    (hdate : dateOfDays (t.seconds / 86400) = (year, month, day)) :
    let s := (t.seconds % 86400).toNat
    t.stored.toList = (yearText year).toList ++ '-' :: ((padded 2 month).toList ++
      '-' :: ((padded 2 day).toList ++ 'T' :: ((padded 2 (s / 3600)).toList ++
      ':' :: ((padded 2 (s / 60 % 60)).toList ++
      ':' :: ((padded 2 (s % 60 + t.nanos / 1000000000)).toList ++
      (t.fractionText.toList ++ ['Z'])))))) := by
  simp [stored, dateText, timeText, hdate]

/-- **Round trip.** A stored instant is read back. -/
theorem ofText?_stored (h : t.IsInstant) : ofText? t.stored = some t := by
  have hnanos := h.nanos_lt
  have hleap := h.leap
  have hyear := h.year_inRange
  rcases hdate : dateOfDays (t.seconds / 86400) with ⟨year, month, day⟩
  have hcalendar := daysOfDate_dateOfDays (t.seconds / 86400)
  rw [hdate] at hcalendar
  obtain ⟨⟨hmonth, hmonth'⟩, ⟨hday, hday'⟩, hdays⟩ := hcalendar
  have hday31 : day ≤ 31 := Nat.le_trans hday' (daysInMonth_le year month)
  rw [ofText?, toList_stored hdate]
  generalize hs : (t.seconds % 86400).toNat = s
  have hsecond := h.second_eq (Nat.mod_lt s (by decide)) (by omega)
  have hseconds : t.seconds / 86400 * 86400 + (s / 3600 : Nat) * 3600 + (s / 60 % 60 : Nat) * 60 +
      (s % 60 : Nat) - 0 = t.seconds := by omega
  refine Option.bind_eq_some_iff.2 ⟨_, year?_yearText year _, ?_⟩
  refine Option.bind_eq_some_iff.2 ⟨_, separator?_cons (by decide) _, ?_⟩
  refine Option.bind_eq_some_iff.2 ⟨_, component?_padded hmonth hmonth' (by decide) _, ?_⟩
  refine Option.bind_eq_some_iff.2 ⟨_, separator?_cons (by decide) _, ?_⟩
  refine Option.bind_eq_some_iff.2 ⟨_, component?_padded hday hday31 (by decide) _, ?_⟩
  refine Option.bind_eq_some_iff.2 ⟨_, rfl, ?_⟩
  refine Option.bind_eq_some_iff.2
    ⟨_, component?_padded (Nat.zero_le (s / 3600)) (by omega) (by decide) _, ?_⟩
  refine Option.bind_eq_some_iff.2 ⟨_, separator?_cons (by decide) _, ?_⟩
  refine Option.bind_eq_some_iff.2
    ⟨_, component?_padded (Nat.zero_le (s / 60 % 60)) (by omega) (by decide) _, ?_⟩
  refine Option.bind_eq_some_iff.2 ⟨_, separator?_cons (by decide) _, ?_⟩
  refine Option.bind_eq_some_iff.2 ⟨_, component?_padded
    (Nat.zero_le (s % 60 + t.nanos / 1000000000)) (by omega) (by decide) _, ?_⟩
  refine Option.bind_eq_some_iff.2 ⟨_, fraction?_fractionText t, ?_⟩
  refine Option.bind_eq_some_iff.2 ⟨(0, []), rfl, ?_⟩
  simp only [hsecond, hdays, hseconds]
  have hvalid : ((skipBlanks []).isEmpty && yearInRange year &&
      decide (day ≤ daysInMonth year month) && decide ((-86400 : Int) < 0) &&
      decide ((0 : Int) < 86400)) = true := by
    rw [Timestamp.year, hdate] at hyear
    simp [hyear, hday', skipBlanks]
  rw [if_pos hvalid, if_pos hyear]

end KafkaTopology.Timestamp
