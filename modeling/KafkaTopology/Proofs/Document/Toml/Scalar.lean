import KafkaTopology.Document.Toml.Printer
/-!
# Texts and blanks of TOML

A text that is written between double quotes is read back whatever its characters are
(`text?_writtenText`), and the blanks and breaks of a written document are skipped.
-/
namespace KafkaTopology.Document.Toml

/-! ## Blanks -/

/-- Whether a character ends blanks, comments and breaks. -/
def isSolid (c : Char) : Bool := !isBlank c && c != '#' && c != '\n' && c != '\r'

variable {c : Char} {cs rest : List Char}

theorem skipBlanks_solid (h : isSolid c = true) : skipBlanks (c :: cs) = c :: cs := by
  simp only [isSolid, Bool.and_eq_true, Bool.not_eq_true'] at h
  rw [skipBlanks, List.dropWhile_cons_of_neg (by rw [h.1.1.1]; decide)]

theorem skipComment_of_skipBlanks (h : isSolid c = true) (hblanks : skipBlanks cs = c :: rest) :
    skipComment cs = c :: rest := by
  rw [skipComment, hblanks]
  simp only [isSolid, Bool.and_eq_true, bne_iff_ne] at h
  split
  · next heq =>
    exact absurd (List.cons.inj heq).1 h.1.1.2
  · rfl

theorem break?_solid (h : isSolid c = true) : break? (c :: cs) = none := by
  simp only [isSolid, Bool.and_eq_true, bne_iff_ne] at h
  rw [break?]
  · rintro rest heq
    exact h.1.2 (List.cons.inj heq).1
  · rintro rest heq
    exact h.2 (List.cons.inj heq).1

theorem skipSpace_of_skipBlanks (h : isSolid c = true) (hblanks : skipBlanks cs = c :: rest)
    (fuel : Nat) : skipSpace (fuel + 1) cs = c :: rest := by
  rw [skipSpace, skipComment_of_skipBlanks h hblanks, break?_solid h]

theorem skipSpace_solid (h : isSolid c = true) (fuel : Nat) :
    skipSpace fuel (c :: cs) = c :: cs := by
  cases fuel with
  | zero => rfl
  | succ fuel => exact skipSpace_of_skipBlanks h (skipBlanks_solid h) fuel

/-- A break and the blanks of the next line. -/
theorem skipSpace_break (h : isSolid c = true) (hblanks : skipBlanks cs = c :: rest)
    (fuel : Nat) : skipSpace (fuel + 2) ('\n' :: cs) = c :: rest := by
  have hcomment : skipComment ('\n' :: cs) = '\n' :: cs := rfl
  rw [skipSpace, hcomment]
  exact skipSpace_of_skipBlanks h hblanks fuel

/-- A break and an indentation by two spaces. -/
theorem skipSpace_indent (h : isSolid c = true) (cs : List Char) (fuel : Nat) :
    skipSpace (fuel + 2) ('\n' :: ' ' :: ' ' :: c :: cs) = c :: cs :=
  skipSpace_break h (skipBlanks_solid h) fuel

theorem lineEnd?_break : lineEnd? ('\n' :: cs) = some cs := rfl

/-! ## Texts -/

/-- The hexadecimal digits of a character that is not printable. -/
theorem natural?_hexDigits : ∀ n < 128,
    Text.natural? 16 ['0', '0', hexDigit (n / 16), hexDigit (n % 16)] = some n := by
  decide +kernel

theorem escape?_numbered (h : c.toNat < 128) :
    escape? ('u' :: '0' :: '0' :: hexDigit (c.toNat / 16) :: hexDigit (c.toNat % 16) :: rest) =
      some (c, rest) := by
  have hnumber : Text.numberedCharacter? 4
      ('0' :: '0' :: hexDigit (c.toNat / 16) :: hexDigit (c.toNat % 16) :: rest) =
      if 4 < 4 ∨ (0xD800 ≤ c.toNat ∧ c.toNat ≤ 0xDFFF) ∨ 0x10FFFF < c.toNat then none
      else some (Char.ofNat c.toNat, rest) := by
    have htake : Text.natural? 16 (('0' :: '0' :: hexDigit (c.toNat / 16) ::
        hexDigit (c.toNat % 16) :: rest).take 4) = some c.toNat := natural?_hexDigits _ h
    rw [Text.numberedCharacter?]
    simp only [htake]
    rfl
  show Text.numberedCharacter? 4 _ = _
  rw [hnumber, if_neg (by omega), Char.ofNat_toNat]

theorem toNat_lt_of_not_isPrintable (h : ¬isPrintable c = true) : c.toNat < 128 := by
  simp only [isPrintable, Bool.or_eq_true, Bool.and_eq_true, decide_eq_true_eq, bne_iff_ne] at h
  omega

/-- A written character is read back. -/
theorem basicText?_escapeCharacter (c : Char) (fuel : Nat) (acc cs : List Char) :
    basicText? (fuel + 1) acc (escapeCharacter c ++ cs) = basicText? fuel (c :: acc) cs := by
  rw [escapeCharacter.eq_def]
  split
  case h_8 hquote hbackslash _ _ _ _ _ =>
    split
    · next hprintable =>
      show (if c == '"' then _ else if c == '\\' then _ else if isPrintable c then _ else _) = _
      rw [if_neg (by simpa using hquote), if_neg (by simpa using hbackslash), if_pos hprintable]
      rfl
    · next hcontrol =>
      have hescape : escape? ('u' :: '0' :: '0' :: hexDigit (c.toNat / 16) ::
          hexDigit (c.toNat % 16) :: cs) = some (c, cs) :=
        escape?_numbered (toNat_lt_of_not_isPrintable hcontrol)
      show (escape? ('u' :: '0' :: '0' :: hexDigit (c.toNat / 16) ::
        hexDigit (c.toNat % 16) :: cs)).bind (fun p => basicText? fuel (p.1 :: acc) p.2) = _
      rw [hescape, Option.bind_some]
  all_goals rfl

/-- Written characters are read back up to the quote after them. -/
theorem basicText?_written {s : List Char} {fuel : Nat} (h : s.length < fuel)
    (acc rest : List Char) :
    basicText? fuel acc (s.flatMap escapeCharacter ++ '"' :: rest) =
      some (String.ofList (acc.reverse ++ s), rest) := by
  induction s generalizing fuel acc with
  | nil =>
    obtain ⟨fuel, rfl⟩ := Nat.exists_eq_succ_of_ne_zero (Nat.ne_of_gt h)
    rw [List.append_nil]
    rfl
  | cons c s ih =>
    obtain ⟨fuel, rfl⟩ := Nat.exists_eq_succ_of_ne_zero (Nat.ne_of_gt (Nat.zero_lt_of_lt h))
    rw [List.flatMap_cons, List.append_assoc, basicText?_escapeCharacter,
      ih (Nat.lt_of_succ_lt_succ h), List.reverse_cons, List.append_assoc, List.singleton_append]

theorem exists_escapeCharacter (c : Char) :
    ∃ d ds, escapeCharacter c = d :: ds ∧ d ≠ '"' := by
  rw [escapeCharacter.eq_def]
  split
  case h_8 hquote _ _ _ _ _ _ =>
    split
    · exact ⟨c, [], rfl, hquote⟩
    · exact ⟨_, _, rfl, by decide⟩
  all_goals exact ⟨_, _, rfl, by decide⟩

theorem length_le_flatMap_escapeCharacter (s : List Char) :
    s.length ≤ (s.flatMap escapeCharacter).length := by
  induction s with
  | nil => exact Nat.le_refl 0
  | cons c s ih =>
    obtain ⟨d, ds, hc, -⟩ := exists_escapeCharacter c
    rw [List.flatMap_cons, hc, List.length_append, List.length_cons, List.length_cons]
    omega

/-- A text between quotes that is not the beginning of one of several lines. -/
theorem text?_quote (h : ∀ ds, cs ≠ '"' :: '"' :: ds) :
    text? ('"' :: cs) = basicText? (cs.length + 1) [] cs := by
  rw [text?]
  exact h

/-- A written text is read back, unless a further quote follows it. -/
theorem text?_writtenText (s : String) {rest : List Char} (h : rest.head? ≠ some '"') :
    text? (writtenText s ++ rest) = some (s, rest) := by
  have hwritten : writtenText s ++ rest =
      '"' :: (s.toList.flatMap escapeCharacter ++ '"' :: rest) := by
    simp [writtenText]
  have hshort : ∀ ds, s.toList.flatMap escapeCharacter ++ '"' :: rest ≠ '"' :: '"' :: ds := by
    intro ds heq
    cases hs : s.toList with
    | nil =>
      rw [hs] at heq
      obtain ⟨-, heq⟩ := List.cons.inj heq
      rw [heq] at h
      exact h rfl
    | cons c cs =>
      obtain ⟨d, ds', hc, hquote⟩ := exists_escapeCharacter c
      rw [hs, List.flatMap_cons, hc] at heq
      exact hquote (List.cons.inj heq).1
  have hlength := length_le_flatMap_escapeCharacter s.toList
  rw [hwritten, text?_quote hshort, basicText?_written (by rw [List.length_append]; omega)]
  simp

end KafkaTopology.Document.Toml
