import Mathlib.Data.String.Basic
/-!
# Splitting at a character

`String.splitOn` walks over byte positions. Where the separator is one character it splits the list
of characters.
-/
namespace KafkaTopology.Text

open String

/-- The loop of `String.splitOn`: `l` is split off, `m` has been read since, `r` lies ahead. -/
theorem splitOnAux_singleton (c : Char) (l m r : List Char) (acc : List String) :
    splitOnAux (ofList (l ++ m ++ r)) (ofList [c]) ⟨utf8Len l⟩ ⟨utf8Len l + utf8Len m⟩ 0 acc =
      acc.reverse ++ (List.splitOnPPrepend (· == c) r m.reverse).map ofList := by
  have hlen : utf8Len (l ++ m) = utf8Len l + utf8Len m := utf8Len_append l m
  induction r generalizing l m acc with
  | nil =>
    have hend := (atEnd_of_valid (l ++ m) []).2 rfl
    rw [hlen] at hend
    rw [splitOnAux, if_pos hend]
    simp only [extract_of_valid l m [], List.reverse_cons]
    simp
  | cons d r ih =>
    have hsep : Pos.Raw.get (ofList [c]) 0 = c := get_of_valid [] [c]
    have hend : ¬Pos.Raw.atEnd (ofList (l ++ m ++ d :: r)) ⟨utf8Len l + utf8Len m⟩ = true := by
      rw [← hlen, atEnd_of_valid]
      simp
    have hget := get_of_valid (l ++ m) (d :: r)
    have hnext := next_of_valid (l ++ m) d r
    rw [hlen] at hget hnext
    rw [splitOnAux, if_neg hend, hget, hsep, hnext, List.headD_cons,
      List.splitOnPPrepend_cons_eq_if]
    by_cases hd : d = c
    · subst hd
      have hnextsep : Pos.Raw.next (ofList [d]) 0 = ⟨d.utf8Size⟩ := by
        simpa using next_of_valid [] d []
      have hendsep : Pos.Raw.atEnd (ofList [d]) ⟨d.utf8Size⟩ = true := by
        simpa using (atEnd_of_valid [d] []).2 rfl
      have hback : Pos.Raw.unoffsetBy ⟨utf8Len l + utf8Len m + d.utf8Size⟩ ⟨d.utf8Size⟩ =
          ⟨utf8Len l + utf8Len m⟩ := by
        rw [Pos.Raw.unoffsetBy]
        simp
      have hrest := ih (l ++ m ++ [d]) [] (ofList m :: acc) (by simp)
      rw [List.append_nil, List.append_assoc, List.singleton_append, utf8Len_append, hlen] at hrest
      simp only [beq_self_eq_true, if_true, hnextsep, hendsep, hback, extract_of_valid l m (d :: r)]
      simpa using hrest
    · have hrest := ih l (m ++ [d]) acc (by simp)
      have hskip : (Pos.Raw.unoffsetBy ⟨utf8Len l + utf8Len m⟩ 0) =
          ⟨utf8Len l + utf8Len m⟩ := by
        rw [Pos.Raw.unoffsetBy]
        simp
      rw [utf8Len_append, ← List.append_assoc, List.append_assoc (l ++ m),
        List.singleton_append] at hrest
      simp only [beq_iff_eq, hd, if_false, hskip, hnext]
      simpa [Nat.add_assoc] using hrest

/-- Splitting a text at a character. -/
theorem splitOn_eq (s : String) {sep : String} {c : Char} (h : sep = ofList [c]) :
    s.splitOn sep = (s.toList.splitOn c).map ofList := by
  have hne : (ofList [c] == "") = false := by
    rw [beq_eq_false_iff_ne]
    exact fun h => by simpa using congrArg String.toList h
  have haux := splitOnAux_singleton c [] [] s.toList []
  rw [h, splitOn, hne, List.splitOn]
  simpa using haux

end KafkaTopology.Text
