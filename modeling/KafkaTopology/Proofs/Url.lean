import KafkaTopology.Proofs.Except
import KafkaTopology.Text.Digit
import KafkaTopology.Url
import Mathlib.Data.List.Infix
import Mathlib.Data.List.TakeWhile
/-!
# What URLs lead to

A text that is a URL begins with a scheme and an authority, and what follows them is its target. So
a text with the same beginning is a URL exactly if its own target is one
(`Url.ofText_eq_ok_iff_of_stem`).

What a segment of a path stands for is read by replacing escapes with the octets that they number. A
segment stands for its own text if and only if it has no escape (`Url.decoded_eq_octets_iff`).
-/
namespace KafkaTopology.Url

/-! ## Escapes -/

/-- The octets that a text is sent as. -/
def octets (cs : List Char) : List UInt8 := cs.flatMap String.utf8EncodeChar

/-- The octet that two hexadecimal digits number. -/
def escape? (a b : Char) : Option UInt8 := do
  return .ofNat (16 * (← Text.digit? 16 a) + (← Text.digit? 16 b))

/-- The octets that a segment stands for. A percent sign that two digits follow is an escape, any
other character stands for itself. -/
def decoded : List Char → List UInt8
  | '%' :: a :: b :: cs =>
    match escape? a b with
    | some octet => octet :: decoded cs
    | none => String.utf8EncodeChar '%' ++ decoded (a :: b :: cs)
  | c :: cs => String.utf8EncodeChar c ++ decoded cs
  | [] => []

/-- Whether an escape stands in a text. -/
def HasEscape (cs : List Char) : Prop :=
  ∃ a b, (escape? a b).isSome = true ∧ ['%', a, b] <:+: cs

/-- Whether a text begins with an escape. -/
def StartsWithEscape (cs : List Char) : Prop :=
  ∃ a b, (escape? a b).isSome = true ∧ ['%', a, b] <+: cs

theorem hasEscape_cons_iff {c : Char} {cs : List Char} :
    HasEscape (c :: cs) ↔ StartsWithEscape (c :: cs) ∨ HasEscape cs := by
  simp only [HasEscape, StartsWithEscape, List.infix_cons_iff, and_or_left, exists_or]

theorem octets_injective : Function.Injective octets := by
  intro cs ds h
  refine String.ofList_injective (String.toByteArray_inj.1 ?_)
  rw [String.toByteArray_ofList, String.toByteArray_ofList]
  exact congrArg List.toByteArray h

theorem octets_cons (c : Char) (cs : List Char) :
    octets (c :: cs) = String.utf8EncodeChar c ++ octets cs := rfl

theorem startsWithEscape_of_isSome {a b : Char} {cs : List Char}
    (h : (escape? a b).isSome = true) : StartsWithEscape ('%' :: a :: b :: cs) :=
  ⟨a, b, h, cs, rfl⟩

theorem not_startsWithEscape_of_none {a b : Char} {cs : List Char} (h : escape? a b = none) :
    ¬StartsWithEscape ('%' :: a :: b :: cs) := by
  rintro ⟨a', b', hsome, rest, hrest⟩
  simp only [List.cons_append, List.nil_append, List.cons.injEq, true_and] at hrest
  obtain ⟨rfl, rfl, -⟩ := hrest
  rw [h] at hsome
  cases hsome

theorem length_decoded_le (cs : List Char) : (decoded cs).length ≤ (octets cs).length := by
  fun_induction decoded cs with
  | case1 a b cs octet _ ih =>
    have ha := a.utf8Size_pos
    simp only [octets_cons, List.length_cons, List.length_append, String.length_utf8EncodeChar]
    omega
  | case2 a b cs _ ih =>
    rw [octets_cons '%', List.length_append, List.length_append]
    exact Nat.add_le_add_left ih _
  | case3 c cs _ ih =>
    rw [octets_cons, List.length_append, List.length_append]
    exact Nat.add_le_add_left ih _
  | case4 => exact le_rfl

/-- An escape stands for fewer octets than it is sent as, and nothing else does. -/
theorem length_decoded (cs : List Char) :
    (HasEscape cs → (decoded cs).length < (octets cs).length) ∧
      (¬HasEscape cs → decoded cs = octets cs) := by
  fun_induction decoded cs with
  | case1 a b cs octet hoctet ih =>
    have hescape : HasEscape ('%' :: a :: b :: cs) :=
      hasEscape_cons_iff.2 (.inl (startsWithEscape_of_isSome (by rw [hoctet]; rfl)))
    refine ⟨fun _ => ?_, fun h => absurd hescape h⟩
    have hrest := length_decoded_le cs
    have ha := a.utf8Size_pos
    have hb := b.utf8Size_pos
    simp only [octets_cons, List.length_cons, List.length_append, String.length_utf8EncodeChar]
    omega
  | case2 a b cs hnone ih =>
    have hsame : HasEscape ('%' :: a :: b :: cs) ↔ HasEscape (a :: b :: cs) :=
      hasEscape_cons_iff.trans (or_iff_right (not_startsWithEscape_of_none hnone))
    rw [hsame, octets_cons '%', List.length_append, List.length_append, Nat.add_lt_add_iff_left,
      List.append_cancel_left_eq]
    exact ih
  | case3 c cs hother ih =>
    have hsame : HasEscape (c :: cs) ↔ HasEscape cs := by
      refine hasEscape_cons_iff.trans (or_iff_right ?_)
      rintro ⟨a, b, -, rest, hrest⟩
      simp only [List.cons_append, List.nil_append, List.cons.injEq] at hrest
      exact hother a b rest hrest.1.symm hrest.2.symm
    rw [hsame, octets_cons, List.length_append, List.length_append, Nat.add_lt_add_iff_left,
      List.append_cancel_left_eq]
    exact ih
  | case4 =>
    refine ⟨?_, fun _ => rfl⟩
    rintro ⟨a, b, -, hinfix⟩
    cases List.infix_nil.1 hinfix

/-- A segment stands for its own text exactly if there is no escape in it. -/
theorem decoded_eq_octets_iff {cs : List Char} : decoded cs = octets cs ↔ ¬HasEscape cs :=
  ⟨fun h hescape => ((length_decoded cs).1 hescape).ne (congrArg List.length h),
    (length_decoded cs).2⟩

/-! ## Targets -/

/-- The part of a target before its query. -/
def beforeQuery (cs : List Char) : List Char := (cs.takeWhile (· != '#')).takeWhile (· != '?')

/-- The query of a target, with its question mark. -/
def query (cs : List Char) : List Char := (cs.takeWhile (· != '#')).dropWhile (· != '?')

/-- Whether what follows an authority is a target. -/
def IsTarget (cs : List Char) : Prop :=
  (∀ c ∈ beforeQuery cs, isPathCharacter c = true) ∧ ∀ c ∈ query cs, isQueryCharacter c = true

-- Only the characters of the text are gone through, not all that there are.
instance (cs : List Char) : Decidable (IsTarget cs) :=
  @instDecidableAnd _ _ (List.decidableBAll _ _) (List.decidableBAll _ _)

/-- The path of a URL, without the query. -/
def path (u : Url) : List Char := u.target.toList.takeWhile (· != '?')

theorem targetOf_eq_ok_iff {cs : List Char} {target : String} :
    targetOf cs = .ok target ↔ IsTarget cs ∧ target = .ofList (cs.takeWhile (· != '#')) := by
  rw [targetOf, IsTarget, beforeQuery, query]
  simp only [List.span_eq_takeWhile_dropWhile]
  split
  · rename_i hall
    rw [Bool.and_eq_true, List.all_eq_true, List.all_eq_true] at hall
    rw [Except.ok.injEq, and_iff_right hall, eq_comm]
  · rename_i hall
    rw [Bool.and_eq_true, List.all_eq_true, List.all_eq_true] at hall
    exact iff_of_false nofun fun h => hall h.1

theorem takeWhile_ne_append {c : Char} {start : List Char} (h : c ∉ start) (cs : List Char) :
    (start ++ cs).takeWhile (· != c) = start ++ cs.takeWhile (· != c) :=
  List.takeWhile_append_of_pos fun _ hd => bne_iff_ne.2 fun heq => h (heq ▸ hd)

theorem dropWhile_ne_append {c : Char} {start : List Char} (h : c ∉ start) (cs : List Char) :
    (start ++ cs).dropWhile (· != c) = cs.dropWhile (· != c) :=
  List.dropWhile_append_of_pos fun _ hd => bne_iff_ne.2 fun heq => h (heq ▸ hd)

section
variable {start : List Char} (hquery : '?' ∉ start) (hfragment : '#' ∉ start)
include hquery hfragment

theorem beforeQuery_append (cs : List Char) :
    beforeQuery (start ++ cs) = start ++ beforeQuery cs := by
  rw [beforeQuery, takeWhile_ne_append hfragment, takeWhile_ne_append hquery, beforeQuery]

theorem query_append (cs : List Char) : query (start ++ cs) = query cs := by
  rw [query, takeWhile_ne_append hfragment, dropWhile_ne_append hquery, query]

theorem isTarget_append_iff {cs : List Char} :
    IsTarget (start ++ cs) ↔ (∀ c ∈ start, isPathCharacter c = true) ∧ IsTarget cs := by
  rw [IsTarget, beforeQuery_append hquery hfragment, query_append hquery hfragment,
    List.forall_mem_append, and_assoc, IsTarget]

end

/-! ## Beginnings -/

/-- Whether a scheme and an authority may begin a URL. -/
structure Begins (scheme authority : List Char) : Prop where
  scheme_all : ∀ c ∈ scheme, isSchemeCharacter c = true
  scheme_length : scheme.length ≤ greatestSchemeLength
  known : isScheme (.ofList scheme) = true
  authority_all : ∀ c ∈ authority, endsAuthority c = false
  checked : checkAuthority authority = .ok ()
  authority_ne_nil : authority ≠ []

/-- Whether a text may follow an authority. -/
def Follows (cs : List Char) : Prop := ∀ c ∈ cs.head?, endsAuthority c = true

theorem splitScheme_eq {scheme : List Char} (h : ∀ c ∈ scheme, isSchemeCharacter c = true)
    (cs : List Char) :
    splitScheme (scheme ++ ':' :: '/' :: '/' :: cs) = (some scheme, cs) := by
  rw [splitScheme, List.span_eq_takeWhile_dropWhile, List.takeWhile_append_of_pos h,
    List.dropWhile_append_of_pos h, List.takeWhile_cons_of_neg (by decide),
    List.dropWhile_cons_of_neg (by decide), List.append_nil]
  rfl

theorem splitScheme_eq_some {scheme cs rest : List Char}
    (h : splitScheme cs = (some scheme, rest)) :
    cs = scheme ++ ':' :: '/' :: '/' :: rest ∧ ∀ c ∈ scheme, isSchemeCharacter c = true := by
  rw [splitScheme, List.span_eq_takeWhile_dropWhile] at h
  split at h
  · rename_i scheme' rest' hspan
    cases h
    rw [Prod.mk.injEq] at hspan
    obtain ⟨htake, hdrop⟩ := hspan
    refine ⟨?_, fun c hc => ?_⟩
    · rw [← htake, ← hdrop, List.takeWhile_append_dropWhile]
    · rw [← htake] at hc
      exact List.mem_takeWhile_imp hc
  · cases h

theorem ofRest_eq_ok_iff {scheme : String} {cs : List Char} {u : Url} :
    ofRest scheme cs = .ok u ↔
      checkAuthority (cs.takeWhile (!endsAuthority ·)) = .ok () ∧
        cs.takeWhile (!endsAuthority ·) ≠ [] ∧ isScheme scheme = true ∧
        ∃ target, targetOf (cs.dropWhile (!endsAuthority ·)) = .ok target ∧
          u = ⟨scheme, .ofList (cs.takeWhile (!endsAuthority ·)), target⟩ := by
  rw [ofRest]
  simp only [List.span_eq_takeWhile_dropWhile, Except.bind_eq_ok_iff]
  constructor
  · rintro ⟨⟨⟩, hcheck, h⟩
    split at h
    · cases h
    · rename_i hne
      obtain ⟨target, htarget, h⟩ := Except.bind_eq_ok_iff.1 h
      split at h
      · rename_i hscheme
        cases h
        exact ⟨hcheck, by simpa using hne, hscheme, target, htarget, rfl⟩
      · cases h
  · rintro ⟨hcheck, hne, hscheme, target, htarget, rfl⟩
    refine ⟨(), hcheck, ?_⟩
    rw [if_neg (by simpa using hne), htarget]
    show (if isScheme scheme = true then _ else _) = _
    rw [if_pos hscheme]

theorem takeWhile_authority {authority rest : List Char}
    (h : ∀ c ∈ authority, endsAuthority c = false) (hrest : Follows rest) :
    (authority ++ rest).takeWhile (!endsAuthority ·) = authority ∧
      (authority ++ rest).dropWhile (!endsAuthority ·) = rest := by
  have hall : ∀ c ∈ authority, (!endsAuthority c) = true := fun c hc => by rw [h c hc]; rfl
  rw [List.takeWhile_append_of_pos hall, List.dropWhile_append_of_pos hall]
  cases rest with
  | nil => exact ⟨List.append_nil _, rfl⟩
  | cons c rest =>
    have hc : endsAuthority c = true := hrest c rfl
    simp [hc]

theorem Begins.head?_ne_slash {scheme authority : List Char} (h : Begins scheme authority)
    (cs : List Char) : (scheme ++ cs).head? ≠ some '/' ∧ scheme ++ cs ≠ [] := by
  cases scheme with
  | nil => exact absurd h.known (by decide +kernel)
  | cons c scheme =>
    refine ⟨fun hslash => ?_, List.cons_ne_nil _ _⟩
    have hc := h.scheme_all c List.mem_cons_self
    rw [Option.some.inj hslash] at hc
    exact absurd hc (by decide)

/-- With a scheme and an authority before it, a text is a URL exactly if it is not too long and what
follows is a target. -/
theorem ofText_eq_ok_iff_of_begins {scheme authority rest : List Char}
    (h : Begins scheme authority) (hrest : Follows rest) {text : String}
    (htext : text.toList = scheme ++ ':' :: '/' :: '/' :: (authority ++ rest)) {u : Url} :
    ofText text = .ok u ↔
      text.utf8ByteSize ≤ greatestSize ∧ ∃ target, targetOf rest = .ok target ∧
        u = ⟨.ofList scheme, .ofList authority, target⟩ := by
  obtain ⟨htake, hdrop⟩ := takeWhile_authority h.authority_all hrest
  obtain ⟨hslash, hne⟩ := h.head?_ne_slash (':' :: '/' :: '/' :: (authority ++ rest))
  have hsplit := splitScheme_eq h.scheme_all (authority ++ rest)
  rw [← htext] at hslash hne hsplit
  rw [ofText]
  dsimp only
  rcases lt_or_ge greatestSize text.utf8ByteSize with hlong | hshort
  · rw [if_pos hlong]
    exact iff_of_false nofun fun hok => absurd hok.1 (not_le.2 hlong)
  · rw [if_neg (not_lt.2 hshort), if_neg (by simpa using hne), if_neg (by simpa using hslash),
      hsplit]
    dsimp only
    rw [if_neg (not_lt.2 h.scheme_length), ofRest_eq_ok_iff, htake, hdrop]
    simp only [hshort, h.checked, h.known, h.authority_ne_nil, ne_eq, not_false_eq_true, true_and]

/-- Every URL begins with a scheme and an authority. -/
theorem exists_begins {text : String} {u : Url} (h : ofText text = .ok u) :
    ∃ scheme authority rest, Begins scheme authority ∧ Follows rest ∧
      text.toList = scheme ++ ':' :: '/' :: '/' :: (authority ++ rest) ∧
      targetOf rest = .ok u.target := by
  rw [ofText] at h
  dsimp only at h
  split at h
  · cases h
  split at h
  · cases h
  split at h
  · obtain ⟨_, -, h⟩ := Except.bind_eq_ok_iff.1 h
    cases h
  split at h
  · rename_i scheme rest hsplit
    obtain ⟨htext, hscheme⟩ := splitScheme_eq_some hsplit
    split at h
    · cases h
    · rename_i hlength
      obtain ⟨hcheck, hne, hknown, target, htarget, rfl⟩ := ofRest_eq_ok_iff.1 h
      refine ⟨scheme, rest.takeWhile (!endsAuthority ·), rest.dropWhile (!endsAuthority ·),
        ⟨hscheme, not_lt.1 hlength, hknown, fun c hc => ?_, hcheck, hne⟩, fun c hc => ?_, ?_,
        htarget⟩
      · simpa using List.mem_takeWhile_imp hc
      · have hhead := List.head?_dropWhile_not (!endsAuthority ·) rest
        rw [Option.mem_def.1 hc] at hhead
        simpa using hhead
      · rw [List.takeWhile_append_dropWhile, htext]
  · obtain ⟨_, -, h⟩ := Except.bind_eq_ok_iff.1 h
    split at h <;> cases h

/-! ## Entries of a list -/

/-- Whether a URL leads to the entry of a list under a name. Its path then goes on behind that of
the list with one segment, which stands for the name. -/
def LeadsTo (u : Url) (list : List Char) (name : List UInt8) : Prop :=
  ∃ segment, u.path = list ++ '/' :: segment ∧ '/' ∉ segment ∧ decoded segment = name

theorem leadsTo_iff {u : Url} {list segment : List Char} (h : u.path = list ++ '/' :: segment)
    {name : List UInt8} :
    u.LeadsTo list name ↔ '/' ∉ segment ∧ decoded segment = name := by
  constructor
  · rintro ⟨other, hother, hsegment⟩
    rw [h, List.append_cancel_left_eq, List.cons.injEq] at hother
    rwa [hother.2]
  · exact fun hsegment => ⟨segment, h, hsegment⟩

/-- Whether a name may be a segment of a path as it stands: it has no character that cannot stand in
a segment, and no escape. -/
structure IsSegment (name : List Char) : Prop where
  allowed : ∀ c ∈ name, isPathCharacter c = true
  slash : '/' ∉ name
  question : '?' ∉ name
  hash : '#' ∉ name
  escape : ¬HasEscape name

theorem not_mem_beforeQuery (cs : List Char) :
    '?' ∉ beforeQuery cs ∧ '#' ∉ beforeQuery cs := by
  refine ⟨fun h => ?_, fun h => ?_⟩
  · exact absurd (List.mem_takeWhile_imp h) (by decide)
  · exact absurd (List.mem_takeWhile_imp ((List.takeWhile_prefix _).subset h)) (by decide)

theorem beforeQuery_eq_self_iff {cs : List Char} :
    beforeQuery cs = cs ↔ '?' ∉ cs ∧ '#' ∉ cs := by
  constructor
  · intro h
    rw [← h]
    exact not_mem_beforeQuery cs
  · rintro ⟨hquestion, hhash⟩
    simpa [beforeQuery] using beforeQuery_append hquestion hhash []

theorem beforeQuery_prefix_self (cs : List Char) : beforeQuery cs <+: cs :=
  (List.takeWhile_prefix _).trans (List.takeWhile_prefix _)

/-- A part that is left out takes octets away. -/
theorem eq_of_length_octets {start cs : List Char} (h : start <+: cs)
    (hle : (octets cs).length ≤ (octets start).length) : start = cs := by
  obtain ⟨rest, rfl⟩ := h
  cases rest with
  | nil => exact (List.append_nil _).symm
  | cons c rest =>
    have hc := c.utf8Size_pos
    rw [octets, List.flatMap_append, List.length_append, List.flatMap_cons, List.length_append,
      String.length_utf8EncodeChar, ← octets] at hle
    omega

/-- A name is a segment as it stands exactly if it may end a target, and what stands before its
query is one segment that stands for the whole name. -/
theorem isSegment_iff {name : List Char} :
    IsSegment name ↔ IsTarget name ∧ '/' ∉ beforeQuery name ∧
      decoded (beforeQuery name) = octets name := by
  constructor
  · rintro ⟨hallowed, hslash, hquestion, hhash, hescape⟩
    have hself := beforeQuery_eq_self_iff.2 ⟨hquestion, hhash⟩
    have hquery : query name = [] := by simpa [query] using query_append hquestion hhash []
    rw [IsTarget, hself, hquery]
    exact ⟨⟨hallowed, nofun⟩, hslash, decoded_eq_octets_iff.2 hescape⟩
  · rintro ⟨htarget, hslash, hdecoded⟩
    have hself : beforeQuery name = name :=
      eq_of_length_octets (beforeQuery_prefix_self name) (hdecoded ▸ length_decoded_le _)
    rw [IsTarget, hself] at htarget
    rw [hself] at hslash hdecoded
    obtain ⟨hquestion, hhash⟩ := beforeQuery_eq_self_iff.1 hself
    exact ⟨htarget.1, hslash, hquestion, hhash, decoded_eq_octets_iff.1 hdecoded⟩

instance (name : List Char) : Decidable (IsSegment name) := decidable_of_iff' _ isSegment_iff

end KafkaTopology.Url
