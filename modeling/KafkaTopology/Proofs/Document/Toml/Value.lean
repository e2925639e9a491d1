import KafkaTopology.Proofs.Document.Toml.Scalar
import Mathlib.Data.List.TakeDrop
/-!
# Values of TOML

A plain document is made of texts, lists and mappings with bare and different keys. Its written form
is read back as the same document, with the keys of every mapping in increasing order
(`value?_written`).
-/
namespace KafkaTopology.Document

/-! ## Plain documents -/

namespace Toml

/-- Whether a key is written without quotes. -/
def isBareKey (key : String) : Bool := !key.toList.isEmpty && key.toList.all isKeyCharacter

end Toml

/-- A document of texts, lists and mappings that are nested at most so deep. -/
inductive Plain : Nat → Document → Prop where
  | text {n : Nat} (s : String) : Plain n (.text s)
  | list {n : Nat} {items : List Document} (hitems : ∀ d ∈ items, Plain n d) :
    Plain (n + 1) (.list items)
  | mapping {n : Nat} {entries : List (String × Document)} (hvalues : ∀ e ∈ entries, Plain n e.2)
    (hbare : ∀ e ∈ entries, Toml.isBareKey e.1 = true)
    (hdistinct : (entries.map Prod.fst).Nodup) : Plain (n + 1) (.mapping entries)

mutual

/-- The document with the keys of all its mappings in increasing order. -/
def ordered : Document → Document
  | .list items => .list (orderedItems items)
  | .mapping entries => .mapping (Toml.sorted (orderedEntries entries))
  | d => d

/-- The same for the items of a list. -/
def orderedItems : List Document → List Document
  | [] => []
  | d :: rest => d.ordered :: orderedItems rest

/-- The same for the values of a mapping, whose keys stay where they are. -/
def orderedEntries : List (String × Document) → List (String × Document)
  | [] => []
  | (k, d) :: rest => (k, d.ordered) :: orderedEntries rest

end

theorem orderedItems_eq_map (items : List Document) : orderedItems items = items.map ordered := by
  induction items with
  | nil => rfl
  | cons d rest ih => rw [orderedItems, ih, List.map_cons]

theorem Plain.isNull {n : Nat} {d : Document} (h : Plain n d) : d.isNull = false := by
  cases h <;> rfl

open Toml

/-- A written value begins with a quote or a bracket. -/
theorem Plain.exists_written {n : Nat} {d : Document} (h : Plain n d) :
    ∃ c cs, written d = c :: cs ∧ c ∈ ['"', '[', '\x7b'] := by
  cases h with
  | text s => exact ⟨_, _, rfl, by decide⟩
  | list => exact ⟨_, _, rfl, by decide⟩
  | mapping => exact ⟨_, _, rfl, by decide⟩

namespace Toml

theorem isSolid_of_mem {c : Char} (h : c ∈ ['"', '[', '\x7b']) : isSolid c = true :=
  List.all_eq_true.1 (by decide : ['"', '[', '\x7b'].all isSolid = true) c h

/-! ## Keys -/

/-- The characters of TOML that are no part of a bare key. -/
def marks : List Char := [' ', '\t', '#', '\n', '\r', '"', '\'', '[', ']', '\x7b', '\x7d', '.']

theorem ne_of_isKeyCharacter {c : Char} (h : isKeyCharacter c = true) : ∀ x ∈ marks, c ≠ x := by
  rintro x hx rfl
  have hmarks : marks.all (!isKeyCharacter ·) = true := by decide
  have hc := List.all_eq_true.1 hmarks c hx
  rw [h] at hc
  cases hc

theorem isSolid_of_isKeyCharacter {c : Char} (h : isKeyCharacter c = true) : isSolid c = true := by
  have hne := ne_of_isKeyCharacter h
  simp only [marks, List.forall_mem_cons] at hne
  simp [isSolid, isBlank, hne]

/-- A bare key is not empty, and its characters are those of keys. -/
theorem exists_of_isBareKey {key : String} (h : isBareKey key = true) :
    ∃ c cs, key.toList = c :: cs ∧ ∀ x ∈ c :: cs, isKeyCharacter x = true := by
  simp only [isBareKey, Bool.and_eq_true, Bool.not_eq_true', List.all_eq_true] at h
  obtain ⟨hne, hall⟩ := h
  cases hkey : key.toList with
  | nil => simp [hkey] at hne
  | cons c cs => exact ⟨c, cs, rfl, hkey ▸ hall⟩

theorem writtenKey_bare {key : String} (h : isBareKey key = true) : writtenKey key = key.toList :=
  if_pos h

theorem keyPart?_bare {key : String} (h : isBareKey key = true) (rest : List Char) :
    keyPart? (key.toList ++ ' ' :: rest) = some (key, ' ' :: rest) := by
  obtain ⟨c, cs, hkey, hall⟩ := exists_of_isBareKey h
  have hspan : (key.toList ++ ' ' :: rest).span isKeyCharacter = (key.toList, ' ' :: rest) := by
    rw [List.span_eq_takeWhile_dropWhile, List.takeWhile_append_of_pos (hkey ▸ hall),
      List.dropWhile_append_of_pos (hkey ▸ hall)]
    simp [isKeyCharacter]
  have hne := ne_of_isKeyCharacter (hall c List.mem_cons_self)
  have hquotes : c ≠ '"' ∧ c ≠ '\'' := ⟨hne _ (by decide), hne _ (by decide)⟩
  rw [hkey, List.cons_append] at hspan ⊢
  rw [keyPart?, hspan]
  · show (if (c :: cs).isEmpty then none else some (String.ofList (c :: cs), ' ' :: rest)) = _
    rw [← hkey, String.ofList_toList, hkey]
    rfl
  · exact fun ds heq => hquotes.1 (List.cons.inj heq).1
  · exact fun ds heq => hquotes.2 (List.cons.inj heq).1

/-- A bare key before an equals sign. -/
theorem key?_bare {key : String} (h : isBareKey key = true) (rest : List Char) :
    key? (key.toList ++ ' ' :: '=' :: rest) = some ([key], '=' :: rest) := by
  have hparts : ∀ fuel, keyParts? (fuel + 1) (key.toList ++ ' ' :: '=' :: rest) =
      some ([key], '=' :: rest) := by
    intro fuel
    obtain ⟨c, cs, hkey, hall⟩ := exists_of_isBareKey h
    have hsolid := isSolid_of_isKeyCharacter (hall c List.mem_cons_self)
    have hskip : skipBlanks (key.toList ++ ' ' :: '=' :: rest) = key.toList ++ ' ' :: '=' :: rest := by
      rw [hkey]
      exact skipBlanks_solid hsolid
    rw [keyParts?, hskip, keyPart?_bare h]
    rfl
  rw [key?, hparts]
  rfl

/-! ## Tables -/

/-- The table of some values. -/
def leaves (entries : List (String × Document)) : Table := entries.map fun e => (e.1, .value e.2)

theorem entries_leaves (entries : List (String × Document)) :
    Node.entries (leaves entries) = entries := by
  induction entries with
  | nil => rfl
  | cons e rest ih =>
    show (e.1, e.2) :: Node.entries (leaves rest) = e :: rest
    rw [ih]

theorem get?_leaves {key : String} {entries : List (String × Document)}
    (h : key ∉ entries.map Prod.fst) : (leaves entries).get? key = none := by
  rw [Table.get?, leaves, List.lookup_eq_none_iff]
  intro p hp
  obtain ⟨e, he, rfl⟩ := List.mem_map.1 hp
  exact bne_iff_ne.2 fun heq => h (List.mem_map.2 ⟨e, he, heq.symm⟩)

theorem set_leaves {key : String} {entries : List (String × Document)}
    (h : key ∉ entries.map Prod.fst) (d : Document) :
    (leaves entries).set key (.value d) = leaves (entries ++ [(key, d)]) := by
  induction entries with
  | nil => rfl
  | cons e rest ih =>
    obtain ⟨hne, hrest⟩ := not_or.1 (List.mem_cons.not.1 h)
    show (if e.1 = key then _ else (e.1, Node.value e.2) :: (leaves rest).set key (.value d)) = _
    rw [if_neg (Ne.symm hne), ih hrest]
    rfl

/-- A new key gets a value. -/
theorem assign?_leaves {key : String} {entries : List (String × Document)}
    (h : key ∉ entries.map Prod.fst) (d : Document) :
    Table.assign? d true [key] (leaves entries) = some (leaves (entries ++ [(key, d)])) := by
  rw [Table.assign?, get?_leaves h]
  show some ((leaves entries).set key (.value d)) = _
  rw [set_leaves h]

/-! ## Values -/

/-- Reading the written form of a document in any place that allows it. -/
def ReadsBack (n : Nat) (d : Document) : Prop :=
  ∀ {depth fuel : Nat} {rest : List Char}, n ≤ depth → (written d ++ rest).length < fuel →
    rest.head? ≠ some '"' → value? fuel depth (written d ++ rest) = some (d.ordered, rest)

theorem readsBack_text (n : Nat) (s : String) : ReadsBack n (.text s) := by
  intro depth fuel rest _ hfuel hrest
  obtain ⟨fuel, rfl⟩ := Nat.exists_eq_succ_of_ne_zero (Nat.ne_of_gt (Nat.zero_lt_of_lt hfuel))
  have htext := text?_writtenText s hrest
  show (text? (writtenText s ++ rest)).map _ = _
  rw [htext]
  rfl

/-- One more item of a list. -/
theorem items?_item {fuel depth : Nat} {acc : List Document} {cs ds : List Char} {c : Char}
    (hskip : skipSpace (cs.length + 1) cs = c :: ds) (hc : c ≠ ']') {d : Document}
    {rest : List Char} (hvalue : value? fuel depth (c :: ds) = some (d, ',' :: rest)) :
    items? (fuel + 1) depth acc cs = items? fuel depth (d :: acc) rest := by
  rw [items?, hskip]
  split
  · next heq => exact absurd (List.cons.inj heq).1 hc
  · have hcomma : skipSpace ((',' :: rest).length + 1) (',' :: rest) = ',' :: rest :=
      skipSpace_solid rfl _
    rw [hvalue]
    simp only [Option.bind_eq_bind, Option.bind_some, hcomma]

/-- The items of a list, after its bracket or a comma. -/
theorem items?_written {n : Nat} {items : List Document} (hplain : ∀ d ∈ items, Plain n d)
    (h : ∀ d ∈ items, ReadsBack n d) {depth fuel : Nat} {rest : List Char} (hdepth : n ≤ depth)
    (hfuel : (writtenItems items ++ '\n' :: ']' :: rest).length < fuel) (acc : List Document) :
    items? fuel depth acc (writtenItems items ++ '\n' :: ']' :: rest) =
      some (.list (acc.reverse ++ orderedItems items), rest) := by
  induction items generalizing fuel acc with
  | nil =>
    obtain ⟨fuel, rfl⟩ := Nat.exists_eq_succ_of_ne_zero (Nat.ne_of_gt (Nat.zero_lt_of_lt hfuel))
    have hskip : skipSpace (('\n' :: ']' :: rest).length + 1) ('\n' :: ']' :: rest) = ']' :: rest :=
      skipSpace_break rfl rfl _
    rw [writtenItems, List.nil_append, items?, hskip]
    simp [orderedItems]
  | cons d items ih =>
    obtain ⟨fuel, rfl⟩ := Nat.exists_eq_succ_of_ne_zero (Nat.ne_of_gt (Nat.zero_lt_of_lt hfuel))
    let tail := writtenItems items ++ '\n' :: ']' :: rest
    have hcs : writtenItems (d :: items) ++ '\n' :: ']' :: rest =
        '\n' :: ' ' :: ' ' :: (written d ++ ',' :: tail) := by
      simp [writtenItems, tail]
    rw [hcs] at hfuel ⊢
    simp only [List.length_cons, List.length_append] at hfuel
    have hvalue : value? fuel depth (written d ++ ',' :: tail) = some (d.ordered, ',' :: tail) := by
      refine h d List.mem_cons_self hdepth ?_ (by simp)
      simp only [List.length_cons, List.length_append]
      omega
    obtain ⟨c, ds, hwritten, hc⟩ := (hplain d List.mem_cons_self).exists_written
    rw [hwritten, List.cons_append] at hvalue ⊢
    let line := '\n' :: ' ' :: ' ' :: c :: (ds ++ ',' :: tail)
    have hskip : skipSpace (line.length + 1) line = c :: (ds ++ ',' :: tail) :=
      skipSpace_indent (isSolid_of_mem hc) _ (' ' :: ' ' :: c :: (ds ++ ',' :: tail)).length
    rw [items?_item hskip (by rintro rfl; revert hc; decide) hvalue]
    rw [ih (fun x hx => hplain x (List.mem_cons_of_mem d hx))
      (fun x hx => h x (List.mem_cons_of_mem d hx))
      (by simp only [tail, List.length_cons, List.length_append] at hfuel ⊢; omega)]
    simp [orderedItems]

theorem readsBack_list {n : Nat} {items : List Document} (hplain : ∀ d ∈ items, Plain n d)
    (h : ∀ d ∈ items, ReadsBack n d) : ReadsBack (n + 1) (.list items) := by
  intro depth fuel rest hdepth hfuel _
  obtain ⟨fuel, rfl⟩ := Nat.exists_eq_succ_of_ne_zero (Nat.ne_of_gt (Nat.zero_lt_of_lt hfuel))
  have hread : items? fuel (depth - 1) [] ((written (.list items) ++ rest).drop 1) =
      some (.list (orderedItems items), rest) := by
    cases items with
    | nil =>
      have hskip : skipSpace ((']' :: rest).length + 1) (']' :: rest) = ']' :: rest :=
        skipSpace_solid rfl _
      obtain ⟨fuel, rfl⟩ : ∃ m, fuel = m + 1 := ⟨fuel - 1, by simp [written] at hfuel; omega⟩
      show items? (fuel + 1) (depth - 1) [] (']' :: rest) = _
      rw [items?, hskip]
      rfl
    | cons d items =>
      have hcs : (written (.list (d :: items)) ++ rest).drop 1 =
          writtenItems (d :: items) ++ '\n' :: ']' :: rest := by
        simp [written]
      rw [hcs]
      refine items?_written hplain h (by omega) ?_ []
      simp [written] at hfuel ⊢
      omega
  show (if depth = 0 then none else items? fuel (depth - 1) [] _) = _
  rw [if_neg (by omega)]
  exact hread

/-! ## Entries -/

theorem document_leaves (entries : List (String × Document)) :
    (leaves entries).document = .mapping (sorted entries) := by
  rw [Table.document, entries_leaves]

/-- What follows the value of an entry: a comma and further entries, or the closing brace. -/
def moreEntries? (fuel depth : Nat) (t : Table) (cs : List Char) :
    Option (Document × List Char) :=
  match skipSpace (cs.length + 1) cs with
  | ',' :: rest => entries? fuel depth t rest
  | '\x7d' :: rest => some (t.document, rest)
  | _ => none

/-- An entry as it is written, and what follows it. -/
def assigned (e : String × Document) (rest : List Char) : List Char :=
  e.1.toList ++ ' ' :: '=' :: ' ' :: (written e.2 ++ rest)

theorem length_value_lt (e : String × Document) (rest : List Char) :
    (written e.2 ++ rest).length < (assigned e rest).length := by
  simp only [assigned, List.length_append, List.length_cons]
  omega

theorem length_rest_lt (e : String × Document) (rest : List Char) :
    rest.length < (assigned e rest).length := by
  simp only [assigned, List.length_append, List.length_cons]
  omega

/-- A written entry begins with a character of its key. -/
theorem exists_assigned {e : String × Document} (hbare : isBareKey e.1 = true) (rest : List Char) :
    ∃ k ks, assigned e rest = k :: ks ∧ isKeyCharacter k = true := by
  obtain ⟨k, ks, hkey, hall⟩ := exists_of_isBareKey hbare
  exact ⟨k, _, by rw [assigned, hkey, List.cons_append], hall k List.mem_cons_self⟩

theorem skipBlanks_assigned {e : String × Document} (hbare : isBareKey e.1 = true)
    (rest : List Char) : skipBlanks (assigned e rest) = assigned e rest := by
  obtain ⟨k, ks, hassigned, hk⟩ := exists_assigned hbare rest
  rw [hassigned, skipBlanks_solid (isSolid_of_isKeyCharacter hk)]

/-- One more entry of a table in braces. -/
theorem entries?_entry {n fuel depth : Nat} {done : List (String × Document)}
    {e : String × Document} {cs rest : List Char} (hplain : Plain n e.2)
    (hbare : isBareKey e.1 = true) (h : ReadsBack n e.2) (hdepth : n ≤ depth)
    (hnew : e.1 ∉ done.map Prod.fst) (hfuel : (assigned e rest).length ≤ fuel)
    (hrest : rest.head? ≠ some '"') (hblanks : skipBlanks cs = assigned e rest) :
    entries? (fuel + 1) depth (leaves done) cs =
      moreEntries? fuel depth (leaves (done ++ [(e.1, e.2.ordered)])) rest := by
  have hvalue : value? fuel depth (written e.2 ++ rest) = some (e.2.ordered, rest) :=
    h hdepth (Nat.lt_of_lt_of_le (length_value_lt e rest) hfuel) hrest
  have hkey? := key?_bare hbare (' ' :: (written e.2 ++ rest))
  obtain ⟨k, ks, hassigned, hk⟩ := exists_assigned hbare rest
  have hskip : skipSpace (cs.length + 1) cs = k :: ks :=
    skipSpace_of_skipBlanks (isSolid_of_isKeyCharacter hk) (hblanks.trans hassigned) _
  obtain ⟨c, ds, hwritten, hc⟩ := hplain.exists_written
  have hequals : skipSpace (('=' :: ' ' :: (written e.2 ++ rest)).length + 1)
      ('=' :: ' ' :: (written e.2 ++ rest)) = '=' :: ' ' :: (written e.2 ++ rest) :=
    skipSpace_solid rfl _
  have hblank : skipSpace ((' ' :: (written e.2 ++ rest)).length + 1)
      (' ' :: (written e.2 ++ rest)) = written e.2 ++ rest := by
    rw [hwritten, List.cons_append]
    exact skipSpace_of_skipBlanks (isSolid_of_mem hc) (skipBlanks_solid (isSolid_of_mem hc)) _
  have hne : k ≠ '\x7d' := ne_of_isKeyCharacter hk _ (by decide)
  rw [← assigned, hassigned] at hkey?
  rw [entries?, hskip]
  split
  · next heq => exact absurd (List.cons.inj heq).1 hne
  · rw [hkey?]
    simp only [Option.bind_eq_bind, Option.bind_some, hequals, hblank, hvalue,
      assign?_leaves hnew]
    rfl

theorem writtenEntries_cons {n : Nat} {e : String × Document} (hplain : Plain n e.2)
    (hbare : isBareKey e.1 = true) (first : Bool) (entries : List (String × Document))
    (rest : List Char) :
    writtenEntries first (e :: entries) ++ rest =
      (if first then [] else [',', ' ']) ++ assigned e (writtenEntries false entries ++ rest) := by
  obtain ⟨key, d⟩ := e
  rw [writtenEntries, hplain.isNull, if_neg Bool.false_ne_true, writtenKey_bare hbare]
  simp [assigned]

theorem head?_writtenEntries {n : Nat} {entries : List (String × Document)}
    (hplain : ∀ e ∈ entries, Plain n e.2) (hbare : ∀ e ∈ entries, isBareKey e.1 = true)
    (rest : List Char) : (writtenEntries false entries ++ '\x7d' :: rest).head? ≠ some '"' := by
  cases entries with
  | nil => simp [writtenEntries]
  | cons e entries =>
    rw [writtenEntries_cons (hplain e List.mem_cons_self) (hbare e List.mem_cons_self)]
    simp

/-- The entries of a table in braces, after the value of one. -/
theorem moreEntries?_written {n : Nat} {entries : List (String × Document)}
    (hplain : ∀ e ∈ entries, Plain n e.2) (hbare : ∀ e ∈ entries, isBareKey e.1 = true)
    (h : ∀ e ∈ entries, ReadsBack n e.2) {depth fuel : Nat} {done : List (String × Document)}
    {rest : List Char} (hdepth : n ≤ depth) (hdistinct : ((done ++ entries).map Prod.fst).Nodup)
    (hfuel : (writtenEntries false entries ++ '\x7d' :: rest).length < fuel) :
    moreEntries? fuel depth (leaves done) (writtenEntries false entries ++ '\x7d' :: rest) =
      some (.mapping (sorted (done ++ orderedEntries entries)), rest) := by
  induction entries generalizing fuel done with
  | nil =>
    have hskip : skipSpace (('\x7d' :: rest).length + 1) ('\x7d' :: rest) = '\x7d' :: rest :=
      skipSpace_solid rfl _
    rw [writtenEntries, List.nil_append, moreEntries?, hskip]
    simp only [document_leaves, orderedEntries, List.append_nil]
  | cons e entries ih =>
    obtain ⟨hplain₁, hplain⟩ := List.forall_mem_cons.1 hplain
    obtain ⟨hbare₁, hbare⟩ := List.forall_mem_cons.1 hbare
    obtain ⟨h₁, h⟩ := List.forall_mem_cons.1 h
    let more := writtenEntries false entries ++ '\x7d' :: rest
    have hcs : writtenEntries false (e :: entries) ++ '\x7d' :: rest = ',' :: ' ' :: assigned e more :=
      writtenEntries_cons hplain₁ hbare₁ false entries ('\x7d' :: rest)
    have hcomma : skipSpace ((',' :: ' ' :: assigned e more).length + 1)
        (',' :: ' ' :: assigned e more) = ',' :: ' ' :: assigned e more := skipSpace_solid rfl _
    have hblanks : skipBlanks (' ' :: assigned e more) = assigned e more :=
      skipBlanks_assigned hbare₁ more
    have hnew : e.1 ∉ done.map Prod.fst := by
      rw [List.map_append, List.nodup_append] at hdistinct
      exact fun hmem => hdistinct.2.2 _ hmem _ List.mem_cons_self rfl
    have hkeys : ((done ++ [(e.1, e.2.ordered)]) ++ entries).map Prod.fst =
        (done ++ e :: entries).map Prod.fst := by simp
    obtain ⟨fuel, rfl⟩ := Nat.exists_eq_succ_of_ne_zero (Nat.ne_of_gt (Nat.zero_lt_of_lt hfuel))
    rw [hcs, List.length_cons, List.length_cons] at hfuel
    have hassigned : (assigned e more).length ≤ fuel := by omega
    have hmore : more.length < fuel := Nat.lt_of_lt_of_le (length_rest_lt e more) hassigned
    rw [hcs, moreEntries?, hcomma]
    show entries? (fuel + 1) depth (leaves done) (' ' :: assigned e more) = _
    rw [entries?_entry hplain₁ hbare₁ h₁ hdepth hnew hassigned
      (head?_writtenEntries hplain hbare rest) hblanks]
    rw [ih hplain hbare h (hkeys ▸ hdistinct) hmore]
    simp [orderedEntries]

theorem readsBack_mapping {n : Nat} {entries : List (String × Document)}
    (hplain : ∀ e ∈ entries, Plain n e.2) (hbare : ∀ e ∈ entries, isBareKey e.1 = true)
    (hdistinct : (entries.map Prod.fst).Nodup) (h : ∀ e ∈ entries, ReadsBack n e.2) :
    ReadsBack (n + 1) (.mapping entries) := by
  intro depth fuel rest hdepth hfuel _
  have hcs : written (.mapping entries) ++ rest =
      '\x7b' :: (writtenEntries true entries ++ '\x7d' :: rest) := by simp [written]
  rw [hcs, List.length_cons] at hfuel
  obtain ⟨fuel, rfl⟩ : ∃ m, fuel = m + 2 := ⟨fuel - 2, by omega⟩
  have hread : entries? (fuel + 1) (depth - 1) (leaves [])
      (writtenEntries true entries ++ '\x7d' :: rest) =
        some (.mapping (sorted (orderedEntries entries)), rest) := by
    cases entries with
    | nil =>
      have hskip : skipSpace (('\x7d' :: rest).length + 1) ('\x7d' :: rest) = '\x7d' :: rest :=
        skipSpace_solid rfl _
      rw [writtenEntries, List.nil_append, entries?, hskip]
      rfl
    | cons e entries =>
      obtain ⟨hplain₁, hplain⟩ := List.forall_mem_cons.1 hplain
      obtain ⟨hbare₁, hbare⟩ := List.forall_mem_cons.1 hbare
      obtain ⟨h₁, h⟩ := List.forall_mem_cons.1 h
      let more := writtenEntries false entries ++ '\x7d' :: rest
      have hentry : writtenEntries true (e :: entries) ++ '\x7d' :: rest = assigned e more :=
        writtenEntries_cons hplain₁ hbare₁ true entries ('\x7d' :: rest)
      rw [hentry] at hfuel ⊢
      have hassigned : (assigned e more).length ≤ fuel := by omega
      have hmore : more.length < fuel := Nat.lt_of_lt_of_le (length_rest_lt e more) hassigned
      rw [entries?_entry hplain₁ hbare₁ h₁ (by omega) List.not_mem_nil hassigned
        (head?_writtenEntries hplain hbare rest) (skipBlanks_assigned hbare₁ more)]
      rw [moreEntries?_written hplain hbare h (by omega) hdistinct hmore]
      rfl
  rw [hcs]
  show (if depth = 0 then none else entries? (fuel + 1) (depth - 1) [] _) = _
  rw [if_neg (by omega)]
  exact hread

/-- **Reading what was written.** -/
theorem readsBack {n : Nat} {d : Document} (h : Plain n d) : ReadsBack n d := by
  induction h with
  | text s => exact readsBack_text _ s
  | list hitems ih => exact readsBack_list hitems ih
  | mapping hvalues hbare hdistinct ih => exact readsBack_mapping hvalues hbare hdistinct ih

end Toml
end KafkaTopology.Document
