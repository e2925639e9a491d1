import KafkaTopology.Document.Toml
import KafkaTopology.Proofs.Document.Toml.Value
/-!
# Documents of TOML

The text of a plain mapping has one statement for each entry (`Toml.statements?_written`). Taken in
one after the other they build the table of the entries, so the text spells the mapping with its
keys in increasing order (`ofToml?_toToml`).
-/
namespace KafkaTopology.Document

namespace Toml

variable {n : Nat} {e : String × Document} {entries : List (String × Document)}

theorem writtenStatements_cons (hplain : Plain n e.2) (hbare : isBareKey e.1 = true)
    (entries : List (String × Document)) :
    writtenStatements (e :: entries) = assigned e ('\n' :: writtenStatements entries) := by
  obtain ⟨key, d⟩ := e
  rw [writtenStatements, hplain.isNull, if_neg Bool.false_ne_true, writtenKey_bare hbare]
  simp [assigned]

/-- The line of an entry gives its key a value. -/
theorem statement?_assigned (hplain : Plain n e.2) (hn : n ≤ nestingLimit)
    (hbare : isBareKey e.1 = true) (rest : List Char) :
    statement? (assigned e ('\n' :: rest)) = some (.assigns [e.1] e.2.ordered, rest) := by
  obtain ⟨k, ks, hassigned, hk⟩ := exists_assigned hbare ('\n' :: rest)
  obtain ⟨c, ds, hwritten, hc⟩ := hplain.exists_written
  have hne : k ≠ '[' := ne_of_isKeyCharacter hk _ (by decide)
  have hkey? := key?_bare hbare (' ' :: (written e.2 ++ '\n' :: rest))
  have hskip : skipBlanks (' ' :: (written e.2 ++ '\n' :: rest)) = written e.2 ++ '\n' :: rest := by
    rw [hwritten, List.cons_append]
    exact skipBlanks_solid (isSolid_of_mem hc)
  have hvalue : value? ((' ' :: (written e.2 ++ '\n' :: rest)).length + 1) nestingLimit
      (written e.2 ++ '\n' :: rest) = some (e.2.ordered, '\n' :: rest) :=
    readsBack hplain hn (by rw [List.length_cons]; omega) (by simp)
  rw [← assigned, hassigned] at hkey?
  rw [hassigned, statement?]
  · rw [hkey?]
    simp only [Option.bind_eq_bind, Option.bind_some, hskip, hvalue, lineEnd?_break]
    rfl
  · exact fun ds heq => hne (List.cons.inj heq).1
  · exact fun ds heq => hne (List.cons.inj heq).1

theorem statements?_written (hplain : ∀ e ∈ entries, Plain n e.2) (hn : n ≤ nestingLimit)
    (hbare : ∀ e ∈ entries, isBareKey e.1 = true) {fuel : Nat}
    (hfuel : (writtenStatements entries).length < fuel) (acc : List Statement) :
    statements? fuel acc (writtenStatements entries) =
      some (acc.reverse ++ entries.map fun e => .assigns [e.1] e.2.ordered) := by
  induction entries generalizing fuel acc with
  | nil =>
    obtain ⟨fuel, rfl⟩ := Nat.exists_eq_succ_of_ne_zero (Nat.ne_of_gt hfuel)
    rw [List.map_nil, List.append_nil]
    rfl
  | cons e entries ih =>
    obtain ⟨hplain₁, hplain⟩ := List.forall_mem_cons.1 hplain
    obtain ⟨hbare₁, hbare⟩ := List.forall_mem_cons.1 hbare
    obtain ⟨fuel, rfl⟩ := Nat.exists_eq_succ_of_ne_zero (Nat.ne_of_gt (Nat.zero_lt_of_lt hfuel))
    rw [writtenStatements_cons hplain₁ hbare₁] at hfuel ⊢
    have hlength : (writtenStatements entries).length < fuel := by
      have hrest := length_rest_lt e ('\n' :: writtenStatements entries)
      rw [List.length_cons] at hrest
      omega
    have hread := statement?_assigned hplain₁ hn hbare₁ (writtenStatements entries)
    obtain ⟨k, ks, hassigned, hk⟩ := exists_assigned hbare₁ ('\n' :: writtenStatements entries)
    rw [hassigned] at hread ⊢
    rw [statements?, skipSpace_solid (isSolid_of_isKeyCharacter hk)]
    simp only [hread, Option.bind_eq_bind, Option.bind_some, ih hplain hbare hlength]
    simp

/-- A text of statements begins with a key. -/
theorem head?_writtenStatements (hplain : ∀ e ∈ entries, Plain n e.2)
    (hbare : ∀ e ∈ entries, isBareKey e.1 = true) :
    (writtenStatements entries).head? ≠ some '\ufeff' := by
  cases entries with
  | nil => simp [writtenStatements]
  | cons e entries =>
    have hbare₁ := hbare e List.mem_cons_self
    rw [writtenStatements_cons (hplain e List.mem_cons_self) hbare₁]
    obtain ⟨k, ks, hassigned, hk⟩ := exists_assigned hbare₁ ('\n' :: writtenStatements entries)
    rw [hassigned]
    rintro heq
    obtain rfl : k = '\ufeff' := Option.some.inj heq
    exact absurd hk (by decide)

/-- The statements of entries fill a table with them. -/
theorem foldlM_add?_assigns {done : List (String × Document)}
    (hdistinct : ((done ++ entries).map Prod.fst).Nodup) :
    (entries.map fun e => Statement.assigns [e.1] e.2.ordered).foldlM Draft.add?
        ⟨leaves done, []⟩ = some ⟨leaves (done ++ orderedEntries entries), []⟩ := by
  induction entries generalizing done with
  | nil =>
    simp [orderedEntries]
  | cons e entries ih =>
    have hnew : e.1 ∉ done.map Prod.fst := by
      rw [List.map_append, List.nodup_append] at hdistinct
      exact fun hmem => hdistinct.2.2 _ hmem _ List.mem_cons_self rfl
    have hkeys : ((done ++ [(e.1, e.2.ordered)]) ++ entries).map Prod.fst =
        (done ++ e :: entries).map Prod.fst := by simp
    have hadd : Draft.add? ⟨leaves done, []⟩ (.assigns [e.1] e.2.ordered) =
        some ⟨leaves (done ++ [(e.1, e.2.ordered)]), []⟩ := by
      show (do return Draft.mk (← Table.assign? e.2.ordered true [e.1] (leaves done)) []) = _
      rw [assign?_leaves hnew]
      rfl
    rw [List.map_cons, List.foldlM_cons, hadd]
    show List.foldlM Draft.add? ⟨leaves (done ++ [(e.1, e.2.ordered)]), []⟩ _ = _
    rw [ih (hkeys ▸ hdistinct)]
    simp [orderedEntries]

end Toml

/-- **Round trip.** The text of a plain mapping spells the mapping with its keys in increasing
order. -/
theorem ofToml?_toToml {entries : List (String × Document)}
    (h : Plain (Toml.nestingLimit + 1) (.mapping entries)) :
    ofToml? (mapping entries).toToml = some (mapping entries).ordered := by
  obtain ⟨hplain, hbare, hdistinct⟩ : (∀ e ∈ entries, Plain Toml.nestingLimit e.2) ∧
      (∀ e ∈ entries, Toml.isBareKey e.1 = true) ∧ (entries.map Prod.fst).Nodup := by
    cases h with
    | mapping hvalues hbare hdistinct => exact ⟨hvalues, hbare, hdistinct⟩
  have hcharacters : Toml.characters (mapping entries).toToml = Toml.writtenStatements entries := by
    rw [toToml, Toml.characters, String.toList_ofList]
    split
    · next heq => exact absurd (heq ▸ rfl) (Toml.head?_writtenStatements hplain hbare)
    · rfl
  have hstatements := Toml.statements?_written hplain (Nat.le_refl _) hbare
    (Nat.lt_succ_self _) []
  have hfold := @Toml.foldlM_add?_assigns entries [] hdistinct
  rw [ofToml?, hcharacters, hstatements]
  show (do return (← List.foldlM Toml.Draft.add? ⟨Toml.leaves [], []⟩ _).root.document) = _
  rw [List.reverse_nil, List.nil_append, hfold, List.nil_append]
  show some (Toml.leaves (orderedEntries entries)).document = _
  rw [Toml.document_leaves, ordered]

end KafkaTopology.Document
