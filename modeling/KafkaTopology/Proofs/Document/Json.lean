import KafkaTopology.Document.Json
import KafkaTopology.Proofs.Document.KeyOrder
/-!
# Documents of JSON texts

What is read from a JSON text has no key twice in a mapping (`Document.distinct_of_ofJson?`): a
repeated key takes the place of the earlier one, on every level.
-/
namespace KafkaTopology.Document
namespace Json

/-! ## Numbers -/

/-- Whether everything that is read is a leaf. -/
def ReadsLeaf (o : Option (Document × List Char)) : Prop := ∀ d rest, o = some (d, rest) → d.isLeaf

theorem readsLeaf_none : ReadsLeaf none := nofun

theorem readsLeaf_some {d : Document} {rest : List Char} (h : d.isLeaf = true) :
    ReadsLeaf (some (d, rest)) := by
  rintro _ _ ⟨⟩
  exact h

theorem readsLeaf_double (negative : Bool) (significand : Nat) (exponent : Int)
    (rest : List Char) :
    ReadsLeaf (do return (← double? negative significand exponent, rest)) := by
  rw [double?]
  cases scale? (Binary64.ofNat significand) exponent 6 with
  | none => exact readsLeaf_none
  | some f => exact readsLeaf_some rfl

theorem readsLeaf_scanExponent (negative : Bool) (significand : Nat) (start : Int)
    (cs : List Char) : ReadsLeaf (scanExponent negative significand start cs) := by
  unfold scanExponent
  split
  next down cs _ =>
  split
  · exact readsLeaf_none
  · split
    · exact readsLeaf_none
    · split
      · exact readsLeaf_double _ _ _ _
      · split
        · exact readsLeaf_none
        · exact readsLeaf_some rfl

theorem readsLeaf_finishDouble (negative : Bool) (significand : Nat) (exponent : Int)
    (cs : List Char) : ReadsLeaf (finishDouble negative significand exponent cs) := by
  unfold finishDouble
  split
  · exact readsLeaf_scanExponent _ _ _ _
  · exact readsLeaf_scanExponent _ _ _ _
  · exact readsLeaf_double _ _ _ _

theorem readsLeaf_scanFraction (negative : Bool) (significand : Nat) (exponent : Int) (any : Bool)
    (cs : List Char) : ReadsLeaf (scanFraction negative significand exponent any cs) := by
  fun_induction scanFraction negative significand exponent any cs with
  | case1 => exact readsLeaf_finishDouble _ _ _ _
  | case2 _ _ _ _ _ _ _ _ ih => exact ih
  | _ => first | exact readsLeaf_finishDouble _ _ _ _ | exact readsLeaf_none

theorem readsLeaf_scanLong (negative : Bool) (significand : Nat) (exponent : Int)
    (cs : List Char) : ReadsLeaf (scanLong negative significand exponent cs) := by
  fun_induction scanLong negative significand exponent cs with
  | case1 _ _ _ _ ih => exact ih
  | case2 => exact readsLeaf_scanFraction _ _ _ _ _
  | _ => exact readsLeaf_finishDouble _ _ _ _

theorem readsLeaf_finishInteger (negative : Bool) (significand : Nat) (cs : List Char) :
    ReadsLeaf (finishInteger negative significand cs) := by
  unfold finishInteger
  split
  · exact readsLeaf_scanFraction _ _ _ _ _
  · exact readsLeaf_scanExponent _ _ _ _
  · exact readsLeaf_scanExponent _ _ _ _
  · split
    · exact readsLeaf_some rfl
    · split <;> exact readsLeaf_some rfl

theorem readsLeaf_scanInteger (negative : Bool) (significand : Nat) (cs : List Char) :
    ReadsLeaf (scanInteger negative significand cs) := by
  fun_induction scanInteger negative significand cs with
  | case1 => exact readsLeaf_scanLong _ _ _ _
  | case2 _ _ _ _ _ _ ih => exact ih
  | _ => exact readsLeaf_finishInteger _ _ _

theorem readsLeaf_scanNumber (negative : Bool) (cs : List Char) :
    ReadsLeaf (scanNumber negative cs) := by
  unfold scanNumber
  split
  · exact readsLeaf_none
  · split
    · exact readsLeaf_none
    · split
      · split
        · exact readsLeaf_none
        · exact readsLeaf_finishInteger _ _ _
      · exact readsLeaf_finishInteger _ _ _
    · exact readsLeaf_scanInteger _ _ _

/-! ## Tokens -/

/-- Whether a token holds no document but a leaf. -/
def Token.IsPlain : Token → Prop
  | .atom d => d.isLeaf = true
  | _ => True

/-- Whether all tokens that are read are plain. -/
def ReadsPlain (o : Option (List Token)) : Prop := ∀ ts, o = some ts → ∀ t ∈ ts, t.IsPlain

theorem ReadsPlain.cons {t : Token} {o : Option (List Token)} (h : ReadsPlain o)
    (ht : t.IsPlain) : ReadsPlain (o.map (t :: ·)) := by
  intro ts hts
  obtain ⟨rest, hrest, rfl⟩ := Option.map_eq_some_iff.1 hts
  exact List.forall_mem_cons.2 ⟨ht, h rest hrest⟩

theorem ReadsPlain.bind {α : Type} {o : Option (α × List Char)} {token : α → Token}
    {next : List Char → Option (List Token)} (h : ∀ rest, ReadsPlain (next rest))
    (ho : ∀ a rest, o = some (a, rest) → (token a).IsPlain) :
    ReadsPlain (do
      let (a, rest) ← o
      return token a :: (← next rest)) := by
  rcases o with - | ⟨a, rest⟩
  · exact nofun
  · have hmap : (do return token a :: (← next rest) : Option (List Token)) =
        (next rest).map (token a :: ·) := by
      cases next rest <;> rfl
    exact hmap ▸ (h rest).cons (ho a rest rfl)

theorem readsPlain_nil : ReadsPlain (some []) := by
  rintro _ ⟨⟩
  exact nofun

theorem readsPlain_tokens? (fuel : Nat) (cs : List Char) : ReadsPlain (tokens? fuel cs) := by
  fun_induction tokens? fuel cs with
  | case1 => exact readsPlain_nil
  | case2 => exact nofun
  | case3 => exact readsPlain_nil
  | case10 _ _ ih => exact .bind ih fun _ _ _ => by trivial
  | case11 _ _ ih => exact ih.cons (t := .atom (.bool true)) rfl
  | case12 _ _ ih => exact ih.cons (t := .atom (.bool false)) rfl
  | case13 _ _ ih => exact ih.cons (t := .atom .null) rfl
  | case14 _ rest ih => exact .bind ih (readsLeaf_scanNumber true rest)
  | case15 _ _ _ _ _ _ _ _ _ _ _ _ _ _ _ ih => exact ih
  | case16 _ c rest _ _ _ _ _ _ _ _ _ _ _ _ ih =>
    exact .bind ih (readsLeaf_scanNumber false (c :: rest))
  | _ _ _ ih =>
    refine ih.cons ?_
    exact trivial

/-! ## Documents -/

theorem mem_insert {key : String} {d : Document} {es : Entries} {e : String × Document}
    (h : e ∈ Entries.insert key d es) : e = (key, d) ∨ e ∈ es := by
  induction es with
  | nil => exact .inl (List.mem_singleton.1 h)
  | cons e' es ih =>
    rw [Entries.insert] at h
    split at h
    · next hkey =>
      rcases List.mem_cons.1 h with rfl | h
      · exact .inl (by rw [hkey])
      · exact .inr (List.mem_cons_of_mem _ h)
    · rcases List.mem_cons.1 h with rfl | h
      · exact .inr List.mem_cons_self
      · exact (ih h).imp_right (List.mem_cons_of_mem _)

/-- A later spelling of a key takes the place of the earlier one. -/
theorem nodup_insert {key : String} {d : Document} {es : Entries}
    (h : (es.map Prod.fst).Nodup) : ((Entries.insert key d es).map Prod.fst).Nodup := by
  induction es with
  | nil => exact List.nodup_singleton _
  | cons e es ih =>
    obtain ⟨hnew, hrest⟩ := List.nodup_cons.1 h
    rw [Entries.insert]
    split
    · exact h
    · next hkey =>
      refine List.nodup_cons.2 ⟨fun hmem => ?_, ih hrest⟩
      obtain ⟨e', he', heq⟩ := List.mem_map.1 hmem
      rcases mem_insert he' with rfl | he'
      · exact hkey heq.symm
      · exact hnew (List.mem_map.2 ⟨e', he', heq⟩)

theorem distinct_ofPairs {pairs : List (String × Document)} (h : ∀ e ∈ pairs, e.2.Distinct) :
    (Document.mapping (Entries.ofPairs pairs)).Distinct := by
  suffices hfold : ∀ es : Entries, (∀ e ∈ es, e.2.Distinct) → (es.map Prod.fst).Nodup →
      (Document.mapping (pairs.foldl (fun es e => Entries.insert e.1 e.2 es) es)).Distinct from
    hfold [] (List.forall_mem_nil _) List.nodup_nil
  induction pairs with
  | nil => exact fun es => .mapping
  | cons e pairs ih =>
    intro es hes hkeys
    obtain ⟨he, hpairs⟩ := List.forall_mem_cons.1 h
    refine ih hpairs _ (fun e' he' => ?_) (nodup_insert hkeys)
    rcases mem_insert he' with rfl | he'
    · exact he
    · exact hes e' he'

/-- Whether what is read from plain tokens has a property, and plain tokens are left. -/
def Reads {α : Type} (p : α → Prop) (o : Option (α × List Token)) : Prop :=
  ∀ a rest, o = some (a, rest) → p a ∧ ∀ t ∈ rest, t.IsPlain

theorem reads_some {α : Type} {p : α → Prop} {a : α} {rest : List Token} (ha : p a)
    (hrest : ∀ t ∈ rest, t.IsPlain) : Reads p (some (a, rest)) := by
  rintro _ _ ⟨⟩
  exact ⟨ha, hrest⟩

theorem reads_none {α : Type} {p : α → Prop} : Reads p none := by
  intro _ _ h
  cases h

theorem Reads.bind {α β : Type} {p : α → Prop} {q : β → Prop} {o : Option (α × List Token)}
    {f : α × List Token → Option (β × List Token)} (ho : Reads p o)
    (hf : ∀ a rest, p a → (∀ t ∈ rest, t.IsPlain) → Reads q (f (a, rest))) :
    Reads q (o >>= f) := by
  rcases o with - | ⟨a, rest⟩
  · exact reads_none
  · obtain ⟨ha, hrest⟩ := ho a rest rfl
    exact hf a rest ha hrest

theorem plain_tail {t : Token} {ts : List Token} (h : ∀ t' ∈ t :: ts, t'.IsPlain) :
    ∀ t' ∈ ts, t'.IsPlain := (List.forall_mem_cons.1 h).2

/-- The values, items and entries that are read with some fuel: no key comes twice in a mapping. -/
structure ReadsDistinct (fuel : Nat) : Prop where
  value : ∀ depth ts, (∀ t ∈ ts, t.IsPlain) → Reads Distinct (value? fuel depth ts)
  items : ∀ depth ts, (∀ t ∈ ts, t.IsPlain) →
    Reads (fun items => ∀ d ∈ items, d.Distinct) (items? fuel depth ts)
  pairs : ∀ depth ts, (∀ t ∈ ts, t.IsPlain) →
    Reads (fun pairs => ∀ e ∈ pairs, e.2.Distinct) (pairs? fuel depth ts)

namespace ReadsDistinct

variable {fuel : Nat} {ts : List Token}

theorem value_succ (ih : ReadsDistinct fuel) (depth : Nat) (hts : ∀ t ∈ ts, t.IsPlain) :
    Reads Distinct (value? (fuel + 1) depth ts) := by
  cases ts with
  | nil => exact reads_none
  | cons t rest =>
    obtain ⟨ht, hrest⟩ := List.forall_mem_cons.1 hts
    cases t with
    | atom d => exact reads_some (.leaf ht) hrest
    | text s => exact reads_some (.leaf rfl) hrest
    | openList =>
      unfold value?
      dsimp only
      split
      · exact reads_none
      · split
        · exact reads_some (.list (List.forall_mem_nil _)) (plain_tail hrest)
        · exact (ih.items _ rest hrest).bind fun items rest hitems hrest =>
            reads_some (.list hitems) hrest
    | openMapping =>
      unfold value?
      dsimp only
      split
      · exact reads_none
      · split
        · exact reads_some (.mapping (List.forall_mem_nil _) List.nodup_nil) (plain_tail hrest)
        · exact (ih.pairs _ rest hrest).bind fun pairs rest hpairs hrest =>
            reads_some (distinct_ofPairs hpairs) hrest
    | _ => exact reads_none

theorem items_succ (ih : ReadsDistinct fuel) (depth : Nat) (hts : ∀ t ∈ ts, t.IsPlain) :
    Reads (fun items => ∀ d ∈ items, d.Distinct) (items? (fuel + 1) depth ts) := by
  rw [items?]
  refine (ih.value depth ts hts).bind fun d rest hd hrest => ?_
  dsimp only
  split
  · exact (ih.items depth _ (plain_tail hrest)).bind fun ds rest hds hrest =>
      reads_some (List.forall_mem_cons.2 ⟨hd, hds⟩) hrest
  · exact reads_some (List.forall_mem_singleton.2 hd) (plain_tail hrest)
  · exact reads_none

theorem pairs_succ (ih : ReadsDistinct fuel) (depth : Nat) (hts : ∀ t ∈ ts, t.IsPlain) :
    Reads (fun pairs => ∀ e ∈ pairs, e.2.Distinct) (pairs? (fuel + 1) depth ts) := by
  unfold pairs?
  split
  · refine (ih.value depth _ (plain_tail (plain_tail hts))).bind fun d rest hd hrest => ?_
    dsimp only
    split
    · exact (ih.pairs depth _ (plain_tail hrest)).bind fun ps rest hps hrest =>
        reads_some (List.forall_mem_cons.2 ⟨hd, hps⟩) hrest
    · exact reads_some (List.forall_mem_singleton.2 hd) (plain_tail hrest)
    · exact reads_none
  · exact reads_none

end ReadsDistinct

theorem readsDistinct (fuel : Nat) : ReadsDistinct fuel := by
  induction fuel with
  | zero => exact ⟨fun _ _ _ => reads_none, fun _ _ _ => reads_none, fun _ _ _ => reads_none⟩
  | succ fuel ih => exact ⟨fun depth _ => ih.value_succ depth, fun depth _ => ih.items_succ depth,
      fun depth _ => ih.pairs_succ depth⟩

end Json

/-- No mapping that is read from a JSON text has a key twice. -/
theorem distinct_of_ofJson? {text : String} {d : Document} (h : ofJson? text = some d) :
    d.Distinct := by
  obtain ⟨ts, hts, hread⟩ := Option.bind_eq_some_iff.1 h
  have hplain := Json.readsPlain_tokens? _ _ ts hts
  rw [Json.document?] at hread
  split at hread
  · next heq =>
    obtain rfl := Option.some.inj hread
    exact ((Json.readsDistinct _).value _ ts hplain _ _ heq).1
  · cases hread

end KafkaTopology.Document
