import KafkaTopology.Proofs.Decode.Layout
import KafkaTopology.Proofs.Document.KeyOrder
/-!
# Decoders and the order of keys

Where no key comes twice, a document with its keys in order is read like the document itself
(`Decoder.Reorders`), but for what is read of it as it is. Records and maps are read key by key, in
the order of the keys. That order does not matter where the steps for different keys commute
(`List.foldlM_reorder`): the fields of a record set different parts of it, and a map is set at
different keys.
-/

namespace List

variable {α β γ : Type}

/-- What maps can be done after or before. -/
theorem mapM_map_option (f : α → Option β) (g : β → γ) (xs : List α) :
    xs.mapM (fun x => (f x).map g) = (xs.mapM f).map (map g) := by
  induction xs with
  | nil => rfl
  | cons x xs ih =>
    rw [mapM_cons, mapM_cons, ih]
    cases f x with
    | none => rfl
    | some y => cases xs.mapM f <;> rfl

/-- Putting together what is read one by one. -/
theorem foldl_mapM_option (f : α → Option β) (step : γ → β → γ) (xs : List α) (c : γ) :
    (xs.mapM f).map (foldl step c) = xs.foldlM (fun c x => (f x).map (step c)) c := by
  induction xs generalizing c with
  | nil => rfl
  | cons x xs ih =>
    rw [mapM_cons, foldlM_cons]
    cases f x with
    | none => rfl
    | some y =>
      refine Eq.trans ?_ (ih (step c y))
      cases xs.mapM f <;> rfl

/-- Whether two items may be taken in any order. -/
def Swaps (f : β → α → Option β) (x y : α) : Prop :=
  ∀ b, (f b x).bind (f · y) = (f b y).bind (f · x)

theorem Swaps.symm {f : β → α → Option β} {x y : α} (h : Swaps f x y) : Swaps f y x :=
  fun b => (h b).symm

/-- Items that may be taken in any order. -/
theorem foldlM_perm {f : β → α → Option β} {xs ys : List α} (hperm : xs.Perm ys)
    (hswaps : xs.Pairwise (Swaps f)) (b : β) : xs.foldlM f b = ys.foldlM f b := by
  induction hperm generalizing b with
  | nil => rfl
  | cons x _ ih =>
    rw [foldlM_cons, foldlM_cons]
    exact congrArg (Option.bind _) (funext fun b => ih (pairwise_cons.1 hswaps).2 b)
  | swap x y xs =>
    have hxy := (pairwise_cons.1 hswaps).1 x mem_cons_self b
    simp only [foldlM_cons, Option.bind_eq_bind, ← Option.bind_assoc, hxy]
  | trans h₁ _ ih₁ ih₂ => rw [ih₁ hswaps, ih₂ ((h₁.pairwise_iff Swaps.symm).1 hswaps)]

/-- Changed items in another order yield the changed result, if the items may be taken in any order
and the change of an item changes the result. -/
theorem foldlM_reorder {f : β → α → Option β} {k : α → α} {g : β → β} {xs ys : List α}
    (hperm : ys.Perm (xs.map k)) (hswaps : ys.Pairwise (Swaps f))
    (hstep : ∀ x ∈ xs, ∀ b, f (g b) (k x) = (f b x).map g) (b : β) :
    ys.foldlM f (g b) = (xs.foldlM f b).map g := by
  -- The items are put back in their order first; then each step changes the result on its own.
  rw [foldlM_perm hperm hswaps]
  clear hperm hswaps
  induction xs generalizing b with
  | nil => rfl
  | cons x xs ih =>
    obtain ⟨hx, hxs⟩ := forall_mem_cons.1 hstep
    rw [map_cons, foldlM_cons, foldlM_cons, hx b]
    cases f b x with
    | none => rfl
    | some b' => exact ih hxs b'

end List

namespace KafkaTopology

open Document (Distinct)

namespace Decoder

variable {α : Type} {decode : Decoder α} {g : α → α}

/-- Whether what is read of a document with its keys in order is what is read of the document, after
some change. -/
def Reorders (decode : Decoder α) (g : α → α) : Prop :=
  ∀ d : Document, d.Distinct →
    (decode .strict d.ordered).toOption = (decode .strict d).toOption.map g

/-- Whether the order of keys makes no difference. -/
abbrev OrderFree (decode : Decoder α) : Prop := decode.Reorders id

theorem OrderFree.toOption_eq (h : decode.OrderFree) {d : Document} (hd : d.Distinct) :
    (decode .strict d.ordered).toOption = (decode .strict d).toOption := by
  rw [h d hd, Option.map_id_fun, id]

theorem Reorders.eq_ok_iff (h : decode.Reorders g) {d : Document} (hd : d.Distinct) {b : α} :
    decode .strict d.ordered = .ok b ↔ ∃ a, decode .strict d = .ok a ∧ g a = b := by
  simp only [← Except.toOption_eq_some_iff, h d hd, Option.map_eq_some_iff]

theorem OrderFree.eq_ok_iff (h : decode.OrderFree) {d : Document} (hd : d.Distinct) {a : α} :
    decode .strict d.ordered = .ok a ↔ decode .strict d = .ok a := by
  rw [← Except.toOption_eq_some_iff, ← Except.toOption_eq_some_iff, h.toOption_eq hd]

theorem orderFree_of_eq (h : ∀ d : Document, d.Distinct →
      (decode .strict d.ordered).toOption = (decode .strict d).toOption) : decode.OrderFree :=
  fun d hd => by rw [h d hd, Option.map_id_fun, id]

theorem orderFree_text : text.OrderFree := orderFree_of_eq fun d _ => by cases d <;> rfl

theorem orderFree_bool : bool.OrderFree := orderFree_of_eq fun d _ => by cases d <;> rfl

theorem reorders_any : any.Reorders Document.ordered := fun _ _ => rfl

theorem orderFree_option (h : decode.OrderFree) : (option decode).OrderFree := by
  refine orderFree_of_eq fun d hd => ?_
  have hd' := h.toOption_eq hd
  cases d with
  | null => rfl
  | _ =>
    refine (Except.toOption_map _ _).trans (Eq.trans ?_ (Except.toOption_map _ _).symm)
    exact congrArg (Option.map some) hd'

theorem reorders_list (h : decode.Reorders g) : (list decode).Reorders (List.map g) := by
  intro d hd
  cases d with
  | list items =>
    rw [Document.ordered_list]
    show ((items.map Document.ordered).mapM (decode .strict)).toOption =
      (items.mapM (decode .strict)).toOption.map (List.map g)
    rw [Except.toOption_mapM, Except.toOption_mapM, List.mapM_map, ← List.mapM_map_option]
    exact List.mapM_congr_mem fun item hitem => h item (hd.item hitem)
  | _ => rfl

theorem orderFree_list (h : decode.OrderFree) : (list decode).OrderFree := by
  have hlist := reorders_list h
  rwa [List.map_id_fun] at hlist

/-! ## Maps -/

/-- The map of the entries of a mapping. -/
def keyed (decode : Decoder α) : Decoder (OrderedMap String α) := fun rules d =>
  (pairs decode rules d).map OrderedMap.ofPairs

/-- Sets a key to what is read of its value. -/
def setEntry (decode : Decoder α) (m : OrderedMap String α) (e : String × Document) :
    Option (OrderedMap String α) :=
  (decode .strict e.2).toOption.map (m.set e.1)

theorem toOption_keyed (entries : List (String × Document)) :
    (keyed decode .strict (.mapping entries)).toOption = entries.foldlM (setEntry decode) ∅ := by
  have hpairs : OrderedMap.ofPairs (κ := String) (β := α) =
      List.foldl (fun m p => m.set p.1 p.2) ∅ := by
    funext ps
    rw [OrderedMap.ofPairs, OrderedSet.ofList, List.foldl_map]
    rfl
  rw [keyed, Except.toOption_map, hpairs]
  simp only [pairs]
  rw [Except.toOption_mapM, List.foldl_mapM_option]
  refine congrArg (List.foldlM · ∅ entries) (funext fun m => funext fun e => ?_)
  rw [setEntry]
  cases decode .strict e.2 <;> rfl

theorem swaps_setEntry {e e' : String × Document} (h : e.1 ≠ e'.1) :
    List.Swaps (setEntry decode) e e' := by
  intro m
  simp only [setEntry]
  rcases (decode .strict e.2).toOption with - | v <;>
    rcases (decode .strict e'.2).toOption with - | v'
  · rfl
  · rfl
  · rfl
  · exact congrArg some (OrderedMap.set_comm (mt Std.LawfulEqOrd.eq_of_compare h) v v')

theorem reorders_keyed (h : decode.Reorders g) :
    (keyed decode).Reorders (OrderedMap.mapValues g) := by
  intro d hd
  cases d with
  | mapping entries =>
    rw [Document.ordered_mapping_eq, toOption_keyed, toOption_keyed]
    refine List.foldlM_reorder (g := OrderedMap.mapValues g) (Document.perm_inKeyOrder hd.nodup)
      (Document.pairwise_inKeyOrder (fun _ _ => swaps_setEntry) hd.nodup) (fun e he m => ?_) ∅
    simp only [setEntry, h e.2 (hd.value he), Option.map_map]
    exact congrFun (congrArg Option.map (funext fun v => (OrderedMap.mapValues_set g e.1 v).symm)) _
  | list items =>
    rw [Document.ordered_list]
    rfl
  | _ => rfl

end Decoder

/-! ## Fields -/

namespace Field

variable {ρ α β : Type} {f f' : Field ρ} {g : ρ → ρ} {decode : Decoder α} {decode' : Decoder β}
  {set : α → ρ → ρ} {set' : β → ρ → ρ}

/-- The same for a field, which is read into a record. -/
def Reorders (f : Field ρ) (g : ρ → ρ) : Prop :=
  ∀ d : Document, d.Distinct → ∀ r,
    (f.read .strict d.ordered (g r)).toOption = (f.read .strict d r).toOption.map g

/-- Whether two fields may be read in any order. -/
def Commutes (f f' : Field ρ) : Prop :=
  ∀ d d' r, ((f.read .strict d r).toOption.bind fun r => (f'.read .strict d' r).toOption) =
    (f'.read .strict d' r).toOption.bind fun r => (f.read .strict d r).toOption

theorem Commutes.symm (h : f.Commutes f') : f'.Commutes f := fun d d' r => (h d' d r).symm

/-- Whether reading a field is decoding a value and setting it. -/
def Sets (f : Field ρ) (decode : Decoder α) (set : α → ρ → ρ) : Prop :=
  ∀ d r, (f.read .strict d r).toOption = (decode .strict d).toOption.map (set · r)

theorem sets_of_read (h : f.read = fun rules d r => do return set (← decode rules d) r) :
    f.Sets decode set := by
  intro d r
  rw [h]
  show (do return set (← decode .strict d) r : Except DecodeError ρ).toOption = _
  cases decode .strict d <;> rfl

/-- Setting a map is setting what its entries come to. -/
theorem Sets.keyed (set : OrderedMap String α → ρ → ρ)
    (h : f.Sets (Decoder.pairs decode) fun v => set (OrderedMap.ofPairs v)) :
    f.Sets (Decoder.keyed decode) set := by
  intro d r
  rw [h, Decoder.keyed, Except.toOption_map, Option.map_map]
  rfl

theorem Sets.reorders {k : α → α} (h : f.Sets decode set) (hdecode : decode.Reorders k)
    (hset : ∀ a r, set (k a) (g r) = g (set a r)) : f.Reorders g := by
  intro d hd r
  rw [h, h, hdecode d hd]
  cases (decode .strict d).toOption with
  | none => rfl
  | some a => exact congrArg some (hset a r)

theorem reorders_of_read (h : f.read = fun rules d r => do return set (← decode rules d) r)
    (hdecode : decode.OrderFree) : f.Reorders id :=
  (sets_of_read h).reorders hdecode fun _ _ => rfl

theorem Sets.commutes (h : f.Sets decode set) (h' : f'.Sets decode' set')
    (hset : ∀ a b r, set' b (set a r) = set a (set' b r)) : f.Commutes f' := by
  intro d d' r
  simp only [h _ _, h' _ _]
  rcases (decode .strict d).toOption with - | a <;>
    rcases (decode' .strict d').toOption with - | b
  · rfl
  · rfl
  · rfl
  · exact congrArg some (hset a b r)

/-- Fields that set different parts of a record commute. -/
theorem commutes_of_read (h : f.read = fun rules d r => do return set (← decode rules d) r)
    (h' : f'.read = fun rules d r => do return set' (← decode' rules d) r)
    (hset : ∀ a b r, set' b (set a r) = set a (set' b r)) : f.Commutes f' :=
  (sets_of_read h).commutes (sets_of_read h') hset

end Field

/-! ## Records -/

namespace Schema

variable {ρ : Type} {schema : Schema ρ} {g : ρ → ρ}

/-- A document with its keys in order holds the same for each field, in some order. -/
theorem perm_laidOut (schema : Schema ρ) {d : Document} (hd : d.Distinct) :
    (schema.laidOut d.ordered).Perm
      ((schema.laidOut d).map (Prod.map id Document.ordered)) := by
  cases d with
  | mapping entries =>
    refine ((Document.perm_inKeyOrder hd.nodup).filterMap _).trans (.of_eq ?_)
    rw [List.filterMap_map]
    simp only [laidOut, Document.laidOut, List.map_filterMap, Function.comp_def, Option.map_map]
    rfl
  | list items =>
    rw [Document.ordered_list]
    simp only [laidOut, Document.laidOut, List.zip_map_right]
    rfl
  | _ => rfl

theorem admits_ordered_iff (schema : Schema ρ) {d : Document} (hd : d.Distinct) :
    schema.Admits d.ordered ↔ schema.Admits d := by
  have hnames : ((schema.laidOut d.ordered).map (·.1.name)).Perm
      ((schema.laidOut d).map (·.1.name)) := by
    refine ((schema.perm_laidOut hd).map _).trans (.of_eq ?_)
    rw [List.map_map]
    rfl
  cases d with
  | mapping entries =>
    simp only [Document.ordered_mapping_eq, Admits] at hnames ⊢
    rw [hnames.nodup_iff]
    simp only [hnames.mem_iff]
  | list items => simp [Document.ordered_list, Admits]
  | _ => exact Iff.rfl

theorem distinct_of_mem_laidOut {d : Document} (hd : d.Distinct) {v : Field ρ × Document}
    (hv : v ∈ schema.laidOut d) : v.2.Distinct := by
  cases d with
  | mapping entries =>
    obtain ⟨e, he, hv⟩ := List.mem_filterMap.1 hv
    obtain ⟨f, -, rfl⟩ := Option.map_eq_some_iff.1 hv
    exact hd.value he
  | list items => exact hd.item (List.of_mem_zip hv).2
  | _ => cases hv

theorem swaps_laidOut (hnames : (schema.fields.map (·.name)).Nodup)
    (hcommute : schema.fields.Pairwise Field.Commutes) {d : Document} (h : schema.Admits d) :
    (schema.laidOut d).Pairwise
      (List.Swaps fun r (v : Field ρ × Document) => (v.1.read .strict v.2 r).toOption) := by
  refine (List.pairwise_map.1 (nodup_laidOut h hnames)).imp_of_mem fun {v w} hv hw hne => ?_
  have : Std.Symm (Field.Commutes (ρ := ρ)) := ⟨fun _ _ => Field.Commutes.symm⟩
  have hfields := hcommute.forall (mem_laidOut hv) (mem_laidOut hw) fun heq => hne (heq ▸ rfl)
  exact fun r => hfields v.2 w.2 r

theorem toOption_readAll (values : List (Field ρ × Document)) (r : ρ) :
    (readAll values r).toOption = values.foldlM (fun r v => (v.1.read .strict v.2 r).toOption) r :=
  Except.toOption_foldlM _ _ _

theorem toOption_readAll_ordered (hnames : (schema.fields.map (·.name)).Nodup)
    (hcommute : schema.fields.Pairwise Field.Commutes) (hfields : ∀ f ∈ schema.fields, f.Reorders g)
    {d : Document} (hd : d.Distinct) (h : schema.Admits d) (r : ρ) :
    (readAll (schema.laidOut d.ordered) (g r)).toOption =
      (readAll (schema.laidOut d) r).toOption.map g := by
  rw [toOption_readAll, toOption_readAll]
  refine List.foldlM_reorder (schema.perm_laidOut hd)
    (swaps_laidOut hnames hcommute ((schema.admits_ordered_iff hd).2 h)) (fun v hv r => ?_) r
  exact hfields v.1 (mem_laidOut hv) v.2 (distinct_of_mem_laidOut hd hv) r

/-- Where the fields of a record commute, its keys may come in any order. -/
theorem reorders_decode (hnames : (schema.fields.map (·.name)).Nodup)
    (hcommute : schema.fields.Pairwise Field.Commutes) (hfields : ∀ f ∈ schema.fields, f.Reorders g)
    (hblank : g schema.blank = schema.blank) : schema.decode.Reorders g := by
  intro d hd
  -- Whether the layout is admitted does not depend on the order, so only admitted ones are read.
  by_cases hadmits : schema.Admits d
  · have hread (d : Document) (h : schema.Admits d) :
        (schema.decode .strict d).toOption =
          (readAll (schema.laidOut d) schema.blank).toOption := by
      ext r
      rw [Except.toOption_eq_some_iff, Except.toOption_eq_some_iff, decode_eq_ok_iff]
      exact and_iff_right h
    rw [hread d hadmits, hread _ ((schema.admits_ordered_iff hd).2 hadmits),
      ← toOption_readAll_ordered hnames hcommute hfields hd hadmits, hblank]
  · have hnone (d : Document) (h : ¬schema.Admits d) :
        (schema.decode .strict d).toOption = none := by
      refine Option.eq_none_iff_forall_not_mem.2 fun r hr => h ?_
      exact (decode_eq_ok_iff.1 (Except.toOption_eq_some_iff.1 hr)).1
    rw [hnone d hadmits, hnone _ (mt (schema.admits_ordered_iff hd).1 hadmits)]
    rfl

end Schema
end KafkaTopology
