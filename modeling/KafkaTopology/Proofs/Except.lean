import Mathlib.Data.List.Forall2
/-!
# Computations that may fail

When a chain of checks succeeds, what it then yields, and how it fails. Each law takes one way of
putting checks together apart, so that no later proof opens the monad.
-/

/-- Whatever stands on the right has something on the left. -/
theorem List.Forall₂.exists_left {α β : Type} {r : α → β → Prop} {xs : List α} {ys : List β}
    (h : List.Forall₂ r xs ys) {y : β} (hy : y ∈ ys) : ∃ x ∈ xs, r x y := by
  induction h with
  | nil => cases hy
  | cons hxy _ ih =>
    rcases List.mem_cons.1 hy with rfl | hy
    · exact ⟨_, List.mem_cons_self, hxy⟩
    · obtain ⟨x, hx, hr⟩ := ih hy
      exact ⟨x, List.mem_cons_of_mem _ hx, hr⟩

/-- What is found on both sides by tests that agree is related. -/
theorem List.Forall₂.rel_find? {α β : Type} {r : α → β → Prop} {xs : List α} {ys : List β}
    (h : List.Forall₂ r xs ys) {p : α → Bool} {q : β → Bool} (hpq : ∀ x y, r x y → p x = q y) :
    Option.Rel r (xs.find? p) (ys.find? q) := by
  induction h with
  | nil => exact .none
  | cons hxy _ ih =>
    rw [List.find?_cons, List.find?_cons, hpq _ _ hxy]
    split
    · exact .some hxy
    · exact ih

namespace Except

variable {ε α β γ δ : Type}

theorem pure_eq_ok_iff {a b : α} : (pure a : Except ε α) = .ok b ↔ a = b :=
  ⟨fun h => by cases h; rfl, fun h => by rw [h]; rfl⟩

theorem bind_eq_ok_iff {x : Except ε α} {f : α → Except ε β} {b : β} :
    (x >>= f) = .ok b ↔ ∃ a, x = .ok a ∧ f a = .ok b := by
  cases x <;> simp [bind, Except.bind]

theorem mapM_cons_eq_ok_iff {f : α → Except ε β} {x : α} {xs : List α} {zs : List β} :
    (x :: xs).mapM f = .ok zs ↔
      ∃ y, f x = .ok y ∧ ∃ ys, xs.mapM f = .ok ys ∧ y :: ys = zs := by
  simp only [List.mapM_cons, bind_eq_ok_iff, pure_eq_ok_iff]

theorem mapM_eq_ok_iff {f : α → Except ε β} {xs : List α} {ys : List β} :
    xs.mapM f = .ok ys ↔ List.Forall₂ (fun x y => f x = .ok y) xs ys := by
  induction xs generalizing ys with
  | nil => rw [List.mapM_nil, pure_eq_ok_iff, List.forall₂_nil_left_iff, eq_comm]
  | cons x xs ih =>
    rw [mapM_cons_eq_ok_iff, List.forall₂_cons_left_iff]
    simp only [ih]
    exact ⟨fun ⟨y, hy, ys', hys, heq⟩ => ⟨y, ys', hy, hys, heq.symm⟩,
      fun ⟨y, ys', hy, hys, heq⟩ => ⟨y, hy, ys', hys, heq.symm⟩⟩

/-- Where every item is read as something else after a change, so is the list. -/
theorem mapM_map_eq_ok_iff {f : α → Except ε β} {f' : γ → Except ε δ} {k : α → γ} {g : β → δ}
    {xs : List α} (h : ∀ x ∈ xs, ∀ z, f' (k x) = .ok z ↔ ∃ y, f x = .ok y ∧ g y = z)
    {zs : List δ} :
    (xs.map k).mapM f' = .ok zs ↔ ∃ ys, xs.mapM f = .ok ys ∧ ys.map g = zs := by
  induction xs generalizing zs with
  | nil => simp [pure_eq_ok_iff]
  | cons x xs ih =>
    obtain ⟨hx, hxs⟩ := List.forall_mem_cons.1 h
    simp only [List.map_cons, mapM_cons_eq_ok_iff, hx, ih hxs]
    constructor
    · rintro ⟨_, ⟨y, hy, rfl⟩, _, ⟨ys, hys, rfl⟩, rfl⟩
      exact ⟨_, ⟨y, hy, ys, hys, rfl⟩, rfl⟩
    · rintro ⟨_, ⟨y, hy, ys, hys, rfl⟩, rfl⟩
      exact ⟨_, ⟨y, hy, rfl⟩, _, ⟨ys, hys, rfl⟩, rfl⟩

/-- What every item comes to may be changed after the list has been read. -/
theorem mapM_map (f : α → Except ε β) (g : β → γ) (xs : List α) :
    xs.mapM (fun x => (f x).map g) = (xs.mapM f).map (List.map g) := by
  induction xs with
  | nil => rfl
  | cons x xs ih =>
    rw [List.mapM_cons, List.mapM_cons, ih]
    cases f x with
    | error e => rfl
    | ok y => cases xs.mapM f <;> rfl

/-- A change in one item that its check does not notice is not noticed. -/
theorem mapM_modify {f : α → Except ε β} {g : α → α} {xs : List α} {i : Nat}
    (h : ∀ x ∈ xs[i]?, f (g x) = f x) : (xs.modify i g).mapM f = xs.mapM f := by
  induction xs generalizing i with
  | nil => rw [List.modify_nil]
  | cons x xs ih =>
    cases i with
    | zero => rw [List.modify_zero_cons, List.mapM_cons, List.mapM_cons, h x rfl]
    | succ i => rw [List.modify_succ_cons, List.mapM_cons, List.mapM_cons, ih h]

theorem exists_of_mem_mapM {f : α → Except ε β} {xs : List α} {ys : List β}
    (h : xs.mapM f = .ok ys) {y : β} (hy : y ∈ ys) : ∃ x ∈ xs, f x = .ok y :=
  (mapM_eq_ok_iff.1 h).exists_left hy

/-- A list of checks succeeds, with results that have a property, exactly if each of them does. -/
theorem exists_mapM_iff {f : α → Except ε β} {p : β → Prop} {xs : List α} :
    (∃ ys, xs.mapM f = .ok ys ∧ ∀ y ∈ ys, p y) ↔ ∀ x ∈ xs, ∃ y, f x = .ok y ∧ p y := by
  induction xs with
  | nil => exact ⟨fun _ => nofun, fun _ => ⟨[], rfl, nofun⟩⟩
  | cons x xs ih =>
    rw [List.forall_mem_cons, ← ih]
    simp only [mapM_cons_eq_ok_iff]
    constructor
    · rintro ⟨_, ⟨y, hy, ys, hys, rfl⟩, hall⟩
      obtain ⟨hp, hps⟩ := List.forall_mem_cons.1 hall
      exact ⟨⟨y, hy, hp⟩, ys, hys, hps⟩
    · rintro ⟨⟨y, hy, hp⟩, ys, hys, hps⟩
      exact ⟨_, ⟨y, hy, ys, hys, rfl⟩, List.forall_mem_cons.2 ⟨hp, hps⟩⟩

theorem forM_eq_ok_iff {f : α → Except ε Unit} {xs : List α} :
    xs.forM f = .ok () ↔ ∀ x ∈ xs, f x = .ok () := by
  induction xs with
  | nil => simp [pure_eq_ok_iff]
  | cons x xs ih =>
    rw [List.forall_mem_cons, ← ih]
    exact bind_eq_ok_iff.trans ⟨fun ⟨_, hx, hxs⟩ => ⟨hx, hxs⟩, fun ⟨hx, hxs⟩ => ⟨(), hx, hxs⟩⟩

@[simp]
theorem mapError_ok {ε' : Type} (f : ε → ε') (a : α) :
    (.ok a : Except ε α).mapError f = .ok a := rfl

@[simp]
theorem mapError_error {ε' : Type} (f : ε → ε') (e : ε) :
    (.error e : Except ε α).mapError f = .error (f e) := rfl

/-! ## Whether they succeed -/

@[simp]
theorem isOk_ok (a : α) : (.ok a : Except ε α).isOk = true := rfl

@[simp]
theorem isOk_pure (a : α) : (pure a : Except ε α).isOk = true := rfl

@[simp]
theorem isOk_error (e : ε) : (.error e : Except ε α).isOk = false := rfl

theorem isOk_iff {x : Except ε α} : x.isOk = true ↔ ∃ a, x = .ok a := by
  cases x <;> simp

theorem isOk_bind {x : Except ε α} {f : α → Except ε β} :
    (x >>= f).isOk = true ↔ ∃ a, x = .ok a ∧ (f a).isOk = true := by
  cases x <;> simp [bind, Except.bind]

@[simp]
theorem isOk_map {x : Except ε α} {f : α → β} : (x.map f).isOk = x.isOk := by
  cases x <;> rfl

@[simp]
theorem isOk_functor_map {x : Except ε α} {f : α → β} : (f <$> x).isOk = x.isOk := isOk_map

/-- Where the second check succeeds whatever the first one yields, each counts on its own. -/
theorem isOk_bind_iff {x : Except ε α} {f : α → Except ε β} {p : Prop}
    (h : ∀ a, x = .ok a → ((f a).isOk = true ↔ p)) :
    (x >>= f).isOk = true ↔ x.isOk = true ∧ p := by
  rw [isOk_bind, isOk_iff]
  exact ⟨fun ⟨a, ha, hf⟩ => ⟨⟨a, ha⟩, (h a ha).1 hf⟩, fun ⟨⟨a, ha⟩, hp⟩ => ⟨a, ha, (h a ha).2 hp⟩⟩

theorem isOk_mapM_iff {f : α → Except ε β} {xs : List α} :
    (xs.mapM f).isOk = true ↔ ∀ x ∈ xs, (f x).isOk = true := by
  induction xs with
  | nil => exact ⟨fun _ => nofun, fun _ => rfl⟩
  | cons x xs ih =>
    rw [List.mapM_cons, List.forall_mem_cons, ← ih]
    refine isOk_bind_iff fun y _ => ?_
    cases xs.mapM f <;> rfl

theorem isOk_foldlM_iff {f : β → α → Except ε β} {p : α → Prop} {xs : List α}
    (h : ∀ b, ∀ x ∈ xs, (f b x).isOk = true ↔ p x) (b : β) :
    (xs.foldlM f b).isOk = true ↔ ∀ x ∈ xs, p x := by
  induction xs generalizing b with
  | nil => exact ⟨fun _ => nofun, fun _ => rfl⟩
  | cons x xs ih =>
    have hxs := ih fun b y hy => h b y (List.mem_cons_of_mem _ hy)
    rw [List.foldlM_cons, List.forall_mem_cons, ← h b x List.mem_cons_self]
    exact isOk_bind_iff fun b' _ => hxs b'

/-! ## How they fail -/

theorem bind_eq_error_iff {x : Except ε α} {f : α → Except ε β} {e : ε} :
    (x >>= f) = .error e ↔ x = .error e ∨ ∃ a, x = .ok a ∧ f a = .error e := by
  cases x <;> simp [bind, Except.bind]

/-- Whether an error is that of the first item that fails. -/
def FailsFirst (f : α → Except ε β) (xs : List α) (e : ε) : Prop :=
  ∃ before x after, xs = before ++ x :: after ∧ (∀ y ∈ before, (f y).isOk = true) ∧ f x = .error e

theorem failsFirst_cons_iff {f : α → Except ε β} {x : α} {xs : List α} {e : ε} :
    FailsFirst f (x :: xs) e ↔ f x = .error e ∨ ∃ y, f x = .ok y ∧ FailsFirst f xs e := by
  constructor
  · rintro ⟨before, z, after, hxs, hok, hz⟩
    rcases List.cons_eq_append_iff.1 hxs with ⟨rfl, hcons⟩ | ⟨before, rfl, rfl⟩
    · obtain ⟨rfl, -⟩ := List.cons.inj hcons
      exact .inl hz
    · obtain ⟨hx, hbefore⟩ := List.forall_mem_cons.1 hok
      obtain ⟨y, hy⟩ := isOk_iff.1 hx
      exact .inr ⟨y, hy, before, z, after, rfl, hbefore, hz⟩
  · rintro (hx | ⟨y, hy, before, z, after, rfl, hok, hz⟩)
    · exact ⟨[], x, xs, rfl, nofun, hx⟩
    · exact ⟨x :: before, z, after, rfl, List.forall_mem_cons.2 ⟨isOk_iff.2 ⟨y, hy⟩, hok⟩, hz⟩

theorem not_failsFirst_nil {f : α → Except ε β} {e : ε} : ¬FailsFirst f [] e := by
  rintro ⟨before, x, after, h, -⟩
  exact List.cons_ne_nil _ _ (List.append_eq_nil_iff.1 h.symm).2

theorem mapM_eq_error_iff {f : α → Except ε β} {xs : List α} {e : ε} :
    xs.mapM f = .error e ↔ FailsFirst f xs e := by
  induction xs with
  | nil => exact ⟨nofun, fun h => (not_failsFirst_nil h).elim⟩
  | cons x xs ih =>
    rw [List.mapM_cons, bind_eq_error_iff, failsFirst_cons_iff, ← ih]
    refine or_congr_right (exists_congr fun y => and_congr_right fun _ => ?_)
    rw [bind_eq_error_iff]
    exact ⟨fun h => h.resolve_right nofun, .inl⟩

theorem forM_eq_error_iff {f : α → Except ε Unit} {xs : List α} {e : ε} :
    xs.forM f = .error e ↔ FailsFirst f xs e := by
  induction xs with
  | nil => exact ⟨nofun, fun h => (not_failsFirst_nil h).elim⟩
  | cons x xs ih =>
    rw [failsFirst_cons_iff, ← ih]
    exact bind_eq_error_iff

/-- Whether a computation fails with errors of one kind only. -/
def FailsAs (p : ε → Prop) (x : Except ε α) : Prop := ∀ e, x = .error e → p e

variable {p : ε → Prop}

theorem failsAs_ok (a : α) : FailsAs p (.ok a : Except ε α) := nofun

theorem failsAs_error {e : ε} (h : p e) : FailsAs p (.error e : Except ε α) := by
  rintro _ ⟨⟩
  exact h

theorem FailsAs.bind {x : Except ε α} {f : α → Except ε β} (hx : FailsAs p x)
    (hf : ∀ a, FailsAs p (f a)) : FailsAs p (x >>= f) := by
  intro e he
  rcases bind_eq_error_iff.1 he with he | ⟨a, -, he⟩
  · exact hx e he
  · exact hf a e he

theorem FailsAs.mapM {f : α → Except ε β} (hf : ∀ a, FailsAs p (f a)) (xs : List α) :
    FailsAs p (xs.mapM f) := by
  intro e he
  obtain ⟨-, x, -, -, -, hx⟩ := mapM_eq_error_iff.1 he
  exact hf x e hx

theorem FailsAs.foldlM {f : β → α → Except ε β} (hf : ∀ b a, FailsAs p (f b a)) (xs : List α)
    (b : β) : FailsAs p (xs.foldlM f b) := by
  induction xs generalizing b with
  | nil => exact failsAs_ok b
  | cons x xs ih =>
    rw [List.foldlM_cons]
    exact (hf b x).bind ih

/-! ## Results compared -/

/-- Results that are the same but for their errors. -/
inductive Alike (r : ε → ε → Prop) : Except ε α → Except ε α → Prop
  | ok (a : α) : Alike r (.ok a) (.ok a)
  | error {e e' : ε} (h : r e e') : Alike r (.error e) (.error e')

theorem Alike.of_eq {r : ε → ε → Prop} (hr : ∀ e, r e e) {x y : Except ε α} (h : x = y) :
    Alike r x y := by
  subst h
  cases x with
  | ok a => exact .ok a
  | error e => exact .error (hr e)

/-! ## What they yield -/

theorem toOption_eq_some_iff {x : Except ε α} {a : α} : x.toOption = some a ↔ x = .ok a := by
  cases x <;> simp [Except.toOption]

theorem toOption_bind (x : Except ε α) (f : α → Except ε β) :
    (x >>= f).toOption = x.toOption.bind fun a => (f a).toOption := by
  cases x <;> rfl

theorem toOption_map (x : Except ε α) (f : α → β) : (x.map f).toOption = x.toOption.map f := by
  cases x <;> rfl

theorem toOption_mapM (f : α → Except ε β) (xs : List α) :
    (xs.mapM f).toOption = xs.mapM fun x => (f x).toOption := by
  induction xs with
  | nil => rfl
  | cons x xs ih =>
    rw [List.mapM_cons, List.mapM_cons, toOption_bind]
    refine congrArg (Option.bind _) (funext fun y => ?_)
    rw [toOption_bind, ih]
    rfl

theorem toOption_foldlM (f : β → α → Except ε β) (xs : List α) (b : β) :
    (xs.foldlM f b).toOption = xs.foldlM (fun b x => (f b x).toOption) b := by
  induction xs generalizing b with
  | nil => rfl
  | cons x xs ih =>
    rw [List.foldlM_cons, List.foldlM_cons, toOption_bind]
    exact congrArg (Option.bind _) (funext ih)

end Except

/-- Computations that are the same for every item are the same for the list. -/
theorem List.mapM_congr_mem {m : Type → Type} [Monad m] [LawfulMonad m] {α β : Type}
    {f g : α → m β} {xs : List α} (h : ∀ x ∈ xs, f x = g x) : xs.mapM f = xs.mapM g := by
  induction xs with
  | nil => rfl
  | cons x xs ih =>
    obtain ⟨hx, hxs⟩ := List.forall_mem_cons.1 h
    rw [List.mapM_cons, List.mapM_cons, hx, ih hxs]

theorem List.mapM_eq_some_iff {α β : Type} {f : α → Option β} {xs : List α} {ys : List β} :
    xs.mapM f = some ys ↔ List.Forall₂ (fun x y => f x = some y) xs ys := by
  induction xs generalizing ys with
  | nil => rw [mapM_nil, forall₂_nil_left_iff, eq_comm, Option.pure_def, Option.some.injEq]
  | cons x xs ih =>
    rw [mapM_cons, forall₂_cons_left_iff]
    simp only [Option.bind_eq_bind, Option.bind_eq_some_iff, Option.pure_def, Option.some.injEq, ih]
    exact ⟨fun ⟨y, hy, ys', hys, heq⟩ => ⟨y, ys', hy, hys, heq.symm⟩,
      fun ⟨y, ys', hy, hys, heq⟩ => ⟨y, hy, ys', hys, heq.symm⟩⟩
