import Mathlib.Data.Set.Function
import Mathlib.Data.Set.Insert
/-!
# Marks

What operations leave on a part of the world: a mark puts an entry into a set or drops it. A plan
puts entries and then drops others.

* `Mark.Between.onAll` — every part of such a script stays in between.
* `Mark.Between.onAll_script` — a whole script leads from anywhere in between to the same set, so a
  script that broke off can be begun again.
* `Mark.onAll_eq_self_iff` — a script that has begun cannot be undone by doing nothing.
-/
namespace KafkaTopology

/-- What an operation does to one entry. -/
inductive Mark (α : Type) where
  | put (x : α)
  | drop (x : α)
deriving DecidableEq, Repr

namespace Mark

variable {α : Type}

/-! ## Sets -/

/-- A set after a mark. -/
def on : Mark α → Set α → Set α
  | .put x, s => insert x s
  | .drop x, s => s \ {x}

/-- A set after marks, in order. -/
def onAll (s : Set α) (ms : List (Mark α)) : Set α := ms.foldl (fun s m => m.on s) s

theorem onAll_cons (s : Set α) (m : Mark α) (ms : List (Mark α)) :
    onAll s (m :: ms) = onAll (m.on s) ms := rfl

theorem onAll_append (s : Set α) (ms ns : List (Mark α)) :
    onAll s (ms ++ ns) = onAll (onAll s ms) ns := List.foldl_append

theorem mem_onAll_puts {s : Set α} {xs : List α} {z : α} :
    z ∈ onAll s (xs.map .put) ↔ z ∈ s ∨ z ∈ xs := by
  induction xs generalizing s with
  | nil => simp [onAll]
  | cons x xs ih =>
    rw [List.map_cons, onAll_cons, ih, on, Set.mem_insert_iff, List.mem_cons, or_assoc,
      or_left_comm]

theorem mem_onAll_drops {s : Set α} {xs : List α} {z : α} :
    z ∈ onAll s (xs.map .drop) ↔ z ∈ s ∧ z ∉ xs := by
  induction xs generalizing s with
  | nil => simp [onAll]
  | cons x xs ih =>
    rw [List.map_cons, onAll_cons, ih, on, Set.mem_sdiff, Set.mem_singleton_iff, List.mem_cons,
      not_or, and_assoc]

/-- Entries that are put, and then entries that are dropped. -/
def script (added removed : List α) : List (Mark α) := added.map .put ++ removed.map .drop

section
variable {s : Set α} {added removed : List α} {ms : List (Mark α)} {z : α}

theorem mem_onAll_script :
    z ∈ onAll s (script added removed) ↔ (z ∈ s ∨ z ∈ added) ∧ z ∉ removed := by
  rw [script, onAll_append, mem_onAll_drops, mem_onAll_puts]

/-- Marks of a script put in nothing else. -/
theorem mem_or_mem_added_of_mem_onAll (h : ∀ m ∈ ms, m ∈ script added removed)
    (hz : z ∈ onAll s ms) : z ∈ s ∨ z ∈ added := by
  induction ms generalizing s with
  | nil => exact .inl hz
  | cons m ms ih =>
    have hm : m ∈ script added removed := h m List.mem_cons_self
    rcases ih (fun n hn => h n (List.mem_cons_of_mem _ hn)) hz with hz | hz
    · cases m with
      | put x =>
        rcases hz with rfl | hz
        · simp [script] at hm
          exact .inr hm
        · exact .inl hz
      | drop x => exact .inl hz.1
    · exact .inr hz

/-- Marks of a script drop nothing else. -/
theorem mem_onAll_of_mem (h : ∀ m ∈ ms, m ∈ script added removed) (hz : z ∈ s)
    (hremoved : z ∉ removed) : z ∈ onAll s ms := by
  induction ms generalizing s with
  | nil => exact hz
  | cons m ms ih =>
    have hm : m ∈ script added removed := h m List.mem_cons_self
    refine ih (fun n hn => h n (List.mem_cons_of_mem _ hn)) ?_
    cases m with
    | put x => exact .inr hz
    | drop x =>
      refine ⟨hz, ?_⟩
      rintro rfl
      simp [script] at hm
      exact hremoved hm

end

/-- A set that a script which broke off can have led to from `s`. -/
structure Between (s : Set α) (added removed : List α) (t : Set α) : Prop where
  mem_or : ∀ z ∈ t, z ∈ s ∨ z ∈ added
  mem_of : ∀ z ∈ s, z ∉ removed → z ∈ t

namespace Between

variable {s t : Set α} {added removed : List α} {ms : List (Mark α)}

theorem refl (s : Set α) (added removed : List α) : Between s added removed s :=
  ⟨fun _ hz => .inl hz, fun _ hz _ => hz⟩

theorem onAll (h : Between s added removed t) (hms : ∀ m ∈ ms, m ∈ script added removed) :
    Between s added removed (onAll t ms) where
  mem_or z hz := by
    rcases mem_or_mem_added_of_mem_onAll hms hz with hz | hz
    · exact h.mem_or z hz
    · exact .inr hz
  mem_of z hz hremoved := mem_onAll_of_mem hms (h.mem_of z hz hremoved) hremoved

/-- A whole script leads to the same set from anywhere in between. -/
theorem onAll_script (h : Between s added removed t) :
    Mark.onAll t (script added removed) = Mark.onAll s (script added removed) := by
  ext z
  rw [mem_onAll_script, mem_onAll_script]
  refine and_congr_left fun hremoved => ⟨?_, ?_⟩
  · rintro (hz | hz)
    · exact h.mem_or z hz
    · exact .inr hz
  · rintro (hz | hz)
    · exact .inl (h.mem_of z hz hremoved)
    · exact .inr hz

end Between

/-- A script between the images of two sets that the map tells apart. -/
theorem onAll_script_image {β : Type} {f : α → β} {s t : Set α} {added removed : List α}
    (hf : Set.InjOn f (s ∪ t)) (hadded : ∀ x, x ∈ added ↔ x ∈ t ∧ x ∉ s)
    (hremoved : ∀ x, x ∈ removed ↔ x ∈ s ∧ x ∉ t) :
    onAll (f '' s) (script (added.map f) (removed.map f)) = f '' t := by
  ext z
  rw [mem_onAll_script]
  constructor
  · rintro ⟨⟨x, hx, rfl⟩ | hz, hnot⟩
    · refine ⟨x, ?_, rfl⟩
      by_contra hxt
      exact hnot (List.mem_map_of_mem ((hremoved x).2 ⟨hx, hxt⟩))
    · obtain ⟨x, hx, rfl⟩ := List.mem_map.1 hz
      exact ⟨x, ((hadded x).1 hx).1, rfl⟩
  · rintro ⟨x, hx, rfl⟩
    refine ⟨?_, fun hz => ?_⟩
    · by_cases hxs : x ∈ s
      · exact .inl ⟨x, hxs, rfl⟩
      · exact .inr (List.mem_map_of_mem ((hadded x).2 ⟨hx, hxs⟩))
    · obtain ⟨y, hy, heq⟩ := List.mem_map.1 hz
      obtain ⟨hys, hyt⟩ := (hremoved y).1 hy
      exact hyt (hf (.inl hys) (.inr hx) heq ▸ hx)

/-- If a script puts in only what is new and drops only what was there, then no part of it but the
empty one leaves the set as it was. -/
theorem onAll_eq_self_iff {s : Set α} {added removed : List α} {ms : List (Mark α)}
    (hms : ms <+: script added removed) (hadded : ∀ x ∈ added, x ∉ s)
    (hremoved : ∀ x ∈ removed, x ∈ s) : onAll s ms = s ↔ ms = [] := by
  refine ⟨fun heq => ?_, fun h => by rw [h]; rfl⟩
  have hmem : ∀ m ∈ ms, m ∈ script added removed := fun m hm => hms.subset hm
  cases ms with
  | nil => rfl
  | cons m ms =>
    exfalso
    have htail : ∀ n ∈ ms, n ∈ script added removed :=
      fun n hn => hmem n (List.mem_cons_of_mem _ hn)
    cases added with
    | cons x xs =>
      -- The first entry is put in, and it is none of those that are dropped.
      obtain rfl : m = .put x := (List.cons_prefix_cons.1 hms).1
      have hx : x ∉ s := hadded x List.mem_cons_self
      have hin : x ∈ onAll (insert x s) ms :=
        mem_onAll_of_mem htail (Set.mem_insert x s) fun hr => hx (hremoved x hr)
      exact hx (heq ▸ hin)
    | nil =>
      cases removed with
      | nil => simp [script] at hms
      | cons x xs =>
        -- Nothing is put in, so the first entry that is dropped stays away.
        obtain rfl : m = .drop x := (List.cons_prefix_cons.1 hms).1
        have hx : x ∈ onAll (s \ {x}) ms := by
          have heq : onAll (s \ {x}) ms = s := heq
          rw [heq]
          exact hremoved x List.mem_cons_self
        rcases mem_or_mem_added_of_mem_onAll htail hx with hx | hx
        · exact hx.2 rfl
        · cases hx

end Mark
end KafkaTopology
