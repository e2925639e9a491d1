import KafkaTopology.Host.FileTree
import KafkaTopology.Proofs.Except
/-!
# Writing files

Whatever is made or written in a tree, the directories that are there stay directories
(`FileTree.KeepsDirectories`), so a path that could be followed still leads to the same place. Hence
a written text is read back (`readText_of_writeText`), and what could be written once can be written
again: the directories above a file are made only once (`makeDirectories_again`), and the file is
where it was (`isOk_writeText_of_writeText`).
-/
namespace KafkaTopology.FileTree

variable {t t₁ t₂ : FileTree} {l l' : Location} {e : FileEntry}

/-- Every directory of one tree is a directory of another. -/
def KeepsDirectories (t t' : FileTree) : Prop :=
  ∀ l, t.find? l = some .directory → t'.find? l = some .directory

theorem lookup_filter_ne {entries : List (Location × FileEntry)} (h : l' ≠ l) :
    (entries.filter fun e => e.1 != l).lookup l' = entries.lookup l' := by
  induction entries with
  | nil => rfl
  | cons e entries ih =>
    by_cases heq : e.1 = l
    · have hne : (l' == e.1) = false := beq_eq_false_iff_ne.2 (heq ▸ h)
      rw [List.filter_cons_of_neg (by simp [heq]), List.lookup_cons, hne, ih]
    · rw [List.filter_cons_of_pos (by simp [heq]), List.lookup_cons, List.lookup_cons, ih]

theorem find?_put (t : FileTree) (l l' : Location) (e : FileEntry) :
    (t.put l e).find? l' =
      if l'.isBase then some .directory else if l' = l then some e else t.find? l' := by
  by_cases hbase : l'.isBase
  · rw [find?, if_pos hbase, if_pos hbase]
  rw [find?, if_neg hbase, if_neg hbase, find?, if_neg hbase, put]
  by_cases heq : l' = l
  · rw [if_pos heq, heq, List.lookup_cons_self]
  · rw [if_neg heq, List.lookup_cons, beq_eq_false_iff_ne.2 heq]
    exact lookup_filter_ne heq

/-- A place that is no directory yet may become anything. -/
theorem keepsDirectories_put (h : t.find? l ≠ some .directory) (e : FileEntry) :
    KeepsDirectories t (t.put l e) := by
  intro l' hl'
  have hne : l' ≠ l := by
    rintro rfl
    exact h hl'
  rw [find?_put, if_neg hne, hl', ite_self]

/-- Directories that stay are followed as before. -/
theorem KeepsDirectories.follow (h : KeepsDirectories t t₁) {names : List String}
    (hfollow : t.follow l names = .ok l') : t₁.follow l names = .ok l' := by
  induction names generalizing l with
  | nil => exact hfollow
  | cons name rest ih =>
    rw [FileTree.follow] at hfollow ⊢
    split at hfollow
    · next hdirectory =>
      rw [h l hdirectory]
      simp only
      split at hfollow
      · cases hfollow
      · next hshort =>
        rw [if_neg hshort]
        exact ih hfollow
    · cases hfollow
    · cases hfollow

theorem locate_eq_ok_iff {path : String} :
    t.locate path = .ok l ↔
      checkPath path = .ok () ∧ path.isEmpty = false ∧
        t.follow (Location.ofPath path).1 (Location.ofPath path).2 = .ok l := by
  rw [locate, Except.bind_eq_ok_iff]
  by_cases hempty : path.isEmpty
  · simp [hempty]
  · simp only [hempty, true_and]
    exact ⟨fun ⟨_, hcheck, hfollow⟩ => ⟨hcheck, hfollow⟩,
      fun ⟨hcheck, hfollow⟩ => ⟨(), hcheck, hfollow⟩⟩

theorem KeepsDirectories.locate (h : KeepsDirectories t t₁) {path : String}
    (hlocate : t.locate path = .ok l) : t₁.locate path = .ok l := by
  obtain ⟨hcheck, hempty, hfollow⟩ := locate_eq_ok_iff.1 hlocate
  exact locate_eq_ok_iff.2 ⟨hcheck, hempty, h.follow hfollow⟩

/-! ## Files -/

/-- A file can be written unless its path stands for a directory or leads to one. -/
theorem isOk_writeText_iff {path text : String} :
    (t.writeText path text).isOk = true ↔
      path.endsWith "/" = false ∧ ∃ l, t.locate path = .ok l ∧ t.find? l ≠ some .directory := by
  rw [writeText]
  by_cases hslash : path.endsWith "/"
  · simp [hslash, Except.isOk_iff, Except.bind_eq_ok_iff]
  · rw [if_neg hslash, Except.isOk_bind]
    simp only [hslash, true_and]
    refine exists_congr fun l => and_congr_right fun _ => ?_
    rcases t.find? l with _ | ⟨content, executable⟩ | _ <;> simp

/-- What a written file leaves. -/
theorem exists_of_writeText {path text : String} (h : t.writeText path text = .ok t₁) :
    KeepsDirectories t t₁ ∧ ∃ l executable, t₁.locate path = .ok l ∧
      t₁.find? l = some (.file (.text text) executable) := by
  rw [writeText] at h
  split at h
  · simp [Except.bind_eq_ok_iff] at h
  obtain ⟨l, hlocate, hput⟩ := Except.bind_eq_ok_iff.1 h
  obtain ⟨executable, hfind, rfl⟩ : ∃ executable, t.find? l ≠ some .directory ∧
      t₁ = t.put l (.file (.text text) executable) := by
    split at hput
    · cases hput
    · next hfind => exact ⟨_, by simp [hfind], (Except.ok.inj hput).symm⟩
    · next hfind => exact ⟨_, by simp [hfind], (Except.ok.inj hput).symm⟩
  have hkeeps := keepsDirectories_put hfind (.file (.text text) executable)
  have hbase : ¬l.isBase := fun hbase => hfind (by rw [find?, if_pos hbase])
  refine ⟨hkeeps, l, executable, hkeeps.locate hlocate, ?_⟩
  rw [find?_put, if_neg hbase, if_pos rfl]

/-- **A written text is read back.** -/
theorem readText_of_writeText {path text : String} (h : t.writeText path text = .ok t₁) :
    t₁.readText path = .ok text := by
  obtain ⟨-, l, executable, hlocate, hfind⟩ := exists_of_writeText h
  have hentry : t₁.entry path = .ok (.file (.text text) executable) := by
    refine Except.bind_eq_ok_iff.2 ⟨l, hlocate, ?_⟩
    simp only [hfind]
  rw [readText, hentry]
  rfl

/-- A file that was written can be written again. -/
theorem isOk_writeText_of_writeText {path text : String} (h : t.writeText path text = .ok t₁)
    (text' : String) : (t₁.writeText path text').isOk = true := by
  have hslash := (isOk_writeText_iff.1 (Except.isOk_iff.2 ⟨t₁, h⟩)).1
  obtain ⟨-, l, executable, hlocate, hfind⟩ := exists_of_writeText h
  exact isOk_writeText_iff.2 ⟨hslash, l, hlocate, by simp [hfind]⟩

/-- What can be read is there. -/
theorem holds_of_readText {path text : String} (h : t.readText path = .ok text) :
    t.holds path = true := by
  obtain ⟨e, he, -⟩ := Except.bind_eq_ok_iff.1 h
  rw [holds, he]
  rfl

/-! ## Directories -/

theorem exists_of_makeDirectory {names : List String} (h : t.makeDirectory l names = .ok t₁) :
    ∃ l', t₁.follow l names = .ok l' ∧ t₁.find? l' = some .directory := by
  obtain ⟨l', hfollow, hmade⟩ := Except.bind_eq_ok_iff.1 h
  split at hmade
  · next hfind =>
    obtain rfl := Except.ok.inj hmade
    exact ⟨l', hfollow, hfind⟩
  · cases hmade
  · next hfind =>
    obtain rfl := Except.ok.inj hmade
    refine ⟨l', (keepsDirectories_put (by simp [hfind]) .directory).follow hfollow, ?_⟩
    rw [find?_put, if_pos rfl, ite_self]

/-- A directory that is there needs not be made. -/
theorem makeDirectory_of_find? {names : List String} (hfollow : t.follow l names = .ok l')
    (hfind : t.find? l' = some .directory) : t.makeDirectory l names = .ok t := by
  rw [makeDirectory, Except.bind_eq_ok_iff]
  exact ⟨l', hfollow, by simp only [hfind]⟩

theorem makeAlong_again {names : List String} (h : makeAlong l names t = (.ok (), t₁))
    (hkeeps : KeepsDirectories t₁ t₂) : makeAlong l names t₂ = (.ok (), t₂) := by
  cases names with
  | nil => rfl
  | cons name above =>
    obtain ⟨u, hmade⟩ : ∃ u : FileTree, u.makeDirectory l (name :: above).reverse = .ok t₁ := by
      rw [makeAlong] at h
      split at h
      · next u hmade => exact ⟨t, by rw [hmade, (Prod.mk.inj h).2]⟩
      · split at h
        · next u hu =>
          split at h
          · next made hmade => exact ⟨u, by rw [hmade, (Prod.mk.inj h).2]⟩
          · cases h
        · next hfailed => exact absurd h (hfailed _)
      · cases h
    obtain ⟨l', hfollow, hfind⟩ := exists_of_makeDirectory hmade
    rw [makeAlong, makeDirectory_of_find? (hkeeps.follow hfollow) (hkeeps l' hfind)]

/-- Directories that were made are not made again while they are there. -/
theorem makeDirectories_again {path : String} (h : t.makeDirectories path = (.ok (), t₁))
    (hkeeps : KeepsDirectories t₁ t₂) : t₂.makeDirectories path = (.ok (), t₂) := by
  rw [makeDirectories] at h ⊢
  split at h
  · cases h
  · exact makeAlong_again h hkeeps

end KafkaTopology.FileTree
