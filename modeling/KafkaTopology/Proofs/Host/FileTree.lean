import KafkaTopology.Host
import KafkaTopology.Proofs.Text.SplitOn
/-!
# Files of the working directory

A path without a slash is the name of an entry of the working directory (`FileTree.entry_plain`),
and reading it looks that entry up (`FileTree.readText_plain`). A tool among the entries can be
started if tools are looked for there (`Host.checkStartable_plain`).
-/
namespace KafkaTopology

namespace FileTree

/-- Whether a path is the name of an entry of the working directory. -/
def isPlain (path : String) : Bool :=
  !path.isEmpty && path != "." && path != ".." && !path.toList.contains '/' &&
    !path.toList.contains '\x00' && path.utf8ByteSize ≤ 255

variable {path : String}

theorem ofPath_plain (h : isPlain path = true) : Location.ofPath path = ([], [path]) := by
  simp only [isPlain, Bool.and_eq_true, Bool.not_eq_true', bne_iff_ne, List.contains_eq_mem,
    decide_eq_false_iff_not] at h
  obtain ⟨⟨⟨⟨⟨hne, -⟩, -⟩, hslash⟩, -⟩, -⟩ := h
  have hsplit : path.splitOn "/" = [path] := by
    rw [Text.splitOn_eq path (c := '/') rfl, List.splitOn_eq_singleton hslash, List.map_singleton,
      String.ofList_toList]
  rw [Location.ofPath, hsplit]
  split
  · rename_i heq
    obtain ⟨rfl, -⟩ := List.cons.inj heq
    cases hne
  · rfl

theorem locate_plain (t : FileTree) (h : isPlain path = true) : t.locate path = .ok [path] := by
  have hpath := ofPath_plain h
  simp only [isPlain, Bool.and_eq_true, Bool.not_eq_true', bne_iff_ne, List.contains_eq_mem,
    decide_eq_false_iff_not, decide_eq_true_eq] at h
  obtain ⟨⟨⟨⟨⟨hne, hdot⟩, hdots⟩, -⟩, hnul⟩, hsize⟩ := h
  have hcheck : checkPath path = .ok () := by
    rw [checkPath, String.contains_char_eq, decide_eq_false hnul, if_neg (by decide),
      if_neg (by omega)]
  have hshort : Location.isTooLong path = false := decide_eq_false (by omega)
  have hstep : Location.step [] path = [path] := by
    rw [Location.step, hne, if_neg (by simpa using hdot), if_neg (by simpa using hdots)]
    rfl
  have hfollow : t.follow [] [path] = .ok [path] := by
    rw [follow]
    show (if Location.isTooLong path then _ else t.follow (Location.step [] path) []) = _
    rw [hshort, if_neg (by decide), hstep, follow]
  simp only [locate, hcheck, hpath, hne]
  exact hfollow

/-- What the name of an entry of the working directory names. -/
theorem entry_plain (t : FileTree) (h : isPlain path = true) :
    t.entry path =
      match t.entries.lookup [path] with
      | some e => .ok e
      | none => .error .notFound := by
  have hbase : Location.isBase [path] = false := by
    simp only [isPlain, Bool.and_eq_true, bne_iff_ne, Bool.not_eq_true', List.contains_eq_mem,
      decide_eq_false_iff_not] at h
    obtain ⟨⟨⟨⟨⟨-, -⟩, hdots⟩, hslash⟩, -⟩, -⟩ := h
    have hroot : path ≠ "/" := by
      rintro rfl
      exact hslash (by decide)
    simp [Location.isBase, hdots, hroot]
  have hfind : t.find? [path] = t.entries.lookup [path] := by
    rw [find?, hbase, if_neg (by decide)]
  rw [entry, locate_plain t h, ← hfind]
  rfl

/-- Reading a file of the working directory. -/
theorem readText_plain (t : FileTree) (h : isPlain path = true) :
    t.readText path =
      match t.entries.lookup [path] with
      | some (.file (.text s) _) => .ok s
      | some (.file .binary _) => .error .notText
      | some .directory => .error .isDirectory
      | none => .error .notFound := by
  rw [readText, entry_plain t h]
  rcases t.entries.lookup [path] with _ | ⟨⟨s⟩ | _, _⟩ | _ <;> rfl

end FileTree

/-! ## Tools -/

theorem Path.join_empty (path : String) : join "" path = path := by
  rw [join]
  split
  · rfl
  · show "" ++ path = path
    rw [String.empty_append]

namespace Host

/-- The name of an entry of the working directory is no path. -/
theorem isPath_plain {tool : String} (h : FileTree.isPlain tool = true) : isPath tool = false := by
  simp only [FileTree.isPlain, Bool.and_eq_true, Bool.not_eq_true', List.contains_eq_mem,
    decide_eq_false_iff_not] at h
  rw [isPath, String.contains_char_eq, decide_eq_false h.1.1.2]

/-- A tool in the working directory can be started if tools are looked for there. -/
theorem checkStartable_plain {h : Host} {tool : String} {content : Content}
    (hplain : FileTree.isPlain tool = true) (hsearch : h.searchPath = [""])
    (hentry : h.files.entries.lookup [tool] = some (.file content true)) :
    h.checkStartable tool = .ok () := by
  have hexecutable : h.files.checkExecutable (Path.join "" tool) = .ok () := by
    rw [Path.join_empty, FileTree.checkExecutable, FileTree.entry_plain _ hplain, hentry]
    rfl
  rw [checkStartable, isPath_plain hplain, hsearch]
  show searched [h.files.checkExecutable (Path.join "" tool)] = .ok ()
  rw [hexecutable]
  rfl

end Host
end KafkaTopology
