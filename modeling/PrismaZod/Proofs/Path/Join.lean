import PrismaZod.Plan
import PrismaZod.Proofs.Text.Pieces

/-!
# Names joined to directories

The path of a name in a directory has the components of the directory and, at
the end, the name.  Files with different stems in one directory therefore have
different paths.
-/

namespace PrismaZod

open Text

namespace Path

/-- The segments of a directory with the name of a file in it: those of the
directory, without the empty one after a slash at its end, and the name. -/
theorem exists_segments_join (directory : Path) :
    ∃ front : List String,
      (directory.segments = front ∨ directory.segments = front ++ [""]) ∧
      ∀ name : String, Free '/' name → (directory.join name).segments = front ++ [name] := by
  have notAbsolute {name : String} (free : Free '/' name) : name.toList.head? ≠ some '/' :=
    fun isSlash => free (List.mem_of_mem_head? isSlash)
  by_cases empty : directory.text = ""
  · refine ⟨[], .inr (by simp [segments, empty, splitAt]), fun name free => ?_⟩
    simp [join, notAbsolute free, empty, segments, splitAt_of_not_mem free]
  · by_cases slash : directory.text.toList.getLast? = some '/'
    · obtain ⟨before, ends⟩ := List.getLast?_eq_some_iff.mp slash
      refine ⟨(splitAt '/' before).map String.ofList, .inr ?_, fun name free => ?_⟩
      · simp [segments, ends, splitAt_append_cons, splitAt]
      · simp [join, notAbsolute free, segments, ends, splitAt_append_cons,
          splitAt_of_not_mem free]
    · refine ⟨directory.segments, .inl rfl, fun name free => ?_⟩
      simp [join, notAbsolute free, slash, empty, segments, splitAt_append_cons,
        splitAt_of_not_mem free]

theorem isAbsolute_join {directory : Path} {name : String} (free : Free '/' name) :
    (directory.join name).isAbsolute = directory.isAbsolute := by
  have notAbsolute : name.toList.head? ≠ some '/' :=
    fun isSlash => free (List.mem_of_mem_head? isSlash)
  by_cases empty : directory.text = ""
  · simp [join, notAbsolute, empty, isAbsolute]
  · cases chars : directory.text.toList with
    | nil => exact (empty (by simpa using chars)).elim
    | cons head rest =>
        rw [join, if_neg notAbsolute]
        split <;> simp [isAbsolute, chars]

/-- A path is made of where it starts and the components of all its segments. -/
theorem components_eq (path : Path) :
    path.components =
      (if path.isAbsolute then [.root]
        else if path.segments.head? = some "." then [.here] else []) ++
        path.segments.filterMap component? := by
  have here : component? "." = none := by decide
  rw [components]
  split
  · rfl
  · split
    · rename_i rest segments
      simp [segments, here]
    · rename_i elsewhere
      have notHere : path.segments.head? ≠ some "." := by
        intro isHere
        obtain ⟨rest, segments⟩ := List.head?_eq_some_iff.mp isHere
        exact elsewhere rest segments
      rw [if_neg notHere, List.nil_append]

/-- A name that is a component is added to those of the directory. -/
theorem components_join {directory : Path} {name : String} {component : Component}
    (free : Free '/' name) (isComponent : component? name = some component) :
    (directory.join name).components = directory.components ++ [component] := by
  have idle : component? "" = none := by decide
  have notHere : name ≠ "." := by
    rintro rfl
    cases isComponent
  obtain ⟨front, whole, joined⟩ := directory.exists_segments_join
  have sameHead : (directory.join name).segments.head? = some "." ↔
      directory.segments.head? = some "." := by
    rw [joined name free]
    cases front with
    | nil => rcases whole with whole | whole <;> simp [whole, notHere]
    | cons head front => rcases whole with whole | whole <;> simp [whole]
  have names : (directory.join name).segments.filterMap component? =
      directory.segments.filterMap component? ++ [component] := by
    rw [joined name free]
    rcases whole with whole | whole <;> simp [whole, idle, isComponent]
  simp only [components_eq, isAbsolute_join free, sameHead, names, List.append_assoc]

/-- What is written in a joined path is that of the directory, a slash or that
of the name. -/
theorem mem_text_join {directory : Path} {name : String} {char : Char}
    (among : char ∈ (directory.join name).text.toList) :
    char ∈ directory.text.toList ∨ char = '/' ∨ char ∈ name.toList := by
  rw [join] at among
  split at among
  · exact .inr (.inr among)
  · split at among
    · rw [String.toList_append, List.mem_append] at among
      exact among.imp_right .inr
    · simpa [or_assoc] using among

end Path

/-- The name of a file is longer than the segments that are no names. -/
theorem fileName_ne (stem : String) {other : String} (short : other.toList.length < 3) :
    stem ++ ".ts" ≠ other := by
  rintro rfl
  have suffix : ".ts".toList.length = 3 := by decide
  rw [String.toList_append, List.length_append] at short
  omega

theorem component?_fileName (stem : String) :
    Path.component? (stem ++ ".ts") = some (.named (stem ++ ".ts")) := by
  simp [Path.component?, fileName_ne]

theorem free_fileName {mark : Char} {stem : String} (free : Free mark stem)
    (notSuffix : mark ∉ ".ts".toList) : Free mark (stem ++ ".ts") := by
  rw [Free, String.toList_append, List.mem_append, not_or]
  exact ⟨free, notSuffix⟩

theorem components_filePath {root : Path} {stem : String} (free : Free '/' stem) :
    (filePath root stem).components = root.components ++ [.named (stem ++ ".ts")] :=
  Path.components_join (free_fileName free (by decide)) (component?_fileName stem)

/-- Files in one directory have the same path only if they have the same stem. -/
theorem same_filePath_iff (root : Path) {stem other : String} (free : Free '/' stem)
    (otherFree : Free '/' other) :
    (filePath root stem).same (filePath root other) = true ↔ stem = other := by
  simp [Path.same, components_filePath free, components_filePath otherFree]

end PrismaZod
