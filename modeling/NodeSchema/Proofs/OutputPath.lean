import NodeSchema.Proofs.Compilation
/-!
# Where declarations are written

The output path of a category leads to the file of its name in the directory that the output
directory names (`locate_outputPath`). Whether it leads there is decided by the output directory,
by the length of the path and by what stands at the place of the file. So a file that comes to
stand beside it makes no difference (`locate_put_beside`).
-/

namespace NodeSchema

-- ---------------------------------------------------------------------------
-- Names of files
-- ---------------------------------------------------------------------------

theorem mem_fileName {category : String} (h : Text.isIdentifier category.toList = true) {c : Char}
    (hc : c ∈ (fileName category).toList) : Text.isIdentifierPart c = true ∨ c = '.' := by
  rw [toList_fileName, List.mem_append] at hc
  rcases hc with hc | hc
  · exact .inl (Text.isIdentifierPart_of_mem_lowercase h hc)
  · simp only [List.mem_cons, List.not_mem_nil, or_false] at hc
    rcases hc with rfl | rfl | rfl
    · exact .inr rfl
    · exact .inl (by decide)
    · exact .inl (by decide)

theorem fileName_inj {m n : String} :
    fileName m = fileName n ↔ Text.lowercase m = Text.lowercase n := by
  rw [← String.toList_inj, toList_fileName, toList_fileName, List.append_left_inj,
    String.toList_inj]

theorem head?_fileName {category : String} (h : Text.isIdentifier category.toList = true) :
    (fileName category).toList.head? ≠ some '/' :=
  fun hc => slash_not_mem_fileName h (List.mem_of_mem_head? hc)

theorem fileName_ne_dots (category : String) : ¬ ((fileName category).toList = [] ∨
    (fileName category).toList = ['.'] ∨ (fileName category).toList = ['.', '.']) := by
  have hlength : 3 ≤ (fileName category).toList.length := by
    rw [toList_fileName, List.length_append]
    exact Nat.le_add_left 3 _
  rintro (h | h | h) <;> rw [h] at hlength <;> simp at hlength

-- ---------------------------------------------------------------------------
-- Joined paths
-- ---------------------------------------------------------------------------

theorem zero_mem_joinPath {dir file : String} (hhead : file.toList.head? ≠ some '/')
    (hfile : '\x00' ∉ file.toList) : '\x00' ∈ (joinPath dir file).toList ↔ '\x00' ∈ dir.toList := by
  rw [joinPath, if_neg hhead]
  split <;> simp [hfile]

theorem utf8ByteSize_joinPath {dir file other : String} (hfile : file.toList.head? ≠ some '/')
    (hother : other.toList.head? ≠ some '/') (h : file.utf8ByteSize = other.utf8ByteSize) :
    (joinPath dir file).utf8ByteSize = (joinPath dir other).utf8ByteSize := by
  rw [joinPath, joinPath, if_neg hfile, if_neg hother]
  split <;> simp [h]

theorem outputPath_inj {outDir m n : String} (hm : Text.isIdentifier m.toList = true)
    (hn : Text.isIdentifier n.toList = true) :
    outputPath outDir m = outputPath outDir n ↔ Text.lowercase m = Text.lowercase n := by
  refine ⟨fun h => ?_, fun h => by rw [outputPath, outputPath, fileName_inj.2 h]⟩
  -- The last part of the path is the name of the file.
  have last {name : String} (hname : Text.isIdentifier name.toList = true) :
      (pathParts (outputPath outDir name).toList).getLast? = some (fileName name).toList := by
    obtain ⟨parts, hparts, -⟩ :=
      Workspace.exists_parts_joinPath outDir (slash_not_mem_fileName hname)
    rw [outputPath, hparts, List.getLast?_concat]
  have hlast := last hm
  rw [h, last hn, Option.some.injEq, String.toList_inj] at hlast
  exact fileName_inj.1 hlast.symm

namespace Workspace

section
variable {w : Workspace} {outDir name : String}

theorem pathFault?_eq_none_iff {path : String} :
    pathFault? path = none ↔ '\x00' ∉ path.toList ∧ path.utf8ByteSize < pathLimit ∧ path ≠ "" := by
  rw [pathFault?]
  split
  · next hzero => simp [hzero]
  · next hzero =>
    split
    · next hlong => simp [Nat.not_lt.2 hlong]
    · next hlong => simp [hzero, Nat.not_le.1 hlong]

theorem pathFault?_outputPath (hname : Text.isIdentifier name.toList = true) :
    pathFault? (outputPath outDir name) = none ↔
      '\x00' ∉ outDir.toList ∧ (outputPath outDir name).utf8ByteSize < pathLimit := by
  have hzero : '\x00' ∉ (fileName name).toList := fun hc => by
    rcases mem_fileName hname hc with hpart | hdot
    · exact absurd hpart (by decide)
    · cases hdot
  have hne : outputPath outDir name ≠ "" := fun hempty => by
    obtain ⟨parts, hparts, -⟩ := exists_parts_joinPath outDir (slash_not_mem_fileName hname)
    rw [← outputPath, hempty] at hparts
    have hlast := congrArg List.getLast? hparts
    rw [List.getLast?_concat] at hlast
    exact fileName_ne_dots name (.inl (Option.some.inj hlast).symm)
  have hmem : '\x00' ∈ (outputPath outDir name).toList ↔ '\x00' ∈ outDir.toList :=
    zero_mem_joinPath (head?_fileName hname) hzero
  rw [pathFault?_eq_none_iff, hmem]
  exact ⟨fun ⟨hfree, hlength, _⟩ => ⟨hfree, hlength⟩, fun ⟨hfree, hlength⟩ => ⟨hfree, hlength, hne⟩⟩

theorem locate_outputPath (hname : Text.isIdentifier name.toList = true) :
    w.locate (outputPath outDir name) =
      match pathFault? (outputPath outDir name) with
      | some fault => .error fault
      | none => (w.directory outDir).bind fun here => w.leaf here (fileName name).toList := by
  obtain ⟨parts, hparts, hwalk⟩ := exists_parts_joinPath outDir (slash_not_mem_fileName hname)
  have hfront : (pathParts (outputPath outDir name).toList).dropLast = parts := by
    simp [outputPath, hparts]
  have hlast : (pathParts (outputPath outDir name).toList).getLast (pathParts_ne_nil _) =
      (fileName name).toList := by
    simp [outputPath, hparts]
  rw [locate, hfront, hlast, ← hwalk w, ← outputPath]
  cases pathFault? (outputPath outDir name) with
  | some fault => rfl
  | none => cases w.walk (w.start (outputPath outDir name)) parts <;> rfl

theorem leaf_fileName {here : Location} (hshort : (fileName name).utf8ByteSize ≤ longestName) :
    w.leaf here (fileName name).toList =
      if w.lookup (here ++ [fileName name]) = some .directory then .error .isDirectory
      else .ok (here ++ [fileName name]) := by
  rw [leaf, if_neg (fileName_ne_dots name)]
  simp only [String.ofList_toList]
  rw [if_neg (Nat.not_lt.2 hshort)]

theorem locate_outputPath_iff (hname : Text.isIdentifier name.toList = true) {location : Location} :
    w.locate (outputPath outDir name) = .ok location ↔
      pathFault? (outputPath outDir name) = none ∧ (fileName name).utf8ByteSize ≤ longestName ∧
        ∃ here, w.directory outDir = .ok here ∧ location = here ++ [fileName name] ∧
          w.lookup location ≠ some .directory := by
  rw [locate_outputPath hname]
  cases pathFault? (outputPath outDir name) with
  | some fault => simp
  | none =>
    cases w.directory outDir with
    | error fault => simp [Except.bind]
    | ok here =>
      simp only [Except.bind, leaf_eq_ok_iff, String.ofList_toList]
      constructor
      · rintro ⟨-, hshort, rfl, hfree⟩
        exact ⟨trivial, hshort, here, rfl, rfl, hfree⟩
      · rintro ⟨-, hshort, there, hthere, rfl, hfree⟩
        cases hthere
        exact ⟨fileName_ne_dots name, hshort, rfl, hfree⟩

theorem append_fileName_ne {here : Location} {other : String}
    (hne : Text.lowercase other ≠ Text.lowercase name) :
    here ++ [fileName other] ≠ here ++ [fileName name] := fun heq =>
  hne (fileName_inj.1 (List.singleton_inj.1 (List.append_cancel_left heq)))

theorem location_ne {other : String} {location place : Location}
    (hother : Text.isIdentifier other.toList = true) (hname : Text.isIdentifier name.toList = true)
    (hne : Text.lowercase other ≠ Text.lowercase name)
    (hlocation : w.locate (outputPath outDir other) = .ok location)
    (hplace : w.locate (outputPath outDir name) = .ok place) : location ≠ place := by
  obtain ⟨-, -, here, hhere, rfl, -⟩ := (locate_outputPath_iff hother).1 hlocation
  obtain ⟨-, -, there, hthere, rfl, -⟩ := (locate_outputPath_iff hname).1 hplace
  rw [hhere] at hthere
  cases hthere
  exact append_fileName_ne hne

/-- A file that has come to stand in the output directory is not in the way of another one. -/
theorem locate_put_beside {other : String} {location : Location}
    (hother : Text.isIdentifier other.toList = true) (hname : Text.isIdentifier name.toList = true)
    (hne : Text.lowercase other ≠ Text.lowercase name)
    (h : w.locate (outputPath outDir other) = .ok location) (text : String) :
    (w.put location (.file text)).locate (outputPath outDir name) =
      w.locate (outputPath outDir name) := by
  obtain ⟨-, -, here, hhere, rfl, hfree⟩ := (locate_outputPath_iff hother).1 h
  have hafter : (w.put (here ++ [fileName other]) (.file text)).directory outDir = .ok here :=
    (keepsDirectories_put hfree _).walk hhere
  have hlookup : (w.put (here ++ [fileName other]) (.file text)).lookup (here ++ [fileName name]) =
      w.lookup (here ++ [fileName name]) := by
    rw [lookup_put w _ _ _ (by simp), if_neg (append_fileName_ne hne)]
  rw [locate_outputPath hname, locate_outputPath hname, hafter, hhere]
  simp only [Except.bind, leaf, String.ofList_toList, hlookup]

theorem read?_put_beside {other : String} {location : Location}
    (hother : Text.isIdentifier other.toList = true) (hname : Text.isIdentifier name.toList = true)
    (hne : Text.lowercase other ≠ Text.lowercase name)
    (h : w.locate (outputPath outDir other) = .ok location) (text : String) :
    (w.put location (.file text)).read? (outputPath outDir name) =
      w.read? (outputPath outDir name) := by
  rw [read?, read?, locate_put_beside hother hname hne h]
  cases hplace : w.locate (outputPath outDir name) with
  | error fault => rfl
  | ok place =>
    have hapart := location_ne hother hname hne h hplace
    simp only [lookup_put w location place _ (locate_ne_nil hplace), if_neg hapart]

/-- Where one file can be written, another one with a name of the same length can be, unless a
directory is there already. -/
theorem locate_outputPath_of_sibling {other : String} {here : Location}
    (hother : Text.isIdentifier other.toList = true) (hname : Text.isIdentifier name.toList = true)
    (hsize : (fileName other).utf8ByteSize = (fileName name).utf8ByteSize)
    (h : w.locate (outputPath outDir other) = .ok (here ++ [fileName other])) :
    w.locate (outputPath outDir name) =
      if w.lookup (here ++ [fileName name]) = some .directory then .error .isDirectory
      else .ok (here ++ [fileName name]) := by
  obtain ⟨hfault, hshort, there, hthere, heq, -⟩ := (locate_outputPath_iff hother).1 h
  obtain rfl : here = there := (List.append_inj' heq rfl).1
  have hlength : (outputPath outDir name).utf8ByteSize = (outputPath outDir other).utf8ByteSize :=
    utf8ByteSize_joinPath (head?_fileName hname) (head?_fileName hother) hsize.symm
  have hnone : pathFault? (outputPath outDir name) = none := by
    rw [pathFault?_outputPath hname, hlength]
    exact (pathFault?_outputPath hother).1 hfault
  rw [locate_outputPath hname, hnone, hthere]
  exact leaf_fileName (hsize ▸ hshort)

end

end Workspace

end NodeSchema
