import NodeSchema.Proofs.SchemaReading
/-!
# Compiling writes one file or nothing

A schema that is refused is refused whatever the workspace holds, and a path that cannot be
written to leaves everything as it was. Otherwise the declaration has come to stand in one file,
directly in the output directory, and nothing else has changed: the name of the file is one part
of a path, so that it leads nowhere else.
-/

namespace NodeSchema

-- ---------------------------------------------------------------------------
-- Paths
-- ---------------------------------------------------------------------------

theorem toList_fileName (category : String) :
    (fileName category).toList = (Text.lowercase category).toList ++ ['.', 'r', 's'] := by
  simp [fileName]

theorem slash_not_mem_fileName {category : String}
    (h : Text.isIdentifier category.toList = true) : '/' ∉ (fileName category).toList := by
  rw [toList_fileName, List.mem_append, not_or]
  refine ⟨fun hc => ?_, by decide⟩
  have := Text.isIdentifierPart_of_mem_lowercase h hc
  exact absurd this (by decide)

namespace Workspace

theorem walk_append (w : Workspace) (here : Location) (parts others : List (List Char)) :
    w.walk here (parts ++ others) = (w.walk here parts).bind fun there => w.walk there others := by
  induction parts generalizing here with
  | nil => rfl
  | cons part parts ih =>
    rw [List.cons_append, walk, walk]
    cases w.step here part with
    | error fault => rfl
    | ok next => exact ih next

theorem walk_append_nil (w : Workspace) (here : Location) (parts : List (List Char)) :
    w.walk here (parts ++ [[]]) = w.walk here parts := by
  rw [walk_append]
  cases w.walk here parts <;> rfl

theorem start_append (w : Workspace) {dir : String} (hne : dir.toList ≠ []) (rest : String) :
    w.start (dir ++ rest) = w.start dir := by
  rw [start, start, String.toList_append, List.head?_append_of_ne_nil _ hne]

/-- All parts of a joined path but the last lead to the directory. -/
theorem exists_parts_joinPath (dir : String) {file : String} (hfile : '/' ∉ file.toList) :
    ∃ parts, pathParts (joinPath dir file).toList = parts ++ [file.toList] ∧
      ∀ w : Workspace, w.walk (w.start (joinPath dir file)) parts = w.directory dir := by
  have hslash : file.toList.head? ≠ some '/' := fun h => hfile (List.mem_of_mem_head? h)
  have hlast := pathParts_of_no_slash hfile
  rw [joinPath, if_neg hslash]
  rcases List.eq_nil_or_concat dir.toList with hnil | ⟨front, c, hdir⟩
  · obtain rfl : dir = "" := String.toList_inj.1 hnil
    refine ⟨[], by simp [hlast], fun w => ?_⟩
    simp [start, directory, walk, step, pathParts, hslash]
  · rw [List.concat_eq_append] at hdir
    have hne : dir.toList ≠ [] := by simp [hdir]
    by_cases hc : c = '/'
    · -- The slash at the end of the directory separates the file.
      subst hc
      have hends : dir.toList.getLast?.all (· = '/') = true := by simp [hdir]
      have hjoin : (dir ++ file).toList = front ++ '/' :: file.toList := by simp [hdir]
      rw [if_pos hends]
      refine ⟨pathParts front, by rw [hjoin, pathParts_append_slash, hlast], fun w => ?_⟩
      rw [start_append w hne, directory, hdir, pathParts_append_slash, pathParts, walk_append_nil]
    · have hends : ¬ dir.toList.getLast?.all (· = '/') = true := by simp [hdir, hc]
      have hjoin : (dir ++ "/" ++ file).toList = dir.toList ++ '/' :: file.toList := by simp
      rw [if_neg hends]
      refine ⟨pathParts dir.toList, by rw [hjoin, pathParts_append_slash, hlast], fun w => ?_⟩
      rw [String.append_assoc, start_append w hne, directory]

-- ---------------------------------------------------------------------------
-- Locations
-- ---------------------------------------------------------------------------

theorem leaf_eq_ok_iff {w : Workspace} {here location : Location} {part : List Char} :
    w.leaf here part = .ok location ↔ ¬ (part = [] ∨ part = ['.'] ∨ part = ['.', '.']) ∧
      (String.ofList part).utf8ByteSize ≤ longestName ∧ location = here ++ [String.ofList part] ∧
        w.lookup location ≠ some .directory := by
  rw [leaf]
  dsimp only
  split
  · next hdots => simp [hdots]
  · next hdots =>
    split
    · next hlong => simp [Nat.not_le.2 hlong]
    · next hlong =>
      split
      · next htaken =>
        simp only [reduceCtorEq, false_iff]
        rintro ⟨-, -, rfl, hfree⟩
        exact hfree htaken
      · next hfree =>
        simp only [Except.ok.injEq]
        constructor
        · rintro rfl
          exact ⟨hdots, Nat.not_lt.1 hlong, rfl, hfree⟩
        · rintro ⟨-, -, rfl, -⟩
          rfl

theorem locate_eq_ok_iff {w : Workspace} {path : String} {location : Location}
    {parts : List (List Char)} {last : List Char}
    (hparts : pathParts path.toList = parts ++ [last]) :
    w.locate path = .ok location ↔ pathFault? path = none ∧
      ∃ here, w.walk (w.start path) parts = .ok here ∧ w.leaf here last = .ok location := by
  have hfront : (pathParts path.toList).dropLast = parts := by simp [hparts]
  have hlast : (pathParts path.toList).getLast (pathParts_ne_nil _) = last := by simp [hparts]
  rw [locate, hfront, hlast]
  cases pathFault? path with
  | some fault => simp
  | none => cases w.walk (w.start path) parts <;> simp

/-- Every directory of the one workspace is one of the other as well. -/
def KeepsDirectories (w after : Workspace) : Prop :=
  ∀ location, w.lookup location = some .directory → after.lookup location = some .directory

section
variable {w after : Workspace}

theorem KeepsDirectories.step (h : w.KeepsDirectories after) {here next : Location}
    {part : List Char} (hstep : w.step here part = .ok next) :
    after.step here part = .ok next := by
  rw [Workspace.step] at hstep ⊢
  split at hstep
  · next hstay => rwa [if_pos hstay]
  · next hstay =>
    rw [if_neg hstay]
    split at hstep
    · next hup => rwa [if_pos hup]
    · next hup =>
      rw [if_neg hup]
      dsimp only at hstep ⊢
      split at hstep
      · cases hstep
      · next hshort =>
        rw [if_neg hshort]
        split at hstep
        · cases hstep
        · cases hstep
        · next hdirectory =>
          rw [h _ hdirectory]
          exact hstep

theorem KeepsDirectories.walk (h : w.KeepsDirectories after) {here there : Location}
    {parts : List (List Char)} (hwalk : w.walk here parts = .ok there) :
    after.walk here parts = .ok there := by
  induction parts generalizing here with
  | nil => exact hwalk
  | cons part parts ih =>
    rw [Workspace.walk] at hwalk ⊢
    cases hstep : w.step here part with
    | error fault => simp [hstep] at hwalk
    | ok next =>
      simp only [hstep] at hwalk
      rw [h.step hstep]
      exact ih hwalk

theorem keepsDirectories_put {location : Location} (hfree : w.lookup location ≠ some .directory)
    (entry : Entry) : w.KeepsDirectories (w.put location entry) := by
  intro other hother
  by_cases hroot : other = []
  · simp [lookup, hroot]
  · rw [lookup_put w location other entry hroot, if_neg]
    · exact hother
    · rintro rfl
      exact hfree hother

theorem locate_ne_nil {path : String} {location : Location} (h : w.locate path = .ok location) :
    location ≠ [] := by
  have hparts := (List.dropLast_append_getLast (pathParts_ne_nil path.toList)).symm
  obtain ⟨-, here, -, hleaf⟩ := (locate_eq_ok_iff hparts).1 h
  obtain ⟨-, -, rfl, -⟩ := leaf_eq_ok_iff.1 hleaf
  simp

theorem locate_put {path : String} {location : Location} (h : w.locate path = .ok location)
    (text : String) : (w.put location (.file text)).locate path = .ok location := by
  have hne := locate_ne_nil h
  have hparts := (List.dropLast_append_getLast (pathParts_ne_nil path.toList)).symm
  obtain ⟨hfault, here, hwalk, hleaf⟩ := (locate_eq_ok_iff hparts).1 h
  obtain ⟨hdots, hshort, hlocation, hfree⟩ := leaf_eq_ok_iff.1 hleaf
  refine (locate_eq_ok_iff hparts).2 ⟨hfault, here, ?_, ?_⟩
  · exact (keepsDirectories_put hfree _).walk hwalk
  · refine leaf_eq_ok_iff.2 ⟨hdots, hshort, hlocation, ?_⟩
    rw [lookup_put w location location _ hne, if_pos rfl]
    simp

theorem read?_put {path : String} {location : Location} (h : w.locate path = .ok location)
    (text : String) : (w.put location (.file text)).read? path = some text := by
  simp only [read?, locate_put h, lookup_put w location location _ (locate_ne_nil h), if_pos]

/-- The file has come to hold the text, and nothing else in the workspace is different. -/
structure Holding (w : Workspace) (location : Location) (text : String) (after : Workspace) :
    Prop where
  file : after.lookup location = some (.file text)
  others : ∀ other, other ≠ location → after.lookup other = w.lookup other
  current : after.current = w.current

theorem holding_put {path : String} {location : Location} (h : w.locate path = .ok location)
    (text : String) : w.Holding location text (w.put location (.file text)) := by
  refine ⟨?_, fun other hother => ?_, rfl⟩
  · rw [lookup_put w location location _ (locate_ne_nil h), if_pos rfl]
  · by_cases hroot : other = []
    · simp [lookup, hroot]
    · rw [lookup_put w location other _ hroot, if_neg (Ne.symm hother)]

end

end Workspace

namespace Schema

section
variable {s : Schema} {constructors : Bool} {outDir : String} {w : Workspace}

theorem compile_of_refused {refusal : Refusal}
    (h : (s.declaration constructors).value = .error refusal) :
    (s.compile Workspace.writeFile constructors outDir).run w =
      (⟨(s.declaration constructors).events, .error (.refused refusal)⟩, w) := by
  simp only [compile, h]
  rfl

theorem run_writeFile (path text : String) (w : Workspace) :
    (Workspace.writeFile path text).run w = w.write path text := rfl

theorem run_bind {α β : Type} (x : StateM Workspace α) (f : α → StateM Workspace β)
    (w : Workspace) : (x >>= f).run w = (f (x.run w).1).run (x.run w).2 := rfl

theorem compile_of_unwritable {text : String} {fault : FileFault}
    (h : (s.declaration constructors).value = .ok text)
    (hlocate : w.locate (outputPath outDir s.name) = .error fault) :
    (s.compile Workspace.writeFile constructors outDir).run w =
      (⟨(s.declaration constructors).events,
        .error (.unwritable (outputPath outDir s.name) fault)⟩, w) := by
  simp only [compile, h, StateT.run_bind, run_writeFile, Workspace.write, hlocate]
  rfl

theorem compile_of_written {text : String} {location : Location}
    (h : (s.declaration constructors).value = .ok text)
    (hlocate : w.locate (outputPath outDir s.name) = .ok location) :
    (s.compile Workspace.writeFile constructors outDir).run w =
      (⟨(s.declaration constructors).events ++
          [.wrote s.name s.specs.length (outputPath outDir s.name)],
        .ok (outputPath outDir s.name)⟩, w.put location (.file text)) := by
  simp only [compile, h, StateT.run_bind, run_writeFile, Workspace.write, hlocate]
  rfl

end

/-- The path of the file leads into the output directory and to the file there. -/
theorem exists_directory_of_locate {outDir name : String} {w : Workspace} {location : Location}
    (hname : Text.isIdentifier name.toList = true)
    (h : w.locate (outputPath outDir name) = .ok location) :
    ∃ here, w.directory outDir = .ok here ∧ location = here ++ [fileName name] := by
  obtain ⟨parts, hparts, hwalk⟩ := Workspace.exists_parts_joinPath outDir (slash_not_mem_fileName hname)
  obtain ⟨-, here, hhere, hleaf⟩ := (Workspace.locate_eq_ok_iff hparts).1 h
  obtain ⟨-, -, hlocation, -⟩ := Workspace.leaf_eq_ok_iff.1 hleaf
  rw [hwalk] at hhere
  rw [String.ofList_toList] at hlocation
  exact ⟨here, hhere, hlocation⟩

/-- Compiling refuses what has no declaration, whatever the workspace holds. What has one is
written to the output path: if that leads nowhere, the fault is told with the path, and otherwise
the declaration is all that the file holds. The file has the name of the category in lower case
and stands directly in the output directory. But for that file nothing ever changes. -/
theorem compile_confined (s : Schema) (constructors : Bool) (outDir : String) (w : Workspace) :
    let run := (s.compile Workspace.writeFile constructors outDir).run w
    let path := outputPath outDir s.name
    let file := Text.lowercase s.name ++ ".rs"
    (∀ refusal, (s.declaration constructors).value = .error refusal →
      run.1.value = .error (.refused refusal) ∧ run.2 = w) ∧
    ∀ text, (s.declaration constructors).value = .ok text →
      (∃ fault, w.locate path = .error fault ∧
        run.1.value = .error (.unwritable path fault) ∧ run.2 = w) ∨
      ∃ here, w.directory outDir = .ok here ∧ (outDir = "" → here = w.current) ∧
        (pathParts path.toList).getLast? = some file.toList ∧ '/' ∉ file.toList ∧
        w.locate path = .ok (here ++ [file]) ∧ run.1.value = .ok path ∧
        w.Holding (here ++ [file]) text run.2 ∧ run.2.read? path = some text := by
  intro run path file
  refine ⟨fun refusal hdeclared => ?_, fun text hdeclared => ?_⟩
  · have hrun : run = _ := compile_of_refused hdeclared
    rw [hrun]
    exact ⟨rfl, rfl⟩
  · obtain ⟨c, hcategory, -⟩ := category_of_declaration hdeclared
    have hname := (category_iff.1 hcategory).1
    cases hlocate : w.locate path with
    | error fault =>
      left
      have hrun : run = _ := compile_of_unwritable hdeclared hlocate
      rw [hrun]
      exact ⟨fault, rfl, rfl, rfl⟩
    | ok location =>
      right
      have hrun : run = _ := compile_of_written hdeclared hlocate
      have hslash : '/' ∉ file.toList := slash_not_mem_fileName hname
      obtain ⟨here, hhere, rfl⟩ := exists_directory_of_locate hname hlocate
      obtain ⟨parts, hparts, -⟩ := Workspace.exists_parts_joinPath outDir hslash
      rw [hrun]
      refine ⟨here, hhere, ?_, ?_, hslash, rfl, rfl, Workspace.holding_put hlocate text,
        Workspace.read?_put hlocate text⟩
      · rintro rfl
        exact (Except.ok.inj hhere).symm
      · show (pathParts (joinPath outDir file).toList).getLast? = some file.toList
        rw [hparts, List.getLast?_concat]

/-- A longer file is replaced as a whole, by way of a path that goes up and down again. -/
theorem compile_over_longer_file :
    let w : Workspace := (Workspace.empty.put ["work", "out"] .directory).put
      ["work", "out", "expr.rs"] (.file (String.ofList (List.replicate 200 '-')))
    let s : Schema := ⟨"Expr", ["Unary | Expr"]⟩
    let text := "use super::token::\x7bToken, Literal\x7d;\nuse std::fmt::Debug;\n\n" ++
      "#[derive(Clone, Debug)]\npub enum Expr \x7b\n    Unary(Box<Expr>),\n\x7d\n"
    let run := (s.compile Workspace.writeFile false "out/../out/").run w
    let refused : Schema := ⟨"Expr", ["Unary Expr"]⟩
    let refusedRun := (refused.compile Workspace.writeFile false "nowhere").run w
    (s.declaration false).value = .ok text ∧ run.1.value = .ok "out/../out/expr.rs" ∧
      w.Holding ["work", "out", "expr.rs"] text run.2 ∧
      refusedRun.1.value = .error (.refused ⟨"Expr", "Unary Expr", .missingSeparator⟩) ∧
      refusedRun.2 = w := by
  intro w s text run refused refusedRun
  have htext : (s.declaration false).value = .ok text := by decide +kernel
  have hrefused : (refused.declaration false).value =
      .error ⟨"Expr", "Unary Expr", .missingSeparator⟩ := by decide +kernel
  have hvalue : run.1.value = .ok "out/../out/expr.rs" := by decide +kernel
  have hhere : w.directory "out/../out/" = .ok ["work", "out"] := by decide +kernel
  have hfile : Text.lowercase s.name ++ ".rs" = "expr.rs" := by decide +kernel
  refine ⟨htext, hvalue, ?_, (compile_confined refused false "nowhere" w).1 _ hrefused⟩
  rcases (compile_confined s false "out/../out/" w).2 text htext with
    ⟨fault, -, herror, -⟩ | ⟨here, hdirectory, -, -, -, -, -, hholding, -⟩
  · rw [show run.1.value = _ from herror] at hvalue
    cases hvalue
  · rw [hhere] at hdirectory
    cases hdirectory
    rw [hfile] at hholding
    exact hholding

end Schema

end NodeSchema
