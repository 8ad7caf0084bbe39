import NodeSchema.Proofs.OutputPath
/-!
# How a run of the built-in schemas ends

A run writes the declarations one after another, up to the first that cannot be written, and
leaves those before it (`Generates`). The built-in schemas are never refused and the names of
their files are equally long. So the run of the two writes both, or nothing, or, if a directory
stands in the place of the second file, the first one alone.
-/

namespace NodeSchema.Schema

open Workspace (writeFile)

section
variable {constructors : Bool} {outDir : String}

-- ---------------------------------------------------------------------------
-- Runs
-- ---------------------------------------------------------------------------

/-- What a run comes to, and the workspace that it leaves: it goes on as long as declarations can
be written. -/
inductive Generates (constructors : Bool) (outDir : String) :
    List Schema → Workspace → Except Breakdown (List String) → Workspace → Prop where
  | done {w : Workspace} : Generates constructors outDir [] w (.ok []) w
  | refused {s : Schema} {schemas : List Schema} {w : Workspace} {refusal : Refusal} :
    (s.declaration constructors).value = .error refusal →
    Generates constructors outDir (s :: schemas) w (.error ⟨s.name, .refused refusal⟩) w
  | unwritable {s : Schema} {schemas : List Schema} {w : Workspace} {text : String}
    {fault : FileFault} :
    (s.declaration constructors).value = .ok text →
    w.locate (outputPath outDir s.name) = .error fault →
    Generates constructors outDir (s :: schemas) w
      (.error ⟨s.name, .unwritable (outputPath outDir s.name) fault⟩) w
  | written {s : Schema} {schemas : List Schema} {w after : Workspace} {text : String}
    {location : Location} {result : Except Breakdown (List String)} :
    (s.declaration constructors).value = .ok text →
    w.locate (outputPath outDir s.name) = .ok location →
    Generates constructors outDir schemas (w.put location (.file text)) result after →
    Generates constructors outDir (s :: schemas) w
      (result.map (outputPath outDir s.name :: ·)) after

theorem generate_cons_of_written {s : Schema} {w : Workspace} {text : String} {location : Location}
    (schemas : List Schema) (hdeclared : (s.declaration constructors).value = .ok text)
    (hlocate : w.locate (outputPath outDir s.name) = .ok location) :
    let run := (generate writeFile constructors outDir (s :: schemas)).run w
    let others := (generate writeFile constructors outDir schemas).run (w.put location (.file text))
    run.1.value = others.1.value.map (outputPath outDir s.name :: ·) ∧ run.2 = others.2 := by
  intro run others
  have hrun : run = (generate writeFile constructors outDir (s :: schemas)).run w := rfl
  have hothers : (generate writeFile constructors outDir schemas).run _ = others := rfl
  rw [generate, run_bind, compile_of_written hdeclared hlocate] at hrun
  simp only [run_bind, hothers] at hrun
  cases hvalue : others.1.value with
  | error breakdown =>
    rw [hvalue] at hrun
    exact ⟨congrArg (·.1.value) hrun, congrArg (·.2) hrun⟩
  | ok paths =>
    rw [hvalue] at hrun
    exact ⟨congrArg (·.1.value) hrun, congrArg (·.2) hrun⟩

theorem generates_generate (constructors : Bool) (outDir : String) (schemas : List Schema)
    (w : Workspace) :
    Generates constructors outDir schemas w
      ((generate writeFile constructors outDir schemas).run w).1.value
      ((generate writeFile constructors outDir schemas).run w).2 := by
  induction schemas generalizing w with
  | nil => exact .done
  | cons s schemas ih =>
    cases hdeclared : (s.declaration constructors).value with
    | error refusal =>
      rw [generate, run_bind, compile_of_refused hdeclared]
      exact .refused hdeclared
    | ok text =>
      cases hlocate : w.locate (outputPath outDir s.name) with
      | error fault =>
        rw [generate, run_bind, compile_of_unwritable hdeclared hlocate]
        exact .unwritable hdeclared hlocate
      | ok location =>
        obtain ⟨hvalue, hafter⟩ := generate_cons_of_written schemas hdeclared hlocate
        rw [hvalue, hafter]
        exact .written hdeclared hlocate (ih (w.put location (.file text)))

/-- If no schema is refused, a run that breaks down could not write one of the files. -/
theorem Generates.exists_fault {schemas : List Schema} {w after : Workspace}
    {result : Except Breakdown (List String)} {breakdown : Breakdown}
    (h : Generates constructors outDir schemas w result after)
    (hdeclared : ∀ s ∈ schemas, ∃ text, (s.declaration constructors).value = .ok text)
    (hresult : result = .error breakdown) :
    ∃ s ∈ schemas, ∃ fault, breakdown = ⟨s.name, .unwritable (outputPath outDir s.name) fault⟩ := by
  induction h with
  | done => cases hresult
  | @refused s _ _ _ hrefused =>
    obtain ⟨text, htext⟩ := hdeclared s List.mem_cons_self
    rw [htext] at hrefused
    cases hrefused
  | @unwritable s _ _ _ fault _ _ =>
    cases hresult
    exact ⟨s, List.mem_cons_self, fault, rfl⟩
  | @written s schemas _ _ _ _ result _ _ _ ih =>
    cases result with
    | ok paths => cases hresult
    | error earlier =>
      cases hresult
      obtain ⟨t, ht, fault, hfault⟩ :=
        ih (fun t ht => hdeclared t (List.mem_cons_of_mem s ht)) rfl
      exact ⟨t, List.mem_cons_of_mem s ht, fault, hfault⟩

-- ---------------------------------------------------------------------------
-- The built-in schemas
-- ---------------------------------------------------------------------------

theorem exists_declaration_builtIn (constructors : Bool) :
    ∀ s ∈ builtIn, ∃ text, (s.declaration constructors).value = .ok text := by
  have accepted : ∀ s ∈ builtIn, ∀ constructors,
      (s.declaration constructors).value.toBool = true := by
    decide +kernel
  intro s hs
  cases hdeclared : (s.declaration constructors).value with
  | ok text => exact ⟨text, rfl⟩
  | error refusal =>
    have := accepted s hs constructors
    rw [hdeclared] at this
    cases this

theorem fileName_expressions : fileName expressions.name = "expr.rs" := by decide +kernel

theorem fileName_statements : fileName statements.name = "stmt.rs" := by decide +kernel

theorem outputPath_expressions :
    outputPath outDir expressions.name = joinPath outDir "expr.rs" := by
  rw [outputPath, fileName_expressions]

theorem outputPath_statements :
    outputPath outDir statements.name = joinPath outDir "stmt.rs" := by
  rw [outputPath, fileName_statements]

section
variable {w after : Workspace} {here : Location}

theorem locate_expressions_iff {location : Location} :
    w.locate (joinPath outDir "expr.rs") = .ok location ↔
      ('\x00' ∉ outDir.toList ∧ (joinPath outDir "expr.rs").utf8ByteSize < Workspace.pathLimit) ∧
        ∃ here, w.directory outDir = .ok here ∧ location = here ++ ["expr.rs"] ∧
          w.lookup location ≠ some .directory := by
  have hname : Text.isIdentifier expressions.name.toList = true := by decide
  have hshort : (fileName expressions.name).utf8ByteSize ≤ Workspace.longestName := by
    rw [fileName_expressions]
    decide
  rw [← outputPath_expressions, Workspace.locate_outputPath_iff hname,
    Workspace.pathFault?_outputPath hname, and_iff_right hshort, fileName_expressions]

/-- The two files have names of the same length. -/
theorem locate_statements (h : w.locate (joinPath outDir "expr.rs") = .ok (here ++ ["expr.rs"])) :
    w.locate (joinPath outDir "stmt.rs") =
      if w.lookup (here ++ ["stmt.rs"]) = some .directory then .error .isDirectory
      else .ok (here ++ ["stmt.rs"]) := by
  have hsize : (fileName expressions.name).utf8ByteSize =
      (fileName statements.name).utf8ByteSize := by
    rw [fileName_expressions, fileName_statements]
    decide
  rw [← outputPath_expressions, ← fileName_expressions] at h
  rw [← outputPath_statements, ← fileName_statements]
  exact Workspace.locate_outputPath_of_sibling (by decide) (by decide) hsize h

/-- The first file is not in the way of the second one. -/
theorem locate_statements_put {location : Location}
    (h : w.locate (joinPath outDir "expr.rs") = .ok location) (text : String) :
    (w.put location (.file text)).locate (joinPath outDir "stmt.rs") =
      w.locate (joinPath outDir "stmt.rs") := by
  rw [← outputPath_expressions] at h
  rw [← outputPath_statements]
  exact Workspace.locate_put_beside (by decide) (by decide) (by decide +kernel) h text

theorem read?_expressions_put {location : Location}
    (h : w.locate (joinPath outDir "stmt.rs") = .ok location) (text : String) :
    (w.put location (.file text)).read? (joinPath outDir "expr.rs") =
      w.read? (joinPath outDir "expr.rs") := by
  rw [← outputPath_statements] at h
  rw [← outputPath_expressions]
  exact Workspace.read?_put_beside (by decide) (by decide) (by decide +kernel) h text

theorem joinPath_stmt_length : (joinPath outDir "stmt.rs").utf8ByteSize =
    (joinPath outDir "expr.rs").utf8ByteSize :=
  utf8ByteSize_joinPath (by decide) (by decide) (by decide)

/-- A run of the two goes as far as the first file can be written, and then as far as no directory
stands in the place of the second. -/
theorem Generates.builtIn_cases {result : Except Breakdown (List String)}
    {exprText stmtText : String}
    (h : Generates constructors outDir builtIn w result after)
    (hexpr : (expressions.declaration constructors).value = .ok exprText)
    (hstmt : (statements.declaration constructors).value = .ok stmtText) :
    (∃ fault, w.locate (joinPath outDir "expr.rs") = .error fault ∧ after = w ∧
      result = .error ⟨"Expr", .unwritable (joinPath outDir "expr.rs") fault⟩) ∨
    ∃ here, w.locate (joinPath outDir "expr.rs") = .ok (here ++ ["expr.rs"]) ∧
      let first := w.put (here ++ ["expr.rs"]) (.file exprText)
      (w.lookup (here ++ ["stmt.rs"]) = some .directory ∧ after = first ∧
        result = .error ⟨"Stmt", .unwritable (joinPath outDir "stmt.rs") .isDirectory⟩) ∨
      (w.lookup (here ++ ["stmt.rs"]) ≠ some .directory ∧
        after = first.put (here ++ ["stmt.rs"]) (.file stmtText) ∧
        result = .ok [joinPath outDir "expr.rs", joinPath outDir "stmt.rs"]) := by
  rw [builtIn] at h
  cases h with
  | refused hrefused =>
    rw [hexpr] at hrefused
    cases hrefused
  | unwritable _ hlocate =>
    rw [outputPath_expressions] at hlocate ⊢
    exact .inl ⟨_, hlocate, rfl, rfl⟩
  | written hdeclared hlocate hrest =>
    rw [hexpr] at hdeclared
    cases hdeclared
    rw [outputPath_expressions] at hlocate ⊢
    obtain ⟨-, here, hhere, rfl, -⟩ := locate_expressions_iff.1 hlocate
    have hsecond := (locate_statements_put hlocate exprText).trans (locate_statements hlocate)
    refine .inr ⟨here, hlocate, ?_⟩
    cases hrest with
    | refused hrefused =>
      rw [hstmt] at hrefused
      cases hrefused
    | unwritable _ hfault =>
      rw [outputPath_statements] at hfault ⊢
      rw [hsecond] at hfault
      split at hfault
      · next htaken =>
        cases hfault
        exact .inl ⟨htaken, rfl, rfl⟩
      · cases hfault
    | written hdeclared hplace hdone =>
      rw [hstmt] at hdeclared
      cases hdeclared
      cases hdone
      rw [outputPath_statements] at hplace ⊢
      rw [hsecond] at hplace
      split at hplace
      · cases hplace
      · next hfree =>
        cases hplace
        exact .inr ⟨hfree, rfl, rfl⟩

end

end

/-- A run of the built-in schemas, which are never refused, ends in one of three ways. It writes
both files, and nothing else changes; or it cannot write the first one, and nothing changes; or it
writes the first one and nothing else, for a directory stands in the place of the second. The last
happens exactly if the output directory is there, no path is too long and of the two places only
the second is taken by a directory. A zero in a path leads nowhere. -/
theorem generate_outcomes (constructors : Bool) (outDir : String) (w : Workspace) :
    let run := (generate Workspace.writeFile constructors outDir builtIn).run w
    let exprPath := joinPath outDir "expr.rs"
    let stmtPath := joinPath outDir "stmt.rs"
    ∃ exprText stmtText, (expressions.declaration constructors).value = .ok exprText ∧
      (statements.declaration constructors).value = .ok stmtText ∧
      ((∃ here, w.directory outDir = .ok here ∧ run.1.value = .ok [exprPath, stmtPath] ∧
          run.2 = (w.put (here ++ ["expr.rs"]) (.file exprText)).put
            (here ++ ["stmt.rs"]) (.file stmtText) ∧
          run.2.read? exprPath = some exprText ∧ run.2.read? stmtPath = some stmtText) ∨
        (∃ fault, run.1.value = .error ⟨"Expr", .unwritable exprPath fault⟩ ∧ run.2 = w) ∨
        (∃ here, w.directory outDir = .ok here ∧
          run.1.value = .error ⟨"Stmt", .unwritable stmtPath .isDirectory⟩ ∧
          run.2 = w.put (here ++ ["expr.rs"]) (.file exprText) ∧
          run.2.read? exprPath = some exprText)) ∧
      ((∃ cause, run.1.value = .error ⟨"Stmt", cause⟩) ↔
        '\x00' ∉ outDir.toList ∧ exprPath.utf8ByteSize < Workspace.pathLimit ∧
          stmtPath.utf8ByteSize < Workspace.pathLimit ∧
          ∃ here, w.directory outDir = .ok here ∧
            w.lookup (here ++ ["expr.rs"]) ≠ some .directory ∧
            w.lookup (here ++ ["stmt.rs"]) = some .directory) := by
  obtain ⟨exprText, hexpr⟩ :=
    exists_declaration_builtIn constructors expressions (by simp [builtIn])
  obtain ⟨stmtText, hstmt⟩ :=
    exists_declaration_builtIn constructors statements (by simp [builtIn])
  refine ⟨exprText, stmtText, hexpr, hstmt, ?_⟩
  have hrun := generates_generate constructors outDir builtIn w
  -- Only how the run ends matters from here on.
  generalize (generate writeFile constructors outDir builtIn).run w = run at hrun ⊢
  rcases hrun.builtIn_cases hexpr hstmt with
    ⟨fault, hlocate, hafter, hvalue⟩ | ⟨here, hlocate, hcases⟩
  · refine ⟨.inr (.inl ⟨fault, hvalue, hafter⟩), ?_, ?_⟩
    · rintro ⟨cause, hcause⟩
      rw [hvalue] at hcause
      simp at hcause
    · rintro ⟨hzero, hlength, -, here, hhere, hfree, -⟩
      rw [locate_expressions_iff.2 ⟨⟨hzero, hlength⟩, here, hhere, rfl, hfree⟩] at hlocate
      cases hlocate
  · obtain ⟨⟨hzero, hlength⟩, there, hthere, heq, hfree⟩ := locate_expressions_iff.1 hlocate
    obtain rfl : here = there := (List.append_inj' heq rfl).1
    have hread := Workspace.read?_put hlocate exprText
    rcases hcases with ⟨htaken, hafter, hvalue⟩ | ⟨hplace, hafter, hvalue⟩
    · refine ⟨.inr (.inr ⟨here, hthere, hvalue, hafter, hafter ▸ hread⟩), ?_, fun _ => ⟨_, hvalue⟩⟩
      intro _
      exact ⟨hzero, hlength, joinPath_stmt_length.trans_lt hlength, here, hthere, hfree, htaken⟩
    · have hsecond := (locate_statements_put hlocate exprText).trans (locate_statements hlocate)
      rw [if_neg hplace] at hsecond
      refine ⟨.inl ⟨here, hthere, hvalue, hafter, ?_, ?_⟩, ?_, ?_⟩
      · rw [hafter, read?_expressions_put hsecond]
        exact hread
      · rw [hafter]
        exact Workspace.read?_put hsecond stmtText
      · rintro ⟨cause, hcause⟩
        rw [hvalue] at hcause
        cases hcause
      · rintro ⟨-, -, -, there, hdirectory, -, htaken⟩
        rw [hthere] at hdirectory
        cases hdirectory
        exact absurd htaken hplace

/-- A directory has been made in the place of the second file. The output directory is named by
way of one that is left again. -/
theorem generate_with_directory_in_place :
    let w := (Workspace.empty.put ["work", "out"] .directory).put
      ["work", "out", "stmt.rs"] .directory
    let run := (generate Workspace.writeFile true "out/../out/" builtIn).run w
    ∃ exprText, (expressions.declaration true).value = .ok exprText ∧
      run.1.value = .error ⟨"Stmt", .unwritable "out/../out/stmt.rs" .isDirectory⟩ ∧
      run.2 = w.put ["work", "out", "expr.rs"] (.file exprText) ∧
      run.2.read? "out/../out/expr.rs" = some exprText := by
  intro w
  have hpath : joinPath "out/../out/" "stmt.rs" = "out/../out/stmt.rs" := by decide
  have hexprPath : joinPath "out/../out/" "expr.rs" = "out/../out/expr.rs" := by decide
  have hdirectory : w.directory "out/../out/" = .ok ["work", "out"] := by decide +kernel
  have hfree : w.lookup ["work", "out", "expr.rs"] ≠ some .directory := by decide +kernel
  have htaken : w.lookup ["work", "out", "stmt.rs"] = some .directory := by decide +kernel
  obtain ⟨exprText, stmtText, hexpr, -, hcases, hpartial⟩ := generate_outcomes true "out/../out/" w
  obtain ⟨cause, hcause⟩ := hpartial.2
    ⟨by decide, by decide, by decide, ["work", "out"], hdirectory, hfree, htaken⟩
  refine ⟨exprText, hexpr, ?_⟩
  rcases hcases with ⟨_, _, hvalue, _⟩ | ⟨_, hvalue, _⟩ | ⟨here, hhere, hvalue, hafter, hread⟩
  · rw [hvalue] at hcause
    cases hcause
  · rw [hvalue] at hcause
    simp at hcause
  · rw [hdirectory] at hhere
    cases hhere
    rw [hpath] at hvalue
    rw [hexprPath] at hread
    exact ⟨hvalue, hafter, hread⟩

end NodeSchema.Schema
