import NodeSchema.Program
import NodeSchema.Proofs.GenerationOutcomes
import NodeSchema.Proofs.Verbosity
/-!
# What a run of the program shows

A run that is asked for ends as the generation of the built-in schemas ends (`Outcome.Closes`):
the exit code says whether it succeeded, and the text on the error stream ends with the failure.
What is told before that is all that the log has a say in. So the number of requests for more
and the overriding filter change nothing else.
-/

namespace NodeSchema

open Workspace (writeFile)

def Breakdown.closing (b : Breakdown) : String := "error: " ++ b.message ++ "\n"

theorem Breakdown.closing_of_unwritable {b : Breakdown} {path : String} {fault : FileFault}
    (h : b.cause = .unwritable path fault) :
    b.closing = "error: " ++ ("failed to generate `" ++ b.schema ++ "`: " ++
      ("IO error for " ++ path ++ ": " ++ fault.message)) ++ "\n" := by
  unfold Breakdown.closing Breakdown.message
  rw [h]
  rfl

/-- The exit code, the output and the end of the error stream are those of a result. -/
inductive Outcome.Closes (o : Outcome) : Except Breakdown (List String) → Prop where
  | success {paths : List String} : o.exitCode = 0 → o.output = "" → o.Closes (.ok paths)
  | failure {b : Breakdown} {path : String} {fault : FileFault} {log : String} :
    o.exitCode = 1 → o.output = "" → b.cause = .unwritable path fault →
    Text.ofLines o.errorLines = log ++ b.closing → o.Closes (.error b)

namespace Outcome.Closes

variable {o other : Outcome} {result : Except Breakdown (List String)}

theorem output_eq (h : o.Closes result) : o.output = "" := by
  cases h with
  | success _ houtput => exact houtput
  | failure _ houtput _ _ => exact houtput

theorem exitCode_eq (h : o.Closes result) : o.exitCode = if result.toBool then 0 else 1 := by
  cases h with
  | success hcode _ => exact hcode
  | failure hcode _ _ _ => exact hcode

theorem exitCode_zero_iff (h : o.Closes result) : o.exitCode = 0 ↔ ∃ paths, result = .ok paths := by
  rw [h.exitCode_eq]
  cases result <;> simp [Except.toBool]

theorem exitCode_one_iff (h : o.Closes result) : o.exitCode = 1 ↔ ∃ b, result = .error b := by
  rw [h.exitCode_eq]
  cases result <;> simp [Except.toBool]

theorem exists_log {b : Breakdown} (h : o.Closes (.error b)) :
    ∃ path fault log, b.cause = .unwritable path fault ∧
      Text.ofLines o.errorLines = log ++ b.closing := by
  cases h with
  | failure _ _ hcause hlog => exact ⟨_, _, _, hcause, hlog⟩

end Outcome.Closes

theorem Stop.exitCode_eq (stop : Stop) :
    stop.outcome.exitCode = if stop = .help ∨ stop = .version then 0 else 2 := by
  cases stop <;> rfl

theorem Text.ofLines_append_singleton (lines : List String) (last : String) :
    Text.ofLines (lines ++ [last]) = Text.ofLines lines ++ (last ++ "\n") := by
  simp [Text.ofLines]

-- ---------------------------------------------------------------------------
-- Runs
-- ---------------------------------------------------------------------------

section
variable {arguments others : List String} {override : Option String} {w : Workspace}
  {i j : Invocation}

theorem run_of_stop {stop : Stop} (h : Invocation.read arguments = .error stop) :
    (runProgram writeFile arguments override).run w = (stop.outcome, w) := by
  simp only [runProgram, h]
  rfl

theorem run_pure_after {α β : Type} (x : StateM Workspace α) (f : α → β) (w : Workspace) :
    let run := (do let a ← x; pure (f a)).run w
    run.1 = f (x.run w).1 ∧ run.2 = (x.run w).2 := ⟨rfl, rfl⟩

theorem run_of_invocation (override : Option String) (w : Workspace)
    (h : Invocation.read arguments = .ok i) :
    let run := (runProgram writeFile arguments override).run w
    let generated := (Schema.generate writeFile i.constructors i.outDir Schema.builtIn).run w
    run.1 = outcomeOf (Filter.ofSettings i.verbosity override) generated.1 ∧
      run.2 = generated.2 := by
  simp only [runProgram, h, Invocation.run]
  exact run_pure_after _ _ w

/-- Whatever the filter admits, it is told before the failure. -/
theorem closes_outcomeOf (filter : Filter) {run : Logged (Except Breakdown (List String))}
    (h : ∀ b, run.value = .error b → ∃ path fault, b.cause = .unwritable path fault) :
    (outcomeOf filter run).Closes run.value := by
  rw [outcomeOf]
  cases hvalue : run.value with
  | ok paths => exact .success rfl rfl
  | error b =>
    obtain ⟨path, fault, hcause⟩ := h b hvalue
    refine .failure ?_ rfl hcause (Text.ofLines_append_singleton _ _)
    dsimp only
    rw [hcause]
    rfl

theorem closes_of_invocation (override : Option String) (w : Workspace)
    (h : Invocation.read arguments = .ok i) :
    ((runProgram writeFile arguments override).run w).1.Closes
      ((Schema.generate writeFile i.constructors i.outDir Schema.builtIn).run w).1.value := by
  rw [(run_of_invocation override w h).1]
  refine closes_outcomeOf _ fun b hb => ?_
  have hrun := Schema.generates_generate i.constructors i.outDir Schema.builtIn w
  obtain ⟨s, -, fault, rfl⟩ :=
    hrun.exists_fault (Schema.exists_declaration_builtIn i.constructors) hb
  exact ⟨_, fault, rfl⟩

/-- Command lines that differ in requests for more only ask for the same generation. -/
theorem same_request (hi : Invocation.read arguments = .ok i) (hj : Invocation.read others = .ok j)
    (h : withoutVerbosity others = withoutVerbosity arguments) :
    j.outDir = i.outDir ∧ j.constructors = i.constructors := by
  obtain ⟨n, hn⟩ := Invocation.read_withoutVerbosity hi
  obtain ⟨m, hm⟩ := Invocation.read_withoutVerbosity hj
  rw [h, hn] at hm
  cases i
  cases j
  cases hm
  exact ⟨rfl, rfl⟩

theorem generate_same_request (hi : Invocation.read arguments = .ok i)
    (hj : Invocation.read others = .ok j)
    (h : withoutVerbosity others = withoutVerbosity arguments) :
    Schema.generate writeFile j.constructors j.outDir Schema.builtIn =
      Schema.generate writeFile i.constructors i.outDir Schema.builtIn := by
  obtain ⟨hdir, hconstructors⟩ := same_request hi hj h
  rw [hdir, hconstructors]

end

/-- What a run shows and leaves, for all that may be logged. If the command line asks for no run
the workspace stays as it is, and the exit code tells help and version from what is wrong. If it
asks for one, the workspace is left as the generation leaves it, nothing is written to the output,
and the exit code is zero or one: zero exactly if the generation succeeds. On a failure the error
stream ends with what could not be written. No schema is at fault, so three is no exit code. A
command line that differs in requests for more only, with whatever filter, does and shows the same
but for what stands before that end. -/
theorem program_outcome (arguments : List String) (override : Option String) (w : Workspace) :
    let run := (runProgram Workspace.writeFile arguments override).run w
    run.1.exitCode ≠ 3 ∧
    (∀ stop, Invocation.read arguments = .error stop →
      run.2 = w ∧ run.1.exitCode = if stop = .help ∨ stop = .version then 0 else 2) ∧
    ∀ i, Invocation.read arguments = .ok i →
      let generated :=
        (Schema.generate Workspace.writeFile i.constructors i.outDir Schema.builtIn).run w
      run.2 = generated.2 ∧ run.1.output = "" ∧
      (run.1.exitCode = 0 ↔ ∃ paths, generated.1.value = .ok paths) ∧
      (run.1.exitCode = 1 ↔ ∃ b, generated.1.value = .error b) ∧
      (∀ b, generated.1.value = .error b → ∃ path fault log,
        b.closing = "error: " ++ ("failed to generate `" ++ b.schema ++ "`: " ++
          ("IO error for " ++ path ++ ": " ++ FileFault.message fault)) ++ "\n" ∧
        Text.ofLines run.1.errorLines = log ++ b.closing) ∧
      ∀ others another j, Invocation.read others = .ok j →
        withoutVerbosity others = withoutVerbosity arguments →
        let again := (runProgram Workspace.writeFile others another).run w
        again.1.exitCode = run.1.exitCode ∧ again.1.output = run.1.output ∧ again.2 = run.2 ∧
        ∀ b, generated.1.value = .error b →
          ∃ log, Text.ofLines again.1.errorLines = log ++ b.closing := by
  refine ⟨?_, fun stop hstop => ?_, fun i hi => ?_⟩
  · cases hread : Invocation.read arguments with
    | error stop =>
      rw [run_of_stop hread, stop.exitCode_eq]
      split <;> decide
    | ok i =>
      rw [(closes_of_invocation override w hread).exitCode_eq]
      split <;> decide
  · rw [run_of_stop hstop]
    exact ⟨rfl, stop.exitCode_eq⟩
  · have hcloses := closes_of_invocation override w hi
    have hstate := (run_of_invocation override w hi).2
    refine ⟨hstate, hcloses.output_eq, hcloses.exitCode_zero_iff, hcloses.exitCode_one_iff, ?_, ?_⟩
    · intro b hb
      rw [hb] at hcloses
      obtain ⟨path, fault, log, hcause, hlog⟩ := hcloses.exists_log
      exact ⟨path, fault, log, Breakdown.closing_of_unwritable hcause, hlog⟩
    · -- The other command line asks for the same generation, and that decides how both close.
      intro others another j hj hsame
      have hagain := closes_of_invocation another w hj
      have hstateAgain := (run_of_invocation another w hj).2
      rw [generate_same_request hi hj hsame] at hagain hstateAgain
      refine ⟨hagain.exitCode_eq.trans hcloses.exitCode_eq.symm,
        hagain.output_eq.trans hcloses.output_eq.symm, hstateAgain.trans hstate.symm,
        fun b hb => ?_⟩
      rw [hb] at hagain
      obtain ⟨-, -, log, -, hlog⟩ := hagain.exists_log
      exact ⟨log, hlog⟩

/-- A directory that is missing, told with everything and with nothing, and a request for help
among requests for more. -/
theorem program_outcome_of_missing_directory :
    let loud := (runProgram Workspace.writeFile ["nowhere", "-vvv", "--constructors"]
      (some "astgen=trace")).run Workspace.empty
    let quiet := (runProgram Workspace.writeFile ["nowhere", "--constructors"]
      (some "off")).run Workspace.empty
    let help := (runProgram Workspace.writeFile ["-v", "-vh", "nowhere"] none).run Workspace.empty
    let closing := "error: failed to generate `Expr`: IO error for nowhere/expr.rs: " ++
      "No such file or directory (os error 2)\n"
    loud.1.exitCode = 1 ∧ quiet.1.exitCode = 1 ∧ quiet.2 = loud.2 ∧
      (∃ log, Text.ofLines loud.1.errorLines = log ++ closing) ∧
      (∃ log, Text.ofLines quiet.1.errorLines = log ++ closing) ∧
      help.1.exitCode = 0 ∧ help.2 = Workspace.empty := by
  have hread : Invocation.read ["nowhere", "-vvv", "--constructors"] =
      .ok ⟨"nowhere", true, 3⟩ := by
    decide +kernel
  have hquiet : Invocation.read ["nowhere", "--constructors"] = .ok ⟨"nowhere", true, 0⟩ := by
    decide +kernel
  have hhelp : Invocation.read ["-v", "-vh", "nowhere"] = .error .help := by decide +kernel
  have hsame : withoutVerbosity ["nowhere", "--constructors"] =
      withoutVerbosity ["nowhere", "-vvv", "--constructors"] := by decide +kernel
  obtain ⟨-, -, hrun⟩ := program_outcome ["nowhere", "-vvv", "--constructors"]
    (some "astgen=trace") Workspace.empty
  obtain ⟨-, -, -, hcode, hclosing, hagain⟩ := hrun _ hread
  obtain ⟨hquietCode, -, hquietState, hquietClosing⟩ :=
    hagain ["nowhere", "--constructors"] (some "off") _ hquiet hsame
  obtain ⟨-, hstop, -⟩ := program_outcome ["-v", "-vh", "nowhere"] none Workspace.empty
  obtain ⟨hhelpState, hhelpCode⟩ := hstop .help hhelp
  have hmissing : Workspace.empty.locate (joinPath "nowhere" "expr.rs") = .error .missing := by
    decide +kernel
  have hbreakdown : ((Schema.generate Workspace.writeFile true "nowhere" Schema.builtIn).run
      Workspace.empty).1.value = .error ⟨"Expr", .unwritable "nowhere/expr.rs" .missing⟩ := by
    obtain ⟨exprText, hexpr⟩ :=
      Schema.exists_declaration_builtIn true Schema.expressions (by simp [Schema.builtIn])
    obtain ⟨stmtText, hstmt⟩ :=
      Schema.exists_declaration_builtIn true Schema.statements (by simp [Schema.builtIn])
    have hrun := Schema.generates_generate true "nowhere" Schema.builtIn Workspace.empty
    rcases hrun.builtIn_cases hexpr hstmt with ⟨fault, hfault, -, hvalue⟩ | ⟨here, hhere, -⟩
    · rw [hmissing] at hfault
      cases hfault
      exact hvalue
    · rw [hmissing] at hhere
      cases hhere
  have hend : Breakdown.closing ⟨"Expr", .unwritable "nowhere/expr.rs" .missing⟩ =
      "error: failed to generate `Expr`: IO error for nowhere/expr.rs: " ++
        "No such file or directory (os error 2)\n" := by
    decide +kernel
  have hcodeOne := hcode.2 ⟨_, hbreakdown⟩
  have hquietEnd := hquietClosing _ hbreakdown
  obtain ⟨path, fault, log, -, hlog⟩ := hclosing _ hbreakdown
  rw [hend] at hlog hquietEnd
  exact ⟨hcodeOne, hquietCode.trans hcodeOne, hquietState, ⟨log, hlog⟩, hquietEnd, hhelpCode,
    hhelpState⟩

end NodeSchema
