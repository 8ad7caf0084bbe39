import NodeSchema.Proofs.CompilationOrder
import NodeSchema.Proofs.GenerationOutcomes
/-!
# Repeated runs

A run leaves nothing that a later run into the same directory would come to feel: the later one
ends as it would have ended alone, and overwrites every file of the earlier one
(`generate_replaces`). This holds for all schemas that are never refused and whose files have
different names, and whether the earlier run went through, stopped half-way or wrote nothing. The
files hold what the last run declares, up to the schema that it breaks down at.
-/

namespace NodeSchema.Schema

open Workspace (writeFile)

section
variable {s : Schema} {schemas : List Schema} {constructors wanted : Bool} {outDir : String}
  {w v : Workspace}

-- ---------------------------------------------------------------------------
-- The first schema of a run and the others
-- ---------------------------------------------------------------------------

theorem generate_cons_of_failed {cause : Failure}
    (h : ((s.compile writeFile constructors outDir).run w).1.value = .error cause) :
    ((generate writeFile constructors outDir (s :: schemas)).run w).2 =
      ((s.compile writeFile constructors outDir).run w).2 := by
  rw [generate, run_bind]
  simp only [h]
  rfl

theorem generate_cons_of_compiled {path : String}
    (h : ((s.compile writeFile constructors outDir).run w).1.value = .ok path) :
    ((generate writeFile constructors outDir (s :: schemas)).run w).2 =
      ((generate writeFile constructors outDir schemas).run
        ((s.compile writeFile constructors outDir).run w).2).2 := by
  rw [generate, run_bind]
  simp only [h, run_bind]
  cases ((generate writeFile constructors outDir schemas).run
    ((s.compile writeFile constructors outDir).run w).2).1.value <;> rfl

theorem generate_cons_congr {path : String} {after : Workspace}
    (hok : ((s.compile writeFile constructors outDir).run w).1.value = .ok path)
    (hfirst : (s.compile writeFile constructors outDir).run v =
      (((s.compile writeFile constructors outDir).run w).1, after))
    (hothers : (generate writeFile constructors outDir schemas).run after =
      (generate writeFile constructors outDir schemas).run
        ((s.compile writeFile constructors outDir).run w).2) :
    (generate writeFile constructors outDir (s :: schemas)).run v =
      (generate writeFile constructors outDir (s :: schemas)).run w := by
  rw [generate, run_bind, run_bind, hfirst]
  simp only [hok, run_bind, hothers]

-- ---------------------------------------------------------------------------
-- What a run is not felt by
-- ---------------------------------------------------------------------------

/-- A schema comes to the same before and after a run of schemas with other files, and the two
leave the same workspace in either order. -/
theorem compile_after_generate
    (hne : ∀ t ∈ schemas, Text.lowercase t.name ≠ Text.lowercase s.name) :
    let first := (generate writeFile constructors outDir schemas).run
    let second := (s.compile writeFile wanted outDir).run
    second (first w).2 = ((second w).1, (first (second w).2).2) := by
  intro first second
  induction schemas generalizing w with
  | nil => rfl
  | cons t schemas ih =>
    obtain ⟨ht, hne⟩ := List.forall_mem_cons.1 hne
    let third := (t.compile writeFile constructors outDir).run
    have hafter : second (third w).2 = ((second w).1, (third (second w).2).2) :=
      compile_after wanted ht
    have hbefore : third (second w).2 = ((third w).1, (second (third w).2).2) :=
      compile_after constructors (Ne.symm ht)
    -- So the first of the others comes to the same as well, and the run goes on or stops there.
    cases hvalue : (third w).1.value with
    | error cause =>
      have hagain : (third (second w).2).1.value = .error cause := by rw [hbefore, hvalue]
      have hstop : (first w).2 = (third w).2 := generate_cons_of_failed hvalue
      have hstopAgain : (first (second w).2).2 = (third (second w).2).2 :=
        generate_cons_of_failed hagain
      rw [hstop, hstopAgain, hafter]
    | ok path =>
      have hagain : (third (second w).2).1.value = .ok path := by rw [hbefore, hvalue]
      have hrest := ih (w := (third w).2) hne
      have hgoes : (first w).2 = _ := generate_cons_of_compiled hvalue
      have hgoesAgain : (first (second w).2).2 = _ := generate_cons_of_compiled hagain
      rw [hgoes, hgoesAgain]
      exact hrest.trans (by rw [hafter])

theorem compile_of_failed {cause : Failure}
    (h : ((s.compile writeFile constructors outDir).run w).1.value = .error cause) :
    ((s.compile writeFile constructors outDir).run w).2 = w := by
  cases hdeclared : (s.declaration constructors).value with
  | error refusal => rw [compile_of_refused hdeclared]
  | ok text =>
    cases hlocate : w.locate (outputPath outDir s.name) with
    | error fault => rw [compile_of_unwritable hdeclared hlocate]
    | ok location =>
      rw [compile_of_written hdeclared hlocate] at h
      cases h

theorem compile_again {text path : String} (hdeclared : (s.declaration wanted).value = .ok text)
    (hfirst : ((s.compile writeFile constructors outDir).run w).1.value = .ok path) :
    (s.compile writeFile wanted outDir).run ((s.compile writeFile constructors outDir).run w).2 =
      (s.compile writeFile wanted outDir).run w := by
  obtain ⟨rfl, ⟨earlier, hearlier⟩, location, hlocation⟩ := compile_ok_iff.1 hfirst
  rw [compile_of_written hearlier hlocation]
  exact compile_put_same (compile_ok_iff.2 ⟨rfl, ⟨text, hdeclared⟩, location, hlocation⟩)
    hlocation earlier

/-- Of two runs of the same schemas, none of which is refused, the later one ends as if there had
been no earlier one. -/
theorem generate_generate
    (hdeclared : ∀ s ∈ schemas, ∀ options, ∃ text, (s.declaration options).value = .ok text)
    (hnames : schemas.Pairwise fun s t => Text.lowercase t.name ≠ Text.lowercase s.name) :
    (generate writeFile wanted outDir schemas).run
        ((generate writeFile constructors outDir schemas).run w).2 =
      (generate writeFile wanted outDir schemas).run w := by
  induction schemas generalizing w with
  | nil => rfl
  | cons s schemas ih =>
    obtain ⟨hapart, hnames⟩ := List.pairwise_cons.1 hnames
    obtain ⟨text, htext⟩ := hdeclared s List.mem_cons_self wanted
    let first := (s.compile writeFile constructors outDir).run
    let later := (s.compile writeFile wanted outDir).run
    let others := (generate writeFile constructors outDir schemas).run
    cases hvalue : (first w).1.value with
    | error cause =>
      -- The earlier run wrote nothing.
      have hstop : ((generate writeFile constructors outDir (s :: schemas)).run w).2 = (first w).2 :=
        generate_cons_of_failed hvalue
      rw [hstop, compile_of_failed hvalue]
    | ok path =>
      have hgoes : ((generate writeFile constructors outDir (s :: schemas)).run w).2 =
          (others (first w).2).2 := generate_cons_of_compiled hvalue
      -- The others might as well have been written before the first one.
      have hswap : first (others w).2 = ((first w).1, (others (first w).2).2) :=
        compile_after_generate hapart
      have hvalueSwapped : (first (others w).2).1.value = .ok path := by rw [hswap, hvalue]
      have hover : later (others (first w).2).2 = ((later w).1, (others (later w).2).2) :=
        calc later (others (first w).2).2
          _ = later (first (others w).2).2 := by rw [hswap]
          _ = later (others w).2 := compile_again htext hvalueSwapped
          _ = ((later w).1, (others (later w).2).2) := compile_after_generate hapart
      obtain ⟨hpath, -, hlocation⟩ := compile_ok_iff.1 hvalue
      rw [hgoes]
      exact generate_cons_congr (compile_ok_iff.2 ⟨hpath, ⟨text, htext⟩, hlocation⟩) hover
        (ih (fun t ht => hdeclared t (List.mem_cons_of_mem s ht)) hnames)

-- ---------------------------------------------------------------------------
-- What the files hold
-- ---------------------------------------------------------------------------

/-- The file of the schema holds its declaration. -/
def Stored (constructors : Bool) (outDir : String) (w : Workspace) (s : Schema) : Prop :=
  ∃ text, (s.declaration constructors).value = .ok text ∧
    w.read? (outputPath outDir s.name) = some text

theorem stored_of_compiled {path : String}
    (h : ((s.compile writeFile constructors outDir).run w).1.value = .ok path) :
    Stored constructors outDir ((s.compile writeFile constructors outDir).run w).2 s := by
  obtain ⟨-, ⟨text, hdeclared⟩, location, hlocation⟩ := compile_ok_iff.1 h
  rw [compile_of_written hdeclared hlocation]
  exact ⟨text, hdeclared, Workspace.read?_put hlocation text⟩

theorem value_generate_cons_of_failed {cause : Failure}
    (h : ((s.compile writeFile constructors outDir).run w).1.value = .error cause) :
    ((generate writeFile constructors outDir (s :: schemas)).run w).1.value =
      .error ⟨s.name, cause⟩ := by
  rw [generate, run_bind]
  simp only [h]
  rfl

theorem value_generate_cons_of_compiled {path : String} {b : Breakdown}
    (h : ((s.compile writeFile constructors outDir).run w).1.value = .ok path)
    (hothers : ((generate writeFile constructors outDir schemas).run
      ((s.compile writeFile constructors outDir).run w).2).1.value = .error b) :
    ((generate writeFile constructors outDir (s :: schemas)).run w).1.value = .error b := by
  rw [generate, run_bind]
  simp only [h, run_bind, hothers]
  rfl

/-- A run stores every schema before the one that it breaks down at. -/
theorem stored_of_generate {front back : List Schema}
    (hnames : (front ++ s :: back).Pairwise fun s t => Text.lowercase t.name ≠ Text.lowercase s.name)
    (hlater : ∀ b, ((generate writeFile constructors outDir (front ++ s :: back)).run w).1.value =
      .error b → b.schema ∈ back.map Schema.name) :
    Stored constructors outDir
      ((generate writeFile constructors outDir (front ++ s :: back)).run w).2 s := by
  induction front generalizing w with
  | nil =>
    rw [List.nil_append] at hnames hlater ⊢
    obtain ⟨hapart, -⟩ := List.pairwise_cons.1 hnames
    let first := (s.compile writeFile constructors outDir).run
    let others := (generate writeFile constructors outDir back).run
    cases hvalue : (first w).1.value with
    | error cause =>
      obtain ⟨t, ht, hname⟩ := List.mem_map.1 (hlater _ (value_generate_cons_of_failed hvalue))
      exact absurd (congrArg Text.lowercase hname) (hapart t ht)
    | ok path =>
      -- The file of the schema might as well have been written after those of the others.
      have hgoes : ((generate writeFile constructors outDir (s :: back)).run w).2 =
          (others (first w).2).2 := generate_cons_of_compiled hvalue
      have hswap : first (others w).2 = ((first w).1, (others (first w).2).2) :=
        compile_after_generate hapart
      have hlast : (first (others w).2).1.value = .ok path := by rw [hswap, hvalue]
      have hstored : Stored constructors outDir (first (others w).2).2 s := stored_of_compiled hlast
      rw [hswap] at hstored
      rwa [hgoes]
  | cons t front ih =>
    rw [List.cons_append] at hnames hlater ⊢
    obtain ⟨hapart, hnames⟩ := List.pairwise_cons.1 hnames
    cases hvalue : ((t.compile writeFile constructors outDir).run w).1.value with
    | error cause =>
      obtain ⟨u, hu, hname⟩ := List.mem_map.1 (hlater _ (value_generate_cons_of_failed hvalue))
      exact absurd (congrArg Text.lowercase hname) (hapart u (by simp [hu]))
    | ok path =>
      rw [generate_cons_of_compiled hvalue]
      exact ih hnames fun b hb => hlater b (value_generate_cons_of_compiled hvalue hb)

end

theorem pairwise_builtIn :
    builtIn.Pairwise fun s t => Text.lowercase t.name ≠ Text.lowercase s.name := by
  have hne : Text.lowercase statements.name ≠ Text.lowercase expressions.name := by
    decide +kernel
  simpa [builtIn] using hne

/-- Runs of the built-in schemas into one directory, with or without constructor functions, leave
nothing behind for the next one: it comes to the same, with the same paths or the same failure, and
leaves the same workspace as it would alone. So a run that is repeated ends every time as it did
at first. Whatever was written before, the file of each schema holds its declaration with the
latest options afterwards, unless the latest run broke down at this schema or before it. -/
theorem generate_replaces (outDir : String) (w : Workspace) :
    let run (constructors : Bool) := (generate Workspace.writeFile constructors outDir builtIn).run
    let runs (options : List Bool) := options.foldl (fun v constructors => (run constructors v).2) w
    (∀ earlier later, run later (run earlier w).2 = run later w) ∧
      (∀ (options : List Bool) (later : Bool), run later (runs options) = run later w) ∧
      ∀ (options : List Bool) (later : Bool), let final := run later (runs options)
        ∀ front s back, builtIn = front ++ s :: back →
          (∀ b, final.1.value = .error b → b.schema ∈ back.map Schema.name) →
          Stored later outDir final.2 s := by
  intro run runs
  have hpair (v : Workspace) (earlier later : Bool) :
      run later (run earlier v).2 = run later v :=
    generate_generate (fun s hs options => exists_declaration_builtIn options s hs) pairwise_builtIn
  refine ⟨hpair w, fun options later => ?_, fun options later => ?_⟩
  · induction options generalizing w with
    | nil => rfl
    | cons earlier options ih => exact (ih (run earlier w).2).trans (hpair w earlier later)
  · intro final front s back hbuiltIn
    have hnames := pairwise_builtIn
    rw [hbuiltIn] at hnames
    simp only [final, run, hbuiltIn]
    exact stored_of_generate hnames

/-- Declarations with functions are replaced by those without. -/
theorem generate_replaces_functions :
    let run (constructors : Bool) := (generate Workspace.writeFile constructors "" builtIn).run
    let runs (options : List Bool) :=
      options.foldl (fun v constructors => (run constructors v).2) Workspace.empty
    let first := run true (runs [])
    let second := run false (runs [true])
    second = run false Workspace.empty ∧ second.1.value = .ok ["expr.rs", "stmt.rs"] ∧
      Stored true "" first.2 expressions ∧ Stored true "" first.2 statements ∧
      Stored false "" second.2 expressions ∧ Stored false "" second.2 statements := by
  intro run runs first second
  have hvalue (constructors : Bool) :
      (run constructors Workspace.empty).1.value = .ok ["expr.rs", "stmt.rs"] := by
    obtain ⟨exprText, hexpr⟩ :=
      exists_declaration_builtIn constructors expressions (by simp [builtIn])
    obtain ⟨stmtText, hstmt⟩ :=
      exists_declaration_builtIn constructors statements (by simp [builtIn])
    have hplace : Workspace.empty.locate (joinPath "" "expr.rs") = .ok (["work"] ++ ["expr.rs"]) := by
      decide +kernel
    rcases (generates_generate constructors "" builtIn Workspace.empty).builtIn_cases hexpr hstmt with
      ⟨fault, hlocate, -⟩ | ⟨here, hlocate, ⟨htaken, -⟩ | ⟨-, -, hvalue⟩⟩
    · rw [hplace] at hlocate
      cases hlocate
    · obtain rfl : ["work"] = here :=
        (List.append_inj' (Except.ok.inj (hplace.symm.trans hlocate)) rfl).1
      exact absurd htaken (by decide +kernel)
    · exact hvalue
  obtain ⟨-, hruns, hstored⟩ := generate_replaces "" Workspace.empty
  have hpaths (options : List Bool) (later : Bool) :
      (run later (runs options)).1.value = .ok ["expr.rs", "stmt.rs"] :=
    (congrArg (·.1.value) (hruns options later)).trans (hvalue later)
  have hno (options : List Bool) (later : Bool) (names : List String) (b : Breakdown)
      (hb : (run later (runs options)).1.value = .error b) : b.schema ∈ names := by
    rw [hpaths] at hb
    cases hb
  exact ⟨hruns [true] false, hpaths [true] false,
    hstored [] true [] expressions [statements] rfl (hno [] true _),
    hstored [] true [expressions] statements [] rfl (hno [] true _),
    hstored [true] false [] expressions [statements] rfl (hno [true] false _),
    hstored [true] false [expressions] statements [] rfl (hno [true] false _)⟩

end NodeSchema.Schema
