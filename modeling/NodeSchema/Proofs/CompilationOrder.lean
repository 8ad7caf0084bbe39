import NodeSchema.Proofs.OutputPath
/-!
# Compiling in either order

A schema that is compiled changes the workspace by one file or not at all (`compile_effect`), and
what it comes to does not depend on the file of another category (`compile_put_beside`). So
categories with files of different names can be compiled in any order. Of two with one file, the
later one decides what the file holds.
-/

namespace NodeSchema.Schema

open Workspace (writeFile)

section
variable {s t : Schema} {constructors : Bool} {outDir : String} {w : Workspace}

theorem isIdentifier_of_declaration {text : String}
    (h : (s.declaration constructors).value = .ok text) :
    Text.isIdentifier s.name.toList = true := by
  obtain ⟨c, hcategory, -⟩ := category_of_declaration h
  exact (category_iff.1 hcategory).1

/-- What compiling does to the workspace: nothing, or one file is written. -/
inductive Effect (s : Schema) (constructors : Bool) (outDir : String) (w : Workspace) : Prop where
  | nothing : ((s.compile writeFile constructors outDir).run w).2 = w →
    Effect s constructors outDir w
  | written {location : Location} {text : String} : Text.isIdentifier s.name.toList = true →
    w.locate (outputPath outDir s.name) = .ok location →
    ((s.compile writeFile constructors outDir).run w).2 = w.put location (.file text) →
    Effect s constructors outDir w

theorem compile_effect (s : Schema) (constructors : Bool) (outDir : String) (w : Workspace) :
    s.Effect constructors outDir w := by
  cases hdeclared : (s.declaration constructors).value with
  | error refusal => exact .nothing (by rw [compile_of_refused hdeclared])
  | ok text =>
    cases hlocate : w.locate (outputPath outDir s.name) with
    | error fault => exact .nothing (by rw [compile_of_unwritable hdeclared hlocate])
    | ok location =>
      exact .written (isIdentifier_of_declaration hdeclared) hlocate
        (by rw [compile_of_written hdeclared hlocate])

/-- The file of another category makes no difference to what compiling comes to, and stays. -/
theorem compile_put_beside {name : String} {location : Location}
    (hname : Text.isIdentifier name.toList = true)
    (hne : Text.lowercase name ≠ Text.lowercase t.name)
    (hlocation : w.locate (outputPath outDir name) = .ok location) (text : String) :
    (t.compile writeFile constructors outDir).run (w.put location (.file text)) =
      (((t.compile writeFile constructors outDir).run w).1,
        ((t.compile writeFile constructors outDir).run w).2.put location (.file text)) := by
  cases hdeclared : (t.declaration constructors).value with
  | error refusal => rw [compile_of_refused hdeclared, compile_of_refused hdeclared]
  | ok declared =>
    have ht := isIdentifier_of_declaration hdeclared
    have hbeside := Workspace.locate_put_beside hname ht hne hlocation text
    cases hlocate : w.locate (outputPath outDir t.name) with
    | error fault =>
      rw [compile_of_unwritable hdeclared hlocate,
        compile_of_unwritable hdeclared (hbeside.trans hlocate)]
    | ok place =>
      have hapart := Workspace.location_ne hname ht hne hlocation hlocate
      rw [compile_of_written hdeclared hlocate,
        compile_of_written hdeclared (hbeside.trans hlocate), Workspace.put_comm w hapart]

/-- Compiling another category before changes nothing about what compiling comes to, and the two
leave the same workspace in either order. -/
theorem compile_after (wanted : Bool) (hne : Text.lowercase s.name ≠ Text.lowercase t.name) :
    let first := (s.compile writeFile constructors outDir).run
    let second := (t.compile writeFile wanted outDir).run
    second (first w).2 = ((second w).1, (first (second w).2).2) := by
  intro first second
  -- Each of the two puts one file or none, and the places of the files are apart.
  cases compile_effect s constructors outDir w with
  | nothing hs =>
    replace hs : (first w).2 = w := hs
    cases compile_effect t wanted outDir w with
    | nothing ht =>
      replace ht : (second w).2 = w := ht
      rw [hs, ht, hs]
      exact Prod.ext rfl ht
    | @written place text hname hplace ht =>
      replace ht : (second w).2 = w.put place (.file text) := ht
      have hbeside : first (w.put place (.file text)) =
          ((first w).1, (first w).2.put place (.file text)) :=
        compile_put_beside hname (Ne.symm hne) hplace text
      rw [hs, ht, hbeside, hs]
      exact Prod.ext rfl ht
  | @written location text hname hlocation hs =>
    replace hs : (first w).2 = w.put location (.file text) := hs
    have hafter : second (w.put location (.file text)) =
        ((second w).1, (second w).2.put location (.file text)) :=
      compile_put_beside hname hne hlocation text
    rw [hs, hafter]
    cases compile_effect t wanted outDir w with
    | nothing ht =>
      replace ht : (second w).2 = w := ht
      rw [ht, hs]
    | @written place other hother hplace ht =>
      replace ht : (second w).2 = w.put place (.file other) := ht
      have hbeside : first (w.put place (.file other)) =
          ((first w).1, (first w).2.put place (.file other)) :=
        compile_put_beside hother (Ne.symm hne) hplace other
      have hapart := Workspace.location_ne hname hother hne hlocation hplace
      rw [ht, hbeside, hs, Workspace.put_comm w hapart]

theorem compile_ok_iff {path : String} :
    ((s.compile writeFile constructors outDir).run w).1.value = .ok path ↔
      outputPath outDir s.name = path ∧ (∃ text, (s.declaration constructors).value = .ok text) ∧
        ∃ location, w.locate (outputPath outDir s.name) = .ok location := by
  cases hdeclared : (s.declaration constructors).value with
  | error refusal =>
    rw [compile_of_refused hdeclared]
    simp
  | ok text =>
    cases hlocate : w.locate (outputPath outDir s.name) with
    | error fault =>
      rw [compile_of_unwritable hdeclared hlocate]
      simp
    | ok location =>
      rw [compile_of_written hdeclared hlocate]
      simp

/-- A schema that can be compiled overwrites whatever has been written in place of its file. -/
theorem compile_put_same {path : String} {location : Location}
    (hsuccess : ((s.compile writeFile constructors outDir).run w).1.value = .ok path)
    (hlocation : w.locate (outputPath outDir s.name) = .ok location) (text : String) :
    (s.compile writeFile constructors outDir).run (w.put location (.file text)) =
      (s.compile writeFile constructors outDir).run w := by
  obtain ⟨-, ⟨declared, hdeclared⟩, -⟩ := compile_ok_iff.1 hsuccess
  rw [compile_of_written hdeclared hlocation,
    compile_of_written hdeclared (Workspace.locate_put hlocation text), Workspace.put_put]

end

/-- Two schemas whose categories differ in lower case can be compiled in either order: each comes
to the same, with the same path or fault, and the workspace ends up the same. Identifiers that are
equal in lower case share their path, and no others do; then the schema that is compiled last
leaves what it would leave alone, if it can be compiled at all. -/
theorem compile_order (s t : Schema) (constructors wanted : Bool) (outDir : String)
    (w : Workspace) :
    let first := s.compile Workspace.writeFile constructors outDir
    let second := t.compile Workspace.writeFile wanted outDir
    (Text.lowercase s.name ≠ Text.lowercase t.name →
      (do let x ← first; let y ← second; return (x, y)).run w =
        (do let y ← second; let x ← first; return (x, y)).run w) ∧
    (Text.isIdentifier s.name.toList = true → Text.isIdentifier t.name.toList = true →
      (outputPath outDir s.name = outputPath outDir t.name ↔
        Text.lowercase s.name = Text.lowercase t.name)) ∧
    (Text.lowercase s.name = Text.lowercase t.name → ∀ path, (second.run w).1.value = .ok path →
      outputPath outDir s.name = path ∧ (first >>= fun _ => second).run w = second.run w) := by
  intro first second
  refine ⟨fun hne => ?_, outputPath_inj, fun heq path hsuccess => ?_⟩
  · have hafter : second.run (first.run w).2 =
        ((second.run w).1, (first.run (second.run w).2).2) := compile_after wanted hne
    have hbefore : first.run (second.run w).2 =
        ((first.run w).1, (second.run (first.run w).2).2) :=
      compile_after constructors (Ne.symm hne)
    simp only [run_bind, StateT.run_pure]
    rw [hbefore, hafter]
  · have hpath : outputPath outDir s.name = outputPath outDir t.name := by
      rw [outputPath, outputPath, fileName_inj.2 heq]
    refine ⟨hpath.trans (compile_ok_iff.1 hsuccess).1, ?_⟩
    rw [run_bind]
    cases compile_effect s constructors outDir w with
    | nothing hs => rw [show (first.run w).2 = w from hs]
    | @written location text _ hlocation hs =>
      rw [show (first.run w).2 = w.put location (.file text) from hs]
      rw [hpath] at hlocation
      exact compile_put_same hsuccess hlocation text

/-- Two categories that differ, by way of a path that goes up and down again, and two that differ
in case only. -/
theorem compile_order_of_expressions :
    let w := Workspace.empty.put ["work", "out"] .directory
    let expr : Schema := ⟨"Expr", ["Unary | Expr"]⟩
    let stmt : Schema := ⟨"Stmt", ["Ret | Expr"]⟩
    let shout : Schema := ⟨"EXPR", ["Unary | Expr", "Ret | EXPR"]⟩
    let first := expr.compile Workspace.writeFile true "out/../out/"
    let second := stmt.compile Workspace.writeFile false "out/../out/"
    let third := shout.compile Workspace.writeFile false "out/../out/"
    ((do let x ← first; let y ← second; return (x, y)).run w =
      (do let y ← second; let x ← first; return (x, y)).run w) ∧
    outputPath "out/../out/" "Expr" ≠ outputPath "out/../out/" "Stmt" ∧
    outputPath "out/../out/" "Expr" = "out/../out/expr.rs" ∧
    (third.run w).1.value = .ok "out/../out/expr.rs" ∧
    (first >>= fun _ => third).run w = third.run w := by
  intro w expr stmt shout first second third
  have hsuccess : (third.run w).1.value = .ok "out/../out/expr.rs" := by decide +kernel
  have hne : Text.lowercase expr.name ≠ Text.lowercase stmt.name := by decide +kernel
  have heq : Text.lowercase expr.name = Text.lowercase shout.name := by decide +kernel
  obtain ⟨hcomm, hpaths, -⟩ := compile_order expr stmt true false "out/../out/" w
  obtain ⟨-, -, hlast⟩ := compile_order expr shout true false "out/../out/" w
  obtain ⟨hpath, hthird⟩ := hlast heq _ hsuccess
  exact ⟨hcomm hne, mt (hpaths (by decide) (by decide)).1 hne, hpath, hsuccess, hthird⟩

end NodeSchema.Schema
