import NodeSchema.Descriptor.Walk
/-!
# Limits of readings by positions

A limit only decides whether a reading comes to an end: one that ends within a limit ends the same
within any greater one (`walk?_of_le`).
-/

namespace NodeSchema.Descriptor

variable {α β : Type} {text : List Char} {limit larger : Nat}

/-- Where the first reading ends, the other one ends the same. -/
def Walk.EndsAs (x y : Walk α) : Prop :=
  ∀ cursor ending, x.run.run cursor = some ending → y.run.run cursor = some ending

namespace Walk.EndsAs

theorem refl (x : Walk α) : x.EndsAs x := fun _ _ h => h

theorem unended (x : Walk α) : Walk.unended.EndsAs x := fun _ _ h => nomatch h

theorem bind {x y : Walk α} {f g : α → Walk β} (hx : x.EndsAs y) (hf : ∀ v, (f v).EndsAs (g v)) :
    (x >>= f).EndsAs (y >>= g) := by
  intro cursor ending h
  rw [ExceptT.run_bind, StateT.run_bind] at h ⊢
  cases hrun : x.run.run cursor with
  | none =>
    rw [hrun] at h
    cases h
  | some first =>
    obtain ⟨result, after⟩ := first
    rw [hrun] at h
    rw [hx cursor _ hrun]
    cases result with
    | error halt => exact h
    | ok v => exact hf v after ending h

theorem ite {p : Prop} [Decidable p] {x y u v : Walk α} (hx : x.EndsAs y) (hu : u.EndsAs v) :
    (if p then x else u).EndsAs (if p then y else v) := by
  split
  · exact hx
  · exact hu

end Walk.EndsAs

open Walk.EndsAs

theorem passWhile_endsAs (p : Char → Bool) : {limit larger : Nat} → limit ≤ larger →
    (Walk.passWhile p text limit).EndsAs (Walk.passWhile p text larger)
  | 0, _, _ => unended _
  | limit + 1, larger + 1, h => by
    refine bind (refl _) fun next => ?_
    cases next with
    | none => exact refl _
    | some c => exact ite (bind (refl _) fun _ => passWhile_endsAs p (Nat.le_of_succ_le_succ h)) (refl _)

section
variable (h : limit ≤ larger)
include h

theorem accept_endsAs (wanted : Char) :
    (Walk.accept limit text wanted).EndsAs (Walk.accept larger text wanted) :=
  bind (passWhile_endsAs _ h) fun _ => refl _

theorem expect_endsAs (wanted : Char) :
    (Walk.expect limit text wanted).EndsAs (Walk.expect larger text wanted) :=
  bind (accept_endsAs h wanted) fun _ => refl _

theorem path_endsAs : (Walk.path limit text).EndsAs (Walk.path larger text) := by
  have hrun : (Walk.pathRun limit text).EndsAs (Walk.pathRun larger text) :=
    bind (passWhile_endsAs _ h) fun _ => bind (refl _) fun _ =>
      bind (passWhile_endsAs _ h) fun _ => refl _
  exact bind hrun fun _ => refl _

theorem either_endsAs {x y : Walk (List Descriptor)} (hmany : x.EndsAs y) :
    (Walk.either limit text x).EndsAs (Walk.either larger text y) := by
  have htuple : (Walk.tuple limit text x).EndsAs (Walk.tuple larger text y) :=
    bind (accept_endsAs h ')') fun _ => ite (refl _) (bind hmany fun _ =>
      bind (expect_endsAs h ')') fun _ => refl _)
  have hnamed : (Walk.named limit text x).EndsAs (Walk.named larger text y) :=
    bind (path_endsAs h) fun _ => bind (accept_endsAs h '<') fun _ =>
      ite (bind hmany fun _ => bind (expect_endsAs h '>') fun _ => refl _) (refl _)
  exact bind (accept_endsAs h '(') fun _ => ite htuple hnamed

end

mutual
theorem one_endsAs (h : limit ≤ larger) : {depth deeper : Nat} → depth ≤ deeper →
    (outer : List Nat) → (Walk.one limit text depth outer).EndsAs (Walk.one larger text deeper outer)
  | 0, _, _, _ => unended _
  | _ + 1, _ + 1, hdepth, outer => by
    have hnested := Nat.le_of_succ_le_succ hdepth
    refine bind (refl _) fun cursor => bind (refl _) fun _ => bind (passWhile_endsAs _ h) fun _ => ?_
    have hmany := many_endsAs h hnested (cursor.position :: outer)
    exact bind (either_endsAs h hmany) fun _ => refl _

theorem many_endsAs (h : limit ≤ larger) : {depth deeper : Nat} → depth ≤ deeper →
    (outer : List Nat) →
      (Walk.many limit text depth outer).EndsAs (Walk.many larger text deeper outer)
  | 0, _, _, _ => unended _
  | _ + 1, _ + 1, hdepth, outer => by
    have hitems := items_endsAs h (Nat.le_of_succ_le_succ hdepth) outer
    exact bind (refl _) fun _ => bind (refl _) fun _ => bind hitems fun _ => refl _

theorem items_endsAs (h : limit ≤ larger) : {depth deeper : Nat} → depth ≤ deeper →
    (outer : List Nat) →
      (Walk.items limit text depth outer).EndsAs (Walk.items larger text deeper outer)
  | 0, _, _, _ => unended _
  | _ + 1, _ + 1, hdepth, outer => by
    have hfirst := one_endsAs h (Nat.le_of_succ_le_succ hdepth) outer
    have hothers := items_endsAs h (Nat.le_of_succ_le_succ hdepth) outer
    refine bind hfirst fun _ => bind (accept_endsAs h ',') fun _ => ?_
    exact ite (bind hothers fun _ => refl _) (refl _)
end

/-- A limit does not change what a reading comes to that ends within it. -/
theorem walk?_of_le {ending : Except Halt Descriptor × Cursor} (h : limit ≤ larger)
    (hwalk : walk? limit text = some ending) : walk? larger text = some ending := by
  have hread : (Walk.read limit text).EndsAs (Walk.read larger text) :=
    bind (one_endsAs h h []) fun _ => bind (passWhile_endsAs _ h) fun _ => refl _
  exact hread _ _ hwalk

end NodeSchema.Descriptor
