import Mathlib.Data.List.Nodup
import NodeSchema.Schema
import NodeSchema.Proofs.VariantReading
/-!
# The reader of schemas

A schema stands for a category exactly if its name is an identifier, every specification is
read as a variant and no two variants share a name. The category has these variants, in the
order of the specifications, with its own fields boxed.
-/

namespace NodeSchema

theorem map_eq_map_of_forall₂ {α β γ : Type} {f : α → γ} {g : β → γ} {as : List α} {bs : List β}
    (h : List.Forall₂ (fun a b => f a = g b) as bs) : as.map f = bs.map g := by
  induction h with
  | nil => rfl
  | cons hab _ ih => rw [List.map_cons, List.map_cons, hab, ih]

namespace Schema

theorem readVariants_cons_iff {category spec : String} {earlier specs : List String}
    {variants : List Variant} :
    (readVariants category earlier (spec :: specs)).value = .ok variants ↔
      ∃ v others, variants = v :: others ∧ Variant.read spec = .ok v ∧ v.name ∉ earlier ∧
        (readVariants category (earlier ++ [v.name]) specs).value = .ok others := by
  rw [readVariants]
  cases hread : Variant.read spec with
  | error cause => simp
  | ok v =>
    dsimp only
    cases hfirst : earlier.idxOf? v.name with
    | some first =>
      have hmem : v.name ∈ earlier := by
        by_contra h
        rw [List.idxOf?_eq_none_iff.2 h] at hfirst
        cases hfirst
      simp [hmem]
    | none =>
      have hnot := List.idxOf?_eq_none_iff.1 hfirst
      cases hothers : (readVariants category (earlier ++ [v.name]) specs).value with
      | error refusal => simp [hothers]
      | ok others => simp [hothers, hnot, eq_comm]

/-- The variants read before constrain those that follow by their names only. -/
theorem readVariants_iff {category : String} {earlier specs : List String}
    {variants : List Variant} :
    (readVariants category earlier specs).value = .ok variants ↔
      List.Forall₂ (fun spec v => Variant.read spec = .ok v) specs variants ∧
        (∀ v ∈ variants, v.name ∉ earlier) ∧ (variants.map Variant.name).Nodup := by
  induction specs generalizing earlier variants with
  | nil =>
    rw [readVariants, List.forall₂_nil_left_iff]
    constructor
    · rintro ⟨⟩
      exact ⟨rfl, by simp, .nil⟩
    · rintro ⟨rfl, -, -⟩
      rfl
  | cons spec specs ih =>
    rw [readVariants_cons_iff, List.forall₂_cons_left_iff]
    constructor
    · rintro ⟨v, others, rfl, hread, hnot, hothers⟩
      obtain ⟨hall, hapart, hnodup⟩ := ih.1 hothers
      refine ⟨⟨v, others, hread, hall, rfl⟩, ?_, ?_⟩
      · rintro w (_ | ⟨_, hw⟩)
        · exact hnot
        · exact fun h => hapart w hw (List.mem_append_left _ h)
      · rw [List.map_cons, List.nodup_cons, List.mem_map]
        refine ⟨?_, hnodup⟩
        rintro ⟨w, hw, hname⟩
        exact hapart w hw (by simp [hname])
    · rintro ⟨⟨v, others, hread, hall, rfl⟩, hapart, hnodup⟩
      rw [List.map_cons, List.nodup_cons, List.mem_map] at hnodup
      refine ⟨v, others, rfl, hread, hapart v List.mem_cons_self, ih.2 ⟨hall, ?_, hnodup.2⟩⟩
      intro w hw hmem
      rcases List.mem_append.1 hmem with h | h
      · exact hapart w (List.mem_cons_of_mem _ hw) h
      · exact hnodup.1 ⟨w, hw, List.mem_singleton.1 h⟩

theorem category_iff {s : Schema} {c : Category} :
    s.category.value = .ok c ↔ Text.isIdentifier s.name.toList = true ∧ ∃ variants,
      List.Forall₂ (fun spec v => Variant.read spec = .ok v) s.specs variants ∧
        (variants.map Variant.name).Nodup ∧ c = Category.box ⟨s.name, variants⟩ := by
  have hread (variants : List Variant) :
      (readVariants s.name [] s.specs).value = .ok variants ↔
        List.Forall₂ (fun spec v => Variant.read spec = .ok v) s.specs variants ∧
          (variants.map Variant.name).Nodup := by
    simp [readVariants_iff]
  rw [category]
  split
  · next hname =>
    dsimp only
    cases hvalue : (readVariants s.name [] s.specs).value with
    | error refusal =>
      constructor
      · intro h
        cases h
      · rintro ⟨-, variants, hall, hnodup, -⟩
        rw [(hread variants).2 ⟨hall, hnodup⟩] at hvalue
        cases hvalue
    | ok variants =>
      obtain ⟨hall, hnodup⟩ := (hread variants).1 hvalue
      constructor
      · intro h
        cases h
        exact ⟨hname, variants, hall, hnodup, rfl⟩
      · rintro ⟨-, others, hothers, hnodup', rfl⟩
        rw [(hread others).2 ⟨hothers, hnodup'⟩] at hvalue
        cases hvalue
        rfl
  · next hname =>
    constructor
    · intro h
      cases h
    · rintro ⟨h, -⟩
      exact absurd h hname

theorem category_of_declaration {s : Schema} {constructors : Bool} {text : String}
    (h : (s.declaration constructors).value = .ok text) :
    ∃ c, s.category.value = .ok c ∧ text = c.declaration constructors := by
  rw [declaration] at h
  dsimp only at h
  cases hcategory : s.category.value with
  | error refusal => simp [hcategory] at h
  | ok c =>
    simp only [hcategory] at h
    split at h
    · cases h
    · cases h
      exact ⟨c, rfl, rfl⟩

theorem declaration_false_iff {s : Schema} {text : String} :
    (s.declaration false).value = .ok text ↔
      ∃ c, s.category.value = .ok c ∧ text = c.declaration false := by
  rw [declaration]
  cases s.category.value with
  | error refusal => simp
  | ok c => simp [eq_comm]

end Schema

end NodeSchema
