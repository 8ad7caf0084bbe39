import NodeSchema.Category
/-!
# Boxing under one name after another

Boxing sees what is written of a category and its name, and decides from them alone which fields
are boxed. It keeps what is written. So a category that was boxed under other names before ends up
as if it had been boxed under its last name only (`boxUnder_last`).

Nothing is assumed of the category: the text, the type and the flag of a field need not fit
together.
-/

namespace NodeSchema.Category

/-- What is written of the variants, in their order: their names, and the texts and types of their
fields. -/
def written (c : Category) : List (String × List (String × Descriptor)) :=
  c.variants.map fun v => (v.name, v.fields.map fun f => (f.text, f.type))

/-- Exactly the fields are boxed whose type is the bare name of the category. -/
def Boxed (c : Category) : Prop :=
  ∀ v ∈ c.variants, ∀ f ∈ v.fields, f.boxed = true ↔ f.type = .name c.name

section
variable {c d : Category}

theorem written_box (c : Category) : c.box.written = c.written := by
  simp [written, box, Variant.boxFor, Function.comp_def]

theorem boxed_box (c : Category) : c.box.Boxed := by
  intro v hv f hf
  obtain ⟨u, -, rfl⟩ := List.mem_map.1 hv
  obtain ⟨g, -, rfl⟩ := List.mem_map.1 hf
  exact Descriptor.isName_iff

theorem Boxed.box_eq (h : c.Boxed) : c.box = c := by
  have hfield : ∀ v ∈ c.variants, ∀ f ∈ v.fields, f.boxFor c.name = f := by
    intro v hv f hf
    have hflag : f.type.isName c.name = f.boxed := by
      rw [Bool.eq_iff_iff, Descriptor.isName_iff, h v hv f hf]
    rw [Field.boxFor, hflag]
  have hvariant : ∀ v ∈ c.variants, v.boxFor c.name = v := by
    intro v hv
    rw [Variant.boxFor, List.map_congr_left (hfield v hv), List.map_id']
  rw [box, List.map_congr_left hvariant, List.map_id']

theorem variants_box (c : Category) : c.box.variants = c.written.map fun (variant, fields) =>
    ⟨variant, fields.map fun (text, type) => ⟨text, type, type.isName c.name⟩⟩ := by
  simp [box, written, Variant.boxFor, Field.boxFor, Function.comp_def]

/-- Which fields were boxed before does not matter. -/
theorem box_eq_of_written (hname : c.name = d.name) (hwritten : c.written = d.written) :
    c.box = d.box := by
  show Category.mk c.name c.box.variants = ⟨d.name, d.box.variants⟩
  rw [variants_box, variants_box, hname, hwritten]

theorem nestedReferences_eq_written (c : Category) :
    c.nestedReferences = c.written.flatMap fun (_, fields) =>
      ((fields.map Prod.snd).filter fun type => !type.isName c.name && type.mentions c.name).map
        (.leftUnboxed c.name) := by
  simp only [nestedReferences, written, List.flatMap_map, List.filter_map, List.map_map]
  rfl

theorem nestedReferences_eq_of_written (hname : c.name = d.name)
    (hwritten : c.written = d.written) : c.nestedReferences = d.nestedReferences := by
  rw [nestedReferences_eq_written, nestedReferences_eq_written, hname, hwritten]

/-- Boxing gives the only category of the same name and writing in which the right fields are
boxed. -/
theorem eq_box_iff : d = c.box ↔ d.name = c.name ∧ d.written = c.written ∧ d.Boxed := by
  constructor
  · rintro rfl
    exact ⟨rfl, written_box c, boxed_box c⟩
  · rintro ⟨hname, hwritten, hboxed⟩
    exact hboxed.box_eq.symm.trans (box_eq_of_written hname hwritten)

/-- Every name has the same effect as it would have had first. -/
theorem boxUnder_eq_map (c : Category) (names : List String) :
    c.boxUnder names = names.map fun name => (c.rename name).box := by
  induction names generalizing c with
  | nil => rfl
  | cons first names ih =>
    have hforgets (name : String) :
        ((c.rename first).box.rename name).box = (c.rename name).box :=
      box_eq_of_written rfl (written_box (c.rename first))
    simp only [boxUnder, ih, List.map_cons, hforgets]

theorem written_last (c : Category) (names : List String) :
    ((c.boxUnder names).getLastD c).written = c.written := by
  rw [boxUnder_eq_map]
  rcases List.eq_nil_or_concat names with rfl | ⟨front, name, rfl⟩
  · rfl
  · rw [List.concat_eq_append, List.map_append, List.map_singleton, List.getLastD_concat]
    exact written_box (c.rename name)

end

/-- A category that is boxed under one name after another ends up as if it had been boxed under the
last one only, and the last time reports what the only time would report. It is the one category of
this name with the variants and fields as they were written before, in which a field is boxed
exactly if its type is the bare name. Boxing it again changes nothing. -/
theorem boxUnder_last (c : Category) (names : List String) (last : String) :
    let once := (c.rename last).box
    let earlier := (c.boxUnder names).getLastD c
    (c.boxUnder (names ++ [last])).getLast? = some once ∧ once.box = once ∧
      (∀ d : Category, d = once ↔ d.name = last ∧ d.written = c.written ∧ d.Boxed) ∧
      (earlier.rename last).box = once ∧
      (earlier.rename last).nestedReferences = (c.rename last).nestedReferences := by
  intro once earlier
  have hearlier : earlier.written = c.written := written_last c names
  refine ⟨?_, (boxed_box _).box_eq, fun d => eq_box_iff, box_eq_of_written rfl hearlier,
    nestedReferences_eq_of_written rfl hearlier⟩
  rw [boxUnder_eq_map, List.map_append, List.map_singleton, List.getLast?_concat]

end NodeSchema.Category
