import NodeSchema.Log.Filter
import NodeSchema.Proofs.FirstFault
import NodeSchema.Proofs.SelfReferences
/-!
# What is told of a category

The lines that are told while a schema is read as a category. In full detail there is a line for
each specification before the first at fault. Only if no specification is at fault, the reports on
nested references follow. At the level for debugging the lines are those that carry its label, and
above it nothing is told.
-/

namespace NodeSchema

-- ---------------------------------------------------------------------------
-- Lines of a level
-- ---------------------------------------------------------------------------

/-- The line carries the label of the level. -/
def Level.labels (level : Level) (line : String) : Bool :=
  level.label.toList.isPrefixOf line.toList

theorem Level.length_label (level : Level) : level.label.toList.length = 5 := by
  cases level <;> rfl

theorem Level.label_injective : Function.Injective label := by
  intro level other h
  cases level <;> cases other <;> first | rfl | exact absurd h (by decide)

/-- Labels are of one length, so none is the start of another. -/
theorem Level.labels_append (level other : Level) (text : String) :
    level.labels (other.label ++ text) = decide (other = level) := by
  rw [Bool.eq_iff_iff, labels, List.isPrefixOf_iff_prefix, String.toList_append,
    decide_eq_true_iff]
  constructor
  · rintro ⟨rest, h⟩
    have hlength := level.length_label.trans other.length_label.symm
    exact label_injective (String.toList_inj.1 (List.append_inj h hlength).1.symm)
  · rintro rfl
    exact List.prefix_append _ _

theorem Level.labels_line (level : Level) (spans : Bool) (e : Event) :
    level.labels (e.line spans) = decide (e.level = level) := by
  simp only [Event.line, String.append_assoc, labels_append]

theorem Level.rank_le_trace (level : Level) : level.rank ≤ trace.rank := by
  cases level <;> decide

theorem Filter.lines_ofLevel (level : Level) (events : List Event) :
    (ofLevel level).lines false events =
      (events.filter fun e => e.level.rank ≤ level.rank).map (Event.line false) := by
  simp only [lines, admits_ofLevel, Bool.false_and, Bool.or_false]

def Variant.parsedLine (category : String) (v : Variant) : String :=
  "TRACE astgen::compile: parsed category=\"" ++ category ++ "\" variant=" ++ v.name ++
    " arity=" ++ toString v.fields.length

def Descriptor.nestedLine (category : String) (d : Descriptor) : String :=
  "DEBUG astgen::lower: nested self-reference left unboxed category=\"" ++ category ++
    "\" field=" ++ d.print

theorem Event.line_parsed (category : String) (v : Variant) :
    (parsed category v.name v.arity).line false = v.parsedLine category := by
  have hhead : "TRACE" ++ " " ++ "" ++ "astgen::compile" ++ ": " ++ "parsed category=\"" =
      "TRACE astgen::compile: parsed category=\"" := by decide +kernel
  have hline : (parsed category v.name v.arity).line false =
      "TRACE" ++ " " ++ "" ++ "astgen::compile" ++ ": " ++ ("parsed category=\"" ++ category ++
        "\" variant=" ++ v.name ++ " arity=" ++ toString v.fields.length) := rfl
  simp only [hline, ← String.append_assoc, hhead]
  rfl

theorem Event.line_leftUnboxed (category : String) (d : Descriptor) :
    (leftUnboxed category d).line false = d.nestedLine category := by
  have hhead : "DEBUG" ++ " " ++ "" ++ "astgen::lower" ++ ": " ++
      "nested self-reference left unboxed category=\"" =
      "DEBUG astgen::lower: nested self-reference left unboxed category=\"" := by decide +kernel
  have hline : (leftUnboxed category d).line false =
      "DEBUG" ++ " " ++ "" ++ "astgen::lower" ++ ": " ++
        ("nested self-reference left unboxed category=\"" ++ category ++ "\" field=" ++
          d.print) := rfl
  simp only [hline, ← String.append_assoc, hhead]
  rfl

namespace Schema

-- ---------------------------------------------------------------------------
-- Events
-- ---------------------------------------------------------------------------

section
variable {s : Schema} {variants : List Variant}

theorem category_eq_of_accepted (hname : Text.isIdentifier s.name.toList = true)
    (h : Accepted s.specs variants) : s.category =
      ⟨variants.map (fun v => .parsed s.name v.name v.arity) ++
        (Category.mk s.name variants).nestedReferences, .ok (Category.box ⟨s.name, variants⟩)⟩ := by
  have hread : readVariants s.name [] (s.specs ++ []) = _ := h.readVariants_append s.name
  rw [List.append_nil] at hread
  simp only [category, hname, if_true, hread, readVariants, Except.map, List.append_nil]

/-- Variants that were read are told first, and after them nested references at most. -/
theorem events_category (s : Schema) : ∃ (read : List Variant) (nested : List Event),
    s.category.events = read.map (fun v => .parsed s.name v.name v.arity) ++ nested ∧
      ∀ e ∈ nested, e.level = .debug := by
  by_cases hname : Text.isIdentifier s.name.toList = true
  · obtain ⟨name, specs⟩ := s
    rcases accepted_or_refused specs with ⟨variants, haccepted⟩ |
      ⟨front, spec, later, variants, cause, rfl, haccepted, hrefused⟩
    · refine ⟨variants, _, congrArg Logged.events (category_eq_of_accepted hname haccepted), ?_⟩
      intro e he
      rw [Category.nestedReferences_eq, List.mem_map] at he
      obtain ⟨f, -, rfl⟩ := he
      rfl
    · refine ⟨variants, [], ?_, by simp⟩
      rw [category_eq_of_refused hname haccepted hrefused, List.append_nil]
  · exact ⟨[], [], by simp [category, hname], by simp⟩

theorem level_of_mem_events {e : Event} (he : e ∈ s.category.events) :
    e.level = .trace ∨ e.level = .debug := by
  obtain ⟨read, nested, hevents, hnested⟩ := events_category s
  rw [hevents, List.mem_append, List.mem_map] at he
  rcases he with ⟨v, -, rfl⟩ | he
  · exact .inl rfl
  · exact .inr (hnested e he)

end

-- ---------------------------------------------------------------------------
-- What is told
-- ---------------------------------------------------------------------------

/-- The lines that are told at a level while the schema is read, and what it is read as. -/
def told (level : Level) (s : Schema) : List String × Except Refusal Category :=
  ((Filter.ofLevel level).lines false s.category.events, s.category.value)

theorem told_trace (s : Schema) :
    (s.told .trace).1 = s.category.events.map (Event.line false) := by
  rw [told, Filter.lines_ofLevel, List.filter_eq_self.2]
  exact fun e _ => decide_eq_true e.level.rank_le_trace

theorem told_debug (s : Schema) :
    (s.told .debug).1 = (s.told .trace).1.filter (Level.labels .debug) := by
  have hsame (e : Event) (he : e ∈ s.category.events) :
      decide (e.level.rank ≤ Level.debug.rank) = Level.debug.labels (e.line false) := by
    rw [Level.labels_line]
    rcases level_of_mem_events he with hlevel | hlevel <;> rw [hlevel] <;> rfl
  rw [told_trace, List.filter_map, told, Filter.lines_ofLevel]
  exact congrArg (List.map _) (List.filter_congr hsame)

theorem told_of_rank_le {level : Level} (h : level.rank ≤ Level.info.rank) (s : Schema) :
    (s.told level).1 = [] := by
  rw [told, Filter.lines_ofLevel, List.map_eq_nil_iff, List.filter_eq_nil_iff]
  intro e he
  have hfiner : Level.info.rank < e.level.rank := by
    rcases level_of_mem_events he with hlevel | hlevel <;> rw [hlevel] <;> decide
  rw [decide_eq_true_iff]
  exact Nat.not_le_of_lt (Nat.lt_of_le_of_lt h hfiner)

/-- The line tells that the specification was read, with its name and number of fields. -/
def Tells (category spec line : String) : Prop :=
  ∃ v, Variant.read spec = .ok v ∧ line = v.parsedLine category

theorem Accepted.tells {specs : List String} {variants : List Variant}
    (h : Accepted specs variants) (category : String) :
    List.Forall₂ (Tells category) specs (variants.map (Variant.parsedLine category)) :=
  List.forall₂_map_right_iff.2 (h.read.imp fun _ v hread => ⟨v, hread, rfl⟩)

theorem map_line_parsed (category : String) (variants : List Variant) :
    (variants.map fun v => .parsed category v.name v.arity).map (Event.line false) =
      variants.map (Variant.parsedLine category) := by
  rw [List.map_map]
  exact List.map_congr_left fun v _ => Event.line_parsed category v

/-- Of the fields as they are declared, those that are reported are unboxed and mention the
category. -/
theorem map_line_nestedReferences (c : Category) :
    c.nestedReferences.map (Event.line false) =
      ((c.box.variants.flatMap Variant.fields).filter fun f =>
        !f.boxed && f.type.mentions c.name).map fun f => f.type.nestedLine c.name := by
  have hfields : c.box.variants.flatMap Variant.fields =
      (c.variants.flatMap Variant.fields).map (Field.boxFor c.name) := by
    rw [Category.box, List.flatMap_map, List.map_flatMap]
    rfl
  rw [hfields, List.filter_map, List.map_map, Category.nestedReferences_eq, List.map_map]
  exact List.map_congr_left fun f _ => Event.line_leftUnboxed c.name f.type

theorem told_of_category {s : Schema} {c : Category} (h : s.category.value = .ok c) :
    ∃ parsed, List.Forall₂ (Tells s.name) s.specs parsed ∧
      (s.told .trace).1 = parsed ++ ((c.variants.flatMap Variant.fields).filter fun f =>
        !f.boxed && f.type.mentions s.name).map fun f => f.type.nestedLine s.name := by
  obtain ⟨hname, variants, hread, hapart, rfl⟩ := category_iff.1 h
  have haccepted : Accepted s.specs variants := ⟨hread, hapart⟩
  refine ⟨_, haccepted.tells s.name, ?_⟩
  rw [told_trace, category_eq_of_accepted hname haccepted, List.map_append, map_line_parsed,
    map_line_nestedReferences]

theorem told_of_isLeast {s : Schema} {k : Nat} (hname : Text.isIdentifier s.name.toList = true)
    (hleast : IsLeast {j | AtFault s.specs j} k) :
    List.Forall₂ (Tells s.name) (s.specs.take k) (s.told .trace).1 ∧
      (s.told .trace).1.length = k ∧ ∃ spec cause, s.specs[k]? = some spec ∧
      Blamed s.specs k spec cause ∧ ∀ level, (s.told level).2 = .error ⟨s.name, spec, cause⟩ := by
  obtain ⟨name, specs⟩ := s
  rcases accepted_or_refused specs with ⟨variants, haccepted⟩ |
    ⟨front, spec, later, variants, cause, rfl, haccepted, hrefused⟩
  · exact absurd hleast.1 ((haccepted.wellFormed hname).not_atFault k)
  · obtain rfl := hleast.unique (isLeast_atFault haccepted hrefused)
    have htrace : ((Schema.mk name (front ++ spec :: later)).told .trace).1 =
        variants.map (Variant.parsedLine name) := by
      rw [told_trace, category_eq_of_refused hname haccepted hrefused, map_line_parsed]
    rw [htrace, List.take_left, List.length_map]
    exact ⟨haccepted.tells name, haccepted.read.length_eq.symm, spec, cause, by simp,
      hrefused.blamed haccepted later, fun _ => category_of_refused hname haccepted hrefused⟩

/-- At every level a schema is read as a category exactly if it is well-formed, and as the same
one. For debugging those lines of the trace are told that carry the label of this level, and less
detailed levels tell nothing. The trace of a schema that stands for a category has one line for
each specification, and after these one for each field that mentions the category and is declared
unboxed. If there is a first specification at fault, the trace has a line for each one before it
and no others, and this one is refused at every level. If the name is no identifier, there are no
lines, and the name is refused. -/
theorem category_lines (s : Schema) :
    (∀ level, ((∃ c, (s.told level).2 = .ok c) ↔ s.WellFormed) ∧
      ∀ other, (s.told level).2 = (s.told other).2) ∧
    (s.told .debug).1 = (s.told .trace).1.filter (Level.labels .debug) ∧
    (∀ level, level.rank ≤ Level.info.rank → (s.told level).1 = []) ∧
    (∀ level c, (s.told level).2 = .ok c → ∃ parsed,
      List.Forall₂ (Tells s.name) s.specs parsed ∧
      (s.told .trace).1 = parsed ++ ((c.variants.flatMap Variant.fields).filter fun f =>
        !f.boxed && f.type.mentions s.name).map fun f => f.type.nestedLine s.name) ∧
    (∀ k, Text.isIdentifier s.name.toList = true → IsLeast {j | AtFault s.specs j} k →
      List.Forall₂ (Tells s.name) (s.specs.take k) (s.told .trace).1 ∧
      (s.told .trace).1.length = k ∧ ∃ spec cause, s.specs[k]? = some spec ∧
      Blamed s.specs k spec cause ∧ ∀ level, (s.told level).2 = .error ⟨s.name, spec, cause⟩) ∧
    (Text.isIdentifier s.name.toList = false → (s.told .trace).1 = [] ∧
      ∀ level, (s.told level).2 = .error ⟨s.name, s.name, .invalidIdentifier s.name⟩) := by
  refine ⟨fun _ => ⟨exists_category_iff.trans wellFormed_iff_accepted.symm, fun _ => rfl⟩,
    told_debug s, fun _ h => told_of_rank_le h s, fun _ _ => told_of_category,
    fun _ => told_of_isLeast, fun hname => ?_⟩
  have hrefused : s.category = ⟨[], .error ⟨s.name, s.name, .invalidIdentifier s.name⟩⟩ := by
    simp [category, hname]
  exact ⟨by rw [told_trace, hrefused]; rfl, fun _ => congrArg Logged.value hrefused⟩

/-- The field that is boxed is not reported, and the type of the other is told in its canonical
form. The second schema repeats a name, so its nested reference is not reported either. -/
theorem category_lines_of_nested_field :
    let s : Schema := ⟨"Expr", ["Pair | Expr, Vec< Expr >", "Name | Token"]⟩
    let repeated : Schema := ⟨"Expr", ["Pair | Expr, Vec< Expr >", "Pair | Token", "Name"]⟩
    let nested :=
      "DEBUG astgen::lower: nested self-reference left unboxed category=\"Expr\" field=Vec<Expr>"
    (∃ parsed, List.Forall₂ (Tells "Expr") s.specs parsed ∧
      (s.told .trace).1 = parsed ++ [nested]) ∧ (s.told .debug).1 = [nested] ∧
      IsLeast {j | AtFault repeated.specs j} 1 ∧
      (repeated.told .trace).1 =
        ["TRACE astgen::compile: parsed category=\"Expr\" variant=Pair arity=2"] ∧
      (repeated.told .debug).1 = [] ∧ ((Schema.mk "1" ["Pair"]).told .trace).1 = [] := by
  intro s repeated nested
  let pair : Variant := ⟨"Pair", [⟨"Expr", .name "Expr", false⟩,
    ⟨"Vec< Expr >", .generic "Vec" [.name "Expr"], false⟩]⟩
  let name : Variant := ⟨"Name", [⟨"Token", .name "Token", false⟩]⟩
  have hpair : Variant.read "Pair | Expr, Vec< Expr >" = .ok pair := by decide +kernel
  obtain ⟨-, hdebug, -, hlines, -⟩ := category_lines s
  obtain ⟨parsed, hparsed, htrace⟩ :=
    hlines .trace (Category.box ⟨"Expr", [pair, name]⟩) (by decide +kernel)
  have haccepted : Accepted ["Pair | Expr, Vec< Expr >"] [pair] := ⟨.cons hpair .nil, by decide⟩
  have hrefused : Refused ["Pair"] "Pair | Token" (.duplicateVariant "Pair" 0) :=
    .repeated (v := ⟨"Pair", [⟨"Token", .name "Token", false⟩]⟩) (by decide +kernel) (by decide)
  have hleast : IsLeast {j | AtFault repeated.specs j} 1 := isLeast_atFault haccepted hrefused
  obtain ⟨-, hrepeated, -, -, hfault, -⟩ := category_lines repeated
  have hone : (repeated.told .trace).1 =
      ["TRACE astgen::compile: parsed category=\"Expr\" variant=Pair arity=2"] := by
    obtain ⟨htells, -⟩ := hfault 1 (by decide) hleast
    obtain ⟨line, others, ⟨v, hv, rfl⟩, hothers, heq⟩ := List.forall₂_cons_left_iff.1 htells
    obtain rfl : pair = v := Except.ok.inj (hpair.symm.trans hv)
    rw [heq, List.forall₂_nil_left_iff.1 hothers]
    decide +kernel
  refine ⟨⟨parsed, hparsed, ?_⟩, hdebug.trans (by decide +kernel), hleast, hone, ?_,
    ((category_lines ⟨"1", ["Pair"]⟩).2.2.2.2.2 (by decide)).1⟩
  · rw [htrace]
    exact congrArg (parsed ++ ·) (by decide +kernel)
  · rw [hrepeated, hone]
    decide

end Schema

end NodeSchema
