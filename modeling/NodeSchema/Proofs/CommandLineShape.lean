import Mathlib.Algebra.BigOperators.Group.List.Basic
import Mathlib.Algebra.GroupWithZero.Nat
import Mathlib.Data.List.TakeWhile
import NodeSchema.Program
import NodeSchema.Proofs.Verbosity
/-!
# The shape of a command line

A command line is read from left to right, but what it must look like has no order: before two
dashes alone every flag is a known one, at most one of them asks for constructor functions, and
what is no flag is one output directory (`Invocation.read_shape`). So the arguments before two
dashes may change places.

A request for help or for the version has no shape here, for it asks for no run.
-/

namespace NodeSchema

-- ---------------------------------------------------------------------------
-- The parts of a command line
-- ---------------------------------------------------------------------------

def beforeDashes (arguments : List String) : List String := arguments.takeWhile (· ≠ "--")

def afterDashes (arguments : List String) : List String := (arguments.dropWhile (· ≠ "--")).tail

def isFlag (text : String) : Bool :=
  match text.toList with
  | '-' :: _ :: _ => true
  | _ => false

/-- The arguments that are no flags, and everything after two dashes alone. -/
def positionals (arguments : List String) : List String :=
  (beforeDashes arguments).filter (!isFlag ·) ++ afterDashes arguments

/-- How often an argument asks for more: once if it is the whole word, and once by each letter. -/
def requests (text : String) : Nat :=
  match text.toList with
  | '-' :: '-' :: word => if word = "verbose".toList then 1 else 0
  | '-' :: letters => letters.count 'v'
  | _ => 0

theorem asksForMore_iff {text : String} :
    asksForMore text = true ↔
      text = "--verbose" ∨ ∃ n, text.toList = '-' :: List.replicate (n + 1) 'v' := by
  rw [asksForMore, ← String.toList_inj]
  split
  · next word htext => simp [htext, List.replicate_succ]
  · next letters htext =>
    simp only [htext, List.all_eq_true, beq_iff_eq, List.replicate_succ, List.cons.injEq, true_and]
    constructor
    · exact fun hall => .inr ⟨letters.length, List.eq_replicate_of_mem hall⟩
    · rintro (hword | ⟨n, rfl⟩)
      · simp at hword
      · exact fun c hc => List.eq_of_mem_replicate hc
  · next hword hletters =>
    simp only [Bool.false_eq_true, false_iff, not_or, not_exists]
    refine ⟨fun h => hword "verbose".toList h, fun n h => hletters (List.replicate n 'v') ?_⟩
    rw [h, List.replicate_succ]

theorem requests_of_letters {text : String} {n : Nat}
    (h : text.toList = '-' :: List.replicate (n + 1) 'v') : requests text = n + 1 := by
  simp [requests, h, List.replicate_succ]

theorem isFlag_of_asksForMore {text : String} (h : asksForMore text = true) :
    isFlag text = true := by
  rcases asksForMore_iff.1 h with rfl | ⟨n, htext⟩
  · decide
  · simp [isFlag, htext, List.replicate_succ]

/-- What an argument does that is accepted. -/
inductive Arguments.Takes (a : Arguments) : String → Arguments → Prop where
  | constructors : a.outDir ≠ some "" → a.constructors = false →
    Takes a "--constructors" { a with constructors := true }
  | more {text : String} : asksForMore text = true → a.outDir ≠ some "" →
    Takes a text { a with verbosity := min verbosityLimit (a.verbosity + requests text) }
  | outDir {text : String} : isFlag text = false → a.outDir = none →
    Takes a text { a with outDir := some text }

-- ---------------------------------------------------------------------------
-- One argument
-- ---------------------------------------------------------------------------

namespace Flag

theorem ofLetter?_eq_verbose_iff {c : Char} : ofLetter? c = some .verbose ↔ c = 'v' := by
  rw [ofLetter?.eq_def]
  split <;> simp_all

theorem ofLetter?_ne_constructors {c : Char} : ofLetter? c ≠ some .constructors := by
  rw [ofLetter?.eq_def]
  split <;> simp

theorem ofWord?_eq_verbose_iff {s : String} : ofWord? s = some .verbose ↔ s = "verbose" := by
  rw [ofWord?.eq_def]
  split <;> simp_all

theorem ofWord?_eq_constructors_iff {s : String} :
    ofWord? s = some .constructors ↔ s = "constructors" := by
  rw [ofWord?.eq_def]
  split <;> simp_all

end Flag

namespace Arguments

variable {a b : Arguments} {text : String} {before after : List String} {i : Invocation}

theorem flag_eq_ok_iff {f : Flag} :
    a.flag f = .ok b ↔ a.outDir ≠ some "" ∧
      (f = .verbose ∧ b = { a with verbosity := min verbosityLimit (a.verbosity + 1) } ∨
        f = .constructors ∧ a.constructors = false ∧ b = { a with constructors := true }) := by
  rw [flag.eq_def]
  split
  · next hdir => simp [hdir]
  · next hdir =>
    cases f with
    | help => simp
    | version => simp
    | verbose => simp [hdir, eq_comm (a := b)]
    | constructors =>
      dsimp only
      split
      · next hfirst => simp [hfirst]
      · next hfirst => simp [hdir, hfirst, eq_comm (a := b)]

theorem letters_cons_iff {c : Char} {rest : List Char} :
    a.letters (c :: rest) = .ok b ↔
      ∃ f next, Flag.ofLetter? c = some f ∧ a.flag f = .ok next ∧ next.letters rest = .ok b := by
  rw [letters]
  cases hletter : Flag.ofLetter? c with
  | none => simp
  | some f => cases hflag : a.flag f <;> simp [hflag]

theorem letter_iff {c : Char} :
    (∃ f, Flag.ofLetter? c = some f ∧ a.flag f = .ok b) ↔ a.outDir ≠ some "" ∧ c = 'v' ∧
      b = { a with verbosity := min verbosityLimit (a.verbosity + 1) } := by
  constructor
  · rintro ⟨f, hletter, hflag⟩
    obtain ⟨hdir, ⟨rfl, hb⟩ | ⟨rfl, -⟩⟩ := flag_eq_ok_iff.1 hflag
    · exact ⟨hdir, Flag.ofLetter?_eq_verbose_iff.1 hletter, hb⟩
    · exact absurd hletter Flag.ofLetter?_ne_constructors
  · rintro ⟨hdir, hc, hb⟩
    exact ⟨.verbose, Flag.ofLetter?_eq_verbose_iff.2 hc, flag_eq_ok_iff.2 ⟨hdir, .inl ⟨rfl, hb⟩⟩⟩

theorem letters_eq_ok_iff {c : Char} {rest : List Char} :
    a.letters (c :: rest) = .ok b ↔ a.outDir ≠ some "" ∧ (∀ d ∈ c :: rest, d = 'v') ∧
      b = { a with verbosity := min verbosityLimit (a.verbosity + (rest.length + 1)) } := by
  induction rest generalizing a c with
  | nil =>
    rw [letters_cons_iff, List.forall_mem_singleton, List.length_nil, Nat.zero_add, ← letter_iff]
    simp [letters]
  | cons d rest ih =>
    have hcount : min verbosityLimit (min verbosityLimit (a.verbosity + 1) + (rest.length + 1)) =
        min verbosityLimit (a.verbosity + ((d :: rest).length + 1)) := by
      simp only [List.length_cons]
      omega
    rw [letters_cons_iff, List.forall_mem_cons]
    constructor
    · rintro ⟨f, next, hletter, hflag, hrest⟩
      obtain ⟨hdir, hc, rfl⟩ := letter_iff.1 ⟨f, hletter, hflag⟩
      obtain ⟨-, hall, hb⟩ := ih.1 hrest
      exact ⟨hdir, ⟨hc, hall⟩, hcount ▸ hb⟩
    · rintro ⟨hdir, ⟨hc, hall⟩, hb⟩
      obtain ⟨f, hletter, hflag⟩ := letter_iff.2 ⟨hdir, hc, rfl⟩
      exact ⟨f, _, hletter, hflag, ih.2 ⟨hdir, hall, hcount.symm ▸ hb⟩⟩

theorem word_iff {word : List Char} :
    a.word word = .ok b ↔ a.outDir ≠ some "" ∧
      (word = "verbose".toList ∧ b = { a with verbosity := min verbosityLimit (a.verbosity + 1) } ∨
        word = "constructors".toList ∧ a.constructors = false ∧
          b = { a with constructors := true }) := by
  rw [Arguments.word]
  by_cases hvalue : '=' ∈ word
  · -- No flag has a name with an equals sign.
    have hverbose : word ≠ "verbose".toList := by
      rintro rfl
      exact absurd hvalue (by decide)
    have hconstructors : word ≠ "constructors".toList := by
      rintro rfl
      exact absurd hvalue (by decide)
    simp only [hvalue, if_true, hverbose, hconstructors, false_and, or_self, and_false, iff_false]
    split <;> simp
  · have hname : word.takeWhile (· != '=') = word := by
      rw [List.takeWhile_eq_self_iff]
      intro c hc
      simp only [bne_iff_ne]
      rintro rfl
      exact hvalue hc
    rw [hname]
    have hverbose : String.ofList word = "verbose" ↔ word = "verbose".toList := by
      rw [← String.toList_inj, String.toList_ofList]
    have hconstructors : String.ofList word = "constructors" ↔ word = "constructors".toList := by
      rw [← String.toList_inj, String.toList_ofList]
    rw [← hverbose, ← hconstructors, ← Flag.ofWord?_eq_verbose_iff,
      ← Flag.ofWord?_eq_constructors_iff]
    cases Flag.ofWord? (String.ofList word) with
    | none => simp
    | some f => simp [hvalue, flag_eq_ok_iff]

theorem word_iff_takes {word : List Char} (htext : text.toList = '-' :: '-' :: word) :
    a.word word = .ok b ↔ a.Takes text b := by
  rw [word_iff]
  constructor
  · rintro ⟨hdir, ⟨rfl, rfl⟩ | ⟨rfl, hfirst, rfl⟩⟩
    · obtain rfl : text = "--verbose" := String.toList_inj.1 htext
      exact .more (by decide) hdir
    · obtain rfl : text = "--constructors" := String.toList_inj.1 htext
      exact .constructors hdir hfirst
  · rintro (⟨hdir, hfirst⟩ | ⟨hasks, hdir⟩ | ⟨hflag, -⟩)
    · obtain rfl : "constructors".toList = word := by simpa using htext
      exact ⟨hdir, .inr ⟨rfl, hfirst, rfl⟩⟩
    · obtain rfl : word = "verbose".toList := by simpa [asksForMore, htext] using hasks
      obtain rfl : text = "--verbose" := String.toList_inj.1 htext
      exact ⟨hdir, .inl ⟨rfl, rfl⟩⟩
    · simp [isFlag, htext] at hflag

theorem letters_iff_takes {c : Char} {rest : List Char} (hc : c ≠ '-')
    (htext : text.toList = '-' :: c :: rest) :
    a.letters (c :: rest) = .ok b ↔ a.Takes text b := by
  rw [letters_eq_ok_iff]
  constructor
  · rintro ⟨hdir, hall, rfl⟩
    have hcluster : text.toList = '-' :: List.replicate (rest.length + 1) 'v' :=
      htext.trans (congrArg _ (List.eq_replicate_of_mem hall))
    rw [← requests_of_letters hcluster]
    exact .more (asksForMore_iff.2 (.inr ⟨_, hcluster⟩)) hdir
  · rintro (⟨-, -⟩ | ⟨hasks, hdir⟩ | ⟨hflag, -⟩)
    · obtain ⟨hdash, -⟩ : '-' = c ∧ "constructors".toList = rest := by simpa using htext
      exact absurd hdash.symm hc
    · rcases asksForMore_iff.1 hasks with rfl | ⟨n, hcluster⟩
      · obtain ⟨hdash, -⟩ : '-' = c ∧ "verbose".toList = rest := by simpa using htext
        exact absurd hdash.symm hc
      · have hletters : c :: rest = List.replicate (n + 1) 'v' := by
          simpa using htext.symm.trans hcluster
        have hlength : rest.length + 1 = n + 1 := by simpa using congrArg List.length hletters
        refine ⟨hdir, fun d hd => List.eq_of_mem_replicate (hletters ▸ hd), ?_⟩
        rw [requests_of_letters hcluster, hlength]
    · simp [isFlag, htext] at hflag

theorem positional_iff_takes (hplain : isFlag text = false) :
    a.positional text = .ok b ↔ a.Takes text b := by
  rw [positional]
  constructor
  · intro h
    cases hdir : a.outDir with
    | some dir => simp [hdir] at h
    | none =>
      simp only [hdir] at h
      cases h
      exact .outDir hplain hdir
  · rintro (⟨-, -⟩ | ⟨hasks, -⟩ | ⟨-, hdir⟩)
    · exact absurd hplain (by decide)
    · rw [isFlag_of_asksForMore hasks] at hplain
      cases hplain
    · simp only [hdir]

theorem argument_iff : a.argument text = .ok b ↔ a.Takes text b := by
  rw [argument]
  split
  · next word htext => exact word_iff_takes htext
  · next c rest hword htext => exact letters_iff_takes (fun hc => hword hc) htext
  · next hword hletters =>
    refine positional_iff_takes ?_
    rw [isFlag]
    split
    · next c rest htext => exact absurd htext (hletters c rest)
    · rfl

-- ---------------------------------------------------------------------------
-- Several arguments
-- ---------------------------------------------------------------------------

/-- The arguments before and after two dashes alone complete what has been read to an invocation. -/
@[mk_iff]
structure Completed (a : Arguments) (before after : List String) (i : Invocation) : Prop where
  known : ∀ text ∈ before, isFlag text = true → text = "--constructors" ∨ asksForMore text = true
  once : a.constructors.toNat + before.count "--constructors" ≤ 1
  outDir : a.outDir.toList ++ before.filter (!isFlag ·) ++ after = [i.outDir]
  nonempty : i.outDir ≠ ""
  constructors : i.constructors = true ↔ a.constructors = true ∨ "--constructors" ∈ before
  verbosity : i.verbosity = min verbosityLimit (a.verbosity + (before.map requests).sum)

theorem requests_of_plain {text : String} (h : isFlag text = false) : requests text = 0 := by
  rw [isFlag] at h
  rw [requests]
  split
  · next htext => simp [htext] at h
  · next letters _ htext =>
    cases letters with
    | nil => rfl
    | cons c letters => simp [htext] at h
  · rfl

theorem ne_constructors_of_plain {text : String} (h : isFlag text = false) :
    text ≠ "--constructors" := by
  rintro rfl
  exact absurd h (by decide)

theorem ne_constructors_of_asksForMore {text : String} (h : asksForMore text = true) :
    text ≠ "--constructors" := by
  rintro rfl
  exact absurd h (by decide)

/-- What is left to read completes what an argument does to the same invocation. -/
theorem Takes.completed_iff (h : a.Takes text b) :
    a.Completed (text :: before) after i ↔ b.Completed before after i := by
  rw [Arguments.completed_iff, Arguments.completed_iff, List.forall_mem_cons, List.filter_cons,
    List.count_cons, List.map_cons, List.sum_cons, List.mem_cons]
  cases h with
  | constructors hdir hfirst =>
    have hflag : isFlag "--constructors" = true := by decide
    have hrequests : requests "--constructors" = 0 := by decide
    have honce (n : Nat) : 1 + n ≤ 1 ↔ n = 0 := by omega
    simp [hflag, hfirst, hrequests, honce]
  | more hasks hdir =>
    have hflag := isFlag_of_asksForMore hasks
    have hne := ne_constructors_of_asksForMore hasks
    have hcount (n : Nat) : min verbosityLimit (a.verbosity + (requests text + n)) =
        min verbosityLimit (min verbosityLimit (a.verbosity + requests text) + n) := by omega
    simp [hflag, hne, hasks, hcount, Ne.symm hne]
  | outDir hflag hdir =>
    have hne := ne_constructors_of_plain hflag
    simp [hflag, hne, hdir, requests_of_plain hflag, Ne.symm hne]

theorem Completed.exists_takes (h : a.Completed (text :: before) after i) :
    ∃ b, a.Takes text b := by
  obtain ⟨hknown, -⟩ := List.forall_mem_cons.1 h.known
  have houtDir := h.outDir
  cases hflag : isFlag text with
  | false =>
    refine ⟨_, .outDir hflag ?_⟩
    cases hdir : a.outDir with
    | none => rfl
    | some dir => simp [hdir, hflag] at houtDir
  | true =>
    have hdir : a.outDir ≠ some "" := by
      intro hdir
      rw [hdir] at houtDir
      exact h.nonempty (List.cons.inj houtDir).1.symm
    rcases hknown hflag with rfl | hasks
    · refine ⟨_, .constructors hdir ?_⟩
      have honce := h.once
      rw [List.count_cons_self] at honce
      cases hfirst : a.constructors with
      | false => rfl
      | true =>
        rw [hfirst, Bool.toNat_true] at honce
        omega
    · exact ⟨_, .more hasks hdir⟩

theorem Takes.verbosity_le (h : a.Takes text b) (hlimit : a.verbosity ≤ verbosityLimit) :
    b.verbosity ≤ verbosityLimit := by
  cases h with
  | constructors => exact hlimit
  | more => exact Nat.min_le_left _ _
  | outDir => exact hlimit

theorem finish_iff : a.finish = .ok i ↔ a.outDir = some i.outDir ∧ i.outDir ≠ "" ∧
    i.constructors = a.constructors ∧ i.verbosity = a.verbosity := by
  rw [finish]
  obtain ⟨outDir, constructors, verbosity⟩ := i
  cases a.outDir with
  | none => simp
  | some dir =>
    dsimp only
    split
    · next hempty =>
      simp only [reduceCtorEq, false_iff]
      rintro ⟨hdir, hne, -⟩
      exact hne ((Option.some.inj hdir).symm.trans hempty)
    · next hne =>
      simp only [Except.ok.injEq, Invocation.mk.injEq, Option.some.injEq]
      constructor
      · rintro ⟨rfl, rfl, rfl⟩
        exact ⟨rfl, hne, rfl, rfl⟩
      · rintro ⟨rfl, -, rfl, rfl⟩
        exact ⟨rfl, rfl, rfl⟩

theorem positionals_iff : (∃ b, after.foldlM positional a = .ok b ∧ b.finish = .ok i) ↔
    a.outDir.toList ++ after = [i.outDir] ∧ i.outDir ≠ "" ∧ i.constructors = a.constructors ∧
      i.verbosity = a.verbosity := by
  induction after generalizing a with
  | nil =>
    have hdir : a.outDir.toList = [i.outDir] ↔ a.outDir = some i.outDir := by
      cases a.outDir <;> simp
    rw [List.append_nil, hdir, ← finish_iff]
    simp [pure, Except.pure]
  | cons text after ih =>
    rw [List.foldlM_cons, positional]
    cases hdir : a.outDir with
    | some dir => simp [bind, Except.bind]
    | none => exact ih (a := { a with outDir := some text })

theorem completed_nil_iff (hlimit : a.verbosity ≤ verbosityLimit) :
    a.Completed [] after i ↔ ∃ b, after.foldlM positional a = .ok b ∧ b.finish = .ok i := by
  have hcount : min verbosityLimit a.verbosity = a.verbosity := Nat.min_eq_right hlimit
  have hflag : (i.constructors = true ↔ a.constructors = true) ↔ i.constructors = a.constructors :=
    Bool.eq_iff_iff.symm
  have honce : a.constructors.toNat ≤ 1 := Bool.toNat_le a.constructors
  rw [positionals_iff, Arguments.completed_iff]
  simp [hcount, hflag, honce]

theorem completed_iff_read {arguments : List String} (hlimit : a.verbosity ≤ verbosityLimit) :
    a.Completed (beforeDashes arguments) (afterDashes arguments) i ↔
      ∃ b, a.readFrom arguments = .ok b ∧ b.finish = .ok i := by
  induction arguments generalizing a with
  | nil => exact completed_nil_iff hlimit
  | cons text rest ih =>
    rw [readFrom]
    by_cases hdashes : text = "--"
    · rw [if_pos hdashes, ← completed_nil_iff hlimit]
      simp [beforeDashes, afterDashes, hdashes]
    · have hbefore : beforeDashes (text :: rest) = text :: beforeDashes rest := by
        simp [beforeDashes, hdashes]
      have hafter : afterDashes (text :: rest) = afterDashes rest := by
        simp [afterDashes, hdashes]
      rw [if_neg hdashes, hbefore, hafter]
      cases hargument : a.argument text with
      | error stop =>
        simp only [reduceCtorEq, false_and, exists_false, iff_false]
        intro h
        obtain ⟨b, htakes⟩ := h.exists_takes
        rw [argument_iff.2 htakes] at hargument
        cases hargument
      | ok b =>
        have htakes := argument_iff.1 hargument
        rw [htakes.completed_iff]
        exact ih (htakes.verbosity_le hlimit)

theorem Completed.perm {others : List String} (h : a.Completed before after i)
    (hperm : others.Perm before) : a.Completed others after i where
  known text htext := h.known text (hperm.mem_iff.1 htext)
  once := hperm.count_eq "--constructors" ▸ h.once
  outDir := by
    have hplain := ((hperm.filter (!isFlag ·)).append_left a.outDir.toList).append_right after
    exact List.perm_singleton.1 (h.outDir ▸ hplain)
  nonempty := h.nonempty
  constructors := by rw [h.constructors, hperm.mem_iff]
  verbosity := by rw [h.verbosity, (hperm.map requests).sum_eq]

end Arguments

-- ---------------------------------------------------------------------------
-- A whole command line
-- ---------------------------------------------------------------------------

theorem Invocation.read_iff_completed {arguments : List String} {i : Invocation} :
    Invocation.read arguments = .ok i ↔
      Arguments.unread.Completed (beforeDashes arguments) (afterDashes arguments) i := by
  rw [Arguments.completed_iff_read (Nat.zero_le _), Invocation.read]
  cases Arguments.unread.readFrom arguments <;> simp

theorem Invocation.read_iff {arguments : List String} {i : Invocation} :
    Invocation.read arguments = .ok i ↔
      (∀ text ∈ beforeDashes arguments, isFlag text = true →
        text = "--constructors" ∨ asksForMore text = true) ∧
      (beforeDashes arguments).count "--constructors" ≤ 1 ∧
      positionals arguments = [i.outDir] ∧ i.outDir ≠ "" ∧
      (i.constructors = true ↔ "--constructors" ∈ beforeDashes arguments) ∧
      i.verbosity = min 255 ((beforeDashes arguments).map requests).sum := by
  rw [Invocation.read_iff_completed, Arguments.completed_iff]
  simp [Arguments.unread, Arguments.verbosityLimit, positionals]

theorem Invocation.read_reordered {arguments others : List String} {i : Invocation}
    (h : Invocation.read arguments = .ok i) (hperm : others.Perm (beforeDashes arguments)) :
    Invocation.read (others ++ arguments.dropWhile (· ≠ "--")) = .ok i := by
  have hothers : ∀ text ∈ others, decide (text ≠ "--") = true := by
    intro text htext
    exact List.all_eq_true.1 List.all_takeWhile text (hperm.mem_iff.1 htext)
  have hends (hlt : 0 < (arguments.dropWhile (· ≠ "--")).length) :=
    List.dropWhile_get_zero_not _ arguments hlt
  have hbefore : beforeDashes (others ++ arguments.dropWhile (· ≠ "--")) = others := by
    rw [beforeDashes, List.takeWhile_append_of_pos hothers, List.takeWhile_eq_nil_iff.2 hends,
      List.append_nil]
  have hafter : afterDashes (others ++ arguments.dropWhile (· ≠ "--")) = afterDashes arguments := by
    rw [afterDashes, List.dropWhile_append_of_pos hothers, List.dropWhile_eq_self_iff.2 hends]
    rfl
  rw [Invocation.read_iff_completed] at h ⊢
  rw [hbefore, hafter]
  exact h.perm hperm

theorem Filter.levelOfVerbosity_min (n : Nat) :
    Filter.levelOfVerbosity (min 255 n) = [Level.warn, .info, .debug].getD n .trace := by
  match n with
  | 0 => rfl
  | 1 => rfl
  | 2 => rfl
  | n + 3 =>
    have hcount : min 255 (n + 3) = min 252 n + 3 := by omega
    rw [hcount]
    rfl

/-- A command line asks for a run exactly if, before two dashes alone, every flag is known, the
constructor functions are asked for once at most, and what is no flag is, with everything after the
dashes, one output directory that is not empty. Then the constructor functions are wanted if they
are asked for, and how much is told depends on the number of requests for more: there are four
levels, and the last is kept however many requests there are. What stands before the dashes may
change places. -/
theorem Invocation.read_shape (arguments : List String) :
    let before := beforeDashes arguments
    let asked := (before.map requests).sum
    ((∃ i, Invocation.read arguments = .ok i) ↔
      (∀ text ∈ before, isFlag text = true → text = "--constructors" ∨ text = "--verbose" ∨
        ∃ n, text.toList = '-' :: List.replicate (n + 1) 'v') ∧
      before.count "--constructors" ≤ 1 ∧
      ∃ outDir, positionals arguments = [outDir] ∧ outDir ≠ "") ∧
    ∀ i, Invocation.read arguments = .ok i →
      positionals arguments = [i.outDir] ∧
      (i.constructors = true ↔ "--constructors" ∈ before) ∧
      i.verbosity = min 255 asked ∧ i.level = [Level.warn, .info, .debug].getD asked .trace ∧
      ∀ others : List String, others.Perm before →
        Invocation.read (others ++ arguments.dropWhile (· ≠ "--")) = .ok i := by
  intro before asked
  constructor
  · simp only [Invocation.read_iff, asksForMore_iff]
    constructor
    · rintro ⟨i, hknown, honce, houtDir, hne, -⟩
      exact ⟨hknown, honce, i.outDir, houtDir, hne⟩
    · rintro ⟨hknown, honce, outDir, houtDir, hne⟩
      exact ⟨⟨outDir, decide ("--constructors" ∈ before), min 255 asked⟩, hknown, honce, houtDir,
        hne, decide_eq_true_iff, rfl⟩
  · intro i hi
    obtain ⟨-, -, houtDir, -, hconstructors, hverbosity⟩ := Invocation.read_iff.1 hi
    refine ⟨houtDir, hconstructors, hverbosity, ?_, fun others hperm =>
      Invocation.read_reordered hi hperm⟩
    rw [Invocation.level, hverbosity, Filter.levelOfVerbosity_min]

/-- More requests than are counted, in two forms, and a directory that looks like a flag. -/
theorem Invocation.read_of_dashed_directory :
    let many := String.ofList ('-' :: List.replicate 300 'v')
    let i : Invocation := ⟨"--out", true, 255⟩
    Invocation.read [many, "--constructors", "--verbose", "--", "--out"] = .ok i ∧
      i.level = .trace ∧
      Invocation.read ["--verbose", "--constructors", many, "--", "--out"] = .ok i := by
  intro many i
  have hmany : many.toList = '-' :: List.replicate 300 'v' := String.toList_ofList
  have hbefore : beforeDashes [many, "--constructors", "--verbose", "--", "--out"] =
      [many, "--constructors", "--verbose"] := by decide +kernel
  have hrest : [many, "--constructors", "--verbose", "--", "--out"].dropWhile (· ≠ "--") =
      ["--", "--out"] := by decide +kernel
  have hplain : [many, "--constructors", "--verbose"].filter (!isFlag ·) = [] := by
    have hflag : isFlag many = true := isFlag_of_asksForMore (asksForMore_iff.2 (.inr ⟨299, hmany⟩))
    rw [List.filter_cons_of_neg (by simp [hflag])]
    decide
  have hpositionals : positionals [many, "--constructors", "--verbose", "--", "--out"] =
      ["--out"] := by
    rw [positionals, afterDashes, hbefore, hplain, hrest]
    rfl
  have hasked : ([many, "--constructors", "--verbose"].map requests).sum = 301 := by
    rw [List.map_cons, requests_of_letters hmany]
    decide
  obtain ⟨hshape, hall⟩ :=
    Invocation.read_shape [many, "--constructors", "--verbose", "--", "--out"]
  rw [hbefore, hpositionals] at hshape hall
  rw [hasked, hrest] at hall
  have hknown : ∀ text ∈ [many, "--constructors", "--verbose"], isFlag text = true →
      text = "--constructors" ∨ text = "--verbose" ∨
        ∃ n, text.toList = '-' :: List.replicate (n + 1) 'v' :=
    List.forall_mem_cons.2 ⟨fun _ => .inr (.inr ⟨299, hmany⟩), by simp⟩
  obtain ⟨j, hread⟩ := hshape.2 ⟨hknown, by decide +kernel, "--out", rfl, by decide⟩
  obtain ⟨houtDir, hconstructors, hverbosity, hlevel, hreordered⟩ := hall j hread
  have hj : j = i := by
    obtain ⟨outDir, constructors, verbosity⟩ := j
    obtain ⟨rfl, -⟩ := List.cons.inj houtDir
    obtain rfl : constructors = true := hconstructors.2 (by simp)
    obtain rfl : verbosity = 255 := hverbosity
    rfl
  rw [hj] at hread hlevel hreordered
  have hperm : ["--verbose", "--constructors", many].Perm [many, "--constructors", "--verbose"] := by
    decide +kernel
  have hagain := hreordered _ hperm
  exact ⟨hread, hlevel, hagain⟩

end NodeSchema
