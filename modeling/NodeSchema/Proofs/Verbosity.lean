import NodeSchema.CommandLine
/-!
# Requests for more

How often a command line asks for more to be told says nothing about the rest of it: what is
accepted with such requests is accepted without them, and asks for the same run
(`Invocation.read_withoutVerbosity`).
-/

namespace NodeSchema

def asksForMore (text : String) : Bool :=
  match text.toList with
  | '-' :: '-' :: rest => rest == "verbose".toList
  | '-' :: 'v' :: rest => rest.all (· == 'v')
  | _ => false

/-- The arguments without those that only ask for more. After two dashes alone there are none. -/
def withoutVerbosity : List String → List String
  | [] => []
  | text :: rest =>
    if text = "--" then text :: rest
    else if asksForMore text then withoutVerbosity rest
    else text :: withoutVerbosity rest

namespace Arguments

def counting (a : Arguments) (n : Nat) : Arguments := { a with verbosity := n }

variable {a b next : Arguments}

-- ---------------------------------------------------------------------------
-- The count decides nothing
-- ---------------------------------------------------------------------------

theorem flag_counting {f : Flag} (h : a.flag f = .ok next) (n : Nat) :
    ∃ m, (a.counting n).flag f = .ok (next.counting m) := by
  rw [flag.eq_def] at h ⊢
  split at h
  · cases h
  · next hdir =>
    rw [if_neg (show ¬ (a.counting n).outDir = some "" from hdir)]
    cases f with
    | help => cases h
    | version => cases h
    | verbose =>
      cases h
      exact ⟨_, rfl⟩
    | constructors =>
      dsimp only at h ⊢
      split at h
      · cases h
      · next hfirst =>
        cases h
        exact ⟨n, if_neg hfirst⟩

theorem letters_counting {text : List Char} (h : a.letters text = .ok next) (n : Nat) :
    ∃ m, (a.counting n).letters text = .ok (next.counting m) := by
  induction text generalizing a n with
  | nil =>
    cases h
    exact ⟨n, rfl⟩
  | cons c rest ih =>
    rw [letters] at h ⊢
    cases hletter : Flag.ofLetter? c with
    | none => simp [hletter] at h
    | some f =>
      simp only [hletter] at h ⊢
      cases hflag : a.flag f with
      | error stop => simp [hflag] at h
      | ok after =>
        simp only [hflag] at h
        obtain ⟨k, hk⟩ := flag_counting hflag n
        obtain ⟨m, hm⟩ := ih h k
        exact ⟨m, by simp only [hk, hm]⟩

theorem word_counting {text : List Char} (h : a.word text = .ok next) (n : Nat) :
    ∃ m, (a.counting n).word text = .ok (next.counting m) := by
  rw [word] at h ⊢
  cases hword : Flag.ofWord? (String.ofList (text.takeWhile (· != '='))) with
  | none => simp [hword] at h
  | some f =>
    simp only [hword] at h ⊢
    split at h
    · cases h
    · next hvalue =>
      obtain ⟨m, hm⟩ := flag_counting h n
      exact ⟨m, by rw [if_neg hvalue, hm]⟩

theorem positional_counting {text : String} (h : a.positional text = .ok next) (n : Nat) :
    (a.counting n).positional text = .ok (next.counting n) := by
  rw [positional] at h ⊢
  cases hdir : a.outDir with
  | some dir => simp [hdir] at h
  | none =>
    simp only [hdir] at h
    cases h
    simp only [counting, hdir]

theorem positionals_counting {texts : List String} (h : texts.foldlM positional a = .ok next)
    (n : Nat) : texts.foldlM positional (a.counting n) = .ok (next.counting n) := by
  induction texts generalizing a with
  | nil =>
    cases h
    rfl
  | cons text rest ih =>
    rw [List.foldlM_cons] at h ⊢
    cases hfirst : a.positional text with
    | error stop =>
      rw [hfirst] at h
      cases h
    | ok after =>
      rw [hfirst] at h
      rw [positional_counting hfirst n]
      exact ih h

theorem argument_counting {text : String} (h : a.argument text = .ok next) (n : Nat) :
    ∃ m, (a.counting n).argument text = .ok (next.counting m) := by
  rw [argument] at h ⊢
  split at h
  · exact word_counting h n
  · exact letters_counting h n
  · exact ⟨n, positional_counting h n⟩

-- ---------------------------------------------------------------------------
-- Requests change the count only
-- ---------------------------------------------------------------------------

theorem flag_verbose (h : a.flag .verbose = .ok next) : ∃ m, next = a.counting m := by
  rw [flag] at h
  split at h
  · cases h
  · cases h
    exact ⟨_, rfl⟩

theorem letters_verbose {text : List Char} (hall : ∀ c ∈ text, c = 'v')
    (h : a.letters text = .ok next) : ∃ m, next = a.counting m := by
  induction text generalizing a with
  | nil =>
    cases h
    exact ⟨next.verbosity, rfl⟩
  | cons c rest ih =>
    obtain rfl := hall c List.mem_cons_self
    rw [letters] at h
    simp only [Flag.ofLetter?] at h
    cases hflag : a.flag .verbose with
    | error stop => simp [hflag] at h
    | ok after =>
      simp only [hflag] at h
      obtain ⟨k, rfl⟩ := flag_verbose hflag
      obtain ⟨m, rfl⟩ := ih (fun d hd => hall d (List.mem_cons_of_mem _ hd)) h
      exact ⟨m, rfl⟩

theorem argument_of_asksForMore {text : String} (hasks : asksForMore text = true)
    (h : a.argument text = .ok next) : ∃ m, next = a.counting m := by
  rw [asksForMore] at hasks
  rw [argument] at h
  split at hasks
  · next rest htext =>
    rw [htext] at h
    obtain rfl : rest = "verbose".toList := by simpa using hasks
    exact flag_verbose h
  · next rest htext =>
    rw [htext] at h
    refine letters_verbose (fun c hc => ?_) h
    rcases List.mem_cons.1 hc with rfl | hc
    · rfl
    · simpa using List.all_eq_true.1 hasks c hc
  · cases hasks

theorem readFrom_withoutVerbosity {arguments : List String} (h : a.readFrom arguments = .ok b)
    (n : Nat) : ∃ m, (a.counting n).readFrom (withoutVerbosity arguments) = .ok (b.counting m) := by
  -- With requests left out less has been counted by now, so the induction is over every count.
  induction arguments generalizing a n with
  | nil =>
    cases h
    exact ⟨n, rfl⟩
  | cons text rest ih =>
    rw [readFrom] at h
    rw [withoutVerbosity]
    by_cases hdashes : text = "--"
    · rw [if_pos hdashes] at h
      rw [if_pos hdashes, readFrom, if_pos hdashes]
      exact ⟨n, positionals_counting h n⟩
    · rw [if_neg hdashes] at h
      rw [if_neg hdashes]
      cases hargument : a.argument text with
      | error stop => simp [hargument] at h
      | ok next =>
        simp only [hargument] at h
        by_cases hasks : asksForMore text = true
        · rw [if_pos hasks]
          obtain ⟨k, rfl⟩ := argument_of_asksForMore hasks hargument
          exact ih h n
        · rw [if_neg hasks, readFrom, if_neg hdashes]
          obtain ⟨k, hk⟩ := argument_counting hargument n
          simp only [hk]
          exact ih h k

end Arguments

/-- What is accepted is accepted without its requests for more, and asks for the same but for
their number. -/
theorem Invocation.read_withoutVerbosity {arguments : List String} {i : Invocation}
    (h : Invocation.read arguments = .ok i) :
    ∃ n, Invocation.read (withoutVerbosity arguments) = .ok { i with verbosity := n } := by
  rw [Invocation.read] at h ⊢
  cases hread : Arguments.unread.readFrom arguments with
  | error stop => simp [hread] at h
  | ok a =>
    simp only [hread] at h
    obtain ⟨m, hm⟩ := Arguments.readFrom_withoutVerbosity hread 0
    rw [show Arguments.unread = Arguments.unread.counting 0 from rfl, hm]
    refine ⟨m, ?_⟩
    dsimp only
    rw [Arguments.finish] at h ⊢
    cases hdir : a.outDir with
    | none => simp [hdir] at h
    | some dir =>
      simp only [hdir, Arguments.counting] at h ⊢
      split at h
      · cases h
      · next hne =>
        cases h
        rw [if_neg hne]

end NodeSchema
