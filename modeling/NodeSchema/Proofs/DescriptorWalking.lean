import NodeSchema.Proofs.CursorMoves
import NodeSchema.Proofs.WalkLimits
/-!
# Reading by positions goes on

Reading a text by positions ends on every text, with what the reader of descriptors finds in it.
The text is never cut out of place, the position never goes back, and a call for one descriptor
that is made in another begins behind a bracket or a comma which that has passed since its own
beginning.

Along with each call of the reading by positions goes one of the reader, which works on the text
from that position on, blanks aside (`Answers`). Its texts get shorter, which is why the calls nest
three times as deep as the text is long at most.
-/

namespace NodeSchema.Descriptor

open Text (Blank isBlank skipBlanks size)

variable {text : List Char} {α β : Type} {a b : Cursor} {s : List Char} {wanted : Char}
  {limit : Nat}

-- ---------------------------------------------------------------------------
-- One token
-- ---------------------------------------------------------------------------

theorem skipBlanks_of_accept {taken : { rest : List Char // rest.length < s.length }}
    (h : accept wanted s = some taken) : skipBlanks s = wanted :: taken.1 := by
  rw [accept] at h
  split at h
  · cases h
  · next c rest hskip =>
    split at h
    · next hc =>
      subst hc
      cases h
      exact hskip
    · cases h

section
variable (hlimit : text.length < limit)
include hlimit

theorem accept_runs {taken : { rest : List Char // rest.length < s.length }}
    (h : Near text a.position s) (haccept : accept wanted s = some taken) :
    ∃ b, Runs text (Walk.accept limit text wanted) a (.ok true) b ∧
      Passed text a.position wanted b.position taken.1 := by
  obtain ⟨b, hblanks, hbefore⟩ := passBlanks_runs hlimit h
  rw [skipBlanks_of_accept haccept] at hbefore
  obtain ⟨c, hpeek, hposition⟩ := peek_runs hbefore
  have hpass := pass_runs (hposition.symm ▸ hbefore)
  obtain ⟨front, rfl, hfront⟩ := hbefore
  refine ⟨⟨c.position + wanted.utf8Size, c.trail⟩, hblanks.bind (hpeek.bind ?_), front, rfl,
    hfront ▸ hblanks.moves.le, ?_⟩
  · rw [List.head?_cons, if_pos rfl]
    exact hpass.bind (.pure true)
  · rw [Text.size_append, ← hfront, hposition, size, size, Nat.add_zero]

theorem accept_runs_blanks (h : Before text a.position s) (haccept : accept wanted s = none) :
    ∃ b, Runs text (Walk.accept limit text wanted) a (.ok false) b ∧
      b.position = a.position + size (s.takeWhile isBlank) := by
  obtain ⟨b, hblanks, hposition⟩ :=
    passWhile_runs (p := isBlank) h (h.length_le.trans_lt hlimit)
  obtain ⟨c, hpeek, hlast⟩ := peek_runs (a := b) (hposition ▸ h.skipBlanks)
  refine ⟨c, hblanks.bind (hpeek.bind ?_), hlast.trans hposition⟩
  rw [if_neg (accept_eq_none_iff.1 haccept)]
  exact .pure false

theorem accept_runs_none (h : Near text a.position s) (haccept : accept wanted s = none) :
    ∃ b, Runs text (Walk.accept limit text wanted) a (.ok false) b ∧
      Before text b.position (skipBlanks s) := by
  obtain ⟨t, hbefore, hskip⟩ := h
  have hnone : accept wanted t = none := by
    rw [accept_eq_none_iff, hskip]
    exact accept_eq_none_iff.1 haccept
  obtain ⟨b, hrun, hposition⟩ := accept_runs_blanks hlimit hbefore hnone
  refine ⟨b, hrun, ?_⟩
  rw [hposition, ← hskip]
  exact hbefore.skipBlanks

theorem expect_runs {taken : { rest : List Char // rest.length < s.length }}
    (h : Near text a.position s) (hexpect : expect wanted s = .ok taken) :
    ∃ b, Runs text (Walk.expect limit text wanted) a (.ok ()) b ∧ Before text b.position taken.1 := by
  rw [expect] at hexpect
  split at hexpect
  · next haccept =>
    cases hexpect
    obtain ⟨b, hrun, hpassed⟩ := accept_runs hlimit h haccept
    exact ⟨b, hrun.bind (.pure ()), hpassed.before⟩
  · cases hexpect

theorem expect_runs_error {fault : Fault} (h : Near text a.position s)
    (hexpect : expect wanted s = .error fault) :
    ∃ b, Runs text (Walk.expect limit text wanted) a (.error (.fault fault)) b := by
  rw [expect] at hexpect
  split at hexpect
  · cases hexpect
  · next haccept =>
    cases hexpect
    obtain ⟨b, hrun, hbefore⟩ := accept_runs_none hlimit h haccept
    obtain ⟨c, hpeek, -⟩ := peek_runs hbefore
    exact ⟨c, hrun.bind (hpeek.bind (.throw _))⟩

theorem pathRun_runs (h : Near text a.position s) :
    ∃ b, Runs text (Walk.pathRun limit text) a (.ok ((skipBlanks s).takeWhile isPathPart)) b ∧
      a.position + size ((skipBlanks s).takeWhile isPathPart) ≤ b.position ∧
      Before text b.position ((skipBlanks s).dropWhile isPathPart) := by
  obtain ⟨b, hblanks, hbefore⟩ := passBlanks_runs hlimit h
  obtain ⟨c, hpath, hposition⟩ :=
    passWhile_runs (p := isPathPart) hbefore (hbefore.length_le.trans_lt hlimit)
  rw [← List.takeWhile_append_dropWhile (p := isPathPart) (l := skipBlanks s)] at hbefore
  obtain ⟨d, hsince, hlast⟩ := since_runs hbefore hposition
  refine ⟨d, hblanks.bind (Runs.get.bind (hpath.bind hsince)), ?_, ?_⟩
  · rw [hlast, hposition]
    exact Nat.add_le_add_right hblanks.moves.le _
  · rw [hlast, hposition]
    exact hbefore.move

end

-- ---------------------------------------------------------------------------
-- Two readings side by side
-- ---------------------------------------------------------------------------

/-- The reading ends with what a reader found at the front of a text. If that was found, the
cursor is past the start and before what is left of that text, blanks aside. -/
def Answers (text : List Char) (start : Nat) (x : Walk α) (a : Cursor) :
    Except Fault (Taken α s) → Prop
  | .ok taken => ∃ b, Runs text x a (.ok taken.value) b ∧ start < b.position ∧
      Near text b.position taken.rest
  | .error fault => ∃ b, Runs text x a (.error (.fault fault)) b

section
variable {x : Walk α} {f : α → Walk β} {v : α} {start : Nat} {fault : Fault}

theorem Answers.throw : Answers text start (throw (.fault fault) : Walk α) a
    (.error fault : Except Fault (Taken α s)) :=
  ⟨a, .throw _⟩

theorem Answers.pure {rest : List Char} {shorter : rest.length < s.length}
    (hlt : start < a.position) (h : Near text a.position rest) :
    Answers text start (pure v) a (.ok ⟨v, rest, shorter⟩) :=
  ⟨a, .pure v, hlt, h⟩

/-- What goes before only moves the cursor. -/
theorem Runs.answers {result : Except Fault (Taken β s)} (hx : Runs text x a (.ok v) b)
    (hf : Answers text start (f v) b result) : Answers text start (x >>= f) a result := by
  cases result with
  | ok taken =>
    obtain ⟨c, hrun, hafter⟩ := hf
    exact ⟨c, hx.bind hrun, hafter⟩
  | error fault =>
    obtain ⟨c, hrun⟩ := hf
    exact ⟨c, hx.bind hrun⟩

theorem Runs.answers_error (hx : Runs text x a (.error (.fault fault)) b) :
    Answers text start (x >>= f) a (.error fault : Except Fault (Taken β s)) :=
  ⟨b, hx.bind_error⟩

/-- Where the reader fails, the reading does. Otherwise it goes on behind what was found. -/
theorem Answers.bind {t : List Char} {first : Nat} {found : Except Fault (Taken α t)}
    {result : Except Fault (Taken β s)} (hx : Answers text first x a found)
    (hfault : ∀ fault, found = .error fault → result = .error fault)
    (hf : ∀ (taken : Taken α t) (b : Cursor), found = .ok taken → first < b.position →
      Near text b.position taken.rest → Answers text start (f taken.value) b result) :
    Answers text start (x >>= f) a result := by
  cases found with
  | error fault =>
    obtain ⟨b, hrun⟩ := hx
    rw [hfault fault rfl]
    exact ⟨b, hrun.bind_error⟩
  | ok taken =>
    obtain ⟨b, hrun, hlt, hrest⟩ := hx
    exact hrun.answers (hf taken b rfl hlt hrest)

end

theorem path_answers (hlimit : text.length < limit) (h : Near text a.position s) :
    Answers text a.position (Walk.path limit text) a (readPath s) := by
  obtain ⟨b, hrun, hposition, hbefore⟩ := pathRun_runs hlimit h
  rw [Walk.path, readPath]
  split
  · next hnil =>
    rw [hnil] at hrun
    have hrest : (skipBlanks s).dropWhile isPathPart = skipBlanks s := by
      have := List.takeWhile_append_dropWhile (p := isPathPart) (l := skipBlanks s)
      rwa [hnil, List.nil_append] at this
    rw [hrest] at hbefore
    obtain ⟨c, hpeek, -⟩ := peek_runs hbefore
    exact hrun.answers (hpeek.answers .throw)
  · next c run hcons =>
    rw [hcons] at hrun hposition
    refine hrun.answers ?_
    dsimp only
    split
    · have hpos := size_pos (List.cons_ne_nil c run)
      exact .pure (by omega) hbefore.near
    · exact .throw

theorem enter_runs (call : Call) {outer : List Nat} (h : Near text a.position s)
    (hbehind : ∀ start ∈ outer, Behind text start a.position) :
    ∃ b, Runs text (Walk.record (.enter call outer)) a (.ok ()) b ∧ b.position = a.position := by
  obtain ⟨t, hbefore, -⟩ := h
  exact ⟨_, record_runs rfl hbefore hbehind, rfl⟩

theorem leave_runs (call : Call) {start : Nat} (h : Near text a.position s)
    (hle : start ≤ a.position) (hlt : call = .one → start < a.position) :
    ∃ b, Runs text (Walk.record (.leave call start)) a (.ok ()) b ∧ b.position = a.position := by
  obtain ⟨t, hbefore, -⟩ := h
  exact ⟨_, record_runs rfl hbefore ⟨hle, hlt⟩, rfl⟩

/-- Wherever several descriptors come next, and a bracket stands behind that the calls around have
passed, the reading ends with what the reader finds. -/
def ManyAnswer (text : List Char) (many : Walk (List Descriptor)) (outer : List Nat)
    (s : List Char) : Prop :=
  ∀ a : Cursor, Near text a.position s → (∀ start ∈ outer, Behind text start a.position) →
    Answers text a.position many a (readMany s)

-- ---------------------------------------------------------------------------
-- One descriptor, given how several are read
-- ---------------------------------------------------------------------------

section
variable (hlimit : text.length < limit) {outer : List Nat} {many : Walk (List Descriptor)}
include hlimit

theorem tuple_answers {start : Nat} {inside : { inside : List Char // inside.length < s.length }}
    (hopen : accept '(' s = some inside) (hpassed : Passed text start '(' a.position inside.1)
    (houter : ∀ earlier ∈ outer, earlier ≤ start) (hmany : ManyAnswer text many outer inside.1) :
    Answers text start (Walk.tuple limit text many) a (readOne s) := by
  rw [Walk.tuple, readOne]
  simp only [hopen]
  cases hclose : accept ')' inside.1 with
  | some rest =>
    obtain ⟨b, hrun, hrest⟩ := accept_runs hlimit hpassed.before.near hclose
    exact hrun.answers (.pure (hpassed.lt.trans hrest.lt) hrest.before.near)
  | none =>
    obtain ⟨b, hrun, hposition⟩ := accept_runs_blanks hlimit hpassed.before hclose
    refine hrun.answers ?_
    have hinside : Near text b.position inside.1 :=
      Before.near_of_skipBlanks (hposition ▸ hpassed.before.skipBlanks)
    have hbehind : ∀ earlier ∈ outer, Behind text earlier b.position := by
      intro earlier hearlier
      rw [← Text.takeWhile_append_skipBlanks inside.1] at hpassed
      rw [hposition]
      exact hpassed.behind_blanks (.inl rfl) (Text.blank_takeWhile _) (houter earlier hearlier)
    have hle := hrun.moves.le
    refine Answers.bind (hmany b hinside hbehind) (fun fault hread => by simp only [hread])
      fun elements c hread hlt hclosing => ?_
    simp only [hread]
    cases hexpect : expect ')' elements.rest with
    | error fault =>
      obtain ⟨d, hrun⟩ := expect_runs_error hlimit hclosing hexpect
      exact hrun.answers_error
    | ok rest =>
      obtain ⟨d, hrun, hrest⟩ := expect_runs hlimit hclosing hexpect
      have hlast := hrun.moves.le
      have hstart := hpassed.lt
      exact hrun.answers (.pure (by omega) hrest.near)

theorem named_answers {start : Nat} (hopen : accept '(' s = none) (h : Near text a.position s)
    (hstart : start ≤ a.position) (houter : ∀ earlier ∈ outer, earlier ≤ start)
    (hmany : ∀ inside : List Char, inside.length < s.length → ManyAnswer text many outer inside) :
    Answers text start (Walk.named limit text many) a (readOne s) := by
  rw [Walk.named, readOne]
  simp only [hopen]
  refine Answers.bind (path_answers hlimit h) (fun fault hread => by simp only [hread])
    fun head b hread hlt hafter => ?_
  simp only [hread]
  cases hargs : accept '<' head.rest with
  | none =>
    obtain ⟨c, hrun, hrest⟩ := accept_runs_none hlimit hafter hargs
    have hle := hrun.moves.le
    exact hrun.answers (.pure (by omega) hrest.near_of_skipBlanks)
  | some inside =>
    obtain ⟨c, hrun, hpassed⟩ := accept_runs hlimit hafter hargs
    refine hrun.answers ?_
    have hbehind : ∀ earlier ∈ outer, Behind text earlier c.position := fun earlier hearlier =>
      hpassed.behind (.inr (.inl rfl)) (((houter earlier hearlier).trans hstart).trans hlt.le)
    have hshorter := inside.2.trans head.shorter
    refine Answers.bind (hmany inside.1 hshorter c hpassed.before.near hbehind)
      (fun fault hread => by simp only [hread]) fun arguments d hread hpast hclosing => ?_
    simp only [hread]
    cases hexpect : expect '>' arguments.rest with
    | error fault =>
      obtain ⟨e, hrun⟩ := expect_runs_error hlimit hclosing hexpect
      exact hrun.answers_error
    | ok rest =>
      obtain ⟨e, hrun, hrest⟩ := expect_runs hlimit hclosing hexpect
      have hlast := hrun.moves.le
      have hmiddle := hpassed.lt
      refine hrun.answers ?_
      dsimp only
      split
      · rcases arguments.value with _ | ⟨inner, _ | ⟨second, others⟩⟩
        · exact .throw
        · exact .pure (by omega) hrest.near
        · exact .throw
      · exact .pure (by omega) hrest.near

/-- Behind the blanks in front of a descriptor comes a tuple or a path. -/
theorem either_answers (h : Near text a.position s)
    (houter : ∀ earlier ∈ outer, earlier ≤ a.position)
    (hmany : ∀ inside : List Char, inside.length < s.length → ManyAnswer text many outer inside) :
    Answers text a.position (Walk.either limit text many) a (readOne s) := by
  rw [Walk.either]
  cases hopen : accept '(' s with
  | some inside =>
    obtain ⟨b, hrun, hpassed⟩ := accept_runs hlimit h hopen
    exact hrun.answers (tuple_answers hlimit hopen hpassed houter (hmany inside.1 inside.2))
  | none =>
    obtain ⟨b, hrun, hnext⟩ := accept_runs_none hlimit h hopen
    have hle := hrun.moves.le
    exact hrun.answers (named_answers hlimit hopen hnext.near_of_skipBlanks hle houter hmany)

end

-- ---------------------------------------------------------------------------
-- Calls
-- ---------------------------------------------------------------------------

mutual
theorem one_answers (hlimit : text.length < limit) : (depth : Nat) → (outer : List Nat) →
    {a : Cursor} → {s : List Char} → 3 * s.length < depth → Near text a.position s →
    (∀ start ∈ outer, Behind text start a.position) →
    Answers text a.position (Walk.one limit text depth outer) a (readOne s)
  | 0, _, _, _, hdepth, _, _ => absurd hdepth (Nat.not_lt_zero _)
  | depth + 1, outer, a, s, hdepth, h, hbehind => by
    -- From one descriptor to the next one inside of it are three calls, and a bracket is passed.
    have hmany (inside : List Char) (hshorter : inside.length < s.length) :
        ManyAnswer text (Walk.many limit text depth (a.position :: outer)) (a.position :: outer)
          inside := by
      intro b hinside hpassed
      exact many_answers hlimit depth _ (by omega) hinside hpassed
    rw [Walk.one]
    obtain ⟨b, henter, hposition⟩ := enter_runs .one h hbehind
    obtain ⟨c, hblanks, hnext⟩ := passBlanks_runs (a := b) hlimit (hposition ▸ h)
    refine Runs.get.answers (henter.answers (hblanks.answers ?_))
    have hle : a.position ≤ c.position := hposition ▸ hblanks.moves.le
    have houter : ∀ earlier ∈ a.position :: outer, earlier ≤ c.position :=
      List.forall_mem_cons.2 ⟨hle, fun earlier hearlier =>
        (hbehind earlier hearlier).lt.le.trans hle⟩
    refine Answers.bind (either_answers hlimit hnext.near_of_skipBlanks houter hmany)
      (fun fault hread => hread) fun taken d hread hlt hrest => ?_
    have hpast : a.position < d.position := hle.trans_lt hlt
    obtain ⟨e, hleave, hlast⟩ := leave_runs .one hrest hpast.le fun _ => hpast
    rw [hread]
    exact hleave.answers (.pure (hlast ▸ hpast) (hlast ▸ hrest))

theorem many_answers (hlimit : text.length < limit) : (depth : Nat) → (outer : List Nat) →
    {a : Cursor} → {s : List Char} → 3 * s.length + 2 < depth → Near text a.position s →
    (∀ start ∈ outer, Behind text start a.position) →
    Answers text a.position (Walk.many limit text depth outer) a (readMany s)
  | 0, _, _, _, hdepth, _, _ => absurd hdepth (Nat.not_lt_zero _)
  | depth + 1, outer, a, s, hdepth, h, hbehind => by
    rw [Walk.many]
    obtain ⟨b, henter, hposition⟩ := enter_runs .many h hbehind
    refine Runs.get.answers (henter.answers ?_)
    have hitems := items_answers hlimit depth outer (a := b) (by omega) (hposition ▸ h)
      (hposition ▸ hbehind)
    rw [hposition] at hitems
    refine Answers.bind hitems (fun fault hread => hread) fun taken c hread hlt hrest => ?_
    obtain ⟨d, hleave, hlast⟩ := leave_runs .many hrest hlt.le nofun
    rw [hread]
    exact hleave.answers (.pure (hlast ▸ hlt) (hlast ▸ hrest))

theorem items_answers (hlimit : text.length < limit) : (depth : Nat) → (outer : List Nat) →
    {a : Cursor} → {s : List Char} → 3 * s.length + 1 < depth → Near text a.position s →
    (∀ start ∈ outer, Behind text start a.position) →
    Answers text a.position (Walk.items limit text depth outer) a (readMany s)
  | 0, _, _, _, hdepth, _, _ => absurd hdepth (Nat.not_lt_zero _)
  | depth + 1, outer, a, s, hdepth, h, hbehind => by
    rw [Walk.items, readMany]
    refine Answers.bind (one_answers hlimit depth outer (by omega) h hbehind)
      (fun fault hread => by simp only [hread]) fun first b hread hlt hafter => ?_
    simp only [hread]
    cases hcomma : accept ',' first.rest with
    | none =>
      obtain ⟨c, hrun, hrest⟩ := accept_runs_none hlimit hafter hcomma
      exact hrun.answers (.pure (hlt.trans_le hrun.moves.le) hrest.near_of_skipBlanks)
    | some next =>
      obtain ⟨c, hrun, hpassed⟩ := accept_runs hlimit hafter hcomma
      refine hrun.answers ?_
      have hshorter := next.2.trans first.shorter
      have hpast := hpassed.lt
      have hpassedBy : ∀ start ∈ outer, Behind text start c.position := fun start hstart =>
        hpassed.behind (.inr (.inr rfl)) ((hbehind start hstart).lt.le.trans hlt.le)
      refine Answers.bind
        (items_answers hlimit depth outer (by omega) hpassed.before.near hpassedBy)
        (fun fault hread => by simp only [hread]) fun others d hread hlast hrest => ?_
      simp only [hread]
      exact .pure (by omega) hrest
end

-- ---------------------------------------------------------------------------
-- A whole text
-- ---------------------------------------------------------------------------

theorem read_runs (hlimit : 3 * text.length < limit) :
    ∃ b, Runs text (Walk.read limit text) ⟨0, []⟩ ((read text).mapError .fault) b := by
  have hstart : Before text 0 text := ⟨[], rfl, rfl⟩
  have hlength : text.length < limit := by omega
  have hone := one_answers hlength limit [] (a := ⟨0, []⟩) hlimit hstart.near nofun
  rw [Walk.read, read]
  cases hread : readOne text with
  | error fault =>
    rw [hread] at hone
    obtain ⟨b, hrun⟩ := hone
    exact ⟨b, hrun.bind_error⟩
  | ok taken =>
    rw [hread] at hone
    obtain ⟨b, hrun, -, hrest⟩ := hone
    obtain ⟨c, hblanks, hbefore⟩ := passBlanks_runs hlength hrest
    dsimp only
    split
    · next hnil =>
      refine ⟨c, hrun.bind (hblanks.bind (Runs.get.bind ?_))⟩
      rw [if_pos (hbefore.eq_size_iff.2 hnil)]
      exact .pure taken.value
    · next hne =>
      obtain ⟨d, hcut, -⟩ := rest_runs hbefore
      refine ⟨d, hrun.bind (hblanks.bind (Runs.get.bind ?_))⟩
      rw [if_neg (fun h => hne (hbefore.eq_size_iff.1 h))]
      exact hcut.bind (.throw _)

/-- Reading by positions comes to an end on every text, whatever the limit is beyond one that grows
like the text, and finds what the reader finds. So the text is never cut out of place. Everything
is done where characters of the text end, and at no earlier position than what was done before. A
call for one descriptor begins behind a bracket or a comma that each call for one descriptor around
it has passed since its beginning, and ends past its own beginning if it finds one. -/
theorem walk_progress (text : List Char) :
    ∃ cursor,
      (∀ limit, 3 * text.length < limit →
        walk? limit text = some ((read text).mapError .fault, cursor)) ∧
      cursor.positions.Pairwise (· ≤ ·) ∧
      (∀ position ∈ cursor.positions, position ≤ size text ∧ ∃ s, Before text position s) ∧
      ∀ step ∈ cursor.trail, step.Advances text := by
  obtain ⟨cursor, hrun, hmoves⟩ := read_runs (Nat.lt_succ_self (3 * text.length))
  have hlast := hmoves.place ⟨text, [], rfl, rfl⟩
  obtain ⟨-, -, steps, htrail, hsorted, hsteps⟩ := hmoves
  obtain rfl : steps = cursor.trail := htrail.symm
  refine ⟨cursor, fun limit hlimit => walk?_of_le hlimit hrun, ?_, ?_,
    fun step hstep => (hsteps step hstep).2.2.2⟩
  · refine List.pairwise_append.2 ⟨hsorted, List.pairwise_singleton _ _, fun p hp q hq => ?_⟩
    obtain ⟨step, hstep, rfl⟩ := List.mem_map.1 hp
    obtain rfl := List.mem_singleton.1 hq
    exact (hsteps step hstep).2.1
  · have hplaces : ∀ position ∈ cursor.positions, ∃ s, Before text position s := by
      intro position hposition
      rcases List.mem_append.1 hposition with hp | hp
      · obtain ⟨step, hstep, rfl⟩ := List.mem_map.1 hp
        exact (hsteps step hstep).2.2.1
      · obtain rfl := List.mem_singleton.1 hp
        exact hlast
    intro position hposition
    obtain ⟨s, hs⟩ := hplaces position hposition
    exact ⟨hs.le_size, s, hs⟩

/-- A bracket that is not closed, and blanks of three bytes, are no trouble. The calls around the
one at the tenth byte began at the third one and at the start. -/
theorem walk_progress_of_open_bracket :
    let text := "(A,\u3000Vec<B\u2003>\u3000".toList
    ∃ cursor, walk? 60 text = some (.error (.fault (.missing ')' none)), cursor) ∧
      cursor.position = 18 ∧ .enter .one [3, 0] 10 ∈ cursor.trail ∧
      .leave .one 10 14 ∈ cursor.trail ∧ cursor.positions.Pairwise (· ≤ ·) ∧
      (∀ position ∈ cursor.positions, position ≤ size text ∧ ∃ s, Before text position s) ∧
      ∀ step ∈ cursor.trail, step.Advances text := by
  intro text
  obtain ⟨cursor, hwalk, hprogress⟩ := walk_progress text
  have hends := hwalk 60 (by decide)
  have hread : read text = .error (.missing ')' none) := by decide +kernel
  have htrail : ((walk? 60 text).any fun ending => ending.2.position = 18 ∧
      .enter .one [3, 0] 10 ∈ ending.2.trail ∧ .leave .one 10 14 ∈ ending.2.trail) = true := by
    decide +kernel
  rw [hends, Option.any_some, decide_eq_true_iff] at htrail
  rw [hread] at hends
  obtain ⟨hposition, henter, hleave⟩ := htrail
  exact ⟨cursor, hends, hposition, henter, hleave, hprogress⟩

end NodeSchema.Descriptor
