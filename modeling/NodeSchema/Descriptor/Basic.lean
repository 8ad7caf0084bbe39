import NodeSchema.Text.Alphanumeric
/-!
# Type descriptors

The type of one field: a named type, a generic type with its arguments, a tuple, or
a value that may be absent. `isName` and `mentions` say whether a descriptor is a
given name and whether it holds that name at any depth.

A type is named by a path: identifiers joined with two colons, such as `std::rc::Rc`. The printed
form has a comma and one space between arguments and elements, and no other blanks. `Spells` says
which other texts have the tokens of a descriptor, and `WellFormed` which descriptors have a
written form at all. Nothing here reads a text.
-/

namespace NodeSchema

inductive Descriptor where
  | name (path : String)
  | generic (head : String) (arguments : List Descriptor)
  | tuple (elements : List Descriptor)
  | optional (inner : Descriptor)
deriving Inhabited

namespace Descriptor

mutual
def decideEq : (d e : Descriptor) → Decidable (d = e)
  | .name p, .name q => if h : p = q then isTrue (by rw [h]) else isFalse (by simpa using h)
  | .generic h ds, .generic k es =>
    if hk : h = k then
      match decideListEq ds es with
      | isTrue he => isTrue (by rw [hk, he])
      | isFalse he => isFalse (by simpa [hk] using he)
    else isFalse (by simp [hk])
  | .tuple ds, .tuple es =>
    match decideListEq ds es with
    | isTrue he => isTrue (by rw [he])
    | isFalse he => isFalse (by simpa using he)
  | .optional d, .optional e =>
    match decideEq d e with
    | isTrue he => isTrue (by rw [he])
    | isFalse he => isFalse (by simpa using he)
  | .name _, .generic .. | .name _, .tuple _ | .name _, .optional _
  | .generic .., .name _ | .generic .., .tuple _ | .generic .., .optional _
  | .tuple _, .name _ | .tuple _, .generic .. | .tuple _, .optional _
  | .optional _, .name _ | .optional _, .generic .. | .optional _, .tuple _ =>
    isFalse (by simp)
def decideListEq : (ds es : List Descriptor) → Decidable (ds = es)
  | [], [] => isTrue rfl
  | [], _ :: _ | _ :: _, [] => isFalse (by simp)
  | d :: ds, e :: es =>
    match decideEq d e, decideListEq ds es with
    | isTrue hd, isTrue he => isTrue (by rw [hd, he])
    | isFalse hd, _ => isFalse (by simp [hd])
    | _, isFalse he => isFalse (by simp [he])
end

instance : DecidableEq Descriptor := decideEq

def isName (n : String) : Descriptor → Bool
  | .name path => path == n
  | _ => false

@[simp] theorem isName_iff {n : String} {d : Descriptor} : d.isName n = true ↔ d = .name n := by
  cases d <;> simp [isName]

mutual
/-- The name stands somewhere in the descriptor, bare or before arguments. -/
def mentions (n : String) : Descriptor → Bool
  | .name path => path == n
  | .generic head arguments => head == n || anyMentions n arguments
  | .tuple elements => anyMentions n elements
  | .optional inner => inner.mentions n
def anyMentions (n : String) : List Descriptor → Bool
  | [] => false
  | d :: rest => d.mentions n || anyMentions n rest
end

@[simp] theorem anyMentions_iff {n : String} {ds : List Descriptor} :
    anyMentions n ds = true ↔ ∃ d ∈ ds, d.mentions n = true := by
  induction ds with
  | nil => simp [anyMentions]
  | cons d rest ih => simp [anyMentions, ih]

theorem mentions_of_isName {n : String} {d : Descriptor} (h : d.isName n = true) :
    d.mentions n = true := by
  obtain rfl := isName_iff.1 h
  simp [mentions]

-- ---------------------------------------------------------------------------
-- The printed form
-- ---------------------------------------------------------------------------

mutual
def print : Descriptor → String
  | .name path => path
  | .generic head arguments => head ++ "<" ++ printList arguments ++ ">"
  | .tuple elements => "(" ++ printList elements ++ ")"
  | .optional inner => "Option<" ++ inner.print ++ ">"
def printList : List Descriptor → String
  | [] => ""
  | [d] => d.print
  | d :: e :: rest => d.print ++ ", " ++ printList (e :: rest)
end

-- ---------------------------------------------------------------------------
-- Paths
-- ---------------------------------------------------------------------------

/-- A character that a path cannot end before. -/
def isPathPart (c : Char) : Bool := Text.isAlphanumeric c || c == '_' || c == ':'

/-- The parts of a text between its pairs of colons, paired from the left. -/
def segments : List Char → List (List Char)
  | [] => [[]]
  | [c] => [[c]]
  | c :: d :: rest =>
    if c = ':' ∧ d = ':' then [] :: segments rest
    else (segments (d :: rest)).modifyHead (c :: ·)

def isPath (s : List Char) : Bool := (segments s).all Text.isIdentifier

@[simp] theorem segments_nil : segments [] = [[]] := rfl

theorem segments_ne_nil (s : List Char) : segments s ≠ [] := by
  fun_induction segments s with
  | case1 => simp
  | case2 => simp
  | case3 => simp
  | case4 c d rest h ih => cases hs : segments (d :: rest) <;> simp_all

theorem isPathPart_of_isIdentifierPart {c : Char} (h : Text.isIdentifierPart c = true) :
    isPathPart c = true := by
  simp only [Text.isIdentifierPart, Bool.or_eq_true] at h
  simp only [isPathPart, Bool.or_eq_true]
  exact Or.inl (h.imp_left Text.isAlphanumeric_of_isAlphanum)

-- ---------------------------------------------------------------------------
-- The grammar
-- ---------------------------------------------------------------------------

inductive Token where
  | path (text : List Char)
  | mark (c : Char)
deriving DecidableEq

def Token.spelling : Token → List Char
  | .path text => text
  | .mark c => [c]

mutual
def tokens : Descriptor → List Token
  | .name path => [.path path.toList]
  | .generic head arguments =>
    [.path head.toList, .mark '<'] ++ listTokens arguments ++ [.mark '>']
  | .tuple elements => [.mark '('] ++ listTokens elements ++ [.mark ')']
  | .optional inner =>
    [.path "Option".toList, .mark '<'] ++ inner.tokens ++ [.mark '>']
def listTokens : List Descriptor → List Token
  | [] => []
  | [d] => d.tokens
  | d :: e :: rest => d.tokens ++ [.mark ','] ++ listTokens (e :: rest)
end

/-- The text spells the tokens, with blanks before, between and after them as it likes. -/
inductive Spells : List Token → List Char → Prop where
  | done {blanks : List Char} : Text.Blank blanks → Spells [] blanks
  | token {t : Token} {ts : List Token} {blanks rest : List Char} :
    Text.Blank blanks → Spells ts rest → Spells (t :: ts) (blanks ++ t.spelling ++ rest)

def IsPath (s : List Char) : Prop :=
  ∃ parts : List (List Char), parts ≠ [] ∧ (∀ part ∈ parts, Text.isIdentifier part = true) ∧
    s = [':', ':'].intercalate parts

mutual
/-- Every name is a path, every generic has arguments, and `Option` heads no generic. -/
def WellFormed : Descriptor → Prop
  | .name path => IsPath path.toList
  | .generic head arguments =>
    IsPath head.toList ∧ head ≠ "Option" ∧ arguments ≠ [] ∧ AllWellFormed arguments
  | .tuple elements => AllWellFormed elements
  | .optional inner => inner.WellFormed
def AllWellFormed : List Descriptor → Prop
  | [] => True
  | d :: rest => d.WellFormed ∧ AllWellFormed rest
end

theorem allWellFormed_iff {ds : List Descriptor} :
    AllWellFormed ds ↔ ∀ d ∈ ds, d.WellFormed := by
  induction ds with
  | nil => simp [AllWellFormed]
  | cons d rest ih => simp [AllWellFormed, ih]

end Descriptor

end NodeSchema
