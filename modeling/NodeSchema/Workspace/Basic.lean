import Std.Data.ExtTreeMap
import NodeSchema.Text.Lowercase
/-!
# Workspaces

A path is a text; slashes separate its parts. Paths are joined as text and never simplified. The
declaration of a category goes into a file that is named after the category in lower case.

A workspace holds files and directories, and a current directory that relative paths
start from. It has no links and no permissions. A path is followed part by part from
one directory to the next; what it does not lead to is explained by a fault.
-/

namespace NodeSchema

-- ---------------------------------------------------------------------------
-- Paths as they are written
-- ---------------------------------------------------------------------------

/-- The path of a file in a directory. A slash is added unless the directory is given by
an empty path or already ends in one; a file that starts with a slash stands for itself. -/
def joinPath (directory file : String) : String :=
  if file.toList.head? = some '/' then file
  else if directory.toList.getLast?.all (· = '/') then directory ++ file
  else directory ++ "/" ++ file

def fileName (category : String) : String := Text.lowercase category ++ ".rs"

def outputPath (outDir category : String) : String := joinPath outDir (fileName category)

def pathParts : List Char → List (List Char)
  | [] => [[]]
  | c :: rest => if c = '/' then [] :: pathParts rest else (pathParts rest).modifyHead (c :: ·)

theorem pathParts_ne_nil (path : List Char) : pathParts path ≠ [] := by
  induction path with
  | nil => simp [pathParts]
  | cons c rest ih =>
    by_cases hc : c = '/'
    · simp [pathParts, hc]
    · cases h : pathParts rest <;> simp_all [pathParts]

theorem pathParts_append_slash (directory file : List Char) :
    pathParts (directory ++ '/' :: file) = pathParts directory ++ pathParts file := by
  induction directory with
  | nil => simp [pathParts]
  | cons c rest ih =>
    by_cases hc : c = '/'
    · simp [pathParts, hc, ih]
    · cases h : pathParts rest with
      | nil => exact absurd h (pathParts_ne_nil rest)
      | cons => simp [pathParts, hc, ih, h]

theorem pathParts_of_no_slash {file : List Char} (h : '/' ∉ file) : pathParts file = [file] := by
  induction file with
  | nil => rfl
  | cons c rest ih =>
    simp only [List.mem_cons, not_or] at h
    simp [pathParts, Ne.symm h.1, ih h.2]

-- ---------------------------------------------------------------------------
-- Files and directories
-- ---------------------------------------------------------------------------

/-- Why a file cannot be written. Outside a workspace there may be other reasons. -/
inductive FileFault where
  | missing
  | notDirectory
  | isDirectory
  | nameTooLong
  | zeroInPath
  | other (explanation : String)
deriving DecidableEq

def FileFault.message : FileFault → String
  | .missing => "No such file or directory (os error 2)"
  | .notDirectory => "Not a directory (os error 20)"
  | .isDirectory => "Is a directory (os error 21)"
  | .nameTooLong => "File name too long (os error 36)"
  | .zeroInPath => "file name contained an unexpected NUL byte"
  | .other explanation => explanation

inductive Entry where
  | file (text : String)
  | directory
deriving DecidableEq

abbrev Location := List String

/-- Files and directories by location, and the current directory. The root is always a
directory and has no entry of its own. -/
structure Workspace where
  current : Location
  entries : Std.ExtTreeMap Location Entry

namespace Workspace

def empty : Workspace := ⟨["work"], (∅ : Std.ExtTreeMap Location Entry).insert ["work"] .directory⟩

def lookup (w : Workspace) (location : Location) : Option Entry :=
  if location = [] then some .directory else w.entries[location]?

def put (w : Workspace) (location : Location) (entry : Entry) : Workspace :=
  { w with entries := w.entries.insert location entry }

def longestName : Nat := 255

def pathLimit : Nat := 4096

/-- The directory that one part of a path leads to from another. An empty part or a dot
stays, two dots go up. -/
def step (w : Workspace) (here : Location) (part : List Char) : Except FileFault Location :=
  if part = [] ∨ part = ['.'] then .ok here
  else if part = ['.', '.'] then .ok here.dropLast
  else
    let name := String.ofList part
    if name.utf8ByteSize > longestName then .error .nameTooLong
    else
      match w.lookup (here ++ [name]) with
      | none => .error .missing
      | some (.file _) => .error .notDirectory
      | some .directory => .ok (here ++ [name])

def walk (w : Workspace) (here : Location) : List (List Char) → Except FileFault Location
  | [] => .ok here
  | part :: parts =>
    match w.step here part with
    | .error fault => .error fault
    | .ok next => w.walk next parts

def start (w : Workspace) (path : String) : Location :=
  if path.toList.head? = some '/' then [] else w.current

def directory (w : Workspace) (path : String) : Except FileFault Location :=
  w.walk (w.start path) (pathParts path.toList)

def pathFault? (path : String) : Option FileFault :=
  if '\x00' ∈ path.toList then some .zeroInPath
  else if path.utf8ByteSize ≥ pathLimit then some .nameTooLong
  else if path = "" then some .missing
  else none

/-- The location in a directory that the last part of a path names, unless a directory is
there. -/
def leaf (w : Workspace) (here : Location) (part : List Char) : Except FileFault Location :=
  if part = [] ∨ part = ['.'] ∨ part = ['.', '.'] then .error .isDirectory
  else
    let name := String.ofList part
    if name.utf8ByteSize > longestName then .error .nameTooLong
    else if w.lookup (here ++ [name]) = some .directory then .error .isDirectory
    else .ok (here ++ [name])

def locate (w : Workspace) (path : String) : Except FileFault Location :=
  match pathFault? path with
  | some fault => .error fault
  | none =>
    match w.walk (w.start path) (pathParts path.toList).dropLast with
    | .error fault => .error fault
    | .ok here => w.leaf here ((pathParts path.toList).getLast (pathParts_ne_nil _))

def write (w : Workspace) (path text : String) : Except FileFault Unit × Workspace :=
  match w.locate path with
  | .error fault => (.error fault, w)
  | .ok location => (.ok (), w.put location (.file text))

def read? (w : Workspace) (path : String) : Option String :=
  match w.locate path with
  | .error _ => none
  | .ok location =>
    match w.lookup location with
    | some (.file text) => some text
    | _ => none

theorem lookup_put (w : Workspace) (location other : Location) (entry : Entry) (h : other ≠ []) :
    (w.put location entry).lookup other = if location = other then some entry else w.lookup other := by
  simp [lookup, put, h, Std.ExtTreeMap.getElem?_insert]

@[simp] theorem current_put (w : Workspace) (location : Location) (entry : Entry) :
    (w.put location entry).current = w.current := rfl

theorem put_put (w : Workspace) (location : Location) (entry later : Entry) :
    (w.put location entry).put location later = w.put location later := by
  have h : (w.entries.insert location entry).insert location later =
      w.entries.insert location later := by
    refine Std.ExtTreeMap.ext_getElem? fun other => ?_
    simp only [Std.ExtTreeMap.getElem?_insert]
    split <;> rfl
  simp only [put, h]

theorem put_comm (w : Workspace) {location other : Location} (hne : location ≠ other)
    (entry later : Entry) :
    (w.put location entry).put other later = (w.put other later).put location entry := by
  have h : (w.entries.insert location entry).insert other later =
      (w.entries.insert other later).insert location entry := by
    refine Std.ExtTreeMap.ext_getElem? fun place => ?_
    simp only [Std.ExtTreeMap.getElem?_insert, Std.LawfulEqCmp.compare_eq_iff_eq]
    split
    · next hother =>
      subst hother
      rw [if_neg hne]
    · rfl
  simp only [put, h]

end Workspace

end NodeSchema
