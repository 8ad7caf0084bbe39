import NodeSchema.Workspace.Basic
/-!
# Keeping a workspace

Making directories, removing files and listing what is there.
-/

namespace NodeSchema.Workspace

def onlyStays (parts : List (List Char)) : Bool :=
  parts.all (fun part => part == [] || part == ['.']) && parts.contains ['.']

/-- Makes the directories that the parts of a path name, where they are missing. Stops at
the first part that cannot be a directory. A path that ends in a dot needs the directory
before the dot to be there. -/
def makeParts (w : Workspace) (here : Location) : List (List Char) → Bool × Workspace
  | [] => (true, w)
  | part :: parts =>
    match w.step here part with
    | .ok next => w.makeParts next parts
    | .error .missing =>
      if onlyStays parts then (false, w)
      else
        let next := here ++ [String.ofList part]
        (w.put next .directory).makeParts next parts
    | .error _ => (false, w)

/-- Makes a directory and those above it. Whether nothing stood in the way. The empty path
names no directory, so that nothing is left to be made. -/
def makeDirectory (w : Workspace) (path : String) : Bool × Workspace :=
  if path = "" then (true, w)
  else
    match pathFault? path with
    | some _ => (false, w)
    | none => w.makeParts (w.start path) (pathParts path.toList)

def remove (w : Workspace) (path : String) : Bool × Workspace :=
  match w.locate path with
  | .error _ => (false, w)
  | .ok location =>
    match w.lookup location with
    | some (.file _) => (true, { w with entries := w.entries.erase location })
    | _ => (false, w)

def pathBelow (here location : Location) (entry : Entry) : Option String :=
  if here.isPrefixOf location && here.length < location.length then
    some ("/".intercalate (location.drop here.length) ++
      if entry = .directory then "/" else "")
  else none

def list (w : Workspace) : List String :=
  (w.entries.toList.filterMap fun (location, entry) => pathBelow w.current location entry).mergeSort
    fun a b => decide (a ≤ b)

end NodeSchema.Workspace
