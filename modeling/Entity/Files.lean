import Entity.Entries
import Entity.Failure
import Entity.Path

/-!
# Files

A tree of files as a value: the files by the names on the way to them, and the present place.  A
folder is there when some file is below it.
-/

namespace Entity

/-- A tree of files, seen from a place in it. -/
structure Files where
  /-- The present place, an absolute path. -/
  here : Path
  entries : Entries (List String) String
  deriving Inhabited

/-- What is at a place. -/
inductive Found where
  | file (text : String)
  | folder
  | nothing
  deriving DecidableEq, Repr, Inhabited

namespace Files

/-- The tree of some files below the present place. -/
def ofList (here : Path) (files : List (String × String)) : Files where
  here := here
  entries := Entries.ofList (files.map fun (path, text) =>
    ((here.below (Path.ofText path)).names, text))

/-- The place is a folder. -/
def isFolder (t : Files) (names : List String) : Bool :=
  names.isPrefixOf t.here.names ||
    t.entries.keys.any fun place => names.isPrefixOf place && names.length < place.length

/-- The place that names lead to; going up leads out of a folder that is there. -/
def walk (t : Files) (place : List String) : List String → Option (List String)
  | [] => some place
  | name :: names =>
    if name = ".." then if t.isFolder place then walk t place.dropLast names else none
    else walk t (place ++ [name]) names

/-- The place that a path leads to. -/
def place? (t : Files) (p : Path) : Option (List String) := t.walk [] (t.here.below p).names

/-- What is at a place. -/
def foundAt (t : Files) (place : List String) : Found :=
  match Entries.get? place t.entries with
  | some text => .file text
  | none => if t.isFolder place then .folder else .nothing

/-- What a path leads to. -/
def find (t : Files) (p : Path) : Found := ((t.place? p).map t.foundAt).getD .nothing

/-- The text of a file. -/
def read (t : Files) (p : Path) : Except Failure String :=
  match t.find p with
  | .file text => .ok text
  | _ => .error (.fault .isFolder p.toText)

/-- Some folder on the way to a place is a file. -/
def isBlocked (t : Files) (place : List String) : Bool :=
  t.entries.keys.any fun p => p.isPrefixOf place && p.length < place.length

/-- Write a file; folders on the way are made. -/
def write (t : Files) (p : Path) (text : String) : Except Failure Files :=
  match t.place? p with
  | none => .error (.fault .notFolder p.toText)
  | some place =>
    if t.isBlocked place.dropLast then .error (.fault .notFolder p.toText)
    else if Entries.has place.dropLast t.entries then .error (.fault .fileInTheWay p.toText)
    else if t.isFolder place then .error (.fault .isFolder p.toText)
    else .ok { t with entries := Entries.put place text t.entries }

/-- The path of a place as it is seen from the present place, if it is below that. -/
def relative? (t : Files) (place : List String) : Option String :=
  if t.here.names.isPrefixOf place then
    some (Text.join "/" (place.drop t.here.names.length))
  else none

/-! ## Laws -/

/-- A file that was written is found again with its text. -/
theorem foundAt_of_write {t t' : Files} {p : Path} {text : String} {place : List String}
    (h : t.write p text = .ok t') (hp : t.place? p = some place) :
    t'.foundAt place = .file text := by
  simp only [write, hp] at h
  split at h
  · simp at h
  split at h
  · simp at h
  split at h
  · simp at h
  cases h
  simp [foundAt, Entries.get?_put]

end Files

end Entity
