/-
# Gradebook.Files — a tree of files

Files are kept by their place, the names on the way from the root. Directories are
what lies above a file, and those made on their own. `locate?` follows a path text,
one part after the other; whatever is not the last part must be a directory.
-/
import Gradebook.Assoc
import Gradebook.Files.Path
import Gradebook.Text.Bytes

namespace Gradebook

set_option autoImplicit false

/-- The names from the root to a file or directory. -/
abbrev Place : Type := List String

/-- What a file holds. -/
inductive FileContent where
  | text (s : String)
  /-- Bytes that are no text. -/
  | bytes (bytes : Text.Bytes)

structure Files where
  contents : Assoc Place FileContent := []
  directories : List Place := []
  /-- Where relative paths start. -/
  here : Place := []

namespace Files

/-- A file holding a text is there as a text. -/
def contentOf (bytes : Text.Bytes) : FileContent :=
  match Text.ofUtf8? bytes with
  | some s => .text s
  | none => .bytes bytes

def isFile (f : Files) (place : Place) : Bool := Assoc.contains place f.contents

def isDirectory (f : Files) (place : Place) : Bool :=
  place.isEmpty || f.directories.any (place.isPrefixOf ·) ||
    f.contents.any fun e => place.isPrefixOf e.1 && e.1 ≠ place

/-- Follow the parts of a path from a place. -/
def follow (f : Files) : Place → List String → Option Place
  | place, [] => some place
  | place, part :: rest =>
    if !f.isDirectory place then none
    else if part = ".." then follow f place.dropLast rest
    else follow f (place ++ [part]) rest

/-- Where a path begins. -/
def startOf (f : Files) (path : String) : Place := if Path.isAbsolute path then [] else f.here

/-- The place a path describes, whether or not there is something. -/
def placeOf (f : Files) (path : String) : Place :=
  (Path.parts path).foldl
    (fun place part => if part = ".." then place.dropLast else place ++ [part]) (f.startOf path)

/-- The place a path leads to, if there is something. -/
def locate? (f : Files) (path : String) : Option Place := do
  let place ← f.follow (f.startOf path) (Path.parts path)
  if f.isDirectory place then some place
  else if f.isFile place && !(path.endsWith "/" || path.endsWith "/.") then some place
  else none

def exists? (f : Files) (path : String) : Bool := (f.locate? path).isSome

/-- The text of the file a path leads to, or why it cannot be read. -/
def readText (f : Files) (path : String) : Except String String :=
  match f.locate? path with
  | none => .error "No such file or directory (os error 2)"
  | some place => match Assoc.find? place f.contents with
    | some (.text s) => .ok s
    | some (.bytes _) => .error "stream did not contain valid UTF-8"
    | none => .error "Is a directory (os error 21)"

/-- Whether a path leads to a file. -/
def leadsToFile (f : Files) (path : String) : Bool :=
  match f.locate? path with
  | none => false
  | some place => f.isFile place

/-- Write a file, whatever stood there before. Its directories come to be with it. -/
def write (f : Files) (place : Place) (content : FileContent) : Files :=
  { f with contents := Assoc.put place content f.contents }

/-- Remove a file. Its directory stays. -/
def remove (f : Files) (place : Place) : Files :=
  { f with
    contents := Assoc.erase place f.contents
    directories := place.dropLast :: f.directories }

def makeDirectory (f : Files) (place : Place) : Files :=
  { f with directories := place :: f.directories }

/-- Follow the parts of a path, making directories that are missing, also those that the
path leaves again. -/
def makeAll : Place → List String → Files → Except String Files
  | place, parts, f =>
    if f.isFile place then .error "Not a directory (os error 20)"
    else
      let f := if f.isDirectory place then f else f.makeDirectory place
      match parts with
      | [] => .ok f
      | part :: rest =>
        makeAll (if part = ".." then place.dropLast else place ++ [part]) rest f

/-- The files with all directories on a path. -/
def makeDirectories (f : Files) (path : String) : Except String Files :=
  makeAll (f.startOf path) (Path.parts path) f

/-- The files with the file a path leads to, an empty one if there was none. -/
def openFile (f : Files) (path : String) : Except String Files :=
  if path.isEmpty then .error "No such file or directory (os error 2)"
  else if path.endsWith "/" || path.endsWith "/." then .error "Is a directory (os error 21)"
  else match f.follow (f.startOf path) (Path.parts path) with
    | none => .error "No such file or directory (os error 2)"
    | some place =>
      if f.isDirectory place then .error "Is a directory (os error 21)"
      else if f.isFile place then .ok f
      else .ok (f.write place (.text ""))

/-- The paths of all files at or below a path, in the order of their names. -/
def walk (f : Files) (path : String) : List String :=
  match f.locate? path with
  | none => []
  | some root =>
    let paths := f.contents.filterMap fun e =>
      if root.isPrefixOf e.1 then some ((e.1.drop root.length).foldl Path.join path) else none
    paths.mergeSort fun a b => decide (a ≤ b)

end Files

end Gradebook
