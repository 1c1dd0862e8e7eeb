/-
# Gradebook.Files.Path — path texts

A path is a text with parts between slashes. Joining keeps the texts as they are
written; only `parts` looks at what a path means.
-/
import Gradebook.Text.Blank

namespace Gradebook.Path

set_option autoImplicit false

def isAbsolute (path : String) : Bool := path.startsWith "/"

/-- A path seen from a base directory. Absolute paths stand for themselves. -/
def join (base path : String) : String :=
  if isAbsolute path then path
  else if base.isEmpty || base.endsWith "/" then base ++ path
  else base ++ "/" ++ path

/-- The names on the way, without empty parts and the parts that stay put. -/
def parts (path : String) : List String :=
  (Text.pieces '/' path).filter fun part => part ≠ "" ∧ part ≠ "."

/-- The last name of a path, unless the path ends by going up. -/
def fileName? (path : String) : Option String :=
  match (parts path).getLast? with
  | some name => if name = ".." then none else some name
  | none => none

/-- What follows the last point of the file name. A point at the very beginning does
not count. -/
def extension? (path : String) : Option String := do
  let name ← fileName? path
  match (Text.pieces '.' name).reverse with
  | last :: before :: rest => if before.isEmpty && rest.isEmpty then none else some last
  | _ => none

/-- A path, last character first, without the slashes and points behind its last name. -/
def withoutTail : List Char → List Char
  | '/' :: rest => withoutTail rest
  | '.' :: '/' :: rest => withoutTail rest
  | path => path

/-- The path with an extension added to its last name, if it has one. -/
def extended? (path extension : String) : Option String :=
  (fileName? path).map fun _ =>
    String.ofList (withoutTail path.toList.reverse).reverse ++ "." ++ extension

/-- The path above: all but the last name. Nothing is above the root or an empty path. -/
def parent? (path : String) : Option String :=
  match (parts path).reverse with
  | [] => none
  | _ :: above =>
    let way := "/".intercalate above.reverse
    some (if isAbsolute path then "/" ++ way else way)

end Gradebook.Path
