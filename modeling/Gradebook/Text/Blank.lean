/-
# Gradebook.Text.Blank — white space and trimming

`isBlank` is the Unicode property White_Space, which contains the six ASCII
blanks and nineteen characters beyond them.
-/

namespace Gradebook.Text

set_option autoImplicit false

/-- The characters of the property White_Space. -/
def isBlank (c : Char) : Bool :=
  let n := c.toNat
  (0x09 ≤ n && n ≤ 0x0d) || n == 0x20 || n == 0x85 || n == 0xa0 || n == 0x1680 ||
    (0x2000 ≤ n && n ≤ 0x200a) || n == 0x2028 || n == 0x2029 || n == 0x202f ||
    n == 0x205f || n == 0x3000

def dropBlanks (text : List Char) : List Char := text.dropWhile isBlank

def dropTrailingBlanks (text : List Char) : List Char := (text.reverse.dropWhile isBlank).reverse

/-- A text without the blanks at its two ends. -/
def trimmed (text : String) : String :=
  String.ofList (dropTrailingBlanks (dropBlanks text.toList))

/-- A text of blanks only, or empty. -/
def isAllBlank (text : String) : Bool := text.toList.all isBlank

/-- Every piece between occurrences of a character; one piece more than there are
occurrences. -/
def splitAt (separator : Char) : List Char → List (List Char)
  | [] => [[]]
  | c :: rest =>
    if c = separator then [] :: splitAt separator rest
    else match splitAt separator rest with
      | [] => [[c]]
      | piece :: pieces => (c :: piece) :: pieces

/-- The pieces of a text between occurrences of a character. -/
def pieces (separator : Char) (text : String) : List String :=
  (splitAt separator text.toList).map String.ofList

end Gradebook.Text
