/-
# Gradebook.Yaml.Cursor — a place in a YAML text

A cursor knows its line and column, for indentation is by columns, and whether only
blanks stand before it on its line. The text ends at its end or at a NUL, which is
what `peek` gives there.
-/

namespace Gradebook.Yaml

set_option autoImplicit false

/-! ### Characters -/

def isBlank (c : Char) : Bool := c == ' ' || c == '\t'

def isBreak (c : Char) : Bool := c == '\n' || c == '\r'

def isEnd (c : Char) : Bool := c == '\x00'

/-- Nothing more on the line. -/
def isLineEnd (c : Char) : Bool := isBreak c || isEnd c

/-- No part of a word. -/
def isGap (c : Char) : Bool := isBlank c || isLineEnd c

/-- The marks of flow collections. -/
def isFlow (c : Char) : Bool :=
  c == ',' || c == '[' || c == ']' || c == '\x7b' || c == '\x7d'

/-- The characters of tag handles. -/
def isWord (c : Char) : Bool := c.isAlphanum || c == '_' || c == '-'

/-! ### Cursors -/

structure Cursor where
  rest : List Char
  index : Nat := 0
  line : Nat := 0
  column : Nat := 0
  /-- Only blanks stand before the cursor on its line. -/
  fresh : Bool := true

namespace Cursor

def ofText (text : String) : Cursor := { rest := text.toList.takeWhile fun c => !isEnd c }

def peek (c : Cursor) : Char := c.rest.head?.getD '\x00'

/-- The character some places further on. -/
def peekAt (c : Cursor) (n : Nat) : Char := c.rest[n]?.getD '\x00'

/-- Go over a blank. -/
def overBlank (c : Cursor) : Cursor :=
  { c with rest := c.rest.tail, index := c.index + 1, column := c.column + 1 }

/-- Go over a character that is no blank. -/
def advance (c : Cursor) : Cursor := { c.overBlank with fresh := false }

/-- Go over so many characters that are no blanks. -/
def advanceMany (c : Cursor) : Nat → Cursor
  | 0 => c
  | n + 1 => c.advance.advanceMany n

/-- Go over a line break. -/
def overBreak (c : Cursor) : Cursor :=
  let width := if c.peek == '\r' && c.peekAt 1 == '\n' then 2 else 1
  { rest := c.rest.drop width, index := c.index + width, line := c.line + 1 }

/-- The characters up to the first that fails a test, and the place behind them. -/
def span (test : Char → Bool) (c : Cursor) : List Char × Cursor :=
  let word := c.rest.takeWhile test
  (word, c.advanceMany word.length)

/-- Go over blanks of one kind. -/
def overBlanks (test : Char → Bool) (c : Cursor) : Cursor :=
  let blanks := c.rest.takeWhile test
  { c with
    rest := c.rest.drop blanks.length
    index := c.index + blanks.length
    column := c.column + blanks.length }

def overSpaces (c : Cursor) : Cursor := c.overBlanks (· == ' ')

/-- Go over the rest of the line. -/
def overLine (c : Cursor) : Cursor := (c.span fun d => !isLineEnd d).2

/-- Three equal marks that stand for themselves. -/
def isMark (mark : Char) (c : Cursor) : Bool :=
  c.peek == mark && c.peekAt 1 == mark && c.peekAt 2 == mark && isGap (c.peekAt 3)

/-- The beginning of a document. -/
def isDocumentStart (c : Cursor) : Bool := c.isMark '-'

/-- The end of a document. -/
def isDocumentEnd (c : Cursor) : Bool := c.isMark '.'

def isDocumentMark (c : Cursor) : Bool := c.isDocumentStart || c.isDocumentEnd

/-- The blanks before the next word on a line. -/
structure Gap where
  spaces : Bool
  tabs : Bool

/-- Go over blanks and a comment. A comment must have a blank before it. -/
def overGap? (c : Cursor) : Option (Cursor × Gap) :=
  let blanks := c.rest.takeWhile isBlank
  let gap : Gap := ⟨blanks.contains ' ', blanks.contains '\t'⟩
  let c := c.overBlanks isBlank
  if c.peek != '#' then some (c, gap)
  else if gap.spaces || gap.tabs then some (c.overLine, gap)
  else none

/-- Go over spaces and a comment, which must have a space before it. -/
def overSpaceGap? (c : Cursor) : Option Cursor :=
  let next := c.overSpaces
  if next.peek != '#' then some next
  else if next.index = c.index then none
  else some next.overLine

end Cursor

end Gradebook.Yaml
