/-
# Gradebook.Yaml.Scalar — the three forms of scalars

Plain words, texts between quotes and blocks of lines. Line breaks within the first
two are folded: one break is a space, any more are line breaks less one. Every reader
knows the column of the collection around it (`indent`, -1 if there is none), for a
scalar ends where a line begins before it.
-/
import Gradebook.Json
import Gradebook.Yaml.Cursor

namespace Gradebook.Yaml

set_option autoImplicit false

/-- A column lies before an indentation. -/
def isBefore (column : Nat) (indent : Int) : Bool := decide ((column : Int) < indent)

/-- The blanks between two words of a scalar: those on one line, or line breaks. -/
structure Between where
  blanks : List Char := []
  /-- A first line break that stands for a space if no others follow. -/
  broken : Bool := false
  /-- The line breaks after the first. -/
  empty : Nat := 0

namespace Between

/-- The text of blanks between words, which are on two lines if `split`. -/
def text (b : Between) (split : Bool) : List Char :=
  if !split then b.blanks
  else if b.broken && b.empty == 0 then [' ']
  else List.replicate b.empty '\n'

end Between

/-! ### Plain scalars -/

/-- The character at the cursor can stand in a plain scalar. -/
def isPlainAt (flow : Bool) (c : Cursor) : Bool :=
  if c.peek == ':' && (isGap (c.peekAt 1) || (flow && isFlow (c.peekAt 1))) then false
  else !(flow && isFlow c.peek)

/-- A word of a plain scalar. -/
def plainWord (flow : Bool) : Nat → Cursor → List Char × Cursor
  | 0, c => ([], c)
  | fuel + 1, c =>
    if isGap c.peek || !isPlainAt flow c then ([], c)
    else
      let (word, after) := plainWord flow fuel c.advance
      (c.peek :: word, after)

/-- The blanks and line breaks after a word of a plain scalar. No tab may indent a line. -/
def plainBetween? (indent : Int) : Nat → Between → Cursor → Option (Between × Cursor)
  | 0, _, _ => none
  | fuel + 1, b, c =>
    if isBlank c.peek then
      if !c.fresh then
        plainBetween? indent fuel { b with blanks := b.blanks ++ [c.peek] } c.overBlank
      else if c.peek == '\t' && isBefore c.column indent then do
        let (next, _) ← c.overGap?
        if isLineEnd next.peek then plainBetween? indent fuel b next else none
      else plainBetween? indent fuel b c.overBlank
    else if isBreak c.peek then
      let b : Between := if c.fresh then { b with empty := b.empty + 1 } else ⟨[], true, b.empty⟩
      plainBetween? indent fuel b c.overBreak
    else some (b, c)

/-- The words of a plain scalar from the cursor on, and the place behind them. -/
def plainFrom? (flow : Bool) (indent : Int) : Nat → Between → Cursor →
    Option (List Char × Cursor)
  | 0, _, _ => none
  | fuel + 1, b, c =>
    if (c.column = 0 && c.isDocumentMark) || c.peek == '#' then some ([], c)
    else if flow && c.peek == '-' && isFlow (c.peekAt 1) then none
    else
      let (word, next) := plainWord flow (c.rest.length + 1) c
      let lead := if word.isEmpty then [] else b.text c.fresh
      let b : Between := if word.isEmpty then b else {}
      if !(isBlank next.peek || isBreak next.peek) then some (lead ++ word, next)
      else do
        let (b, after) ← plainBetween? indent (next.rest.length + 1) b next
        if !flow && isBefore after.column indent then some (lead ++ word, after)
        else
          let (rest, after) ← plainFrom? flow indent fuel b after
          some (lead ++ word ++ rest, after)

/-- A plain scalar, which has at least one character. -/
def plain? (flow : Bool) (indent : Int) (c : Cursor) : Option (String × Cursor) := do
  if flow && isBefore c.column (indent + 1) then none
  else
    let (text, after) ← plainFrom? flow (indent + 1) (c.rest.length + 1) {} c
    if text.isEmpty then none else some (String.ofList text, after)

/-! ### Quoted scalars -/

/-- The characters that escapes stand for. -/
def escapes : List (Char × Char) :=
  [('0', '\x00'), ('a', '\x07'), ('b', '\x08'), ('t', '\t'), ('\t', '\t'), ('n', '\n'),
    ('v', '\x0b'), ('f', '\x0c'), ('r', '\r'), ('e', '\x1b'), (' ', ' '), ('"', '"'),
    ('/', '/'), ('\\', '\\'), ('N', '\u0085'), ('_', '\u00a0'), ('L', '\u2028'),
    ('P', '\u2029')]

/-- The numbers of digits in escapes by code. -/
def codeLengths : List (Char × Nat) := [('x', 2), ('u', 4), ('U', 8)]

/-- The character of a code. -/
def charOf? (code : Nat) : Option Char :=
  if code < 0xd800 ∨ (0xdfff < code ∧ code < 0x110000) then some (Char.ofNat code) else none

/-- The character of an escape at its backslash, and the place behind it. -/
def escape? (c : Cursor) : Option (Char × Cursor) := do
  match codeLengths.lookup (c.peekAt 1) with
  | none => some (← escapes.lookup (c.peekAt 1), c.advanceMany 2)
  | some count =>
    let digits ← ((c.rest.drop 2).take count).mapM Json.hexValue?
    if digits.length = count then
      some (← charOf? (digits.foldl (fun n d => 16 * n + d) 0), c.advanceMany (2 + count))
    else none

/-- A word between quotes. An escaped line break ends it, and says so. -/
def quotedWord? (single : Bool) : Nat → Cursor → Option (List Char × Cursor × Bool)
  | 0, _ => none
  | fuel + 1, c =>
    if isGap c.peek then some ([], c, false)
    else if single && c.peek == '\'' then
      if c.peekAt 1 == '\'' then do
        let (word, after) ← quotedWord? single fuel (c.advanceMany 2)
        some ('\'' :: word, after)
      else some ([], c, false)
    else if !single && c.peek == '"' then some ([], c, false)
    else if !single && c.peek == '\\' then
      if isBreak (c.peekAt 1) then some ([], c.advance.overBreak, true)
      else do
        let (char, next) ← escape? c
        let (word, after) ← quotedWord? single fuel next
        some (char :: word, after)
    else do
      let (word, after) ← quotedWord? single fuel c.advance
      some (c.peek :: word, after)

/-- The blanks and line breaks after a word between quotes; `split` says that they are on
another line already. -/
def quotedBetween? (indent : Int) : Nat → Bool → Between → Cursor →
    Option (Bool × Between × Cursor)
  | 0, _, _, _ => none
  | fuel + 1, split, b, c =>
    if isBlank c.peek then
      if !split then
        quotedBetween? indent fuel split { b with blanks := b.blanks ++ [c.peek] } c.overBlank
      else if c.peek == '\t' && isBefore c.column indent then none
      else quotedBetween? indent fuel split b c.overBlank
    else if isBreak c.peek then
      let b : Between := if split then { b with empty := b.empty + 1 } else ⟨[], true, b.empty⟩
      quotedBetween? indent fuel true b c.overBreak
    else some (split, b, c)

/-- The text up to the closing quote, and the place at that quote. -/
def quotedFrom? (single : Bool) (indent : Int) : Nat → Cursor → Option (List Char × Cursor)
  | 0, _ => none
  | fuel + 1, c =>
    if (c.column = 0 && c.isDocumentMark) || isEnd c.peek || isBefore c.column indent then none
    else do
      let (word, next, split) ← quotedWord? single (c.rest.length + 1) c
      if next.peek == (if single then '\'' else '"') then some (word, next)
      else
        let (split, b, after) ← quotedBetween? indent (next.rest.length + 1) split {} next
        let (rest, after) ← quotedFrom? single indent fuel after
        some (word ++ b.text split ++ rest, after)

/-- A quoted scalar from its first quote. What may follow on its line is a comment, the
mark of a flow collection, or the colon behind a key. -/
def quoted? (flow : Bool) (indent : Int) (c : Cursor) : Option (String × Cursor) := do
  let (text, close) ← quotedFrom? (c.peek == '\'') indent (c.rest.length + 1) c.advance
  let (after, _) ← close.advance.overGap?
  let next := after.peek
  let closed := isLineEnd next || (flow && (next == ',' || next == '\x7d' || next == ']')) ||
    (next == ':' && (flow || c.line == after.line))
  if closed then some (String.ofList text, after) else none

/-! ### Block scalars -/

/-- What becomes of the line breaks at the end of a block. -/
inductive Chomping where
  | strip
  | clip
  | keep
  deriving DecidableEq

/-- The marks behind the first of a block scalar: how its end is treated, and by how many
columns it is indented. -/
def blockHeader? (c : Cursor) : Option (Chomping × Option Nat × Cursor) :=
  let chomping : Cursor → Option (Chomping × Cursor) := fun c =>
    if c.peek == '+' then some (.keep, c.advance)
    else if c.peek == '-' then some (.strip, c.advance)
    else none
  let digit : Cursor → Option (Option Nat × Cursor) := fun c =>
    if !c.peek.isDigit then some (none, c)
    else if c.peek == '0' then none
    else some (some (c.peek.toNat - '0'.toNat), c.advance)
  match chomping c with
  | some (end_, c) => (digit c).map fun (count, c) => (end_, count, c)
  | none => do
    let (count, c) ← digit c
    match count, chomping c with
    | some _, some (end_, c) => some (end_, count, c)
    | _, _ => some (.clip, count, c)

/-- Go over empty lines and the indentation of the next one, counting the empty lines. -/
def blockIndent (indent : Nat) : Nat → Cursor → Nat × Cursor
  | 0, c => (0, c)
  | fuel + 1, c =>
    let spaces := (c.rest.take (indent - c.column)).takeWhile (· == ' ')
    let c := { c with
      rest := c.rest.drop spaces.length
      index := c.index + spaces.length
      column := c.column + spaces.length }
    if isBreak c.peek then
      let (count, c) := blockIndent indent fuel c.overBreak
      (count + 1, c)
    else (0, c)

/-- Go over empty lines and all spaces before the first other line. The widest
indentation seen comes with them. -/
def firstIndent : Nat → Cursor → Nat × Nat × Cursor
  | 0, c => (c.column, 0, c)
  | fuel + 1, c =>
    let c := c.overSpaces
    if isBreak c.peek then
      let (widest, count, after) := firstIndent fuel c.overBreak
      (max c.column widest, count + 1, after)
    else (c.column, 0, c)

/-- The lines of a block: its text without the line breaks at its end, whether the last
line has a line break, the number of empty lines after it, and the place behind. In a
folded block a break between two lines that begin with no blank is folded. -/
def blockLines (literal : Bool) (indent : Nat) : Nat → Bool → Bool → Nat → Cursor →
    List Char × Bool × Nat × Cursor
  | 0, _, broken, empty, c => ([], broken, empty, c)
  | fuel + 1, blankBefore, broken, empty, c =>
    if c.column ≠ indent || isEnd c.peek || (indent = 0 && c.isDocumentMark) then
      ([], broken, empty, c)
    else
      let blank := isBlank c.peek
      let fold := !literal && broken && !blankBefore && !blank
      let lead := (if broken && !fold then ['\n'] else if fold && empty == 0 then [' '] else []) ++
        List.replicate empty '\n'
      let (line, next) := c.span fun d => !isLineEnd d
      if isEnd next.peek then (lead ++ line, false, 0, next)
      else
        let (count, next) := blockIndent indent (next.rest.length + 1) next.overBreak
        let (rest, broken, empty, after) := blockLines literal indent fuel blank true count next
        (lead ++ line ++ rest, broken, empty, after)

/-- A block scalar from its first mark. -/
def block? (indent : Int) (start : Cursor) : Option (String × Cursor) := do
  let (chomping, count, c) ← blockHeader? start.advance
  let (c, _) ← c.overGap?
  if !isLineEnd c.peek then none
  else
    let broken := isBreak c.peek
    let c := if broken then c.overBreak else c
    if c.peek == '\t' then none
    else
      let (column, empty, c) := match count with
        | some count =>
          let column := if 0 ≤ indent then indent.toNat + count else count
          let (empty, c) := blockIndent column (c.rest.length + 1) c
          (column, empty, c)
        | none =>
          let (widest, empty, c) := firstIndent (c.rest.length + 1) c
          (max (max widest (indent + 1).toNat) (if 0 < indent then 1 else 0), empty, c)
      if isEnd c.peek then
        let breaks :=
          if chomping = .strip || c.line = start.line then 0
          else if chomping = .clip then if broken then 1 else 0
          else if empty = 0 then if broken then 1 else 0
          else empty
        some (String.ofList (List.replicate breaks '\n'), c)
      else if c.column < column && decide (indent < (c.column : Int)) then none
      else
        let (text, broken, empty, after) :=
          blockLines (start.peek == '|') column (c.rest.length + 1) false false empty c
        let last := if chomping = .strip then []
          else (if broken then ['\n'] else []) ++
            (if isEnd after.peek && max column 1 ≤ after.column then ['\n'] else [])
        let tail := if chomping = .keep then List.replicate empty '\n' else []
        some (String.ofList (text ++ last ++ tail), after)

end Gradebook.Yaml
