/-
# Gradebook.Toml — reading TOML documents

A document is a sequence of lines: blank or comment, a header, or a key with its
value. `read?` gives the table of the whole document, or nothing if a line is
malformed or two lines contradict each other.
-/
import Gradebook.Toml.Number
import Gradebook.Toml.Outline

namespace Gradebook.Toml

set_option autoImplicit false

def leaf (r : Scalar × List Char) : Tree × List Char := (.leaf r.1 0, r.2)

mutual

/-- A value with at most `room` levels of lists and tables. -/
def value? : Nat → Nat → List Char → Option (Tree × List Char)
  | 0, _, _ => none
  | fuel + 1, room, text =>
    match text with
    | '"' :: _ => (string? basic text).map fun r => leaf (.text r.1, r.2)
    | '\'' :: _ => (string? literal text).map fun r => leaf (.text r.1, r.2)
    | '[' :: rest =>
      if room = 0 then none
      else (items? fuel (room - 1) rest).map fun r => (.list r.1, r.2)
    | '{' :: rest =>
      if room = 0 then none
      else match skipBlanks rest with
        | '}' :: rest => some (.table [], rest)
        | rest => (pairs? fuel (room - 1) [] rest).map fun r => (.table (treesOf r.1), r.2)
    | 't' :: 'r' :: 'u' :: 'e' :: rest => some (leaf (.truth true, rest))
    | 'f' :: 'a' :: 'l' :: 's' :: 'e' :: rest => some (leaf (.truth false, rest))
    | text => (number? text).map leaf

/-- The items of a list up to its closing bracket. The last one may have a comma too. -/
def items? : Nat → Nat → List Char → Option (List Tree × List Char)
  | 0, _, _ => none
  | fuel + 1, room, text =>
    match skipSpace (text.length + 1) text with
    | ']' :: rest => some ([], rest)
    | rest => do
      let (item, rest) ← value? fuel room rest
      match skipSpace (rest.length + 1) rest with
      | ',' :: rest => do
        let (items, rest) ← items? fuel room rest
        some (item :: items, rest)
      | ']' :: rest => some ([item], rest)
      | _ => none

/-- The entries of an inline table up to its closing brace, all on one line. -/
def pairs? : Nat → Nat → Entries → List Char → Option (Entries × List Char)
  | 0, _, _, _ => none
  | fuel + 1, room, entries, text => do
    let (keys, rest) ← key? text
    let (value, rest) ← value? fuel room (skipBlanks (← mark? '=' rest))
    let entries ← entries.assign keys value
    match skipBlanks rest with
    | ',' :: rest => pairs? fuel room entries rest
    | '}' :: rest => some (entries, rest)
    | _ => none

end

/-- A key with its value. -/
def assignment? (o : Outline) (text : List Char) : Option (Outline × List Char) := do
  let (keys, rest) ← key? text
  let rest := skipBlanks (← mark? '=' rest)
  let (value, rest) ← value? (2 * rest.length + 2) (depthLimit - 1) rest
  some (← o.assign keys value, rest)

/-- A header behind its opening bracket or brackets. -/
def header? (o : Outline) (next : Bool) (text : List Char) : Option (Outline × List Char) := do
  let (keys, rest) ← key? text
  let rest ← mark? ']' rest
  let rest ← if next then mark? ']' rest else some rest
  some (← o.enter next keys, rest)

def lines? : Nat → Outline → List Char → Option Outline
  | 0, _, _ => none
  | fuel + 1, o, text => do
    match skipBlanks text with
    | [] => some o
    | '#' :: rest => lines? fuel o (← lineEnd? ('#' :: rest))
    | '[' :: '[' :: rest =>
      let (o, rest) ← header? o true rest
      lines? fuel o (← lineEnd? rest)
    | '[' :: rest =>
      let (o, rest) ← header? o false rest
      lines? fuel o (← lineEnd? rest)
    | rest => match lineBreak? rest with
      | some rest => lines? fuel o rest
      | none =>
        let (o, rest) ← assignment? o rest
        lines? fuel o (← lineEnd? rest)

/-- The entries of a document. A byte order mark may stand before it. -/
def read? (text : String) : Option (List (String × Tree)) :=
  let text := match text.toList with
    | '\ufeff' :: rest => rest
    | rest => rest
  (lines? (text.length + 1) {} text).map fun o => treesOf o.root

end Gradebook.Toml
