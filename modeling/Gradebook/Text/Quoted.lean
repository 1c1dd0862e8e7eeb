/-
# Gradebook.Text.Quoted — texts between quotes, for messages

Quotes and backslashes are escaped, as is everything that would not show: line
breaks, controls, unassigned codes and marks that would join the quote.
-/
import Gradebook.Text.Ranges
import Gradebook.Text.Ranges.Combining
import Gradebook.Text.Ranges.Unprintable

namespace Gradebook.Text

set_option autoImplicit false

def hexDigits (n : Nat) : List Char :=
  (Nat.toDigits 16 n)

/-- Letters that stand for the lack of one. -/
def fillers : List Char := ['\u115f', '\u1160', '\u3164', '\uffa0']

/-- Whether a character shows by itself. -/
def isShown (c : Char) : Bool :=
  if c.toNat < 0x7f then ' ' ≤ c
  else !(Ranges.isIn Ranges.unprintable c || Ranges.isIn Ranges.combining c || fillers.contains c)

def escaped (c : Char) : List Char :=
  if c = '"' then ['\\', '"']
  else if c = '\\' then ['\\', '\\']
  else if c = '\n' then ['\\', 'n']
  else if c = '\r' then ['\\', 'r']
  else if c = '\t' then ['\\', 't']
  else if c.toNat = 0 then ['\\', '0']
  else if isShown c then [c]
  else ['\\', 'u', '\x7b'] ++ hexDigits c.toNat ++ ['\x7d']

/-- A character as messages quote it. -/
def quotedChar (c : Char) : String :=
  String.ofList (['\''] ++ (if c = '\'' then ['\\', c] else if c = '"' then [c] else escaped c) ++
    ['\''])

/-- A text as messages quote it. -/
def quoted (text : String) : String :=
  "\"" ++ String.ofList (text.toList.flatMap escaped) ++ "\""

end Gradebook.Text
