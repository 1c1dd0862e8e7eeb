/-
# Gradebook.Text.Width — how many columns a text takes

A character takes two columns if it is wide, none if it joins another one or
cannot be seen, one otherwise. What stands to its right can change that: pictures
that are joined to one another, a flag or a skin tone share two columns, a selector
makes a character a picture or a text, and some scripts write letters as one. So
texts are read from the right, and `State` is what there is to know about the part
already read.
-/
import Gradebook.Text.Ranges
import Gradebook.Text.Ranges.Combining
import Gradebook.Text.Ranges.Emoji
import Gradebook.Text.Ranges.Wide

namespace Gradebook.Text

open Ranges (isIn)

set_option autoImplicit false

namespace Width

/-- Characters that take no column by themselves. The joiner of Tifinagh letters shows
where it joins nothing. -/
def isZero (c : Char) : Bool :=
  (isIn Ranges.combining c && c ≠ '\u2d7f') || isIn Ranges.invisible c

/-- The columns of a character by itself. -/
def own (c : Char) : Nat :=
  if c.toNat < 0x300 then if c = '\u00ad' then 0 else 1
  else if c = '\u115f' ∨ c = '\u17a4' then 2
  else if c = '\u17d8' then 3
  else if isZero c then 0
  else if isIn Ranges.wide c then 2
  else 1

/-- Letters that take part in written units. -/
inductive Letter where
  | alef
  | lamed
  | buginese
  /-- A Buginese letter with the vowel before its joiner. -/
  | bugineseVowel
  | tifinagh
  /-- A Tifinagh letter with the joiner of Tifinagh before it. -/
  | tifinaghJoined
  | lisuTone
  | orkhon
  | khmer
  deriving DecidableEq, Repr

/-- What stands to the right. -/
inductive Right where
  | plain
  | lineFeed
  | tone
  /-- One letter of a flag, and several. -/
  | flagLetter
  | flagLetters
  | picture
  /-- A joiner with a picture behind it. -/
  | joiner
  | joinedKeycap
  /-- Letters of flags before such a joiner: one, an even number, an odd number. -/
  | joinedFlagLetter
  | joinedEven
  | joinedOdd
  /-- The last letters or digits of a tag before such a joiner. -/
  | tagLetters (count : Nat)
  | tagDigits (count : Nat)
  /-- A vowel sign of Kirat Rai, and the sign it makes with another one. -/
  | kiratE
  | kiratAi
  /-- A letter, with or without a joiner before it. -/
  | letter (l : Letter) (joined : Bool)
  deriving DecidableEq, Repr

/-- How a selector asks for the character before it. -/
inductive Selector where
  | picture
  | text
  | full
  deriving DecidableEq, Repr

/-- What is known about the part to the right of a character. -/
structure State where
  right : Right := .plain
  selector : Option Selector := none
  deriving DecidableEq, Repr

def isTone (c : Char) : Bool := 0x1f3fb ≤ c.toNat && c.toNat ≤ 0x1f3ff

def isFlagLetter (c : Char) : Bool := 0x1f1e6 ≤ c.toNat && c.toNat ≤ 0x1f1ff

def isTagLetter (c : Char) : Bool := 0xe0061 ≤ c.toNat && c.toNat ≤ 0xe007a

def isTagDigit (c : Char) : Bool := 0xe0030 ≤ c.toNat && c.toNat ≤ 0xe0039

def isAlef (c : Char) : Bool :=
  isIn [(0x622, 0x623), (0x625, 0x625), (0x627, 0x627), (0x671, 0x673), (0x675, 0x675),
    (0x773, 0x774), (0x870, 0x882)] c

def isLam (c : Char) : Bool :=
  isIn [(0x644, 0x644), (0x6b5, 0x6b8), (0x76a, 0x76a), (0x8a6, 0x8a6), (0x8c7, 0x8c7)] c

def isTifinagh (c : Char) : Bool := isIn [(0x2d31, 0x2d65), (0x2d6f, 0x2d6f)] c

/-- The letters of Khmer that can be written below another one. -/
def isKhmer (c : Char) : Bool :=
  isIn [(0x1780, 0x1782), (0x1784, 0x1787), (0x1789, 0x178c), (0x178e, 0x1793), (0x1795, 0x1798),
    (0x179b, 0x179d), (0x17a0, 0x17a0), (0x17a2, 0x17a2), (0x17a7, 0x17a7), (0x17ab, 0x17ac),
    (0x17af, 0x17af)] c

/-- Ignorable marks, which do not come between the letters of a unit. -/
def isPassedOver (c : Char) : Bool :=
  isIn [(0x34f, 0x34f), (0x17b4, 0x17b5), (0x180b, 0x180d), (0x180f, 0x180f), (0xfe00, 0xfe0f),
    (0xe0100, 0xe01ef)] c

/-- Marks that do not come between Arabic letters. -/
def isTransparent (c : Char) : Bool := own c == 0 && !isIn Ranges.unjoined c

/-- Pictures that a selector turns into text of one column. -/
def isTextBase (c : Char) : Bool :=
  isIn Ranges.pictureBases c && isIn Ranges.pictures c && !(0x1f200 ≤ c.toNat && c.toNat ≤ 0x1f2ff)

/-- Quotation marks with a full and a half width. -/
def isQuote (c : Char) : Bool := ['\u2018', '\u2019', '\u201c', '\u201d'].contains c

/-- What a character is to the one on its left. -/
def rightOf (c : Char) : Right :=
  if isTone c then .tone
  else if isFlagLetter c then .flagLetter
  else if isIn Ranges.pictures c then .picture
  else if isAlef c then .letter .alef false
  else if c = '\u05dc' then .letter .lamed false
  else if c = '\u1a10' then .letter .buginese false
  else if isTifinagh c then .letter .tifinagh false
  else if c = '\ua4fc' ∨ c = '\ua4fd' then .letter .lisuTone false
  else if c.toNat = 0x10c03 then .letter .orkhon false
  else if isKhmer c then .letter .khmer false
  else if c.toNat = 0x16d67 then .kiratE
  else if c.toNat = 0x16d68 then .kiratAi
  else .plain

/-- The state after a selector. What it cannot be between is forgotten. -/
def selected (s : Selector) : Right → State
  | .letter l joined => ⟨.letter l joined, some s⟩
  | .joiner => ⟨if s = .picture then .joiner else .plain, some s⟩
  | .joinedKeycap => ⟨if s = .picture then .joinedKeycap else .plain, some s⟩
  | _ => ⟨.plain, some s⟩

/-- What remains to the right once a selector did not apply. -/
def unselected : State → Right
  | ⟨.letter l joined, some _⟩ => .letter l joined
  | ⟨_, some _⟩ => .plain
  | ⟨right, none⟩ => right

/-- What a character adds next to a letter that forms a unit with it. -/
def united? (c : Char) : Letter → Bool → Option (Int × Right)
  | .alef, _ => if isLam c then some (0, .plain)
    else if isTransparent c then some (0, .letter .alef false) else none
  | .lamed, true => if c = '\u05d0' then some (0, .plain) else none
  | .buginese, true => if c = '\u1a17' then some (0, .letter .bugineseVowel false) else none
  | .bugineseVowel, _ => if c = '\u1a15' then some (0, .plain) else none
  | .tifinagh, joined =>
    if c = '\u2d7f' then some (1, .letter .tifinaghJoined false)
    else if joined && isTifinagh c then some (0, .plain) else none
  | .tifinaghJoined, _ => if isTifinagh c then some (-1, .plain) else none
  | .lisuTone, _ => if 0xa4f8 ≤ c.toNat ∧ c.toNat ≤ 0xa4fb then some (0, .plain) else none
  | .orkhon, true => if c.toNat = 0x10c32 then some (0, .plain) else none
  | .khmer, _ => if c = '\u17d2' then some (-1, .plain) else none
  | _, _ => none

/-- What a character adds next to a letter: joiners and ignorable marks add nothing. -/
def besideLetter? (c : Char) (l : Letter) (joined : Bool) : Option (Int × Right) :=
  if l ≠ .alef ∧ c = '\u200d' then some (0, .letter l true)
  else if l ≠ .alef ∧ isPassedOver c then some (0, .letter l joined)
  else united? c l joined

/-- What a character adds before a joiner with a picture behind it. -/
def beforeJoiner? (c : Char) : Option (Int × Right) :=
  if c = '\u20e3' then some (0, .joinedKeycap)
  else if isFlagLetter c then some (1, .joinedFlagLetter)
  else if isTone c then some (0, .tone)
  else if c.toNat = 0xe007f then some (0, .tagLetters 0)
  else if isIn Ranges.pictures c then some (0, .picture)
  else none

/-- The flag that letters and digits of a tag describe. -/
def tagged? (c : Char) (enough : Bool) : Option (Int × Right) :=
  if enough ∧ c.toNat = 0x1f3f4 then some (0, .picture) else none

/-- What a character adds because of what stands to its right, if it is anything special. -/
def special? (c : Char) : Right → Option (Int × Right)
  | .plain => none
  | .lineFeed => none
  | .tone =>
    if isIn Ranges.modifierBases c then some (0, .picture)
    else if c = '\u200d' then some (0, .joiner) else none
  | .flagLetter => if isFlagLetter c then some (1, .flagLetters) else none
  | .flagLetters =>
    if isFlagLetter c then some (1, .flagLetters)
    else if c = '\u200d' then some (0, .joiner) else none
  | .picture => if c = '\u200d' then some (0, .joiner) else none
  | .joiner => beforeJoiner? c
  | .joinedKeycap => none
  | .joinedFlagLetter => if isFlagLetter c then some (-1, .joinedEven) else none
  | .joinedEven =>
    if isFlagLetter c then some (3, .joinedOdd)
    else if c = '\u200d' then some (0, .joiner) else none
  | .joinedOdd =>
    if isFlagLetter c then some (-1, .joinedEven)
    else if c = '\u200d' then some (0, .joiner) else none
  | .tagLetters n =>
    if isTagLetter c ∧ n < 6 then some (0, .tagLetters (n + 1))
    else if isTagDigit c ∧ n < 5 then some (0, .tagDigits 1)
    else tagged? c (3 ≤ n)
  | .tagDigits n =>
    if isTagDigit c ∧ n < 3 then some (0, .tagDigits (n + 1)) else tagged? c (n == 3)
  | .kiratE =>
    if c.toNat = 0x16d63 ∨ c.toNat = 0x16d69 then some (0, .plain)
    else if c.toNat = 0x16d67 then some (0, .kiratAi)
    else if c.toNat = 0x16d68 then some (1, .kiratE)
    else none
  | .kiratAi => if c.toNat = 0x16d63 then some (0, .plain) else none
  | .letter l joined => besideLetter? c l joined

/-- What a character adds that no selector asks for. -/
def unasked (c : Char) (right : Right) : Int × State :=
  if c.toNat ≤ 0xa0 then
    if c = '\n' then (1, ⟨.lineFeed, none⟩)
    else if c = '\r' ∧ right = .lineFeed then (0, {})
    else (1, {})
  else match special? c right with
    | some (n, right) => (n, ⟨right, none⟩)
    | none => (own c, ⟨rightOf c, none⟩)

/-- What a character adds, and what is known after it. -/
def add (c : Char) (s : State) : Int × State :=
  if s.selector = some .picture ∧ isIn Ranges.pictureBases c then
    (if s.right = .joiner ∨ s.right = .joinedKeycap then 0 else 2, ⟨.picture, none⟩)
  else
    let s := if s.selector = some .picture then ⟨unselected s, none⟩ else s
    if c = '\ufe0f' then (0, selected .picture s.right)
    else if c = '\ufe0e' then (0, selected .text s.right)
    else if c = '\ufe01' then (0, selected .full s.right)
    else if s.selector = some .text ∧ isTextBase c then (1, {})
    else if s.selector = some .full ∧ isQuote c then (2, {})
    else unasked c (unselected s)

end Width

/-- The columns of a text. -/
def width (text : String) : Nat :=
  (text.toList.foldr (fun c (sum : Int × Width.State) =>
    let (n, s) := Width.add c sum.2
    (sum.1 + n, s)) (0, {})).1.toNat

end Gradebook.Text
