/-
# Gradebook.Yaml.Token — a YAML text as tokens

Tokens make the structure of a text explicit: where block collections begin and end,
and which nodes are keys. Whether a node is a key shows only at the colon behind it,
so a place where a key could begin is remembered, and its tokens are put in there when
the colon comes. There is one such place for each level of flow collections.
-/
import Gradebook.Yaml.Scalar

namespace Gradebook.Yaml

set_option autoImplicit false

inductive Token where
  /-- A line that begins with a percent sign: the prefix of tag handles, or something else. -/
  | tagPrefix (handle meaning : String)
  | version
  | documentStart
  | documentEnd
  | listStart
  | tableStart
  | blockEnd
  | item
  | key
  | value
  | flowListStart
  | flowListEnd
  | flowTableStart
  | flowTableEnd
  | comma
  | alias (name : String)
  | anchor (name : String) (column : Nat)
  | tag (handle suffix : String) (column : Nat)
  | plain (text : String)
  | quoted (text : String)
  | finish
  deriving DecidableEq

/-- A place where a key could begin. -/
structure KeyPlace where
  /-- The number of tokens before it. -/
  count : Nat
  /-- Nothing else than a key can stand there. -/
  required : Bool
  index : Nat
  line : Nat
  column : Nat

/-- A level of indentation: the column outside of it, and whether a collection begins
with it. -/
structure Level where
  outer : Int
  isBlock : Bool

/-- A flow collection around the cursor. -/
structure FlowLevel where
  isTable : Bool
  keyPlace : Option KeyPlace := none

/-- A text partly taken apart. -/
structure Scanner where
  at_ : Cursor
  tokens : Array Token := #[]
  keyAllowed : Bool := true
  /-- The place of a key outside of flow collections. -/
  keyPlace : Option KeyPlace := none
  /-- Flow collections, the innermost first. -/
  flows : List FlowLevel := []
  /-- The column of the innermost block collection. -/
  indent : Int := -1
  levels : List Level := []
  /-- Where a value may follow its key without a blank. -/
  adjacent : Nat := 0

namespace Scanner

def inFlow (s : Scanner) : Bool := !s.flows.isEmpty

def push (s : Scanner) (t : Token) : Scanner := { s with tokens := s.tokens.push t }

def goTo (s : Scanner) (c : Cursor) : Scanner := { s with at_ := c }

def allowKey (s : Scanner) (allowed : Bool) : Scanner := { s with keyAllowed := allowed }

/-- Put tokens in before others. -/
def insertAt (s : Scanner) (count : Nat) (tokens : List Token) : Scanner :=
  let all := s.tokens.toList
  { s with tokens := (all.take count ++ tokens ++ all.drop count).toArray }

/-! ### Places of keys -/

/-- The place of a key on the innermost level. -/
def place (s : Scanner) : Option KeyPlace :=
  match s.flows with
  | [] => s.keyPlace
  | flow :: _ => flow.keyPlace

def setPlace (s : Scanner) (place : Option KeyPlace) : Scanner :=
  match s.flows with
  | [] => { s with keyPlace := place }
  | flow :: rest => { s with flows := { flow with keyPlace := place } :: rest }

/-- A key could begin here. -/
def markPlace (s : Scanner) : Scanner :=
  if !s.keyAllowed then s
  else
    let c := s.at_
    let required := !s.inFlow && s.indent == (c.column : Int) &&
      (match s.levels with
        | level :: _ => level.isBlock
        | [] => false)
    s.setPlace (some ⟨s.tokens.size, required, c.index, c.line, c.column⟩)

/-- No key began at the place on the innermost level. -/
def dropPlace? (s : Scanner) : Option Scanner :=
  match s.place with
  | some p => if p.required then none else some (s.setPlace none)
  | none => some s

/-- Outside of flow collections a key ends on its line, and soon. -/
def dropOldPlace? (s : Scanner) : Option Scanner :=
  match s.flows, s.keyPlace with
  | [], some p =>
    if p.line < s.at_.line || p.index + 1024 < s.at_.index then s.dropPlace? else some s
  | _, _ => some s

/-! ### Indentation -/

/-- Leave the levels that begin no collection. -/
def leaveLoose (s : Scanner) : Scanner :=
  let loose := s.levels.takeWhile fun level => !level.isBlock
  { s with
    indent := (loose.getLast?.map (·.outer)).getD s.indent
    levels := s.levels.dropWhile fun level => !level.isBlock }

/-- Leave the levels beyond a column. -/
def leaveTo (column : Int) : List Level → Scanner → Scanner
  | [], s => s
  | level :: rest, s =>
    if s.indent ≤ column then s
    else
      let s := { s with indent := level.outer, levels := rest }
      leaveTo column rest (if level.isBlock then s.push .blockEnd else s)

def leave (s : Scanner) (column : Int) : Scanner :=
  if s.inFlow then s else leaveTo column s.levels s

/-- Begin a block collection at a column, unless it is there already. Its token goes before
the others of its first key. -/
def enter (s : Scanner) (column count : Nat) (t : Token) : Scanner :=
  if s.inFlow then s
  else
    let s := match s.levels with
      | level :: rest =>
        if s.indent ≤ (column : Int) && !level.isBlock then
          { s with indent := level.outer, levels := rest }
        else s
      | [] => s
    if s.indent < (column : Int) then
      { s with indent := column, levels := ⟨s.indent, true⟩ :: s.levels }.insertAt count [t]
    else s

/-- One more column that begins no collection. -/
def enterLoose (s : Scanner) : Scanner :=
  match s.inFlow, s.levels with
  | false, level :: _ =>
    if level.isBlock then
      { s with indent := s.indent + 1, levels := ⟨s.indent, false⟩ :: s.levels }
    else s
  | _, _ => s

/-! ### Tokens -/

/-- Go over blanks, comments and empty lines. No tab may indent a block. -/
def toToken? : Nat → Scanner → Option Scanner
  | 0, s => some s
  | fuel + 1, s =>
    let c := s.at_
    if c.peek == '\t' && !s.levels.isEmpty && c.fresh && isBefore c.column s.indent then do
      let (next, _) ← c.overGap?
      if isLineEnd next.peek then toToken? fuel (s.goTo next) else none
    else if isBlank c.peek then toToken? fuel (s.goTo c.overBlank)
    else if isBreak c.peek then
      toToken? fuel ((s.goTo c.overBreak).allowKey (s.keyAllowed || !s.inFlow))
    else if c.peek == '#' then toToken? fuel (s.goTo c.overLine)
    else some s

def skip? (s : Scanner) : Option Scanner := toToken? (2 * s.at_.rest.length + 2) s

/-- Go on behind the blanks after a token. -/
def past? (s : Scanner) (c : Cursor) : Option Scanner := do
  let (next, _) ← c.overGap?
  some (s.goTo next)

def finish? (s : Scanner) : Option Scanner := do
  if s.flows.any fun flow => (flow.keyPlace.map (·.required)).getD false then none
  else
    let s ← { s with flows := [] }.dropPlace?
    some (({ s with flows := [] }.leave (-1)).push .finish)

def documentMark? (s : Scanner) (t : Token) : Option Scanner := do
  let s ← (s.leave (-1)).dropPlace?
  some (((s.allowKey false).goTo (s.at_.advanceMany 3)).push t)

def documentEnd? (s : Scanner) : Option Scanner := do
  let s ← s.documentMark? .documentEnd
  let s ← s.past? s.at_
  if isLineEnd s.at_.peek then some s else none

/-- How deep flow collections may be nested. -/
def flowLimit : Nat := 255

/-- A flow collection begins. -/
def flowStart? (s : Scanner) (isTable : Bool) : Option Scanner := do
  let s := s.markPlace.enterLoose
  if flowLimit ≤ s.flows.length then none
  else
    let s := { s with flows := { isTable } :: s.flows, keyAllowed := true }
    let s ← s.past? s.at_.advance
    some (s.push (if isTable then .flowTableStart else .flowListStart))

/-- A flow collection ends. -/
def flowEnd? (s : Scanner) (t : Token) : Option Scanner := do
  let s ← s.dropPlace?
  let s := { s with flows := s.flows.tail, keyAllowed := false }
  let s ← s.past? s.at_.advance
  let s := if s.inFlow then { s with adjacent := s.at_.index } else s
  some (s.push t)

def comma? (s : Scanner) : Option Scanner := do
  let s ← s.dropPlace?
  let s ← (s.allowKey true).past? s.at_.advance
  some (s.push .comma)

/-- An anchor or tag stands at the very beginning of a line that should be indented. -/
def isMisplaced (s : Scanner) : Bool :=
  s.at_.column = 0 && decide (-1 < s.indent) && match s.tokens.back? with
    | some (.anchor _ 0) => true
    | some (.tag _ _ 0) => true
    | _ => false

/-- The dash of a list. -/
def item? (s : Scanner) : Option Scanner := do
  if s.inFlow || !s.keyAllowed || s.isMisplaced then none
  else
    let s := s.enter s.at_.column s.tokens.size .listStart
    let (next, gap) ← s.at_.advance.overGap?
    if gap.tabs && next.peek == '-' && isGap (next.peekAt 1) then none
    else
      let s := s.goTo (← next.overSpaceGap?)
      let s := if isBreak s.at_.peek || isFlow s.at_.peek then s.enterLoose else s
      let s ← s.dropPlace?
      some ((s.allowKey true).push .item)

/-- The question mark before a key. -/
def key? (s : Scanner) : Option Scanner := do
  if !s.inFlow && !s.keyAllowed then none
  else
    let s := s.enter s.at_.column s.tokens.size .tableStart
    let s ← s.dropPlace?
    let c := s.at_.advance.overSpaces
    if c.peek == '\t' then none
    else some (((s.allowKey !s.inFlow).goTo c).push .key)

/-- The colon before a value. The key before it may have been on an earlier line only in
a flow table. -/
def value? (s : Scanner) : Option Scanner := do
  let start := s.at_
  let next := start.advance
  let (next, tabbed) ←
    if next.peek == '\t' then next.overGap?.map fun r => (r.1, !r.2.spaces)
    else some (next, false)
  if tabbed && isWord next.peek then none
  else
    let s := s.goTo next
    match s.place with
    | some p =>
      let inList := match s.flows with
        | flow :: _ => !flow.isTable
        | [] => false
      if inList && decide (p.line < start.line) then none
      else
        let s := ((s.insertAt p.count [.key]).enter p.column p.count .tableStart).enterLoose
        some (((s.setPlace none).allowKey false).push .value)
    | none =>
      if s.inFlow then some ((s.allowKey false).push .value)
      else if !s.keyAllowed then none
      else
        let s := (s.enter start.column s.tokens.size .tableStart).enterLoose
        some ((s.allowKey true).push .value)

def isNameChar (c : Char) : Bool := !(isGap c || isFlow c)

/-- An anchor or an alias. -/
def name? (s : Scanner) (token : String → Token) : Option Scanner :=
  let s := s.markPlace.allowKey false
  let (name, next) := s.at_.advance.span isNameChar
  if name.isEmpty then none else some ((s.goTo next).push (token (String.ofList name)))

/-- The characters of tags and of their prefixes. -/
def isUriChar (c : Char) : Bool :=
  c.isAlphanum || "-#;/?:@&=+$,_.!~*'()[]%".toList.contains c

/-- Characters of a tag, those written by their codes included. -/
def tagText? : List Char → Option (List Char)
  | '%' :: a :: b :: rest => do
    let code := 16 * (← Json.hexValue? a) + (← Json.hexValue? b)
    (tagText? rest).map (Char.ofNat code :: ·)
  | '%' :: _ => none
  | c :: rest => (tagText? rest).map (c :: ·)
  | [] => some []

/-- The exclamation mark of a tag, with the name of its handle and a second mark. -/
def handle (c : Cursor) : List Char × Cursor :=
  let (name, next) := c.advance.span isWord
  if next.peek == '!' then ('!' :: name ++ ['!'], next.advance) else ('!' :: name, next)

/-- The handle and the suffix of a tag. -/
def tagParts? (c : Cursor) : Option (String × String × Cursor) := do
  if c.peekAt 1 == '<' then
    let (text, next) := (c.advanceMany 2).span isUriChar
    if text.isEmpty || next.peek != '>' then none
    else some ("", String.ofList (← tagText? text), next.advance)
  else
    let (name, next) := handle c
    let (more, next) := next.span fun d => isUriChar d && !isFlow d && d != '!'
    let more ← tagText? more
    if 2 ≤ name.length && name.getLast? == some '!' then
      if more.isEmpty then none else some (String.ofList name, String.ofList more, next)
    else
      let suffix := name.tail ++ more
      if suffix.isEmpty then some ("", "!", next) else some ("!", String.ofList suffix, next)

def tag? (s : Scanner) : Option Scanner := do
  let s := s.markPlace.allowKey false
  let (name, suffix, next) ← tagParts? s.at_
  if isGap next.peek || (s.inFlow && isFlow next.peek) then
    some ((s.goTo next).push (.tag name suffix s.at_.column))
  else none

/-- A line that begins with a percent sign. -/
def directive? (s : Scanner) : Option Scanner := do
  let s ← (s.leave (-1)).dropPlace?
  let s := s.allowKey false
  let (name, next) := s.at_.advance.span fun c => !isGap c
  let arguments := next.overBlanks isBlank
  let ended? : Cursor → Token → Option Scanner := fun c t => do
    let (c, _) ← c.overGap?
    if isLineEnd c.peek then some ((s.goTo c).push t) else none
  if name = "YAML".toList then
    let (major, c) := arguments.span Char.isDigit
    let (minor, after) := c.advance.span Char.isDigit
    if major.isEmpty || c.peek != '.' || minor.isEmpty then none else ended? after .version
  else if name = "TAG".toList then
    let (name, c) := handle arguments
    let (meaning, after) := (c.overBlanks isBlank).span isUriChar
    if arguments.peek != '!' || !isBlank c.peek || meaning.isEmpty then none
    else ended? after (.tagPrefix (String.ofList name) (String.ofList meaning))
  else if name.isEmpty then none
  else some ((s.goTo s.at_.overLine).push (.tagPrefix "" ""))

def block? (s : Scanner) : Option Scanner := do
  let s := (s.markPlace.allowKey true).leaveLoose
  let (text, next) ← Yaml.block? s.indent s.at_
  some ((s.goTo next).push (.quoted text))

def quoted? (s : Scanner) : Option Scanner := do
  let s := s.markPlace.allowKey false
  let (text, next) ← Yaml.quoted? s.inFlow s.indent s.at_
  let s ← (s.goTo next).skip?
  some ({ s with adjacent := s.at_.index }.push (.quoted text))

def plain? (s : Scanner) : Option Scanner := do
  let s := (s.markPlace.allowKey false).leaveLoose
  let (text, next) ← Yaml.plain? s.inFlow s.indent s.at_
  some (((s.goTo next).allowKey next.fresh).push (.plain text))

/-- What begins with a character that is no document mark. -/
def token? (s : Scanner) : Option Scanner :=
  let c := s.at_.peek
  let next := s.at_.peekAt 1
  if c == '[' then s.flowStart? false
  else if c == '\x7b' then s.flowStart? true
  else if c == ']' then s.flowEnd? .flowListEnd
  else if c == '\x7d' then s.flowEnd? .flowTableEnd
  else if c == ',' then s.comma?
  else if c == '-' && isGap next then s.item?
  else if c == '?' && isGap next then s.key?
  else if c == ':' &&
      (isGap next || (s.inFlow && (isFlow next || s.at_.index = s.adjacent))) then s.value?
  else if c == '*' then s.name? .alias
  else if c == '&' then s.name? fun name => .anchor name s.at_.column
  else if c == '!' then s.tag?
  else if (c == '|' || c == '>') && !s.inFlow then s.block?
  else if c == '\'' || c == '"' then s.quoted?
  else if c == '%' || c == '@' || c.toNat = 0x60 then none
  else s.plain?

/-- The next token, and whether it was the last. -/
def step? (s : Scanner) : Option (Scanner × Bool) := do
  let s ← (← s.skip?).dropOldPlace?
  let c := s.at_
  let s := s.leave c.column
  if isEnd c.peek then (s.finish?).map (·, true)
  else if c.column = 0 && c.peek == '%' then (s.directive?).map (·, false)
  else if c.column = 0 && c.isDocumentStart then (s.documentMark? .documentStart).map (·, false)
  else if c.column = 0 && c.isDocumentEnd then (s.documentEnd?).map (·, false)
  else if isBefore c.column s.indent then none
  else (s.token?).map (·, false)

def run? : Nat → Scanner → Option Scanner
  | 0, _ => none
  | fuel + 1, s => do
    let (s, last) ← s.step?
    if last then some s else run? fuel s

end Scanner

/-- The tokens of a text. -/
def tokens? (text : String) : Option (List Token) :=
  ((Scanner.run? (text.length + 2) { at_ := .ofText text }).map (·.tokens.toList))

end Gradebook.Yaml
