/-
# Gradebook.Text.Bytes — texts and numbers as bytes

Byte sequences are lists of `UInt8`. Numbers are written in eight bytes, most
significant first; two of them are equal exactly when the numbers are
(`word_inj`), and so are the UTF-8 forms of texts (`utf8_inj`). Digests are shown as lower-case hexadecimal, which tells them apart
(`hex_inj`).
-/

namespace Gradebook.Text

set_option autoImplicit false

abbrev Bytes : Type := List UInt8

/-- The UTF-8 form of a text. -/
def utf8 (text : String) : Bytes := text.toByteArray.data.toList

/-- The text a byte sequence encodes, if it is valid UTF-8. -/
def ofUtf8? (bytes : Bytes) : Option String := String.fromUTF8? ⟨bytes.toArray⟩

/-- How many bytes the sequence of a lead byte has, and the bounds of its second byte. -/
def sequenceOf (lead : UInt8) : Option (Nat × UInt8 × UInt8) :=
  if lead < 0x80 then some (1, 0, 0)
  else if lead < 0xc2 then none
  else if lead < 0xe0 then some (2, 0x80, 0xbf)
  else if lead = 0xe0 then some (3, 0xa0, 0xbf)
  else if lead = 0xed then some (3, 0x80, 0x9f)
  else if lead < 0xf0 then some (3, 0x80, 0xbf)
  else if lead = 0xf0 then some (4, 0x90, 0xbf)
  else if lead < 0xf4 then some (4, 0x80, 0xbf)
  else if lead = 0xf4 then some (4, 0x80, 0x8f)
  else none

/-- How many of the first bytes could begin one character. -/
def sequenceLength (lead : UInt8) (rest : Bytes) : Nat × Bool :=
  match sequenceOf lead, rest with
  | none, _ => (1, false)
  | some (1, _), _ => (1, true)
  | some (_, _, _), [] => (1, false)
  | some (count, low, high), second :: rest =>
    if low ≤ second && second ≤ high then
      let more := ((rest.take (count - 2)).takeWhile fun b => 0x80 ≤ b && b < 0xc0).length
      (2 + more, more == count - 2)
    else (1, false)

/-- The text of any bytes: what encodes no character is replaced, as much at a time as
could begin one. -/
def ofUtf8Lossy : Nat → Bytes → List Char
  | fuel + 1, lead :: rest =>
    let (count, whole) := sequenceLength lead rest
    let char := if whole then ((ofUtf8? (lead :: rest.take (count - 1))).getD "").toList
      else ['\ufffd']
    char ++ ofUtf8Lossy fuel (rest.drop (count - 1))
  | _, _ => []

/-- Byte `i` of a number, counted from the least significant. -/
def byteAt (n : UInt64) (i : Nat) : UInt8 := UInt8.ofNat (n.toNat / Nat.pow 256 i)

/-- Eight bytes, most significant first. -/
def word (n : UInt64) : Bytes :=
  [byteAt n 7, byteAt n 6, byteAt n 5, byteAt n 4, byteAt n 3, byteAt n 2, byteAt n 1, byteAt n 0]

@[simp] theorem word_length (n : UInt64) : (word n).length = 8 := rfl

theorem toNat_byteAt (n : UInt64) (i : Nat) :
    (byteAt n i).toNat = n.toNat / Nat.pow 256 i % 256 := by
  simp [byteAt]

/-- The number written by bytes, most significant first. -/
def wordValue (bytes : Bytes) : Nat := bytes.foldl (fun n b => 256 * n + b.toNat) 0

theorem wordValue_word (n : UInt64) : wordValue (word n) = n.toNat := by
  simp only [wordValue, word, List.foldl, toNat_byteAt, Nat.pow_eq]
  have := n.toNat_lt
  omega

theorem word_inj {a b : UInt64} (h : word a = word b) : a = b := by
  have h := congrArg wordValue h
  rwa [wordValue_word, wordValue_word, UInt64.toNat_inj] at h

theorem length_utf8 (s : String) : (utf8 s).length = s.utf8ByteSize := rfl

theorem utf8_inj {a b : String} (h : utf8 a = utf8 b) : a = b :=
  String.toByteArray_inj.1 (ByteArray.ext (Array.toList_inj.1 h))

def hexDigit (n : Nat) : Char :=
  if n < 10 then Char.ofNat ('0'.toNat + n) else Char.ofNat ('a'.toNat + n - 10)

/-- Two hexadecimal digits for every byte. -/
def hex (bytes : Bytes) : String :=
  String.ofList (bytes.flatMap fun b => [hexDigit (b.toNat / 16), hexDigit (b.toNat % 16)])

theorem hexDigit_inj {m n : Nat} (hm : m < 16) (hn : n < 16) (h : hexDigit m = hexDigit n) :
    m = n := by
  have all : ∀ m < 16, ∀ n < 16, hexDigit m = hexDigit n → m = n := by decide
  exact all m hm n hn h

theorem hex_inj {a b : Bytes} (h : hex a = hex b) : a = b := by
  have digits := String.ofList_injective h
  clear h
  induction a generalizing b with
  | nil =>
    cases b with
    | nil => rfl
    | cons y ys => cases digits
  | cons x xs ih =>
    cases b with
    | nil => cases digits
    | cons y ys =>
      simp only [List.flatMap_cons, List.cons_append, List.nil_append, List.cons.injEq] at digits
      obtain ⟨high, low, rest⟩ := digits
      have hx := x.toNat_lt
      have hy := y.toNat_lt
      have high := hexDigit_inj (by omega) (by omega) high
      have low := hexDigit_inj (by omega) (by omega) low
      have same : x.toNat = y.toNat := by omega
      rw [UInt8.toNat_inj.1 same, ih rest]

/-- Whether a byte sequence begins with another. -/
def startsWith (start bytes : Bytes) : Bool := start.isPrefixOf bytes

/-- The order of byte sequences: by the first byte that differs, then by length. -/
def before : Bytes → Bytes → Bool
  | [], [] => false
  | [], _ :: _ => true
  | _ :: _, [] => false
  | a :: as, b :: bs => if a < b then true else if b < a then false else before as bs

end Gradebook.Text
