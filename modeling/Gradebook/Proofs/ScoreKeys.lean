/-
# Gradebook.Proofs.ScoreKeys — encoded scores and whose they are

The key of an encoded score is the course key, a zero byte, the learner's number, a zero
byte and the block name, and an answer lists the entries whose keys begin with all of that
but the block name. `find?_of_scoresOf` says what an answer lists: the block names under
whose keys a score is kept.

The key of a score of another learner or course begins alike only if one of the two course
keys is the beginning of the other before a zero byte (`startsWith_start`). So among course
keys without zero characters the scores of a learner in a course are a finite map of
their own (`scoresOf_recordAll`), and recording for others does not change them
(`scoresOf_record_other`). With zero characters a score can show up in another learner's
answer, under a name that nobody recorded (`zero_characters_mix_scores`).
-/
import Gradebook.Proofs.RowRefinement

namespace Gradebook

set_option autoImplicit false

namespace Text

theorem utf8_eq (s : String) : utf8 s = s.toList.flatMap String.utf8EncodeChar := by
  rw [utf8, ← String.utf8Encode_toList, List.utf8Encode]
  simp

/-- Only the zero character has a zero byte. -/
theorem eq_zero_of_mem_encodeChar {c : Char} (zero : 0 ∈ String.utf8EncodeChar c) :
    c = '\x00' := by
  refine Decidable.byContradiction fun differ => ?_
  have nonzero : c.val.toNat ≠ 0 := fun same => differ (Char.ext (UInt32.toNat_inj.1 same))
  have byte {n : Nat} (small : n < 256) (some : n ≠ 0) : (0 : UInt8) ≠ UInt8.ofNat n := by
    intro same
    have := congrArg UInt8.toNat same
    simp only [UInt8.toNat_ofNat', UInt8.toNat_ofNat] at this
    omega
  have valid := c.val.toNat_lt
  simp only [String.utf8EncodeChar] at zero
  split at zero
  · exact byte (by omega) nonzero (List.mem_singleton.1 zero)
  split at zero
  · simp only [List.mem_cons, List.not_mem_nil, or_false] at zero
    rcases zero with zero | zero <;> exact byte (by omega) (by omega) zero
  split at zero
  · simp only [List.mem_cons, List.not_mem_nil, or_false] at zero
    rcases zero with zero | zero | zero <;> exact byte (by omega) (by omega) zero
  · simp only [List.mem_cons, List.not_mem_nil, or_false] at zero
    rcases zero with zero | zero | zero | zero <;> exact byte (by omega) (by omega) zero

theorem zero_notMem_utf8 {s : String} (h : '\x00' ∉ s.toList) : (0 : UInt8) ∉ utf8 s := by
  rw [utf8_eq, List.mem_flatMap]
  rintro ⟨c, member, zero⟩
  exact h (eq_zero_of_mem_encodeChar zero ▸ member)

/-- Behind a zero byte of a text a text begins. -/
theorem exists_utf8_of_zero {s : String} {before rest : Bytes} (h : utf8 s = before ++ 0 :: rest) :
    ∃ s', rest = utf8 s' := by
  have each (cs : List Char) : ∀ before : Bytes,
      cs.flatMap String.utf8EncodeChar = before ++ 0 :: rest →
      ∃ cs' : List Char, rest = cs'.flatMap String.utf8EncodeChar := by
    induction cs with
    | nil =>
      intro before whole
      simp at whole
    | cons c cs ih =>
      intro before whole
      rw [List.flatMap_cons, List.append_eq_append_iff] at whole
      rcases whole with ⟨more, -, later⟩ | ⟨more, first, here⟩
      · exact ih more later
      · cases more with
        | nil => exact ih [] here.symm
        | cons byte more =>
          obtain ⟨rfl, rfl⟩ := List.cons.inj here
          have zero : c = '\x00' := eq_zero_of_mem_encodeChar (first ▸ by simp)
          have single : [0] = before ++ 0 :: more := by
            rw [← first, zero]
            rfl
          have none : more = [] := by
            have := congrArg List.length single
            simp only [List.length_append, List.length_cons, List.length_nil] at this
            exact List.length_eq_zero_iff.1 (by omega)
          exact ⟨cs, by rw [none]; rfl⟩
  rw [utf8_eq] at h
  obtain ⟨cs', rfl⟩ := each _ _ h
  exact ⟨String.ofList cs', by rw [utf8_eq, String.toList_ofList]⟩

theorem ofUtf8?_utf8 (s : String) : ofUtf8? (utf8 s) = some s := by
  have bytes : (⟨(utf8 s).toArray⟩ : ByteArray) = s.toByteArray := rfl
  rw [ofUtf8?, bytes, String.fromUTF8?, dif_pos s.isValidUTF8]
  rfl

theorem ofUtf8?_eq_some {bytes : Bytes} {s : String} :
    ofUtf8? bytes = some s ↔ bytes = utf8 s := by
  refine ⟨fun h => ?_, fun h => h ▸ ofUtf8?_utf8 s⟩
  rw [ofUtf8?, String.fromUTF8?] at h
  split at h
  · cases h
    rfl
  · cases h

end Text

/-! ## Keys -/

/-- A course key without the zero character. -/
def CourseKey.ZeroFree (key : CourseKey) : Prop := '\x00' ∉ key.text.toList

instance (key : CourseKey) : Decidable key.ZeroFree := inferInstanceAs (Decidable (_ ∉ _))

/-- Of two course keys one is the beginning of the other before a zero byte. -/
def CourseKey.Nested (key key' : CourseKey) : Prop :=
  Text.utf8 key.text ++ [0] <+: Text.utf8 key'.text ∨
    Text.utf8 key'.text ++ [0] <+: Text.utf8 key.text

theorem CourseKey.not_nested {key key' : CourseKey} (h : key.ZeroFree) (h' : key'.ZeroFree) :
    ¬key.Nested key' := by
  have last (bytes : Text.Bytes) : (0 : UInt8) ∈ bytes ++ [0] := by simp
  rintro (nested | nested)
  · exact Text.zero_notMem_utf8 h' (nested.subset (last _))
  · exact Text.zero_notMem_utf8 h (nested.subset (last _))

namespace EncodedScores

/-- The key of the score of a learner on a block. -/
def keyOf (learner : LearnerId) (key : CourseKey) (block : BlockId) : Text.Bytes :=
  start learner key ++ Text.utf8 block

/-- **Keys that begin alike are of the same learner and course**, unless one course key is the
beginning of the other before a zero byte. -/
theorem startsWith_start {learner other : LearnerId} {key key' : CourseKey} {block : BlockId}
    (h : Text.startsWith (start learner key) (keyOf other key' block) = true) :
    learner = other ∧ key = key' ∨ key.Nested key' := by
  have begun : Text.utf8 key.text ++ 0 :: (Text.word learner.number ++ [0]) <+:
      Text.utf8 key'.text ++ 0 :: (Text.word other.number ++ [0] ++ Text.utf8 block) := by
    have := List.isPrefixOf_iff_prefix.1 h
    rwa [keyOf, start, start, List.append_assoc, List.cons_append] at this
  -- The zero byte behind the shorter course key meets a byte of the longer one.
  rcases Nat.lt_trichotomy (Text.utf8 key.text).length (Text.utf8 key'.text).length with
    short | same | long
  · refine .inr (.inl (List.prefix_of_prefix_length_le (List.IsPrefix.trans ?_ begun)
      (List.prefix_append ..) ?_))
    · exact ⟨Text.word learner.number ++ [0], by simp⟩
    · simp only [List.length_append, List.length_singleton]
      omega
  · refine .inl ?_
    obtain ⟨rest, whole⟩ := begun
    rw [List.append_assoc] at whole
    obtain ⟨texts, numbers⟩ := List.append_inj whole same
    rw [List.cons_append, List.cons_inj_right, List.append_assoc, List.append_assoc] at numbers
    obtain ⟨number, -⟩ := List.append_inj numbers rfl
    refine ⟨?_, ?_⟩
    · cases learner
      cases other
      exact congrArg LearnerId.mk (Text.word_inj number)
    · cases key
      cases key'
      exact congrArg CourseKey.mk (Text.utf8_inj texts)
  · refine .inr (.inr (List.prefix_of_prefix_length_le ?_
      ((List.prefix_append ..).trans begun) ?_))
    · exact ⟨Text.word other.number ++ [0] ++ Text.utf8 block, by simp⟩
    · simp only [List.length_append, List.length_singleton]
      omega

theorem startsWith_keyOf (learner : LearnerId) (key : CourseKey) (block : BlockId) :
    Text.startsWith (start learner key) (keyOf learner key block) = true :=
  List.isPrefixOf_iff_prefix.2 (List.prefix_append ..)

/-- Whoever's scores are looked for, the key of a score that is found is read as one of theirs. -/
theorem exists_keyOf_of_startsWith {learner other : LearnerId} {key key' : CourseKey}
    {block : BlockId} (free : key'.ZeroFree)
    (begun : Text.startsWith (start learner key) (keyOf other key' block) = true) :
    ∃ name, keyOf other key' block = keyOf learner key name := by
  rcases startsWith_start begun with ⟨rfl, rfl⟩ | nested | ⟨rest, longer⟩
  · exact ⟨block, rfl⟩
  · exact absurd (nested.subset (by simp)) (Text.zero_notMem_utf8 free)
  · -- The learner and the zero bytes around it end within the block name.
    obtain ⟨behind, whole⟩ := List.isPrefixOf_iff_prefix.1 begun
    have inside : ∃ before, Text.utf8 block = before ++ 0 :: behind := by
      have split : (rest ++ 0 :: Text.word learner.number) ++ 0 :: behind =
          Text.word other.number ++ 0 :: Text.utf8 block := by
        rw [keyOf, start, start, ← longer] at whole
        simpa using whole
      have length : (Text.word learner.number).length = 8 := Text.word_length _
      have length' : (Text.word other.number).length = 8 := Text.word_length _
      rcases List.append_eq_append_iff.1 split with ⟨more, short, -⟩ | ⟨more, long, later⟩
      · have := congrArg List.length short
        simp only [List.length_append, List.length_cons] at this
        omega
      · cases more with
        | nil =>
          have := congrArg List.length long
          simp only [List.length_append, List.length_cons, List.length_nil] at this
          omega
        | cons byte more => exact ⟨more, (List.cons.inj later).2⟩
    obtain ⟨before, inside⟩ := inside
    obtain ⟨name, rfl⟩ := Text.exists_utf8_of_zero inside
    exact ⟨name, whole.symm⟩

/-- Among course keys without zero characters a key names learner, course and block. -/
theorem keyOf_inj {learner other : LearnerId} {key key' : CourseKey} {block block' : BlockId}
    (h : key.ZeroFree) (h' : key'.ZeroFree)
    (same : keyOf learner key block = keyOf other key' block') :
    learner = other ∧ key = key' ∧ block = block' := by
  have begun := startsWith_keyOf learner key block
  rw [same] at begun
  rcases startsWith_start begun with ⟨rfl, rfl⟩ | nested
  · exact ⟨rfl, rfl, Text.utf8_inj (List.append_cancel_left same)⟩
  · exact absurd nested (CourseKey.not_nested h h')

end EncodedScores

/-! ## Scans -/

namespace ByteTable

open Text (Bytes before)

theorem lookup_eq_some_of_mem {entries : List (Bytes × String)}
    (ascending : entries.Pairwise fun a b => before a.1 b.1 = true) {e : Bytes × String}
    (member : e ∈ entries) : lookup e.1 entries = some e.2 := by
  induction entries with
  | nil => cases member
  | cons f rest ih =>
    obtain ⟨first, others⟩ := List.pairwise_cons.1 ascending
    rcases List.mem_cons.1 member with rfl | member
    · rw [lookup, if_pos rfl]
    · have differ : ¬f.1 = e.1 := fun same => by
        have := first e member
        rw [same, Text.before_irrefl] at this
        cases this
      rw [lookup, if_neg differ, ih others member]

theorem mem_of_lookup {key : Bytes} {value : String} {entries : List (Bytes × String)}
    (h : lookup key entries = some value) : (key, value) ∈ entries := by
  induction entries with
  | nil => cases h
  | cons e rest ih =>
    rw [lookup] at h
    split at h
    · next same =>
      cases h
      cases same
      exact List.mem_cons_self
    · exact List.mem_cons_of_mem _ (ih h)

/-- The entries of a table are its lookups. -/
theorem mem_entries {t : ByteTable} {key : Bytes} {value : String} :
    (key, value) ∈ t.entries ↔ t.find? key = some value :=
  ⟨lookup_eq_some_of_mem t.ascending, mem_of_lookup⟩

/-- A scan does not see what is put under other keys. -/
theorem scan_put (t : ByteTable) {start key : Bytes} (value : String)
    (h : Text.startsWith start key = false) : (t.put key value).scan start = t.scan start := by
  have each (entries : List (Bytes × String)) :
      (place key value entries).filter (fun e => Text.startsWith start e.1) =
        entries.filter fun e => Text.startsWith start e.1 := by
    induction entries with
    | nil => simp [place, h]
    | cons e rest ih =>
      rw [place]
      split
      · simp [h]
      · split
        · rw [List.filter_cons, List.filter_cons, ih]
        · next notEarlier notLater =>
          have same : e.1 = key := (Text.eq_of_not_before (Bool.eq_false_iff.2 notEarlier)
            (Bool.eq_false_iff.2 notLater)).symm
          simp [h, same]
  exact each t.entries

end ByteTable

/-! ## Answers -/

namespace Dictionary

variable {ν : Type}

theorem find?_foldl_insert (entries : List (String × ν)) (d : Dictionary ν) (key : String) :
    (entries.foldl (fun d e => d.insert e.1 e.2) d).find? key =
      (entries.reverse.lookup key).or (d.find? key) := by
  induction entries generalizing d with
  | nil => rfl
  | cons e rest ih =>
    rw [List.foldl_cons, ih, List.reverse_cons, List.lookup_append, Option.or_assoc, find?_insert,
      lookup_entry]
    split <;> simp

/-- What a dictionary of entries holds, if there are no two entries of a key. -/
theorem find?_ofList {entries : List (String × ν)}
    (unique : ∀ key value value', (key, value) ∈ entries → (key, value') ∈ entries → value = value')
    (key : String) (value : ν) :
    (ofList entries).find? key = some value ↔ (key, value) ∈ entries := by
  have found : (ofList entries).find? key = entries.reverse.lookup key := by
    rw [ofList, find?_foldl_insert, find?_empty, Option.or_none]
  have inside {value : ν} (h : entries.reverse.lookup key = some value) :
      (key, value) ∈ entries := by
    obtain ⟨_, _, whole, -⟩ := List.lookup_eq_some_iff.1 h
    exact List.mem_reverse.1 (whole ▸ by simp)
  rw [found]
  refine ⟨inside, fun member => ?_⟩
  cases known : entries.reverse.lookup key with
  | none =>
    have := List.lookup_eq_none_iff.1 known (key, value) (List.mem_reverse.2 member)
    simp at this
  | some value' => rw [unique key value value' member (inside known)]

end Dictionary

section Results

variable {ε α β : Type} {f : α → Except ε β}

theorem exists_mapM_ok {xs : List α} (h : ∀ x ∈ xs, ∃ y, f x = .ok y) :
    ∃ ys, xs.mapM f = .ok ys := by
  induction xs with
  | nil => exact ⟨[], rfl⟩
  | cons x xs ih =>
    obtain ⟨y, first⟩ := h x List.mem_cons_self
    obtain ⟨ys, others⟩ := ih fun x member => h x (List.mem_cons_of_mem _ member)
    exact ⟨y :: ys, by rw [List.mapM_cons, first, others]; rfl⟩

theorem of_mapM_ok {xs : List α} {ys : List β} (h : xs.mapM f = .ok ys) :
    (∀ x ∈ xs, ∃ y ∈ ys, f x = .ok y) ∧ ∀ y ∈ ys, ∃ x ∈ xs, f x = .ok y := by
  induction xs generalizing ys with
  | nil =>
    cases h
    exact ⟨fun _ member => (nomatch member), fun _ member => (nomatch member)⟩
  | cons x xs ih =>
    rw [List.mapM_cons] at h
    cases first : f x with
    | error e =>
      rw [first] at h
      cases h
    | ok y =>
      cases others : xs.mapM f with
      | error e =>
        rw [first, others] at h
        cases h
      | ok zs =>
        rw [first, others] at h
        cases h
        obtain ⟨forth, back⟩ := ih others
        refine ⟨fun x' member => ?_, fun y' member => ?_⟩
        · rcases List.mem_cons.1 member with rfl | member
          · exact ⟨y, List.mem_cons_self, first⟩
          · obtain ⟨z, inside, same⟩ := forth x' member
            exact ⟨z, List.mem_cons_of_mem _ inside, same⟩
        · rcases List.mem_cons.1 member with rfl | member
          · exact ⟨x, List.mem_cons_self, first⟩
          · obtain ⟨x', inside, same⟩ := back y' member
            exact ⟨x', List.mem_cons_of_mem _ inside, same⟩

end Results

namespace EncodedScores

theorem find?_record (s : EncodedScores) (learner : LearnerId) (key : CourseKey) (block : BlockId)
    (score : Score) (bytes : Text.Bytes) :
    (s.record learner key block score).table.find? bytes =
      if keyOf learner key block = bytes then some (encode score) else s.table.find? bytes :=
  ByteTable.find?_put ..

theorem decodeEntry_eq_ok {skipped : Nat} {key : Text.Bytes} {text : String} {block : BlockId}
    {score : Score} : decodeEntry skipped (key, text) = .ok (block, score) ↔
      key.drop skipped = Text.utf8 block ∧ decode text = .ok score := by
  simp only [decodeEntry, blockOf]
  cases named : Text.ofUtf8? (key.drop skipped) with
  | none =>
    refine ⟨fun h => (by cases h), fun ⟨same, _⟩ => ?_⟩
    rw [same, Text.ofUtf8?_utf8] at named
    cases named
  | some name =>
    rw [Text.ofUtf8?_eq_some] at named
    rw [named]
    cases value : decode text with
    | error e => exact ⟨fun h => (by cases h), fun ⟨_, h⟩ => (by cases h)⟩
    | ok found =>
      refine ⟨fun h => ?_, fun ⟨same, h⟩ => ?_⟩
      · cases h
        exact ⟨rfl, rfl⟩
      · cases h
        rw [Text.utf8_inj same]
        rfl

/-- An answer is given if every entry found is one of a block and reads back. -/
theorem exists_scoresOf {s : EncodedScores} {learner : LearnerId} {key : CourseKey}
    (h : ∀ e ∈ s.table.scan (start learner key), ∃ block score,
      e.1 = keyOf learner key block ∧ decode e.2 = .ok score) :
    ∃ d, s.scoresOf learner key = .ok d := by
  obtain ⟨found, all⟩ : ∃ found, (s.table.scan (start learner key)).mapM
      (decodeEntry (start learner key).length) = .ok found := by
    refine exists_mapM_ok fun e member => ?_
    obtain ⟨block, score, named, value⟩ := h e member
    exact ⟨(block, score), decodeEntry_eq_ok.2 ⟨by rw [named, keyOf, List.drop_left], value⟩⟩
  exact ⟨.ofList found, by simp only [scoresOf, all]; rfl⟩

theorem mem_scan_of_find? {s : EncodedScores} {learner : LearnerId} {key : CourseKey}
    {block : BlockId} {text : String} (known : s.table.find? (keyOf learner key block) = some text) :
    (keyOf learner key block, text) ∈ s.table.scan (start learner key) :=
  ByteTable.mem_scan.2 ⟨ByteTable.mem_entries.2 known, startsWith_keyOf learner key block⟩

section Answered

variable {s : EncodedScores} {learner : LearnerId} {key : CourseKey} {d : Dictionary Score}
  (h : s.scoresOf learner key = .ok d)
include h

/-- An answer is made of the entries found. -/
theorem exists_entries : ∃ entries, (s.table.scan (start learner key)).mapM
    (decodeEntry (start learner key).length) = .ok entries ∧ d = .ofList entries := by
  simp only [scoresOf] at h
  cases found : (s.table.scan (start learner key)).mapM
      (decodeEntry (start learner key).length) with
  | error e =>
    rw [found] at h
    cases h
  | ok entries =>
    rw [found] at h
    cases h
    exact ⟨entries, rfl, rfl⟩

/-- Each of them is one of a block and reads back. -/
theorem exists_decode {e : Text.Bytes × String} (scanned : e ∈ s.table.scan (start learner key)) :
    ∃ block score, e.1.drop (start learner key).length = Text.utf8 block ∧
      decode e.2 = .ok score := by
  obtain ⟨entries, found, -⟩ := exists_entries h
  obtain ⟨⟨block, score⟩, -, read⟩ := (of_mapM_ok found).1 e scanned
  exact ⟨block, score, decodeEntry_eq_ok.1 read⟩

/-- **An answer lists the blocks under whose keys a score is kept**, and nothing else. -/
theorem find?_of_scoresOf (block : BlockId) (score : Score) :
    d.find? block = some score ↔ ∃ text, s.table.find? (keyOf learner key block) = some text ∧
      decode text = .ok score := by
  obtain ⟨entries, found, rfl⟩ := exists_entries h
  obtain ⟨forth, back⟩ := of_mapM_ok found
  have listed (block : BlockId) (score : Score) : (block, score) ∈ entries ↔
      ∃ text, s.table.find? (keyOf learner key block) = some text ∧ decode text = .ok score := by
    refine ⟨fun member => ?_, fun ⟨text, known, value⟩ => ?_⟩
    · obtain ⟨⟨k, text⟩, scanned, read⟩ := back _ member
      obtain ⟨named, value⟩ := decodeEntry_eq_ok.1 read
      obtain ⟨inside, begun⟩ := ByteTable.mem_scan.1 scanned
      obtain ⟨rest, rfl⟩ := List.isPrefixOf_iff_prefix.1 begun
      rw [List.drop_left] at named
      refine ⟨text, ?_, value⟩
      rw [keyOf, ← named]
      exact ByteTable.mem_entries.1 inside
    · obtain ⟨⟨name, value'⟩, member, read⟩ := forth _ (mem_scan_of_find? known)
      obtain ⟨named, same⟩ := decodeEntry_eq_ok.1 read
      rw [keyOf, List.drop_left] at named
      rw [value] at same
      cases same
      rw [Text.utf8_inj named]
      exact member
  rw [Dictionary.find?_ofList, listed]
  intro block score score' member member'
  obtain ⟨text, known, value⟩ := (listed block score).1 member
  obtain ⟨text', known', value'⟩ := (listed block score').1 member'
  rw [known] at known'
  cases known'
  rw [value] at value'
  cases value'
  rfl

end Answered

/-! ## The scores of a learner in a course -/

/-- A score recorded for a learner on a block of a course. -/
structure Recording where
  learner : LearnerId
  key : CourseKey
  block : BlockId
  score : Score

namespace Recording

/-- The last of the scores recorded for a learner on a block. -/
def last? (learner : LearnerId) (key : CourseKey) (block : BlockId) (rs : List Recording) :
    Option Score :=
  (rs.reverse.find? fun r => decide (r.learner = learner ∧ r.key = key ∧ r.block = block)).map
    (·.score)

variable {learner : LearnerId} {key : CourseKey} {block : BlockId} {rs : List Recording}

theorem last?_append (r : Recording) : last? learner key block (rs ++ [r]) =
    if r.learner = learner ∧ r.key = key ∧ r.block = block then some r.score
    else last? learner key block rs := by
  rw [last?, List.reverse_append, List.reverse_singleton, List.singleton_append, List.find?_cons]
  by_cases same : r.learner = learner ∧ r.key = key ∧ r.block = block
  · simp [same]
  · simp [same, last?]

theorem exists_of_last? {score : Score} (h : last? learner key block rs = some score) :
    ∃ r ∈ rs, r.score = score := by
  obtain ⟨r, found, rfl⟩ := Option.map_eq_some_iff.1 h
  exact ⟨r, List.mem_reverse.1 (List.mem_of_find?_eq_some found), rfl⟩

end Recording

/-- Scores recorded one after the other. -/
def recordAll (s : EncodedScores) (rs : List Recording) : EncodedScores :=
  rs.foldl (fun s r => s.record r.learner r.key r.block r.score) s

/-- What the table holds after scores were recorded for course keys without zero characters. -/
structure Holds (s : EncodedScores) (rs : List Recording) : Prop where
  text : ∀ learner key block, key.ZeroFree → s.table.find? (keyOf learner key block) =
    (Recording.last? learner key block rs).map encode
  origin : ∀ e ∈ s.table.entries, ∃ r ∈ rs, e.1 = keyOf r.learner r.key r.block

namespace Holds

theorem empty : Holds {} [] where
  text _ _ _ _ := rfl
  origin _ member := nomatch member

variable {s : EncodedScores} {rs : List Recording}

theorem record (h : s.Holds rs) {r : Recording} (zeroFree : r.key.ZeroFree) :
    (s.record r.learner r.key r.block r.score).Holds (rs ++ [r]) where
  text learner key block free := by
    rw [find?_record, Recording.last?_append]
    by_cases same : r.learner = learner ∧ r.key = key ∧ r.block = block
    · obtain ⟨rfl, rfl, rfl⟩ := same
      rw [if_pos rfl, if_pos ⟨rfl, rfl, rfl⟩]
      rfl
    · rw [if_neg same, if_neg fun keys => same (keyOf_inj zeroFree free keys)]
      exact h.text learner key block free
  origin e member := by
    rcases ByteTable.mem_place member with rfl | member
    · exact ⟨r, by simp, rfl⟩
    · obtain ⟨r', inside, named⟩ := h.origin e member
      exact ⟨r', List.mem_append_left _ inside, named⟩

theorem recordAll (h : s.Holds rs) {rs' : List Recording} (zeroFree : ∀ r ∈ rs', r.key.ZeroFree) :
    (s.recordAll rs').Holds (rs ++ rs') := by
  induction rs' generalizing s rs with
  | nil => rwa [List.append_nil]
  | cons r rs' ih =>
    have next := ih (h.record (zeroFree r List.mem_cons_self)) fun r' member =>
      zeroFree r' (List.mem_cons_of_mem _ member)
    rwa [List.append_assoc, List.singleton_append] at next

/-- An entry found for a learner in a course is the text of the last score of somebody on a
block, and its key is read as one of the learner in the course. -/
theorem last_of_scan (h : s.Holds rs) (zeroFree : ∀ r ∈ rs, r.key.ZeroFree) {learner : LearnerId}
    {key : CourseKey} {e : Text.Bytes × String} (member : e ∈ s.table.scan (start learner key)) :
    ∃ r ∈ rs, ∃ score block, e.1 = keyOf r.learner r.key r.block ∧ e.1 = keyOf learner key block ∧
      Recording.last? r.learner r.key r.block rs = some score ∧ e.2 = encode score := by
  obtain ⟨inside, begun⟩ := ByteTable.mem_scan.1 member
  obtain ⟨r, recorded, named⟩ := h.origin e inside
  have free := zeroFree r recorded
  have known := ByteTable.mem_entries.1 inside
  rw [named, h.text _ _ _ free] at known
  obtain ⟨score, last, text⟩ := Option.map_eq_some_iff.1 known
  rw [named] at begun
  obtain ⟨block, read⟩ := exists_keyOf_of_startsWith free begun
  exact ⟨r, recorded, score, block, named, named.trans read, last, text.symm⟩

/-- The entries found for a learner in a course are the texts of scores that were recorded. -/
theorem of_scan (h : s.Holds rs) (zeroFree : ∀ r ∈ rs, r.key.ZeroFree) {learner : LearnerId}
    {key : CourseKey} {e : Text.Bytes × String} (member : e ∈ s.table.scan (start learner key)) :
    ∃ block, ∃ r ∈ rs, e.1 = keyOf learner key block ∧ e.2 = encode r.score := by
  obtain ⟨_, _, score, block, -, read, last, text⟩ := h.last_of_scan zeroFree member
  obtain ⟨r, recorded, rfl⟩ := Recording.exists_of_last? last
  exact ⟨block, r, recorded, read, text⟩

end Holds

/-- **The scores of a learner in a course are a finite map of their own.** After any scores
that read back were recorded for course keys without zero characters, an answer is given,
and it lists the blocks recorded for the learner in the course, each with the last of its
scores. -/
theorem scoresOf_recordAll (rs : List Recording) (zeroFree : ∀ r ∈ rs, r.key.ZeroFree)
    (good : ∀ r ∈ rs, r.score.ReadsBack) (learner : LearnerId) (key : CourseKey)
    (free : key.ZeroFree) :
    ∃ d, (({} : EncodedScores).recordAll rs).scoresOf learner key = .ok d ∧
      ∀ block, d.find? block = Recording.last? learner key block rs := by
  have h := Holds.empty.recordAll zeroFree
  rw [List.nil_append] at h
  obtain ⟨d, answered⟩ : ∃ d, (({} : EncodedScores).recordAll rs).scoresOf learner key = .ok d := by
    refine exists_scoresOf fun e member => ?_
    obtain ⟨block, r, recorded, named, text⟩ := h.of_scan zeroFree member
    exact ⟨block, r.score, named, by rw [text, decode_encode (good r recorded)]⟩
  refine ⟨d, answered, fun block => Option.ext fun score => ?_⟩
  rw [find?_of_scoresOf answered, h.text learner key block free]
  cases last : Recording.last? learner key block rs with
  | none => simp
  | some score' =>
    obtain ⟨r, recorded, rfl⟩ := Recording.exists_of_last? last
    simp [decode_encode (good r recorded)]

namespace Sample

def score : Score := ⟨⟨0x3ff0000000000000⟩, ⟨0x4000000000000000⟩, true, ⟨1700000000, 5⟩⟩

theorem readsBack_score : score.ReadsBack where
  recordedAt := by
    show Instant.Representable ⟨1700000000, 5⟩
    decide
  earned := by decide +kernel
  possible := by decide +kernel

/-- Block names and learners that a key could confuse with its separators. -/
def recordings : List Recording :=
  [⟨⟨0⟩, ⟨"k"⟩, "", score⟩, ⟨⟨0⟩, ⟨"k"⟩, "\x00é", score⟩, ⟨⟨256⟩, ⟨"k"⟩, "b", score⟩,
    ⟨⟨0⟩, ⟨"kk"⟩, "b", score⟩, ⟨⟨0⟩, ⟨"k"⟩, "", { score with attempted := false }⟩]

theorem scoresOf_recordings : (∀ r ∈ recordings, r.key.ZeroFree) ∧
    (∀ r ∈ recordings, r.score.ReadsBack) ∧ CourseKey.ZeroFree ⟨"k"⟩ ∧
    ∃ d, (({} : EncodedScores).recordAll recordings).scoresOf ⟨0⟩ ⟨"k"⟩ = .ok d ∧
      d.find? "" = some { score with attempted := false } ∧ d.find? "b" = none := by
  have zeroFree : ∀ r ∈ recordings, r.key.ZeroFree := by decide
  have good : ∀ r ∈ recordings, r.score.ReadsBack := by
    intro r member
    have same : r.score = score ∨ r.score = { score with attempted := false } := by
      simp only [recordings, List.mem_cons, List.not_mem_nil, or_false] at member
      rcases member with rfl | rfl | rfl | rfl | rfl <;> simp
    have back := readsBack_score
    rcases same with same | same <;> rw [same]
    · exact back
    · exact ⟨back.recordedAt, back.earned, back.possible⟩
  obtain ⟨d, answered, found⟩ := scoresOf_recordAll recordings zeroFree good ⟨0⟩ ⟨"k"⟩ (by decide)
  exact ⟨zeroFree, good, by decide, d, answered, (found "").trans (by decide),
    (found "b").trans (by decide)⟩

end Sample

/-! ## Scores of others -/

/-- What is recorded under a key that begins otherwise is not seen. -/
theorem scoresOf_record_of_startsWith_false (s : EncodedScores) {learner other : LearnerId}
    {key key' : CourseKey} {block : BlockId} (score : Score)
    (h : Text.startsWith (start learner key) (keyOf other key' block) = false) :
    (s.record other key' block score).scoresOf learner key = s.scoresOf learner key := by
  have same : (s.record other key' block score).table.scan (start learner key) =
      s.table.scan (start learner key) := ByteTable.scan_put s.table _ h
  rw [scoresOf, scoresOf, same]

/-- What is recorded under a key that begins alike is listed by what follows. -/
theorem find?_of_scoresOf_record {s : EncodedScores} {learner other : LearnerId}
    {key key' : CourseKey} {block : BlockId} {score : Score} {rest : Text.Bytes}
    (h : keyOf other key' block = start learner key ++ rest) {d : Dictionary Score}
    (answered : (s.record other key' block score).scoresOf learner key = .ok d) :
    ∃ name found, rest = Text.utf8 name ∧ decode (encode score) = .ok found ∧
      d.find? name = some found := by
  have recorded := find?_record s other key' block score (keyOf other key' block)
  rw [if_pos rfl] at recorded
  have scanned : (keyOf other key' block, encode score) ∈
      (s.record other key' block score).table.scan (start learner key) :=
    ByteTable.mem_scan.2 ⟨ByteTable.mem_entries.2 recorded,
      List.isPrefixOf_iff_prefix.2 (h ▸ List.prefix_append ..)⟩
  obtain ⟨name, value, named, decoded⟩ := exists_decode answered scanned
  rw [h, List.drop_left] at named
  refine ⟨name, value, named, decoded, (find?_of_scoresOf answered name value).2
    ⟨encode score, ?_, decoded⟩⟩
  rw [keyOf, ← named, ← h]
  exact recorded

/-- **Recording a score for another learner or course** does not change the answer for a learner
in a course if neither course key is the beginning of the other before a zero byte. In
general it does not if the key of the score begins otherwise than those of the answer; if it
begins alike, the answer fails from then on, or it lists the score under a name nobody gave:
what follows in its key. -/
theorem scoresOf_record_other (s : EncodedScores) {learner other : LearnerId}
    {key key' : CourseKey} (differ : ¬(learner = other ∧ key = key')) (block : BlockId)
    (score : Score) :
    (¬key.Nested key' →
      (s.record other key' block score).scoresOf learner key = s.scoresOf learner key) ∧
    (Text.startsWith (start learner key) (keyOf other key' block) = false →
      (s.record other key' block score).scoresOf learner key = s.scoresOf learner key) ∧
    ∀ rest, keyOf other key' block = start learner key ++ rest → key.Nested key' ∧
      ∀ d, (s.record other key' block score).scoresOf learner key = .ok d →
        ∃ name found, rest = Text.utf8 name ∧ decode (encode score) = .ok found ∧
          d.find? name = some found := by
  have nested (begun : Text.startsWith (start learner key) (keyOf other key' block) = true) :
      key.Nested key' := (startsWith_start begun).resolve_left differ
  have unseen (h : Text.startsWith (start learner key) (keyOf other key' block) = false) :
      (s.record other key' block score).scoresOf learner key = s.scoresOf learner key :=
    scoresOf_record_of_startsWith_false s score h
  refine ⟨fun apart => ?_, unseen, fun rest h => ⟨?_, fun d answered => ?_⟩⟩
  · exact unseen (Bool.eq_false_iff.2 fun begun => apart (nested begun))
  · exact nested (List.isPrefixOf_iff_prefix.2 (h ▸ List.prefix_append ..))
  · exact find?_of_scoresOf_record h answered

namespace Sample

/-- The neighbour's scores in a course of a longer name. -/
theorem scoresOf_record_neighbour :
    ¬((⟨0⟩ : LearnerId) = ⟨0⟩ ∧ (⟨"k"⟩ : CourseKey) = ⟨"kk"⟩) ∧
    ¬CourseKey.Nested ⟨"k"⟩ ⟨"kk"⟩ ∧
    ((({} : EncodedScores).recordAll recordings).record ⟨0⟩ ⟨"kk"⟩ "b" score).scoresOf ⟨0⟩ ⟨"k"⟩ =
      (({} : EncodedScores).recordAll recordings).scoresOf ⟨0⟩ ⟨"k"⟩ := by
  have differ : ¬((⟨0⟩ : LearnerId) = ⟨0⟩ ∧ (⟨"k"⟩ : CourseKey) = ⟨"kk"⟩) := by decide
  have apart : ¬CourseKey.Nested ⟨"k"⟩ ⟨"kk"⟩ := CourseKey.not_nested (by decide) (by decide)
  exact ⟨differ, apart, (scoresOf_record_other _ differ "b" score).1 apart⟩

/-- A course key that ends in as many zero characters as the key of a score has behind its
course key. -/
def zeros : CourseKey := ⟨"k" ++ String.ofList (List.replicate 10 '\x00')⟩

/-- **A score of one learner in another course shows up in the answer for learner 0**, and that
of another learner makes the answer fail. -/
theorem zero_characters_mix_scores :
    ¬((⟨0⟩ : LearnerId) = ⟨1⟩ ∧ (⟨"k"⟩ : CourseKey) = zeros) ∧ score.ReadsBack ∧
    ({} : EncodedScores).scoresOf ⟨0⟩ ⟨"k"⟩ = .ok ∅ ∧
    ((({} : EncodedScores).record ⟨1⟩ zeros "b" score).scoresOf ⟨0⟩ ⟨"k"⟩).toOption.map
      Dictionary.keys = some ["\x00\x00\x00\x00\x00\x00\x00\x00\x01\x00b"] ∧
    ((({} : EncodedScores).record ⟨0xffffffffffffffff⟩ zeros "b" score).scoresOf
      ⟨0⟩ ⟨"k"⟩).toOption = none := by
  refine ⟨by decide, readsBack_score, rfl, ?_, ?_⟩
  · decide +kernel
  · decide +kernel

end Sample

end EncodedScores

end Gradebook
