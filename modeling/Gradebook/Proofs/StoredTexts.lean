/-
# Gradebook.Proofs.StoredTexts — rows, scores and databases read back

A reader gives a value back (`Document.ReadsBack`) if it gives it for every tree that the
text of a tree reads as. Texts, numbers, truth values and the instants of the calendar
are given back, and a record by its fields.

What may not be given back is a double: `Double.readBack?` is the number its text reads
as, and none if that is no number. A stored row reads back with the number its percent reads
as, and does not read back if there is none (`EncodedRows.toOption_decode_encode`); a score
reads back if both of its numbers do. Nothing else stands in the way of a stored text, and
a whole database reads back as it was (`Database.ofText?_toText`).
-/
import Gradebook.Proofs.Calendar
import Gradebook.Proofs.Documents
import Gradebook.Store.Database

namespace Gradebook

set_option autoImplicit false

namespace Tree

theorem readsAs_leaf {v : Scalar} {left : Nat} {t : Tree} :
    (leaf v left).ReadsAs t ↔ ∃ v' left', t = leaf v' left' ∧ v.ReadsAs v' := by
  cases t with
  | leaf v' left' =>
    rw [ReadsAs]
    exact ⟨fun h => ⟨v', left', rfl, h⟩, fun ⟨_, _, same, h⟩ => by cases same; exact h⟩
  | list ts => simp [ReadsAs]
  | table es => simp [ReadsAs]

theorem readsAs_table {es : List (String × Tree)} {t : Tree} :
    (table es).ReadsAs t ↔ ∃ es', t = table es' ∧ EntriesReadAs es es' := by
  cases t <;> simp [ReadsAs]

theorem entriesReadAs_nil {es : List (String × Tree)} : EntriesReadAs [] es ↔ es = [] := by
  cases es <;> simp [EntriesReadAs]

theorem entriesReadAs_cons {key : String} {t : Tree} {es us : List (String × Tree)} :
    EntriesReadAs ((key, t) :: es) us ↔
      ∃ t' es', us = (key, t') :: es' ∧ t.ReadsAs t' ∧ EntriesReadAs es es' := by
  cases us with
  | nil => simp [EntriesReadAs]
  | cons u us =>
    obtain ⟨key', t'⟩ := u
    rw [EntriesReadAs]
    refine ⟨fun ⟨same, h, k⟩ => ⟨t', us, by rw [same], h, k⟩, fun ⟨_, _, same, h, k⟩ => ?_⟩
    cases same
    exact ⟨rfl, h, k⟩

/-- What a leaf reads as holds the scalar that its own reads as. -/
theorem ReadsAs.leaf_of {v v' : Scalar} {left : Nat} {t : Tree} (h : (leaf v left).ReadsAs t)
    (k : v.ReadsAs v') : ∃ left', t = leaf v' left' := by
  obtain ⟨w, left', rfl, reads⟩ := readsAs_leaf.1 h
  exact ⟨left', by rw [reads.unique k]⟩

theorem keys_of_entriesReadAs {es es' : List (String × Tree)} (h : EntriesReadAs es es') :
    es'.map (·.1) = es.map (·.1) := by
  induction es generalizing es' with
  | nil =>
    rw [entriesReadAs_nil.1 h]
  | cons e es ih =>
    obtain ⟨t', rest, rfl, _, others⟩ := entriesReadAs_cons.1 h
    rw [List.map_cons, List.map_cons, ih others]

end Tree

namespace Document

/-! ## Values given back -/

/-- The reader gives the value for every tree that the text of `t` reads as. -/
def ReadsBack {α : Type} (read : Reader α) (t : Tree) (a : α) : Prop :=
  ∀ t', t.ReadsAs t' → read t' = .ok a

theorem readsBack_text (s : String) : ReadsBack (text .exchange) (.text s) s := by
  intro t' h
  obtain ⟨left, rfl⟩ := h.leaf_of (Scalar.readsAs_text s)
  rfl

theorem readsBack_truth (b : Bool) : ReadsBack (truth .exchange) (.truth b) b := by
  intro t' h
  obtain ⟨left, rfl⟩ := h.leaf_of (Scalar.readsAs_truth b)
  rfl

theorem readsBack_natural (n : UInt64) : ReadsBack natural (.natural n.toNat) n := by
  intro t' h
  have small : n.toNat < Nat.pow 2 64 := n.toNat_lt
  obtain ⟨left, rfl⟩ := h.leaf_of (Scalar.readsAs_natural small)
  rw [natural, if_pos small]
  exact congrArg Except.ok (UInt64.ofNat_toNat ..)

theorem readsBack_instant {t : Instant} (h : t.Representable) :
    ReadsBack instant t.toTree t := by
  intro t' reads
  obtain ⟨left, rfl⟩ := reads.leaf_of (Scalar.readsAs_text t.text)
  simp only [instant, Instant.ofText?_text h]

/-- An absent value is given back as none, and a text by its reader. -/
theorem readsBack_nullable {α : Type} {read : Reader α} {write : α → String} {value : Option α}
    (h : ∀ a ∈ value, ReadsBack read (.text (write a)) a) :
    ReadsBack (nullable read) (.optional (fun a => .text (write a)) value) value := by
  intro t' reads
  cases value with
  | none =>
    obtain ⟨left, rfl⟩ := reads.leaf_of Scalar.readsAs_null
    rfl
  | some a =>
    have given := h a rfl t' reads
    obtain ⟨left, rfl⟩ := reads.leaf_of (Scalar.readsAs_text (write a))
    rw [nullable, given]
    · rfl
    · exact fun _ same => by cases same

theorem entriesOf_of_mem {es : List (String × Tree)} (distinct : (es.map (·.1)).Nodup)
    {key : String} {t : Tree} (member : (key, t) ∈ es) : entriesOf key es = [t] := by
  induction es with
  | nil => cases member
  | cons e es ih =>
    rw [List.map_cons, List.nodup_cons] at distinct
    rcases List.mem_cons.1 member with rfl | member
    · have others : es.filter (fun e => e.1 == key) = [] := by
        rw [List.filter_eq_nil_iff]
        intro e inside same
        exact distinct.1 (List.mem_map.2 ⟨e, inside, beq_iff_eq.1 same⟩)
      simp [entriesOf, others]
    · have differ : ¬e.1 = key := fun same =>
        distinct.1 (same ▸ List.mem_map.2 ⟨_, member, rfl⟩)
      rw [← ih distinct.2 member]
      simp [entriesOf, differ]

/-- A table without repeated names gives its fields one by one. -/
theorem fields_table (m : Manner) {es : List (String × Tree)} (distinct : (es.map (·.1)).Nodup) :
    fields m (es.map (·.1)) (.table es) = .ok (es.map fun e => .given e.2) := by
  have each : ∀ part ⊆ es, (part.map (·.1)).mapM (fieldOf es) =
      Except.ok (part.map fun e => Field.given e.2) := by
    intro part inside
    induction part with
    | nil => rfl
    | cons e part ih =>
      have found := entriesOf_of_mem distinct (inside List.mem_cons_self)
      have rest := ih fun _ member => inside (List.mem_cons_of_mem _ member)
      simp only [List.map_cons, List.mapM_cons, fieldOf, found, rest]
      rfl
  exact each es fun _ member => member

/-- What the text of a table reads as gives the fields of the table one by one. -/
theorem fields_of_readsAs (m : Manner) {es : List (String × Tree)} {t' : Tree}
    (h : (Tree.table es).ReadsAs t') (distinct : (es.map (·.1)).Nodup) :
    ∃ es', Tree.EntriesReadAs es es' ∧
      fields m (es.map (·.1)) t' = .ok (es'.map fun e => .given e.2) := by
  obtain ⟨es', rfl, entries⟩ := Tree.readsAs_table.1 h
  have keys := Tree.keys_of_entriesReadAs entries
  rw [← keys] at distinct ⊢
  exact ⟨es', entries, fields_table m distinct⟩

theorem ok_bind {ε α β : Type} (a : α) (f : α → Except ε β) : (Except.ok a >>= f) = f a := rfl

theorem ok_of_toOption {ε α : Type} {x : Except ε α} {a : α} (h : x.toOption = some a) :
    x = .ok a := by
  cases x with
  | error e => cases h
  | ok b => exact congrArg Except.ok (Option.some.inj h)

theorem ok_of_bind {ε α β : Type} {x : Except ε α} {f : α → Except ε β} {b : β}
    (h : (x >>= f) = .ok b) : ∃ a, x = .ok a ∧ f a = .ok b := by
  cases x with
  | error e => cases h
  | ok a => exact ⟨a, rfl, h⟩

/-! ### Instants that were read -/

theorem representable_of_instant {t : Tree} {i : Instant} (h : instant t = .ok i) :
    i.Representable := by
  unfold instant at h
  split at h
  · split at h
    · next read =>
      cases h
      exact Instant.representable_of_ofText? read
    · cases h
  · cases h

theorem representable_of_required {f : Field} {i : Instant}
    (h : required instant f = .ok i) : i.Representable := by
  unfold required at h
  split at h
  · exact representable_of_instant h
  · cases h

theorem representable_of_optional {f : Field} {i? : Option Instant}
    (h : optional instant f = .ok i?) : ∀ i ∈ i?, i.Representable := by
  intro i known
  cases known
  cases f with
  | leftOut => cases h
  | cutOff => cases h
  | given t =>
    simp only [optional] at h
    unfold nullable at h
    split at h
    · cases h
    · cases read : instant t with
      | error e =>
        rw [read] at h
        cases h
      | ok j =>
        rw [read] at h
        cases h
        exact representable_of_instant read

end Document

namespace Json

/-- What a reader makes of all trees that a text reads as, it makes of the text. -/
theorem toOption_decode_write {α : Type} {read : Document.Reader α} {t : Tree} {a? : Option α}
    (h : ∀ t', t.ReadsAs t' → (read t').toOption = a?) :
    (decode read (write t)).toOption = a? := by
  obtain ⟨t', text, reads⟩ := read?_write t
  rw [← h t' reads]
  simp only [decode, text]
  cases read t' <;> rfl

end Json

/-- The number that the text of a double reads as. -/
def Double.readBack? (x : Double) : Option Double :=
  (Json.decode Document.double (Json.write (.double x))).toOption

namespace Document

/-- Where a scalar stands in its text does not matter to its number. -/
theorem toOption_double_leaf (v : Scalar) (left left' : Nat) :
    (double (.leaf v left)).toOption = (double (.leaf v left')).toOption := by
  cases v <;> rfl

theorem toOption_double {x : Double} {t' : Tree} (h : (Tree.double x).ReadsAs t') :
    (double t').toOption = x.readBack? := by
  refine (Json.toOption_decode_write fun u k => ?_).symm
  obtain ⟨v, left, rfl, reads⟩ := Tree.readsAs_leaf.1 h
  obtain ⟨left', rfl⟩ := k.leaf_of reads
  exact toOption_double_leaf v left' left

end Document

namespace Double

/-- NaN and the infinities have no number in a document, and do not read back. -/
theorem readBack?_eq_none {x : Double} (h : ∀ b, Decimal.kind x.value ≠ .finite b) :
    x.readBack? = none := by
  have absent : Decimal.exchanged? x.value = none := by
    unfold Decimal.exchanged?
    split
    · next b finite => exact absurd finite (h b)
    · rfl
  have reads : (Tree.double x).ReadsAs (.leaf .null 0) :=
    Tree.readsAs_leaf.2 ⟨_, _, rfl, Scalar.readsAs_double_null absent⟩
  exact (Document.toOption_double reads).symm

/-- A number below ten to the sixteenth reads back. -/
theorem readBack?_isSome {x : Double} {b : Decimal.Binary}
    (finite : Decimal.kind x.value = .finite b)
    (short : (Decimal.Numeral.shortest Decimal.exchange.tie b).leading ≤ 15) :
    x.readBack?.isSome := by
  obtain ⟨y, read⟩ := Scalar.exists_double_readsAs finite short
  have reads : (Tree.double x).ReadsAs (.double y) := Tree.readsAs_leaf.2 ⟨_, _, rfl, read⟩
  rw [← Document.toOption_double reads]
  rfl

end Double

/-! ## Rows -/

namespace StoredGrade

/-- The calendar covers all instants of the row. -/
structure InCalendar (row : StoredGrade) : Prop where
  editedAt : ∀ t ∈ row.contentEditedAt, t.Representable
  passedAt : ∀ t ∈ row.passedAt, t.Representable
  createdAt : row.createdAt.Representable
  modifiedAt : row.modifiedAt.Representable

/-- A row whose text reads back as the row. -/
structure ReadsBack (row : StoredGrade) : Prop where
  inCalendar : row.InCalendar
  percent : (Double.ofFloat row.percent).readBack?.map Double.value = some row.percent

open Document in
/-- All of a row but its percent is given back. -/
theorem ofTree_of_readsAs {row : StoredGrade} (h : row.InCalendar) {t' : Tree}
    (reads : row.toTree.ReadsAs t') : ∃ u, (Tree.float row.percent).ReadsAs u ∧
      ofTree .exchange t' = (Document.float u).map fun x => { row with percent := x } := by
  obtain ⟨es', entries, given⟩ := fields_of_readsAs .exchange reads (by simp)
  simp only [Tree.entriesReadAs_cons, Tree.entriesReadAs_nil] at entries
  obtain ⟨_, _, rfl, learner, _, _, rfl, course, _, _, rfl, version, _, _, rfl, edited, _, _, rfl,
    hash, percent, _, rfl, percents, _, _, rfl, letter, _, _, rfl, passed, _, _, rfl, attempted,
    _, _, rfl, created, _, _, rfl, modified, rfl⟩ := entries
  have learner := readsBack_natural _ _ learner
  have course := readsBack_text _ _ course
  have version := readsBack_nullable (fun s _ => readsBack_text s) _ version
  have edited := readsBack_nullable (fun t known => readsBack_instant (h.editedAt t known)) _ edited
  have hash := readsBack_text _ _ hash
  have letter := readsBack_text _ _ letter
  have passed := readsBack_nullable (fun t known => readsBack_instant (h.passedAt t known)) _ passed
  have attempted := readsBack_truth _ _ attempted
  have created := readsBack_instant h.createdAt _ created
  have modified := readsBack_instant h.modifiedAt _ modified
  refine ⟨percent, percents, ?_⟩
  simp only [List.map_cons, List.map_nil] at given
  rw [ofTree, given]
  simp only [ok_bind, required, Document.optional, orElse, LearnerId.ofTree, CourseKey.ofTree,
    PolicyHash.ofTree, learner, course, version, edited, hash, letter, passed, attempted, created,
    modified]
  cases float percent <;> rfl

open Document in
/-- A row that was read has no other instants than those of the calendar. -/
theorem inCalendar_of_ofTree {m : Manner} {t : Tree} {row : StoredGrade}
    (h : ofTree m t = .ok row) : row.InCalendar := by
  obtain ⟨fields, -, h⟩ := ok_of_bind h
  split at h
  · obtain ⟨_, -, h⟩ := ok_of_bind h
    obtain ⟨_, -, h⟩ := ok_of_bind h
    obtain ⟨_, -, h⟩ := ok_of_bind h
    obtain ⟨_, edited, h⟩ := ok_of_bind h
    obtain ⟨_, -, h⟩ := ok_of_bind h
    obtain ⟨_, -, h⟩ := ok_of_bind h
    obtain ⟨_, -, h⟩ := ok_of_bind h
    obtain ⟨_, passed, h⟩ := ok_of_bind h
    obtain ⟨_, -, h⟩ := ok_of_bind h
    obtain ⟨_, created, h⟩ := ok_of_bind h
    obtain ⟨_, modified, h⟩ := ok_of_bind h
    cases h
    exact ⟨representable_of_optional edited, representable_of_optional passed,
      representable_of_required created, representable_of_required modified⟩
  · cases h

end StoredGrade

namespace EncodedRows

/-- **A row reads back with the number that its percent reads as**, and not at all if its
percent reads as none. -/
theorem toOption_decode_encode {row : StoredGrade} (h : row.InCalendar) :
    (decode (encode row)).toOption =
      (Double.ofFloat row.percent).readBack?.map fun x => { row with percent := x.value } := by
  have read : (Json.decode (StoredGrade.ofTree .exchange) (Json.write row.toTree)).toOption =
      (Double.ofFloat row.percent).readBack?.map fun x => { row with percent := x.value } := by
    refine Json.toOption_decode_write fun t' reads => ?_
    obtain ⟨u, percent, whole⟩ := StoredGrade.ofTree_of_readsAs h reads
    rw [whole, ← Document.toOption_double percent, Document.float]
    cases Document.double u <;> rfl
  rw [← read, decode, encode]
  cases Json.decode (StoredGrade.ofTree .exchange) (Json.write row.toTree) <;> rfl

theorem decode_encode {row : StoredGrade} (h : row.ReadsBack) : decode (encode row) = .ok row := by
  have read := toOption_decode_encode h.inCalendar
  obtain ⟨x, known, value⟩ := Option.map_eq_some_iff.1 h.percent
  rw [known, Option.map_some, value] at read
  exact Document.ok_of_toOption read

theorem inCalendar_of_decode {text : String} {row : StoredGrade}
    (h : decode text = .ok row) : row.InCalendar := by
  unfold decode Json.decode at h
  split at h
  · cases h
  · split at h
    · next read =>
      cases h
      exact StoredGrade.inCalendar_of_ofTree read
    · cases h

end EncodedRows

/-! ## Scores -/

/-- A score whose text reads back as the score. -/
structure Score.ReadsBack (score : Score) : Prop where
  recordedAt : score.recordedAt.Representable
  earned : score.earned.readBack? = some score.earned
  possible : score.possible.readBack? = some score.possible

open Document in
/-- All of a score but its two numbers is given back. -/
theorem Score.ofTree_of_readsAs {score : Score} (dated : score.recordedAt.Representable)
    {t' : Tree} (reads : score.toTree.ReadsAs t') : ∃ u v,
      (Tree.double score.earned).ReadsAs u ∧ (Tree.double score.possible).ReadsAs v ∧
      ofTree .exchange t' = (do
        let earned ← Document.double u
        let possible ← Document.double v
        .ok { score with earned, possible }) := by
  obtain ⟨es', entries, given⟩ := fields_of_readsAs .exchange reads (by simp)
  simp only [Tree.entriesReadAs_cons, Tree.entriesReadAs_nil] at entries
  obtain ⟨u, _, rfl, first, v, _, rfl, second, _, _, rfl, attempted, _, _, rfl, recorded, rfl⟩ :=
    entries
  have attempted := readsBack_truth _ _ attempted
  have recorded := readsBack_instant dated _ recorded
  refine ⟨u, v, first, second, ?_⟩
  simp only [List.map_cons, List.map_nil] at given
  rw [Score.ofTree, given]
  simp only [ok_bind, required, attempted, recorded]

namespace EncodedScores

/-- **A score reads back with the numbers that its two numbers read as**, and not at all if one
of them reads as none. -/
theorem toOption_decode_encode {score : Score} (dated : score.recordedAt.Representable) :
    (decode (encode score)).toOption = score.earned.readBack?.bind fun earned =>
      score.possible.readBack?.map fun possible => { score with earned, possible } := by
  have read : (Json.decode (Score.ofTree .exchange) (Json.write score.toTree)).toOption =
      score.earned.readBack?.bind fun earned =>
        score.possible.readBack?.map fun possible => { score with earned, possible } := by
    refine Json.toOption_decode_write fun t' reads => ?_
    obtain ⟨u, v, first, second, whole⟩ := Score.ofTree_of_readsAs dated reads
    rw [whole, ← Document.toOption_double first, ← Document.toOption_double second]
    cases Document.double u with
    | error e => rfl
    | ok earned => cases Document.double v <;> rfl
  rw [← read, decode, encode]
  cases Json.decode (Score.ofTree .exchange) (Json.write score.toTree) <;> rfl

theorem decode_encode {score : Score} (h : score.ReadsBack) :
    decode (encode score) = .ok score := by
  have read := toOption_decode_encode h.recordedAt
  rw [h.earned, h.possible] at read
  exact Document.ok_of_toOption read

end EncodedScores

/-! ## Databases -/

namespace Text

theorem hexValue?_hexDigit : ∀ n < 16, Json.hexValue? (hexDigit n) = some n := by decide

theorem ofHexDigits?_hex (bytes : Bytes) : ofHexDigits? (hex bytes).toList = some bytes := by
  rw [hex, String.toList_ofList]
  induction bytes with
  | nil => rfl
  | cons b bytes ih =>
    have small := b.toNat_lt
    have whole : UInt8.ofNat (16 * (b.toNat / 16) + b.toNat % 16) = b := by
      rw [Nat.div_add_mod]
      exact UInt8.ofNat_toNat
    rw [List.flatMap_cons, List.cons_append, List.cons_append, List.nil_append, ofHexDigits?,
      hexValue?_hexDigit _ (by omega), hexValue?_hexDigit _ (by omega), ih]
    simp only [Option.bind_eq_bind, Option.bind_some, whole]

end Text

namespace ByteTable

open Text (Bytes before)

/-- An entry whose key comes last is put at the end. -/
theorem place_last {key : Bytes} (value : String) {entries : List (Bytes × String)}
    (h : ∀ e ∈ entries, before e.1 key = true) :
    place key value entries = entries ++ [(key, value)] := by
  induction entries with
  | nil => rfl
  | cons e rest ih =>
    have first := h e List.mem_cons_self
    rw [place, if_neg (Text.before_asymm first), if_pos first, ih fun f member => h f (List.mem_cons_of_mem _ member)]
    rfl

/-- Put an item of a document. -/
def putItem? (t : ByteTable) (e : String × Tree) : Option ByteTable :=
  match Text.ofHexDigits? e.1.toList, e.2 with
  | some key, .leaf (.text value) _ => some (t.put key value)
  | _, _ => none

theorem ofTree?_table (es : List (String × Tree)) :
    ofTree? (.table es) = es.foldlM putItem? ∅ := rfl

theorem putItem?_hex (t : ByteTable) (key : Bytes) (value : String) (left : Nat) :
    t.putItem? (Text.hex key, .leaf (.text value) left) = some (t.put key value) := by
  simp only [putItem?, Text.ofHexDigits?_hex]

/-- Entries that come in their order are put at the end, one by one. -/
theorem foldlM_putItem? {entries : List (Bytes × String)} {done : ByteTable}
    {es : List (String × Tree)}
    (ascending : (done.entries ++ entries).Pairwise fun a b => before a.1 b.1 = true)
    (reads : Tree.EntriesReadAs (entries.map fun e => (Text.hex e.1, .text e.2)) es) :
    es.foldlM putItem? done = some ⟨done.entries ++ entries, ascending⟩ := by
  induction entries generalizing done es with
  | nil =>
    rw [Tree.entriesReadAs_nil.1 reads]
    simp
  | cons e entries ih =>
    obtain ⟨u, es', rfl, value, others⟩ := Tree.entriesReadAs_cons.1 reads
    obtain ⟨left, rfl⟩ := value.leaf_of (Scalar.readsAs_text e.2)
    have placed : (done.put e.1 e.2).entries = done.entries ++ [e] :=
      place_last e.2 fun f member => (List.pairwise_append.1 ascending).2.2 f member e
        List.mem_cons_self
    have same : (done.put e.1 e.2).entries ++ entries = done.entries ++ e :: entries := by
      rw [placed, List.append_assoc, List.singleton_append]
    rw [List.foldlM_cons, putItem?_hex, Option.bind_eq_bind, Option.bind_some,
      ih (same ▸ ascending) others]
    simp only [same]

/-- **A table reads back.** -/
theorem ofTree?_of_readsAs {t : ByteTable} {t' : Tree} (h : t.toTree.ReadsAs t') :
    ofTree? t' = some t := by
  obtain ⟨es, rfl, entries⟩ := Tree.readsAs_table.1 h
  rw [ofTree?_table]
  have empty : (∅ : ByteTable).entries ++ t.entries = t.entries := rfl
  exact foldlM_putItem? (empty ▸ t.ascending) entries

end ByteTable

/-- **A database reads back as it was.** -/
theorem Database.ofText?_toText (db : Database) : ofText? db.toText = some db := by
  obtain ⟨t', text, reads⟩ := Json.read?_write (.table
    [("course_grades", db.rows.table.toTree), ("scores", db.scores.table.toTree)])
  obtain ⟨es, rfl, entries⟩ := Tree.readsAs_table.1 reads
  simp only [Tree.entriesReadAs_cons, Tree.entriesReadAs_nil] at entries
  obtain ⟨rows, _, rfl, first, scores, _, rfl, second, rfl⟩ := entries
  rw [ofText?, toText, text]
  simp only [ByteTable.ofTree?_of_readsAs first, ByteTable.ofTree?_of_readsAs second]
  rfl

end Gradebook
