/-
# Gradebook.Proofs.DerivedData — derived data answers what would be built

Users of a `DerivedCache` ask for groups, look whether there are any, clear them, and take
care of a course in transactions, any number of them at a time (`Use`). `uses_transparent`
says what they are answered if the groups of a course and version are always the same: those
groups, built anew unless they are at hand.

What is at hand is said of the uses alone, not of the cache: the last groups asked for in the
course were of this version, and nothing cleared them since (`AtHand`). A transaction clears
at its first release or drop (`Taken`). The cache is then followed use by use: its entry of a
course is what is at hand (`kept?_after`), and its transactions are those not yet ended
(`holds_after`). Both are inductions over the uses with the last one taken off, since all of
this is about what came last.
-/
import Mathlib.Data.List.Induction
import Gradebook.Cache

namespace Gradebook

set_option autoImplicit false

theorem Transaction.release_fst (t : Transaction) (c : DerivedCache) :
    (t.release c).1 = { t with released := true } := by
  rcases t with ⟨key, _ | _⟩ <;> rfl

namespace DerivedCache

/-- What is done with derived data. The transactions of a course are numbered as they start. -/
inductive Use where
  | groups (key : CourseKey) (version : Option String)
  | contains (key : CourseKey)
  | clear (key : CourseKey)
  | start (key : CourseKey)
  | release (key : CourseKey) (n : Nat)
  /-- Give up a transaction, which is then gone. -/
  | drop (key : CourseKey) (n : Nat)
  deriving DecidableEq

/-- The course it is done for. -/
def Use.key : Use → CourseKey
  | .groups key _ | .contains key | .clear key | .start key | .release key _ | .drop key _ => key

inductive Answer where
  | groups (found : GradedBlocks) (built : Bool)
  | contained (b : Bool)
  | done
  /-- There is no such transaction. -/
  | unknown
  deriving DecidableEq

/-- A cache with the transactions of each course; those dropped are gone. -/
structure InUse where
  cache : DerivedCache := {}
  care : CourseKey → List (Option Transaction) := fun _ => []

namespace InUse

/-- What is kept for a course. -/
def kept? (s : InUse) (key : CourseKey) : Option CacheEntry := Assoc.find? key s.cache.entries

def care? (s : InUse) (key : CourseKey) (n : Nat) : Option Transaction := (s.care key)[n]?.join

/-- Let the transactions of a course be these. -/
def withCare (s : InUse) (key : CourseKey) (ts : List (Option Transaction)) : InUse :=
  { s with care := fun k => if key = k then ts else s.care k }

/-- Release a transaction, of which this is then left. -/
def finish (s : InUse) (key : CourseKey) (n : Nat) (left : Transaction → Option Transaction) :
    Answer × InUse :=
  match s.care? key n with
  | none => (.unknown, s)
  | some t =>
    let (t, cache) := t.release s.cache
    (.done, { s with cache }.withCare key ((s.care key).set n (left t)))

/-- One use, where `G` are the groups of a course and version. -/
def use (G : CourseKey → Option String → GradedBlocks) (s : InUse) : Use → Answer × InUse
  | .groups key version =>
    let (found, built, cache) := s.cache.groups key version fun _ => G key version
    (.groups found built, { s with cache })
  | .contains key => (.contained (s.cache.contains key), s)
  | .clear key => (.done, { s with cache := s.cache.clear key })
  | .start key => (.done, s.withCare key (s.care key ++ [some { key }]))
  | .release key n => s.finish key n some
  | .drop key n => s.finish key n fun _ => none

/-- Each use with its answer. -/
def answers (G : CourseKey → Option String → GradedBlocks) : InUse → List Use → List (Use × Answer)
  | _, [] => []
  | s, u :: rest => (u, (s.use G u).1) :: answers G (s.use G u).2 rest

/-- A new cache after some uses. -/
def after (G : CourseKey → Option String → GradedBlocks) (uses : List Use) : InUse :=
  uses.foldl (fun s u => (s.use G u).2) {}

end InUse

/-! ## What is at hand -/

namespace Use

/-- The transaction was started and has been neither released nor dropped. -/
def Taken (uses : List Use) (key : CourseKey) (n : Nat) : Prop :=
  ∃ before later, uses = before ++ .start key :: later ∧ before.count (.start key) = n ∧
    .release key n ∉ later ∧ .drop key n ∉ later

/-- After these uses this one clears the course: by itself, or by the end of a transaction. -/
def Clears (uses : List Use) (key : CourseKey) : Use → Prop
  | .clear k => k = key
  | .release k n | .drop k n => k = key ∧ Taken uses key n
  | _ => False

/-- One of the later uses clears the course. -/
def Cleared (uses : List Use) (key : CourseKey) (later : List Use) : Prop :=
  ∃ first u last, later = first ++ u :: last ∧ Clears (uses ++ first) key u

/-- The last groups asked for in the course are of this version, and were not cleared since. -/
def AtHand (uses : List Use) (key : CourseKey) (version : Option String) : Prop :=
  ∃ before later, uses = before ++ .groups key version :: later ∧
    (∀ v, .groups key v ∉ later) ∧ ¬Cleared (before ++ [.groups key version]) key later

/-- Where something stands in a list with one more item at its end. -/
theorem split_snoc {α : Type} {P : List α → List α → Prop} {xs : List α} {x y : α} :
    (∃ a b, xs ++ [x] = a ++ y :: b ∧ P a b) ↔
      (x = y ∧ P xs []) ∨ ∃ a b, xs = a ++ y :: b ∧ P a (b ++ [x]) := by
  constructor
  · rintro ⟨a, b, same, holds⟩
    rcases List.eq_nil_or_concat b with rfl | ⟨b, z, rfl⟩
    · obtain ⟨rfl, last⟩ := List.append_inj' same rfl
      exact .inl ⟨(List.cons.inj last).1, holds⟩
    · rw [List.concat_eq_append] at same holds
      rw [← List.cons_append, ← List.append_assoc] at same
      obtain ⟨rfl, last⟩ := List.append_inj' same rfl
      cases last
      exact .inr ⟨a, b, rfl, holds⟩
  · rintro (⟨rfl, holds⟩ | ⟨a, b, rfl, holds⟩)
    · exact ⟨xs, [], rfl, holds⟩
    · exact ⟨a, b ++ [x], by simp, holds⟩

variable {uses : List Use} {u : Use} {key : CourseKey}

theorem not_taken_nil {n : Nat} : ¬Taken [] key n := by
  rintro ⟨before, later, same, -⟩
  cases before <;> cases same

theorem taken_snoc {n : Nat} : Taken (uses ++ [u]) key n ↔
    (u = .start key ∧ uses.count (.start key) = n) ∨
      (Taken uses key n ∧ u ≠ .release key n ∧ u ≠ .drop key n) := by
  rw [Taken, split_snoc]
  refine or_congr (by simp) ⟨?_, ?_⟩
  · rintro ⟨before, later, rfl, number, released, dropped⟩
    simp only [List.mem_append, List.mem_singleton, not_or] at released dropped
    exact ⟨⟨before, later, rfl, number, released.1, dropped.1⟩, Ne.symm released.2,
      Ne.symm dropped.2⟩
  · rintro ⟨⟨before, later, rfl, number, released, dropped⟩, notReleased, notDropped⟩
    refine ⟨before, later, rfl, number, ?_, ?_⟩
    · simpa [released] using notReleased.symm
    · simpa [dropped] using notDropped.symm

theorem cleared_snoc {later : List Use} : Cleared uses key (later ++ [u]) ↔
    Clears (uses ++ later) key u ∨ Cleared uses key later := by
  constructor
  · rintro ⟨first, u', last, same, clears⟩
    have stands : ∃ a b, later ++ [u] = a ++ u' :: b ∧ Clears (uses ++ a) key u' :=
      ⟨first, last, same, clears⟩
    rcases split_snoc.1 stands with ⟨rfl, clears⟩ | ⟨first, last, rfl, clears⟩
    · exact .inl clears
    · exact .inr ⟨first, u', last, rfl, clears⟩
  · rintro (clears | ⟨first, u', last, rfl, clears⟩)
    · exact ⟨later, u, [], rfl, clears⟩
    · exact ⟨first, u', last ++ [u], by simp, clears⟩

theorem not_atHand_nil {version : Option String} : ¬AtHand [] key version := by
  rintro ⟨before, later, same, -⟩
  cases before <;> cases same

/-- What is at hand after one more use: what it asked for, or what was at hand before, unless
it asked for something else or cleared it. -/
theorem atHand_snoc {version : Option String} : AtHand (uses ++ [u]) key version ↔
    u = .groups key version ∨
      (AtHand uses key version ∧ (∀ v, u ≠ .groups key v) ∧ ¬Clears uses key u) := by
  rw [AtHand, split_snoc]
  refine or_congr ?_ ⟨?_, ?_⟩
  · refine and_iff_left ⟨fun v => List.not_mem_nil, ?_⟩
    rintro ⟨first, u', last, same, -⟩
    cases first <;> cases same
  · rintro ⟨before, later, rfl, last, kept⟩
    simp only [List.mem_append, List.mem_singleton, not_or] at last
    rw [cleared_snoc, not_or] at kept
    refine ⟨⟨before, later, rfl, fun v => (last v).1, kept.2⟩, fun v same => (last v).2 same.symm, ?_⟩
    simpa using kept.1
  · rintro ⟨⟨before, later, rfl, last, kept⟩, other, spared⟩
    refine ⟨before, later, rfl, fun v => ?_, ?_⟩
    · simpa [last v] using (other v).symm
    · rw [cleared_snoc, not_or]
      exact ⟨by simpa using spared, kept⟩

end Use

/-! ## One use -/

open Use (Taken Clears AtHand)

namespace InUse

variable {G : CourseKey → Option String → GradedBlocks} {s : InUse} {key : CourseKey}

theorem after_snoc (uses : List Use) (u : Use) :
    after G (uses ++ [u]) = ((after G uses).use G u).2 := by
  rw [after, List.foldl_append]
  rfl

/-- The transaction is there and has not cleared its course yet. -/
def Holds (s : InUse) (key : CourseKey) (n : Nat) : Prop :=
  ∃ t, s.care? key n = some t ∧ t.released = false

/-- What `Use.Clears` says of the uses, said of the cache. -/
def Clears (s : InUse) (key : CourseKey) : Use → Prop
  | .clear k => k = key
  | .release k n | .drop k n => k = key ∧ s.Holds key n
  | _ => False

/-- Transactions are of the course they are kept for, a course has one entry, and its groups
are those of its version. -/
structure Sound (G : CourseKey → Option String → GradedBlocks) (s : InUse) : Prop where
  own : ∀ {key n t}, s.care? key n = some t → t.key = key
  single : (Assoc.keys s.cache.entries).Nodup
  grouped : ∀ {key e}, s.kept? key = some e → e.groups = G key e.version

@[simp] theorem kept?_withCare (k : CourseKey) (ts : List (Option Transaction)) :
    (s.withCare k ts).kept? key = s.kept? key := rfl

theorem care?_withCare (k : CourseKey) (ts : List (Option Transaction)) (n : Nat) :
    (s.withCare k ts).care? key n = if k = key then ts[n]?.join else s.care? key n := by
  simp only [care?, withCare]
  split <;> rfl

theorem join_getElem?_concat {α : Type} (xs : List (Option α)) (x : Option α) (n : Nat) :
    (xs ++ [x])[n]?.join = if n = xs.length then x else xs[n]?.join := by
  rcases Nat.lt_trichotomy n xs.length with inside | rfl | beyond
  · rw [List.getElem?_append_left inside, if_neg (Nat.ne_of_lt inside)]
  · simp
  · rw [if_neg (Nat.ne_of_gt beyond), List.getElem?_eq_none (by rw [List.length_append]; exact beyond),
      List.getElem?_eq_none (Nat.le_of_lt beyond)]

/-- A transaction that starts gets the next number of its course. -/
theorem care?_start (k : CourseKey) (n : Nat) :
    (s.use G (.start k)).2.care? key n =
      if k = key ∧ n = (s.care key).length then some { key } else s.care? key n := by
  simp only [use, care?_withCare]
  by_cases same : k = key
  · subst same
    simp [join_getElem?_concat, care?]
  · simp [same]

/-- A transaction that ends is left as it should be. -/
theorem care_finish (k : CourseKey) (n : Nat) (left : Transaction → Option Transaction) :
    (s.finish k n left).2.care key =
      match s.care? key n with
      | some t => if k = key then (s.care key).set n (left { t with released := true }) else s.care key
      | none => s.care key := by
  by_cases same : k = key
  · subst same
    cases found : s.care? k n with
    | none => simp only [finish, found]
    | some t => simp [finish, found, withCare, Transaction.release_fst]
  · have kept : (s.finish k n left).2.care key = s.care key := by
      simp only [finish]
      split
      · rfl
      · simp [withCare, same]
    rw [kept]
    split <;> simp [same]

theorem care?_finish (k : CourseKey) (m : Nat) (left : Transaction → Option Transaction) (n : Nat) :
    (s.finish k m left).2.care? key n =
      if k = key ∧ m = n then (s.care? key n).bind fun t => left { t with released := true }
      else s.care? key n := by
  have kept : s.care? key n = (s.care key)[n]?.join := rfl
  rw [care?, care_finish]
  by_cases same : k = key
  · subst same
    by_cases at_m : m = n
    · subst at_m
      cases found : s.care? k m with
      | none => simp [← kept, found]
      | some t =>
        have inside : m < (s.care k).length := by
          by_contra outside
          rw [kept, List.getElem?_eq_none (Nat.le_of_not_lt outside)] at found
          cases found
        simp [inside]
    · split <;> simp [at_m, kept]
  · simp only [same, if_false, false_and, kept]
    split <;> rfl

theorem length_care_use (u : Use) :
    ((s.use G u).2.care key).length = (s.care key).length + [u].count (.start key) := by
  have ended (k : CourseKey) (n : Nat) (left : Transaction → Option Transaction) :
      ((s.finish k n left).2.care key).length = (s.care key).length := by
    rw [care_finish]
    split
    · split <;> simp
    · rfl
  cases u with
  | start k =>
    simp only [use, withCare]
    by_cases same : k = key
    · subst same
      simp
    · simp [same]
  | release k n => simp [use, ended]
  | drop k n => simp [use, ended]
  | groups k v | contains k | clear k => simp [use]

/-- A transaction that ends clears its course, unless it is not there or did before. -/
theorem cache_finish (sound : s.Sound G) (k : CourseKey) (n : Nat)
    (left : Transaction → Option Transaction) :
    (¬s.Holds k n ∧ (s.finish k n left).2.cache = s.cache) ∨
      (s.Holds k n ∧ (s.finish k n left).2.cache = s.cache.clear k) := by
  cases found : s.care? k n with
  | none =>
    refine .inl ⟨?_, by simp only [finish, found]⟩
    rintro ⟨t, here, -⟩
    rw [found] at here
    cases here
  | some t =>
    have own := sound.own found
    cases released : t.released with
    | true =>
      refine .inl ⟨?_, by simp [finish, found, Transaction.release, released, withCare]⟩
      rintro ⟨t', here, unreleased⟩
      rw [found] at here
      cases here
      rw [released] at unreleased
      cases unreleased
    | false =>
      exact .inr ⟨⟨t, found, released⟩,
        by simp [finish, found, Transaction.release, released, withCare, own]⟩

theorem kept?_finish (sound : s.Sound G) (k : CourseKey) (n : Nat)
    (left : Transaction → Option Transaction) [Decidable (k = key ∧ s.Holds k n)] :
    (s.finish k n left).2.kept? key = if k = key ∧ s.Holds k n then none else s.kept? key := by
  rcases cache_finish sound k n left with ⟨none, same⟩ | ⟨held, cleared⟩
  · simp [kept?, same, none]
  · simp [kept?, cleared, clear, Assoc.find?_erase, held]

/-- Asking for groups finds those kept for the version, or else builds and keeps them. -/
theorem use_groups (sound : s.Sound G) (k : CourseKey) (version : Option String) :
    (s.kept? k = some ⟨version, G k version⟩ ∧
        s.use G (.groups k version) = (.groups (G k version) false, s)) ∨
      ((∀ e, s.kept? k = some e → e.version ≠ version) ∧
        s.use G (.groups k version) = (.groups (G k version) true,
          { s with cache := { s.cache with
            entries := Assoc.put k ⟨version, G k version⟩ s.cache.entries } })) := by
  cases found : s.kept? k with
  | none =>
    have looked : Assoc.find? k s.cache.entries = none := found
    exact .inr ⟨nofun, by simp only [use, groups, hit?, looked]⟩
  | some e =>
    have looked : Assoc.find? k s.cache.entries = some e := found
    have grouped := sound.grouped found
    by_cases same : e.version = version
    · subst same
      exact .inl ⟨by rw [← grouped], by simp [use, groups, hit?, looked, grouped]⟩
    · refine .inr ⟨?_, by simp [use, groups, hit?, looked, same]⟩
      rintro e' ⟨⟩
      exact same

/-- The groups answered are those of the version; they are built unless it is the one kept. -/
theorem answer_groups (sound : s.Sound G) (k : CourseKey) (version : Option String) :
    ∃ built, (s.use G (.groups k version)).1 = .groups (G k version) built ∧
      (built = true ↔ ¬∃ e, s.kept? k = some e ∧ e.version = version) := by
  rcases use_groups sound k version with ⟨kept, same⟩ | ⟨none, same⟩
  · exact ⟨false, by rw [same], by simp [kept]⟩
  · exact ⟨true, by rw [same], by simpa using none⟩

/-- Asking for groups keeps them, whether or not they were built. -/
theorem kept?_groups (sound : s.Sound G) (k : CourseKey) (version : Option String) :
    (s.use G (.groups k version)).2.kept? key =
      if k = key then some ⟨version, G k version⟩ else s.kept? key := by
  rcases use_groups sound k version with ⟨kept, same⟩ | ⟨-, same⟩
  · rw [same]
    split
    · next here => rw [← here, kept]
    · rfl
  · rw [same, kept?, Assoc.find?_put]
    rfl

/-- The entry of a course after one use: the groups asked for, nothing if it was cleared, and
otherwise the entry from before. -/
theorem kept?_use (sound : s.Sound G) (u : Use) {e : CacheEntry} :
    (s.use G u).2.kept? key = some e ↔
      (∃ v, u = .groups key v ∧ e = ⟨v, G key v⟩) ∨
        (s.kept? key = some e ∧ (∀ v, u ≠ .groups key v) ∧ ¬s.Clears key u) := by
  classical
  cases u with
  | groups k v =>
    rw [kept?_groups sound]
    by_cases same : k = key
    · subst same
      simp [eq_comm]
    · simp [same, Clears]
  | contains k => simp [use, Clears]
  | clear k =>
    simp only [use, kept?, clear, Assoc.find?_erase, Clears]
    split <;> simp [*]
  | start k => simp [use, Clears]
  | release k n | drop k n =>
    simp only [use, kept?_finish sound, Clears]
    by_cases held : k = key ∧ s.Holds k n
    · obtain ⟨rfl, held⟩ := held
      simp [held]
    · have spared : k = key → ¬s.Holds key n := fun same => by simpa [same] using held
      simp +contextual [held, spared]

/-- The transactions at work after one use: the one it started, and those from before that it
did not end. -/
theorem holds_use (u : Use) {n : Nat} :
    (s.use G u).2.Holds key n ↔
      (u = .start key ∧ (s.care key).length = n) ∨
        (s.Holds key n ∧ u ≠ .release key n ∧ u ≠ .drop key n) := by
  have ended (k : CourseKey) (m : Nat) (left : Transaction → Option Transaction)
      (gone : ∀ t t' : Transaction, left { t with released := true } = some t' →
        t'.released = true) :
      (s.finish k m left).2.Holds key n ↔ s.Holds key n ∧ ¬(k = key ∧ m = n) := by
    simp only [Holds, care?_finish]
    by_cases same : k = key ∧ m = n
    · simp only [same, and_self, if_true, not_true_eq_false, and_false, iff_false]
      rintro ⟨t', here, unreleased⟩
      obtain ⟨t, -, leaves⟩ := Option.bind_eq_some_iff.1 here
      rw [gone t t' leaves] at unreleased
      cases unreleased
    · simp [same]
  cases u with
  | groups k v => simp [use, Holds, care?]
  | contains k => simp [use]
  | clear k => simp [use, Holds, care?]
  | start k =>
    have new : s.care? key (s.care key).length = none := by simp [care?]
    by_cases same : k = key ∧ n = (s.care key).length
    · obtain ⟨rfl, rfl⟩ := same
      simp [Holds, care?_start]
    · have other : ¬(k = key ∧ (s.care key).length = n) := fun h => same ⟨h.1, h.2.symm⟩
      simp [Holds, care?_start, same, other]
  | release k m =>
    rw [use, ended k m some (by rintro t t' ⟨⟩; rfl)]
    simp
  | drop k m =>
    rw [use, ended k m (fun _ => none) (by rintro t t' ⟨⟩)]
    simp

/-- A transaction after one use is of the course it is kept for: it was before, ended or not,
or this use started it. -/
theorem own_use (sound : s.Sound G) (u : Use) {n : Nat} {t : Transaction}
    (here : (s.use G u).2.care? key n = some t) : t.key = key := by
  have ended (k : CourseKey) (m : Nat) (left : Transaction → Option Transaction)
      (own : ∀ t t' : Transaction, left { t with released := true } = some t' → t'.key = t.key)
      (here : (s.finish k m left).2.care? key n = some t) : t.key = key := by
    rw [care?_finish] at here
    split at here
    · obtain ⟨t', before, leaves⟩ := Option.bind_eq_some_iff.1 here
      rw [own t' t leaves, sound.own before]
    · exact sound.own here
  cases u with
  | start k =>
    rw [care?_start] at here
    split at here
    · cases here
      rfl
    · exact sound.own here
  | release k m => exact ended k m some (by rintro t t' ⟨⟩; rfl) here
  | drop k m => exact ended k m (fun _ => none) (by rintro t t' ⟨⟩) here
  | groups k v | contains k | clear k => exact sound.own here

/-- Groups are kept in the place of those of another version, and clearing only removes. -/
theorem nodup_use (sound : s.Sound G) (u : Use) :
    (Assoc.keys (s.use G u).2.cache.entries).Nodup := by
  have cleared (k : CourseKey) : (Assoc.keys (s.cache.clear k).entries).Nodup :=
    (List.filter_sublist.map _).nodup sound.single
  have ended (k : CourseKey) (n : Nat) (left : Transaction → Option Transaction) :
      (Assoc.keys (s.finish k n left).2.cache.entries).Nodup := by
    rcases cache_finish sound k n left with ⟨-, same⟩ | ⟨-, same⟩
    · rw [same]
      exact sound.single
    · rw [same]
      exact cleared k
  cases u with
  | groups k v =>
    rcases use_groups sound k v with ⟨-, same⟩ | ⟨-, same⟩
    · rw [same]
      exact sound.single
    · rw [same]
      simp only [Assoc.keys_put]
      split
      · exact sound.single
      · next absent =>
        refine List.nodup_append.2 ⟨sound.single, by simp, ?_⟩
        rintro a here b last rfl
        rw [List.mem_singleton.1 last] at here
        exact absent here
  | clear k => exact cleared k
  | release k n => exact ended k n some
  | drop k n => exact ended k n fun _ => none
  | contains k | start k => exact sound.single

theorem Sound.use (sound : s.Sound G) (u : Use) : (s.use G u).2.Sound G where
  own := own_use sound u
  single := nodup_use sound u
  grouped := by
    intro key e here
    rcases (kept?_use sound u).1 here with ⟨v, -, rfl⟩ | ⟨before, -⟩
    · rfl
    · exact sound.grouped before

/-! ## All of them -/

theorem sound_after (uses : List Use) : (after G uses).Sound G := by
  induction uses using List.reverseRecOn with
  | nil => exact ⟨nofun, List.nodup_nil, nofun⟩
  | append_singleton uses u ih =>
    rw [after_snoc]
    exact ih.use u

/-- Transactions are numbered as they start. -/
theorem length_care_after (uses : List Use) :
    ((after G uses).care key).length = uses.count (.start key) := by
  induction uses using List.reverseRecOn with
  | nil => rfl
  | append_singleton uses u ih =>
    rw [after_snoc, length_care_use, ih, List.count_append]

theorem holds_after (uses : List Use) (n : Nat) :
    (after G uses).Holds key n ↔ Taken uses key n := by
  induction uses using List.reverseRecOn with
  | nil => exact iff_of_false (by rintro ⟨t, here, -⟩; cases here) Use.not_taken_nil
  | append_singleton uses u ih =>
    rw [after_snoc, holds_use, length_care_after, ih, Use.taken_snoc]

theorem clears_after (uses : List Use) (u : Use) :
    (after G uses).Clears key u ↔ Use.Clears uses key u := by
  cases u with
  | release k n | drop k n => exact and_congr_right fun _ => holds_after uses n
  | _ => exact Iff.rfl

/-- What is kept is what is at hand. -/
theorem kept?_after (uses : List Use) (e : CacheEntry) :
    (after G uses).kept? key = some e ↔ AtHand uses key e.version ∧ e.groups = G key e.version := by
  induction uses using List.reverseRecOn with
  | nil => exact iff_of_false nofun fun kept => Use.not_atHand_nil kept.1
  | append_singleton uses u ih =>
    rw [after_snoc, kept?_use (sound_after uses), ih, Use.atHand_snoc, clears_after]
    constructor
    · rintro (⟨v, rfl, rfl⟩ | ⟨⟨kept, grouped⟩, spared⟩)
      · exact ⟨.inl rfl, rfl⟩
      · exact ⟨.inr ⟨kept, spared⟩, grouped⟩
    · rintro ⟨rfl | ⟨kept, spared⟩, grouped⟩
      · obtain ⟨version, groups⟩ := e
        exact .inl ⟨version, rfl, by rw [← grouped]⟩
      · exact .inr ⟨⟨kept, grouped⟩, spared⟩

/-! ## One course -/

/-- Two caches in use agree about a course. -/
def Agree (key : CourseKey) (s s' : InUse) : Prop :=
  s.kept? key = s'.kept? key ∧ s.care key = s'.care key

variable {s' : InUse}

/-- What is done for another course leaves this one as it is. -/
theorem agree_use_other (sound : s.Sound G) (u : Use) (other : u.key ≠ key) :
    Agree key (s.use G u).2 s := by
  have notGroups : ∀ v, u ≠ .groups key v := by
    rintro v rfl
    exact other rfl
  have spared : ¬s.Clears key u := by
    cases u with
    | clear k => exact other
    | release k n | drop k n => exact fun clears => other clears.1
    | _ => exact id
  refine ⟨Option.ext fun e => ?_, ?_⟩
  · rw [kept?_use sound]
    constructor
    · rintro (⟨v, same, -⟩ | ⟨kept, -⟩)
      · exact absurd same (notGroups v)
      · exact kept
    · exact fun kept => .inr ⟨kept, notGroups, spared⟩
  · cases u with
    | start k => exact if_neg other
    | release k n | drop k n =>
      have elsewhere : ¬k = key := other
      simp only [use, care_finish, elsewhere, if_false]
      split <;> rfl
    | groups k v | contains k | clear k => rfl

/-- What is done for a course depends on that course only. -/
theorem agree_use_own (sound : s.Sound G) (sound' : s'.Sound G) (agree : Agree key s s') (u : Use)
    (own : u.key = key) :
    (s.use G u).1 = (s'.use G u).1 ∧ Agree key (s.use G u).2 (s'.use G u).2 := by
  obtain ⟨entry, care⟩ := agree
  have care? (n : Nat) : s.care? key n = s'.care? key n := by simp only [InUse.care?, care]
  have clears : s.Clears key u ↔ s'.Clears key u := by
    cases u with
    | release k n | drop k n => simp only [Clears, Holds, care?]
    | _ => exact Iff.rfl
  have finished (n : Nat) (left : Transaction → Option Transaction) :
      (s.finish key n left).1 = (s'.finish key n left).1 := by
    simp only [finish, care?]
    split <;> rfl
  refine ⟨?_, Option.ext fun e => ?_, ?_⟩
  · cases u with
    | groups k v =>
      obtain rfl : k = key := own
      obtain ⟨built, answer, whether⟩ := answer_groups sound k v
      obtain ⟨built', answer', whether'⟩ := answer_groups sound' k v
      rw [entry, ← whether'] at whether
      rw [answer, answer', Bool.eq_iff_iff.2 whether]
    | contains k =>
      obtain rfl : k = key := own
      exact congrArg (fun e => Answer.contained e.isSome) entry
    | release k n =>
      obtain rfl : k = key := own
      exact finished n some
    | drop k n =>
      obtain rfl : k = key := own
      exact finished n fun _ => none
    | clear k | start k => rfl
  · rw [kept?_use sound, kept?_use sound', entry, clears]
  · cases u with
    | start k => simp only [use, withCare, care, show k = key from own]
    | release k n | drop k n => simp only [use, care_finish, care?, care]
    | groups k v | contains k | clear k => exact care

/-- Of what is done for many courses, a course sees what is done for it. -/
theorem answers_filter (uses : List Use) (sound : s.Sound G) (sound' : s'.Sound G)
    (agree : Agree key s s') :
    (answers G s uses).filter (fun a => a.1.key = key) =
      answers G s' (uses.filter fun u => u.key = key) := by
  induction uses generalizing s s' with
  | nil => rfl
  | cons u rest ih =>
    rw [answers, List.filter_cons, List.filter_cons]
    by_cases own : u.key = key
    · obtain ⟨answer, agree⟩ := agree_use_own sound sound' agree u own
      simp only [own, decide_true, if_true, answers]
      rw [answer, ih (sound.use u) (sound'.use u) agree]
    · have same := agree_use_other sound u own
      simp only [own, decide_false, Bool.false_eq_true, if_false]
      exact ih (sound.use u) sound' ⟨same.1.trans agree.1, same.2.trans agree.2⟩

end InUse

open InUse

/-- **Derived data is what would be built.** However a new cache is used, the groups answered
are those of the course and version asked for; they are built exactly if they are not at hand;
a course has groups exactly if those of some version are at hand; there is one entry per
course; and what is answered about a course is what would be without the others. -/
theorem uses_transparent (G : CourseKey → Option String → GradedBlocks) (uses : List Use)
    (key : CourseKey) :
    (∀ version, ∃ built,
      ((after G uses).use G (.groups key version)).1 = .groups (G key version) built ∧
        (built = true ↔ ¬AtHand uses key version)) ∧
    ((after G uses).cache.contains key = true ↔ ∃ version, AtHand uses key version) ∧
    (Assoc.keys (after G uses).cache.entries).Nodup ∧
    (∀ u : Use, u.key ≠ key → (after G (uses ++ [u])).kept? key = (after G uses).kept? key) ∧
    (answers G {} uses).filter (fun a => a.1.key = key) =
      answers G {} (uses.filter fun u => u.key = key) := by
  have sound := sound_after (G := G) uses
  have kept (version : Option String) :
      (∃ e, (after G uses).kept? key = some e ∧ e.version = version) ↔
        AtHand uses key version := by
    simp only [kept?_after]
    constructor
    · rintro ⟨e, ⟨atHand, -⟩, rfl⟩
      exact atHand
    · exact fun atHand => ⟨⟨version, G key version⟩, ⟨atHand, rfl⟩, rfl⟩
  refine ⟨fun version => ?_, ?_, sound.single, fun u other => ?_, ?_⟩
  · rw [← kept]
    exact answer_groups sound key version
  · simp only [← kept]
    rw [DerivedCache.contains, Assoc.contains, Option.isSome_iff_exists]
    simp [kept?]
  · rw [after_snoc]
    exact (agree_use_other sound u other).1
  · exact answers_filter uses (sound_after []) (sound_after []) ⟨rfl, rfl⟩

/-- A transaction clears once: what is built after its release survives its drop. -/
example : (answers (fun _ _ => ∅) {}
    [.start ⟨"c"⟩, .groups ⟨"c"⟩ none, .release ⟨"c"⟩ 0, .groups ⟨"c"⟩ none, .drop ⟨"c"⟩ 0,
      .groups ⟨"c"⟩ none]).map (·.2) =
    [.done, .groups ∅ true, .done, .groups ∅ true, .done, .groups ∅ false] := by decide

end DerivedCache

end Gradebook
