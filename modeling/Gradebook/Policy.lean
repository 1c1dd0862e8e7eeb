/-
# Gradebook.Policy — how scores become a percent and a letter

A policy lists assignment types with their weights and, for every letter, the
fraction it takes. `validate` accepts a policy whose weights and cutoffs are
fractions, whose counts are moderate and whose weights sum to one at most, with
a small allowance for rounding (`tolerance`). The same allowance lets a fraction
meet a cutoff it misses by rounding only.

`letterFor?` names the letter with the greatest cutoff met; of letters with the
very same cutoff it is the last in key order.
-/
import Gradebook.Dictionary
import Gradebook.Decimal.Double
import Gradebook.Decimal.Layout

namespace Gradebook

set_option autoImplicit false

/-- One weighted category of graded work. -/
structure AssignmentType where
  /-- The block format this category collects. -/
  kind : String
  shortLabel : String
  /-- The fraction of the course grade it contributes. -/
  weight : Double
  /-- The assignments expected; missing ones count as zero. -/
  minCount : UInt64
  /-- How many of the lowest scores are left out. -/
  dropCount : UInt64
  deriving DecidableEq, Repr

/-- Assignment types in order, and the cutoff of each letter. -/
structure GradingPolicy where
  graders : List AssignmentType
  cutoffs : Dictionary Double
  deriving DecidableEq, Repr

instance : EmptyCollection GradingPolicy := ⟨⟨[], ∅⟩⟩

instance : Inhabited GradingPolicy := ⟨∅⟩

/-- Why a policy is refused. -/
inductive PolicyError where
  | emptyType
  | weightOutside (kind : String) (weight : Float)
  | countsExceed (kind : String)
  | weightsAbove (total : Float)
  | cutoffOutside (letter : String) (cutoff : Float)

namespace GradingPolicy

/-- The largest count one assignment type may ask for. -/
def maxAssignments : UInt64 := 1000

/-- What rounding may add to a sum of weights or take from a fraction. -/
def tolerance : Float := 1e-9

/-- Between zero and one, both included; NaN is not. -/
def isFraction (x : Float) : Bool := 0.0 ≤ x && x ≤ 1.0

def checkGrader (g : AssignmentType) : Except PolicyError Unit :=
  if g.kind.isEmpty then .error .emptyType
  else if !isFraction g.weight.value then .error (.weightOutside g.kind g.weight.value)
  else if maxAssignments < g.minCount ∨ maxAssignments < g.dropCount then
    .error (.countsExceed g.kind)
  else .ok ()

/-- The sum of the weights, in order from `total`, if every grader is valid. -/
def sumWeights (total : Float) : List AssignmentType → Except PolicyError Float
  | [] => .ok total
  | g :: rest => match checkGrader g with
    | .ok () => sumWeights (total + g.weight.value) rest
    | .error e => .error e

def checkCutoffs : List (String × Double) → Except PolicyError Unit
  | [] => .ok ()
  | (letter, cutoff) :: rest =>
    if isFraction cutoff.value then checkCutoffs rest
    else .error (.cutoffOutside letter cutoff.value)

/-- The first fault in order: the assignment types one by one, the sum of their
weights, the cutoffs by letter. -/
def validate (p : GradingPolicy) : Except PolicyError Unit :=
  match sumWeights 0.0 p.graders with
  | .error e => .error e
  | .ok total =>
    if total > 1.0 + tolerance then .error (.weightsAbove total)
    else checkCutoffs p.cutoffs.entries

/-- Whether a fraction meets a cutoff. -/
def meets (fraction : Float) (cutoff : Double) : Bool := cutoff.value ≤ fraction + tolerance

/-- The later of two entries unless its cutoff is smaller. -/
def better (best : Option (String × Double)) (entry : String × Double) :
    Option (String × Double) :=
  match best with
  | none => some entry
  | some best => if Double.atMost best.2 entry.2 then some entry else some best

/-- The entry with the greatest cutoff among those met. -/
def bestMet? (p : GradingPolicy) (fraction : Float) : Option (String × Double) :=
  (p.cutoffs.entries.filter fun e => meets fraction e.2).foldl better none

/-- The letter a fraction earns. -/
def letterFor? (p : GradingPolicy) (fraction : Float) : Option String :=
  (p.bestMet? fraction).map (·.1)

end GradingPolicy

end Gradebook
