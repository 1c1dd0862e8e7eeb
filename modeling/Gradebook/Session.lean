/-
# Gradebook.Session — operations one after the other

A session is an engine in its surroundings, together with the contexts and batches
its user keeps. `step` carries out one operation; a run is a list of steps, and
statements about whole histories are statements about `run`.

A context kept by the user, or by a batch, is shared: what one operation loads into it
is there for the next (`resolveIn`, `consult`). `resolve` and `fork` work on a copy.
-/
import Gradebook.Engine.Batch
import Gradebook.World

namespace Gradebook

set_option autoImplicit false

/-- Where a context is kept. -/
inductive Holder where
  | context (n : Nat)
  /-- The snapshot of a batch. -/
  | batch (n : Nat)
  deriving DecidableEq, Repr

/-- What a user does. -/
inductive Step where
  | create (learner : Learner) (inputs : CourseInputs)
  | read (learner : Learner) (inputs : CourseInputs)
  | update (learner : Learner) (inputs : CourseInputs)
  /-- Build a context and keep it. -/
  | openContext (learner : Option LearnerId) (inputs : CourseInputs)
  /-- Resolve in a context kept before, which stays as it is. -/
  | resolve (context : Nat) (learner : Learner) (strategy : Strategy)
  /-- Resolve in a context kept before, which keeps what is loaded for it. -/
  | resolveIn (holder : Holder) (learner : Learner) (strategy : Strategy)
  /-- Keep the same snapshot for another learner. -/
  | fork (holder : Holder) (learner : LearnerId)
  /-- Look something up on a context kept before, which keeps what is loaded for it. -/
  | consult (holder : Holder) (q : Context.Query)
  /-- Start a batch and keep it. -/
  | startBatch (supply : Supply) (inputs : CourseInputs) (strategy : Strategy)
  | nextResult (batch : Nat)
  /-- Give up a batch. -/
  | closeBatch (batch : Nat)
  /-- Begin the care of a course's derived data without a batch. -/
  | beginTransaction (key : CourseKey)
  | release (transaction : Nat)
  | record (learner : LearnerId) (key : CourseKey) (block : BlockId) (score : Score)
  | define (d : CourseDefinition)
  /-- Let content come from elsewhere. -/
  | publish (source : ContentSource)
  /-- Let requests fail from now on, or no longer. -/
  | disturb (faults : Faults)
  | clear (key : CourseKey)
  /-- Let the clock show another time. -/
  | clock (now : Instant)

/-- What a user gets to see. -/
inductive Answer where
  | grade (outcome : Except Failure ResolvedGrade)
  | found (outcome : Except Failure (Option ResolvedGrade))
  /-- The number of the context, batch or transaction kept. -/
  | kept (outcome : Except Failure Nat)
  | result (r : Option GradeResult)
  | learned (outcome : Except Failure Context.Finding)
  /-- There is no such context, batch or transaction. -/
  | unknown
  | done

structure Session where
  engine : GradeEngine
  world : World
  contexts : List Context := []
  batches : List Batch := []
  transactions : List Transaction := []

namespace Session

/-- Carry out a dialogue in the surroundings of the session. -/
def carryOut {α : Type} (s : Session) (d : Dialogue α) : α × Session :=
  let (a, w) := s.world.run d
  (a, { s with world := w })

def openContext (s : Session) (learner : Option LearnerId) (i : CourseInputs) :
    Answer × Session :=
  match Context.ofInputs learner i with
  | .error e => (.kept (.error (.error e)), s)
  | .ok c => (.kept (.ok s.contexts.length), { s with contexts := s.contexts ++ [c] })

def resolve (s : Session) (context : Nat) (learner : Learner) (strategy : Strategy) :
    Answer × Session :=
  match s.contexts[context]? with
  | none => (.unknown, s)
  | some c =>
    let (outcome, s) := s.carryOut (s.engine.resolve learner c strategy)
    (.grade outcome, s)

def contextAt? (s : Session) : Holder → Option Context
  | .context n => s.contexts[n]?
  | .batch n => s.batches[n]?.map (·.context)

/-- Let the context kept there be this one from now on. -/
def putContext (s : Session) : Holder → Context → Session
  | .context n, c => { s with contexts := s.contexts.set n c }
  | .batch n, c => { s with batches := s.batches.modify n fun b => { b with context := c } }

/-- Carry out a lookup on a context kept before. -/
def lookUp {α : Type} (s : Session) (holder : Holder) (c : Context) (l : Lookup α) :
    Except Failure α × Session :=
  let ((outcome, c), s) := s.carryOut (l.dialogue c)
  (outcome, s.putContext holder c)

def resolveIn (s : Session) (holder : Holder) (learner : Learner) (strategy : Strategy) :
    Answer × Session :=
  match s.contextAt? holder with
  | none => (.unknown, s)
  | some c =>
    let (outcome, s) := s.lookUp holder c (s.engine.resolveHere learner strategy)
    (.grade outcome, s)

def fork (s : Session) (holder : Holder) (learner : LearnerId) : Answer × Session :=
  match s.contextAt? holder with
  | none => (.unknown, s)
  | some c => (.kept (.ok s.contexts.length),
      { s with contexts := s.contexts ++ [c.forLearner learner] })

def consult (s : Session) (holder : Holder) (q : Context.Query) : Answer × Session :=
  match s.contextAt? holder with
  | none => (.unknown, s)
  | some c =>
    let (outcome, s) := s.lookUp holder c (Context.consult q)
    (.learned outcome, s)

def startBatch (s : Session) (supply : Supply) (i : CourseInputs) (strategy : Strategy) :
    Answer × Session :=
  let (outcome, s) := s.carryOut (Batch.start supply i strategy)
  match outcome with
  | .error f => (.kept (.error f), s)
  | .ok b => (.kept (.ok s.batches.length), { s with batches := s.batches ++ [b] })

def nextResult (s : Session) (batch : Nat) : Answer × Session :=
  match s.batches[batch]? with
  | none => (.unknown, s)
  | some b =>
    let ((r, b), s) := s.carryOut (b.next s.engine)
    (.result r, { s with batches := s.batches.set batch b })

def closeBatch (s : Session) (batch : Nat) : Answer × Session :=
  match s.batches[batch]? with
  | none => (.unknown, s)
  | some b =>
    let (b, s) := s.carryOut b.close
    (.done, { s with batches := s.batches.set batch b })

def beginTransaction (s : Session) (key : CourseKey) : Answer × Session :=
  (.kept (.ok s.transactions.length), { s with transactions := s.transactions ++ [{ key }] })

def release (s : Session) (transaction : Nat) : Answer × Session :=
  match s.transactions[transaction]? with
  | none => (.unknown, s)
  | some t =>
    let (t, world) := s.world.release t
    (.done, { s with world, transactions := s.transactions.set transaction t })

/-- Carry out one step. -/
def step (s : Session) : Step → Answer × Session
  | .create learner i =>
    let (outcome, s) := s.carryOut (s.engine.create learner i)
    (.grade outcome, s)
  | .read learner i =>
    let (outcome, s) := s.carryOut (s.engine.read learner i)
    (.found outcome, s)
  | .update learner i =>
    let (outcome, s) := s.carryOut (s.engine.update learner i)
    (.grade outcome, s)
  | .openContext learner i => s.openContext learner i
  | .resolve context learner strategy => s.resolve context learner strategy
  | .resolveIn holder learner strategy => s.resolveIn holder learner strategy
  | .fork holder learner => s.fork holder learner
  | .consult holder q => s.consult holder q
  | .startBatch supply i strategy => s.startBatch supply i strategy
  | .nextResult batch => s.nextResult batch
  | .closeBatch batch => s.closeBatch batch
  | .beginTransaction key => s.beginTransaction key
  | .release transaction => s.release transaction
  | .record learner key block score =>
    (.done, { s with world := s.world.record learner key block score })
  | .define d => (.done, { s with world := { s.world with source := s.world.source.define d } })
  | .publish source => (.done, { s with world := { s.world with source } })
  | .disturb faults => (.done, { s with world := { s.world with faults } })
  | .clear key => (.done, { s with world := s.world.clear key })
  | .clock now => (.done, { s with world := { s.world with now } })

/-- Carry out steps in order. -/
def run (s : Session) : List Step → List Answer × Session
  | [] => ([], s)
  | step :: rest =>
    let (a, s) := s.step step
    let (answers, s) := run s rest
    (a :: answers, s)

end Session

end Gradebook
