import Gradebook.Main
import Gradebook.Proofs.BatchElements
import Gradebook.Proofs.BatchSnapshot
import Gradebook.Proofs.LearnerView
import Gradebook.Proofs.Freshness
import Gradebook.Proofs.ServedBack
import Gradebook.Proofs.StateMachine
import Gradebook.Proofs.Failing
import Gradebook.Proofs.BatchSingles
import Gradebook.Proofs.Noninterference
import Gradebook.Proofs.Announcing
import Gradebook.Proofs.RowHistory
import Gradebook.Proofs.Racing
import Gradebook.Proofs.Stamping
import Gradebook.Proofs.RowRefinement
import Gradebook.Proofs.ScoreKeys
import Gradebook.Proofs.Lockout
import Gradebook.Proofs.PolicyBytes
import Gradebook.Proofs.DerivedData
import Gradebook.Proofs.Loading
import Gradebook.Proofs.Snapshots
import Gradebook.Proofs.AcceptedScores
import Gradebook.Proofs.Teardown
import Gradebook.Proofs.Unkept
import Gradebook.Proofs.CatalogKeys
import Gradebook.Proofs.Deadlines
import Gradebook.Proofs.Rounding
import Gradebook.Proofs.Doubles
import Gradebook.Proofs.DoubleArithmetic
import Gradebook.Proofs.TotalOrder
import Gradebook.Proofs.Averages
import Gradebook.Proofs.ReadScores
import Gradebook.Proofs.PercentRange
import Gradebook.Proofs.CutoffLetters
import Gradebook.Proofs.BetterScores
import Gradebook.Proofs.DroppedScores
import Gradebook.Proofs.EqualPolicies
import Gradebook.Proofs.Engagement
import Gradebook.Proofs.BlockOrder
import Gradebook.Proofs.InputForms
import Gradebook.Proofs.Dispatching
import Gradebook.Proofs.SettingsSources
import Gradebook.Proofs.PureReads
import Gradebook.Proofs.WalkOrder
