import ScreenBinding.Main
import ScreenBinding.Proofs.BoundSession
import ScreenBinding.Proofs.SubmissionOutcomes
import ScreenBinding.Proofs.SavedFields
import ScreenBinding.Proofs.SharedKey
import ScreenBinding.Proofs.CallOverlap
import ScreenBinding.Proofs.Confirmations
import ScreenBinding.Proofs.LastCalls
import ScreenBinding.Proofs.WaitingCallers
import ScreenBinding.Proofs.ModeSwitches
import ScreenBinding.Proofs.LiveTasks
import ScreenBinding.Proofs.Requirements
import ScreenBinding.Proofs.Expectations
import ScreenBinding.Proofs.Snapshots
import ScreenBinding.Proofs.CoolDowns
import ScreenBinding.Proofs.DirectiveText
import ScreenBinding.Proofs.FieldRoundTrip
import ScreenBinding.Proofs.Merging
import ScreenBinding.Proofs.WiringOrder
import ScreenBinding.Proofs.Insertions
import ScreenBinding.Proofs.FormRoundTrip
import ScreenBinding.Proofs.AddressGrammar
import ScreenBinding.Proofs.FieldChecks
import ScreenBinding.Proofs.PartialLoads
import ScreenBinding.Proofs.ViewScreens
import ScreenBinding.Proofs.RuleTexts
import ScreenBinding.Proofs.ListReadings
import ScreenBinding.Proofs.InertConnections
import ScreenBinding.Proofs.PollRounds
import ScreenBinding.Proofs.Differences
import ScreenBinding.Proofs.FieldNames
import ScreenBinding.Proofs.DistinctSources
