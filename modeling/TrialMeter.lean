import TrialMeter.Group.Rehearsal
import TrialMeter.Main
import TrialMeter.Session.Operation
import TrialMeter.Proofs.Child.Reaping
import TrialMeter.Proofs.Child.Starting
import TrialMeter.Proofs.Child.Waiting
import TrialMeter.Proofs.Clock.Laps
import TrialMeter.Proofs.Command.Names
import TrialMeter.Proofs.Command.Reading
import TrialMeter.Proofs.Command.Rounds
import TrialMeter.Proofs.Counter.History
import TrialMeter.Proofs.Counter.Stored
import TrialMeter.Proofs.Counter.Window
import TrialMeter.Proofs.Decimal.Shortest
import TrialMeter.Proofs.Event.Attributes
import TrialMeter.Proofs.Group.Distinct
import TrialMeter.Proofs.Group.Driving
import TrialMeter.Proofs.Group.Forming
import TrialMeter.Proofs.Kernel.Answers
import TrialMeter.Proofs.Kernel.Course
import TrialMeter.Proofs.Kernel.Exact
import TrialMeter.Proofs.Kernel.Waiting
import TrialMeter.Proofs.Ownership.Counter
import TrialMeter.Proofs.Ownership.Ledger
import TrialMeter.Proofs.Ownership.Session
import TrialMeter.Proofs.Ownership.Trial
import TrialMeter.Proofs.Ratio.LowestTerms
import TrialMeter.Proofs.Record.Battery
import TrialMeter.Proofs.Record.Mean
import TrialMeter.Proofs.Record.Ranking
import TrialMeter.Proofs.Record.Reading
import TrialMeter.Proofs.Record.Telling
import TrialMeter.Proofs.Record.Visits
import TrialMeter.Proofs.Session.Conduct
import TrialMeter.Proofs.Text.Wording
import TrialMeter.Proofs.Text.Words
import TrialMeter.Proofs.Time.Distance
import TrialMeter.Proofs.Trace.Audit
import TrialMeter.Proofs.Trace.Calls
import TrialMeter.Proofs.Trace.Conduct
import TrialMeter.Proofs.Trace.Footprint
import TrialMeter.Proofs.Trial.Counting
import TrialMeter.Proofs.Trial.External
import TrialMeter.Proofs.Trial.InProcess
import TrialMeter.Proofs.Trial.Opening
import TrialMeter.Proofs.Trial.Phases
import TrialMeter.Proofs.Trial.Timing
import TrialMeter.Proofs.Trial.WallTime
