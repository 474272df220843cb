import Unloop.Journal.Edit
import Unloop.Main
import Unloop.Proofs.Command.Notes
import Unloop.Proofs.Journal.Commitment
import Unloop.Proofs.Journal.Selection
import Unloop.Proofs.Report.Order
import Unloop.Proofs.Report.Repairs
import Unloop.Proofs.Machine.Cycles
import Unloop.Proofs.Repair.Order
import Unloop.Proofs.Repair.Soundness
import Unloop.Proofs.Instruction.Line
import Unloop.Proofs.Program.Listing
import Unloop.Proofs.Repair.Failures
import Unloop.Proofs.Files.Values
import Unloop.Proofs.Machine.Words
import Unloop.Proofs.Repair.Costs
import Unloop.Proofs.Repair.Addends
import Unloop.Proofs.Repair.Codes
import Unloop.Proofs.Number.Size
import Unloop.Proofs.Command.Steps
import Unloop.Proofs.Program.Refusals
import Unloop.Proofs.Command.Timings
import Unloop.Proofs.Command.Sessions
import Unloop.Proofs.Command.Results
import Unloop.Proofs.Command.Journals
import Unloop.Proofs.Command.Outcomes
import Unloop.Proofs.Command.Codes
import Unloop.Proofs.Journal.Verdict
import Unloop.Proofs.Journal.Edits
import Unloop.Proofs.Journal.Continuation
import Unloop.Proofs.Journal.Runs
import Unloop.Proofs.Journal.Results
import Unloop.Proofs.Machine.Trace
import Unloop.Proofs.Program.Texts
import Unloop.Proofs.Repair.Statistics
import Unloop.Proofs.Journal.Stored
import Unloop.Proofs.Machine.Visits
import Unloop.Proofs.Program.Joined
import Unloop.Proofs.Repair.Events
import Unloop.Proofs.Machine.Agreement
import Unloop.Proofs.Command.Comparisons
import Unloop.Proofs.Settings.Fields
import Unloop.Proofs.Settings.Resolution
