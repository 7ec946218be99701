import ValueEngine.Execution.Local
import ValueEngine.Failure.Merge
import ValueEngine.Failure.Report
import ValueEngine.Plan.Outline
import ValueEngine.Sizing.Reading
import ValueEngine.Statistics.Notice
import ValueEngine.Statistics.Waterfall
import ValueEngine.Supply.Calls
import ValueEngine.Proofs.Execution.Evaluation
import ValueEngine.Proofs.Supply.History
import ValueEngine.Proofs.Execution.Cone
import ValueEngine.Proofs.Execution.Mishaps
import ValueEngine.Proofs.Execution.Settlement
import ValueEngine.Proofs.Execution.Containment
import ValueEngine.Proofs.Supply.Detached
import ValueEngine.Proofs.Supply.Course
import ValueEngine.Proofs.Supply.References
import ValueEngine.Proofs.Supply.Attachments
import ValueEngine.Proofs.Failure.Trails
import ValueEngine.Proofs.Supply.Evolution
import ValueEngine.Proofs.Supply.Findings
import ValueEngine.Proofs.Supply.Registry
import ValueEngine.Proofs.Fragment.Timing
import ValueEngine.Proofs.Fragment.Running
import ValueEngine.Proofs.Plan.Concurrency
import ValueEngine.Arena.Build
import ValueEngine.Proofs.Plan.Leftovers
import ValueEngine.Proofs.Plan.Extent
import ValueEngine.Proofs.Fragment.Tails
import ValueEngine.Proofs.Plan.Colours
import ValueEngine.Proofs.Supply.Received
import ValueEngine.Proofs.Supply.Wakeups
import ValueEngine.Proofs.Failure.Absorption
import ValueEngine.Proofs.Supply.Subjects
import ValueEngine.Proofs.Supply.Violations
import ValueEngine.Proofs.Supply.Refusals
import ValueEngine.Proofs.Supply.Departures
import ValueEngine.Proofs.Failure.Repetition
import ValueEngine.Proofs.Execution.Inputs
import ValueEngine.Proofs.Plan.Outline
import ValueEngine.Proofs.Execution.Statistics
import ValueEngine.Proofs.Failure.Printing
