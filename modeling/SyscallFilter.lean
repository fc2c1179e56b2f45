import SyscallFilter.Main
import SyscallFilter.Proofs.Dispatch
import SyscallFilter.Proofs.NumberSet
import SyscallFilter.Proofs.Clause
import SyscallFilter.Proofs.Rejection
import SyscallFilter.Proofs.Text
import SyscallFilter.Proofs.Table
import SyscallFilter.Proofs.Selector
import SyscallFilter.Proofs.CallSpec
import SyscallFilter.Proofs.Flags
import SyscallFilter.Proofs.Action
import SyscallFilter.Proofs.Registry
import SyscallFilter.Proofs.Run
import SyscallFilter.Proofs.Finish
import SyscallFilter.Proofs.Filter
import SyscallFilter.Proofs.Decisions
import SyscallFilter.Proofs.Name
import SyscallFilter.Proofs.Injection
import SyscallFilter.Proofs.Request
import SyscallFilter.Proofs.Completion
import SyscallFilter.Proofs.Firing
import SyscallFilter.Proofs.Reordering
import SyscallFilter.Proofs.Agreement
import SyscallFilter.Proofs.Interleaving
import SyscallFilter.Proofs.CommandLine
import SyscallFilter.Proofs.CheckedReading
import SyscallFilter.Proofs.CheckedRun
import SyscallFilter.Proofs.NumberSpec
import SyscallFilter.Proofs.Selection
import SyscallFilter.Proofs.Negation
import SyscallFilter.Proofs.Alignment
import SyscallFilter.Proofs.Joining
import SyscallFilter.Proofs.ClauseText
import SyscallFilter.Proofs.BareClause
import SyscallFilter.Proofs.InjectionText
import SyscallFilter.Proofs.Signals
import SyscallFilter.Proofs.Narrowing
import SyscallFilter.Proofs.CatchAll
import SyscallFilter.Proofs.Condition
import SyscallFilter.Proofs.NumberText
import SyscallFilter.Proofs.SetHistory
import SyscallFilter.Proofs.ConditionText
import SyscallFilter.Proofs.Repetition
import SyscallFilter.Proofs.TableBounds
import SyscallFilter.Proofs.Modes
import SyscallFilter.Proofs.Occurrence
import SyscallFilter.Proofs.Decimal
import SyscallFilter.Proofs.PathSpelling
import SyscallFilter.Proofs.PathSelection
import SyscallFilter.Proofs.Resolution
