import Inlay.Main
import Inlay.Probe
import Inlay.Proofs.CallDepth
import Inlay.Proofs.ClosureIdentity
import Inlay.Proofs.Concatenation
import Inlay.Proofs.DistinctNames
import Inlay.Proofs.Division
import Inlay.Proofs.EarliestErrors
import Inlay.Proofs.EntryLists
import Inlay.Proofs.ExactOrder
import Inlay.Proofs.Excerpts
import Inlay.Proofs.FormatFields
import Inlay.Proofs.HostComparison
import Inlay.Proofs.HostKeys
import Inlay.Proofs.IntegerReading
import Inlay.Proofs.IntegerResults
import Inlay.Proofs.LastBinding
import Inlay.Proofs.LoadFaults
import Inlay.Proofs.Lockstep
import Inlay.Proofs.LongestTokens
import Inlay.Proofs.MemberAccess
import Inlay.Proofs.Noninterference
import Inlay.Proofs.Pieces
import Inlay.Proofs.Registrations
import Inlay.Proofs.RenderCommand
import Inlay.Proofs.ScopeViews
import Inlay.Proofs.Scoping
import Inlay.Proofs.SettingPriority
import Inlay.Proofs.SettingVariables
import Inlay.Proofs.Spacing
import Inlay.Proofs.Termination
import Inlay.Proofs.TypeShapes
import Inlay.Proofs.WellFormedValues
import Inlay.Session
