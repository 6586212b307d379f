import CrashReport.Console.World
import CrashReport.Main
import CrashReport.Proofs.Investigation.Outcome
import CrashReport.Proofs.Investigation.Stacks
import CrashReport.Proofs.QmlStack.Printed
import CrashReport.Session.Builder
import CrashReport.Session.Outage
import CrashReport.Proofs.Session.Symbols
import CrashReport.Proofs.Session.Unwinding
import CrashReport.Proofs.Session.Search
import CrashReport.Proofs.Investigation.Loads
import CrashReport.Proofs.Investigation.Reported
import CrashReport.Proofs.Investigation.Tiers
import CrashReport.Proofs.Investigation.Again
import CrashReport.Proofs.Region
import CrashReport.Proofs.Report.Images
import CrashReport.Proofs.Investigation.Order
import CrashReport.Proofs.Investigation.Keeping
import CrashReport.Proofs.Investigation.Selection
import CrashReport.Proofs.Debugger.Following
import CrashReport.Proofs.Investigation.Following
import CrashReport.Proofs.Investigation.Refusal
import CrashReport.Proofs.Session.Lapses
import CrashReport.Proofs.Investigation.Lapses
import CrashReport.Proofs.Session.Guards
import CrashReport.Proofs.Session.Accounts
import CrashReport.Proofs.Report.Threads
import CrashReport.Proofs.Investigation.FileNames
import CrashReport.Proofs.Session.Coherence
import CrashReport.Proofs.Session.Stacks
import CrashReport.Proofs.Session.Engines
import CrashReport.Proofs.Console.FileTree
import CrashReport.Proofs.Console.Replacing
import CrashReport.Proofs.Console.Outcome
import CrashReport.Proofs.Sequence.Places
import CrashReport.Proofs.Session.Positions
import CrashReport.Proofs.Debugger.Rounds
import CrashReport.Proofs.Session.Depth
import CrashReport.Proofs.Text.Lines
import CrashReport.Proofs.Text.Hex
import CrashReport.Proofs.Text.Columns
import CrashReport.Proofs.Region.Segments
import CrashReport.Proofs.Image.Order
import CrashReport.Proofs.Listing.Records
import CrashReport.Proofs.Image.Lookup
import CrashReport.Proofs.MachineInterface.Stopping
import CrashReport.Proofs.Blocking.Unwinding
import CrashReport.Proofs.Investigation.Captured
import CrashReport.Proofs.BuildId
