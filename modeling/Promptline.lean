import Promptline.Number.Reading
import Promptline.Number.Writing
import Promptline.Console.Printing
import Promptline.Style.Content
import Promptline.Directory.Change
import Promptline.Branch
import Promptline.History.LineHistory
import Promptline.Console.Command
import Promptline.Console.Completion
import Promptline.Workspace
import Promptline.Store.Location
import Promptline.Engine.Manual
import Promptline.Shell.Transcript
import Promptline.CommandLine.StartUp
import Promptline.Main
import Promptline.Markup.Literal.Misspelling
import Promptline.Markup.Literal.Token
import Promptline.Markup.Literal.Reading
import Promptline.Text.CharacterName
import Promptline.Text.Identifier
import Promptline.Proofs.Engine.Stream
import Promptline.Proofs.Engine.Freshness
import Promptline.Proofs.Engine.Closing
import Promptline.Proofs.Engine.Coalescing
import Promptline.Proofs.Engine.Gating
import Promptline.Proofs.Engine.Recovery
import Promptline.Proofs.Engine.Handover
import Promptline.Proofs.Shell.Display
import Promptline.Proofs.Shell.Phases
import Promptline.Proofs.Shell.Whereabouts
import Promptline.Proofs.Store.Order
import Promptline.Proofs.Store.Calls
import Promptline.Proofs.Store.Mirror
import Promptline.Proofs.History.Sharing
import Promptline.Proofs.History.Cursor
import Promptline.Proofs.History.Order
import Promptline.Proofs.History.Durability
import Promptline.Proofs.History.Operations
import Promptline.Proofs.History.Interchange
import Promptline.Proofs.History.Snapshot
import Promptline.Proofs.History.Agreement
import Promptline.Proofs.Store.Event
import Promptline.Proofs.Store.Fault
import Promptline.Proofs.History.Failure
import Promptline.Proofs.Store.Numbering
import Promptline.Proofs.Console.Answer
import Promptline.Proofs.Shell.Incidents
import Promptline.Proofs.Shell.Recall
import Promptline.Proofs.Shell.Reports
import Promptline.Proofs.Text.Lowering
import Promptline.Proofs.Text.Words
import Promptline.Proofs.Console.Templates
import Promptline.Proofs.Console.Listing
import Promptline.Proofs.Console.Matches
import Promptline.Proofs.Shell.Dispatch
import Promptline.Proofs.Shell.Endings
import Promptline.Proofs.Shell.Release
import Promptline.Proofs.History.Position
import Promptline.Proofs.Directory.Normal
import Promptline.Proofs.Directory.Abbreviation
import Promptline.Proofs.History.Backing
import Promptline.Proofs.Shell.Sync
import Promptline.Proofs.Markup.Verbatim
import Promptline.Proofs.CommandLine.Refusal
import Promptline.Proofs.Style.Translation
import Promptline.Proofs.Style.Spans
import Promptline.Proofs.Style.Staleness
import Promptline.Proofs.Console.Assignment
import Promptline.Proofs.Console.Threshold
import Promptline.Proofs.Console.Narrowing
