import ScriptSearch.Text.Split
import ScriptSearch.Template
import ScriptSearch.SearchPath
import ScriptSearch.Style
import ScriptSearch.Options
import ScriptSearch.CommandLine
import ScriptSearch.Command
import ScriptSearch.World
import ScriptSearch.Resolution
import ScriptSearch.Notice
import ScriptSearch.Traced
import ScriptSearch.Reading
import ScriptSearch.Searcher
import ScriptSearch.Resolver
import ScriptSearch.Configuration
import ScriptSearch.Loader
import ScriptSearch.Dispatch
import ScriptSearch.Program
import ScriptSearch.Candidates
import ScriptSearch.Operation
import ScriptSearch.Proofs.Trace
import ScriptSearch.Proofs.Messages
import ScriptSearch.Proofs.Loading
import ScriptSearch.Proofs.Search.FirstMatch
import ScriptSearch.Proofs.Search.Chain
import ScriptSearch.Proofs.Search.Resolution
import ScriptSearch.Proofs.Dispatch
import ScriptSearch.Proofs.Search.Presence
import ScriptSearch.Proofs.CommandLine.Grammar
import ScriptSearch.Proofs.CommandLine.Reading
import ScriptSearch.Proofs.CommandLine.Rearrangement
import ScriptSearch.Proofs.Text.Split
import ScriptSearch.Proofs.Text.Pieces
import ScriptSearch.Proofs.Report
import ScriptSearch.Proofs.Search.Directories
import ScriptSearch.Proofs.Template
import ScriptSearch.Proofs.Template.Slot
import ScriptSearch.Proofs.Template.Position
import ScriptSearch.Proofs.SearchPath
import ScriptSearch.Proofs.Configuration
import ScriptSearch.Proofs.SearchPath.ListForm
import ScriptSearch.Proofs.SearchPath.Elements
import ScriptSearch.Proofs.Template.Equality
import ScriptSearch.Proofs.Configuration.Exits
import ScriptSearch.Proofs.Configuration.Repeated
import ScriptSearch.Proofs.Configuration.Variables
import ScriptSearch.Proofs.History
import ScriptSearch.Proofs.History.Templates
import ScriptSearch.Proofs.Program.Stages
import ScriptSearch.Proofs.Program.Locate
import ScriptSearch.Proofs.Program.Candidates
import ScriptSearch.Proofs.Program.Complaints
import ScriptSearch.Proofs.Program.Presentation
import ScriptSearch.Proofs.Program.Forwarding
import ScriptSearch.Proofs.Program.Printing
import ScriptSearch.Proofs.Program.Precedence
import ScriptSearch.Proofs.Program.Extension
import ScriptSearch.Proofs.Program.Environment
import ScriptSearch.Session
import ScriptSearch.Main
