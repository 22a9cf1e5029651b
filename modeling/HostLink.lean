import HostLink.KeyOrder
import HostLink.OrderedMap
import HostLink.Text.Pieces
import HostLink.Text.Blank
import HostLink.Action
import HostLink.Path
import HostLink.Path.Absolute
import HostLink.FileTree
import HostLink.Glob.Pattern
import HostLink.Glob.Expansion
import HostLink.Diagnostic
import HostLink.Misconfiguration
import HostLink.Release
import HostLink.Build
import HostLink.Build.Compact
import HostLink.Feature
import HostLink.Profile
import HostLink.LinkLine
import HostLink.Text.Digit
import HostLink.Text.Utf8
import HostLink.Sundials
import HostLink.Relocation.Boost
import HostLink.Relocation
import HostLink.Host
import HostLink.Resolution.Context
import HostLink.Resolution.Petsc
import HostLink.Resolution.Dealii
import HostLink.Text.Shown
import HostLink.Text.Case
import HostLink.Text.Quoted
import HostLink.Machine
import HostLink.Machine.BuiltIn
import HostLink.HostIdentity
import HostLink.ToolPath
import HostLink.Toml.Value
import HostLink.Toml.Lexical
import HostLink.Toml.Text
import HostLink.Toml.Number
import HostLink.Toml.Outline
import HostLink.Toml.Reader
import HostLink.Toml.Writer
import HostLink.Toml.Decoding
import HostLink.Profile.Document
import HostLink.Failure
import HostLink.Machine.Description
import HostLink.Configuration
import HostLink.Machine.Catalogue
import HostLink.Settings
import HostLink.Project
import HostLink.CommandLine.Reading
import HostLink.Report.Json
import HostLink.CommandLine
import HostLink.Report
import HostLink.Program
import HostLink.Program.Places
import HostLink.Main
import HostLink.Proofs.Action
import HostLink.Proofs.OrderedMap
import HostLink.Proofs.Text.Pieces
import HostLink.Proofs.Build.Grammar
import HostLink.Proofs.Build.RoundTrip
import HostLink.Proofs.Relocation.Failure
import HostLink.Proofs.Configuration.Independence
import HostLink.Proofs.Path
import HostLink.Proofs.FileTree
import HostLink.Proofs.Resolution.Petsc
import HostLink.Proofs.Resolution.Dealii
import HostLink.Proofs.Resolution.Outcome
import HostLink.Proofs.Resolution.Growth
import HostLink.Proofs.Resolution.Decision
import HostLink.Proofs.Relocation.Effect
import HostLink.Proofs.Relocation.Run
import HostLink.Proofs.Relocation.Supersession
import HostLink.Proofs.Relocation.Interference
import HostLink.Proofs.Machine.Versions
import HostLink.Proofs.Configuration.Run
import HostLink.Proofs.Configuration.LinkOrder
import HostLink.Proofs.Configuration.Preferences
import HostLink.Proofs.Glob.Literal
import HostLink.Proofs.Machine.Listing
import HostLink.Proofs.Machine.Selection
import HostLink.Proofs.Path.Absolute
import HostLink.Proofs.Relocation.Frame
import HostLink.Proofs.Machine.Places
import HostLink.Proofs.Configuration.Stages
import HostLink.Proofs.Configuration.Cvode
import HostLink.Proofs.Configuration.SearchPaths
import HostLink.Proofs.Action.Kept
import HostLink.Proofs.Configuration.Failure
import HostLink.Proofs.Machine.Precedence
import HostLink.Proofs.Text.Utf8
import HostLink.Proofs.Text.Digit
import HostLink.Proofs.Sundials.Header
import HostLink.Proofs.Glob.Escaped
import HostLink.Proofs.Glob.Walk
import HostLink.Proofs.Glob.Stem
import HostLink.Proofs.Relocation.BoostLibrary
import HostLink.Proofs.Relocation.BoostVersion
import HostLink.Proofs.Relocation.LinkNames
import HostLink.Proofs.Path.Place
import HostLink.Proofs.FileTree.Removal
import HostLink.Proofs.Glob.Containment
import HostLink.Proofs.Path.Settled
import HostLink.Proofs.Resolution.Flavours
import HostLink.Proofs.Resolution.HeadersOnly
import HostLink.Proofs.Resolution.DealiiLine
import HostLink.Proofs.Configuration.Tools
import HostLink.Proofs.Machine.Requests
import HostLink.Proofs.Path.Parent
import HostLink.Proofs.Project.Request
import HostLink.Proofs.Project.Word
import HostLink.Proofs.Settings
import HostLink.Proofs.Project.Layers
import HostLink.Proofs.Resolution.Chain
import HostLink.Proofs.Toml.Number
import HostLink.Proofs.Toml.Text
import HostLink.Proofs.Toml.Value
import HostLink.Proofs.Toml.Document
import HostLink.Proofs.Profile.Document
