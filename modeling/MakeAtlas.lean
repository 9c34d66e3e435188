import MakeAtlas.CommandLine.Machine
import MakeAtlas.CommandLine.Option
import MakeAtlas.CommandLine.ProjectTable
import MakeAtlas.CommandLine.Request
import MakeAtlas.CommandLine.Run
import MakeAtlas.CommandLine.Show
import MakeAtlas.Distinct
import MakeAtlas.Evidence.Lexical
import MakeAtlas.Evidence.Listing
import MakeAtlas.Evidence.Makefile
import MakeAtlas.Evidence.Reference
import MakeAtlas.Evidence.Scanner
import MakeAtlas.Evidence.Strategy
import MakeAtlas.Extension
import MakeAtlas.Graph.Basic
import MakeAtlas.Graph.Cycle
import MakeAtlas.Graph.Export
import MakeAtlas.Inference.Dependencies
import MakeAtlas.Inference.Nodes
import MakeAtlas.Inference.Registry
import MakeAtlas.Inference.Scan
import MakeAtlas.Main
import MakeAtlas.Makefile.Flag
import MakeAtlas.Makefile.Rule
import MakeAtlas.Markup.Basic
import MakeAtlas.Markup.Color
import MakeAtlas.Markup.Emoji
import MakeAtlas.Markup.EmojiNames
import MakeAtlas.Markup.Style
import MakeAtlas.Markup.Table
import MakeAtlas.Path.Basic
import MakeAtlas.Project.Assembly
import MakeAtlas.Project.Dependency
import MakeAtlas.Project.Name
import MakeAtlas.Project.Node
import MakeAtlas.Project.Task
import MakeAtlas.Record.Fault
import MakeAtlas.Record.Number
import MakeAtlas.Record.Reading
import MakeAtlas.Resolution.Basic
import MakeAtlas.Resolution.Owner
import MakeAtlas.Settings.Basic
import MakeAtlas.Settings.Source
import MakeAtlas.Source.Depfile
import MakeAtlas.Source.Include
import MakeAtlas.Source.Scrub
import MakeAtlas.Table
import MakeAtlas.Text.Blank
import MakeAtlas.Text.Case
import MakeAtlas.Text.Digits
import MakeAtlas.Text.Glob
import MakeAtlas.Text.Hex
import MakeAtlas.Text.Lines
import MakeAtlas.Text.Printable
import MakeAtlas.Text.Quoted
import MakeAtlas.Text.Utf8
import MakeAtlas.Toolchain.Choice
import MakeAtlas.Toolchain.Mode
import MakeAtlas.Toolchain.Reply
import MakeAtlas.Value.Basic
import MakeAtlas.Value.Decimal
import MakeAtlas.Value.Document
import MakeAtlas.Value.Json.Printer
import MakeAtlas.Value.Json.Reader
import MakeAtlas.Value.Toml.Reader
import MakeAtlas.Value.Toml.Scalar
import MakeAtlas.Value.Toml.Text
import MakeAtlas.Value.Toml.Tree
import MakeAtlas.Workspace.Contents
import MakeAtlas.Workspace.Discovery
import MakeAtlas.Workspace.Disk
import MakeAtlas.Workspace.Ignore
import MakeAtlas.Workspace.Walk
import MakeAtlas.Workspace.Writing
import MakeAtlas.Proofs.DistinctBlocks
import MakeAtlas.Proofs.Evidence.References
import MakeAtlas.Proofs.Inference.Blocks
import MakeAtlas.Proofs.Inference.FirstEvidence
import MakeAtlas.Proofs.Inference.Incremental
import MakeAtlas.Proofs.Inference.OwnFiles
import MakeAtlas.Proofs.Graph.Changes
import MakeAtlas.Proofs.Graph.Listing
import MakeAtlas.Proofs.Graph.Network
import MakeAtlas.Proofs.Graph.Rebuild
import MakeAtlas.Proofs.Graph.Validity
import MakeAtlas.Proofs.Path.Normal
import MakeAtlas.Proofs.Path.Segments
import MakeAtlas.Proofs.Graph.RoundTrip
import MakeAtlas.Proofs.Project.Records
import MakeAtlas.Proofs.Record.Parts
import MakeAtlas.Proofs.Resolution.ClimbingPaths
import MakeAtlas.Proofs.Workspace.Places
import MakeAtlas.Proofs.Workspace.ProjectFolder
import MakeAtlas.Proofs.Workspace.SameFiles
import MakeAtlas.Proofs.Path.Names
import MakeAtlas.Proofs.Workspace.Discovered
import MakeAtlas.Proofs.Workspace.Walking
import MakeAtlas.Proofs.Inference.FileOwners
import MakeAtlas.Proofs.Inference.IncludeFrames
import MakeAtlas.Proofs.Evidence.Origins
import MakeAtlas.Proofs.Inference.OwnEvidence
import MakeAtlas.Proofs.Graph.CycleSearch
import MakeAtlas.Proofs.Graph.ElementaryCycles
import MakeAtlas.Proofs.CommandLine.CycleReport
import MakeAtlas.Proofs.Inference.ProjectOrder
import MakeAtlas.Proofs.Workspace.MakefileSearch
import MakeAtlas.Proofs.Project.Naming
import MakeAtlas.Proofs.Inference.NamedProjects
import MakeAtlas.Proofs.Inference.ComparedRuns
import MakeAtlas.Proofs.Inference.FileLimit
import MakeAtlas.Proofs.Project.AssembledTasks
import MakeAtlas.Proofs.Workspace.PosixTree
import MakeAtlas.Proofs.Inference.ReportedPaths
import MakeAtlas.Proofs.Path.BelowRoots
import MakeAtlas.Proofs.Evidence.Exhaustive
import MakeAtlas.Proofs.Inference.ExhaustiveSearch
import MakeAtlas.Proofs.Inference.FailingStrategies
import MakeAtlas.Proofs.Settings.Parts
import MakeAtlas.Proofs.Settings.Changes
import MakeAtlas.Proofs.Text.Encoded
import MakeAtlas.Proofs.Value.DocumentStart
import MakeAtlas.Proofs.Workspace.ShortPaths
import MakeAtlas.Proofs.Workspace.Trails
import MakeAtlas.Proofs.Settings.Formats
import MakeAtlas.Proofs.Workspace.Written
import MakeAtlas.Proofs.CommandLine.GivenValues
import MakeAtlas.Proofs.CommandLine.Outcome
import MakeAtlas.Proofs.Source.Lexemes
import MakeAtlas.Proofs.Source.Reported
import MakeAtlas.Proofs.Source.LineNumbers
import MakeAtlas.Proofs.Source.Outside
import MakeAtlas.Proofs.Source.Printed
import MakeAtlas.Proofs.Source.PrintedIncludes
import MakeAtlas.Proofs.Value.JsonText
import MakeAtlas.Proofs.Settings.InlineJson
import MakeAtlas.Proofs.Source.ListingsReadBack
import MakeAtlas.Proofs.Source.BareTexts
import MakeAtlas.Proofs.Source.LineEnds
import MakeAtlas.Proofs.Source.LineByLine
import MakeAtlas.Proofs.TableUpdates
import MakeAtlas.Proofs.Text.JoinedLines
import MakeAtlas.Proofs.Makefile.Targets
import MakeAtlas.Proofs.Makefile.PrintedTargets
import MakeAtlas.Proofs.ListSplits
import MakeAtlas.Proofs.Workers
import MakeAtlas.Proofs.Path.StraightPaths
import MakeAtlas.Proofs.Evidence.ListedHeaders
import MakeAtlas.Proofs.Makefile.Rules
import MakeAtlas.Proofs.Text.LinePlaces
import MakeAtlas.Proofs.Makefile.Flags
import MakeAtlas.Proofs.Makefile.EvidenceLines
import MakeAtlas.Proofs.Makefile.PrintedFlags
import MakeAtlas.Proofs.Resolution.OutsidePaths
import MakeAtlas.Proofs.Path.DownPaths
import MakeAtlas.Proofs.Resolution.InsidePaths
import MakeAtlas.Proofs.Graph.EvidencePlaces
import MakeAtlas.Proofs.Project.PrefixedTasks
import MakeAtlas.Proofs.Project.MarkedDependencies
import MakeAtlas.Proofs.Path.EarlyNormalForms
import MakeAtlas.Proofs.Workspace.WalkOrder
import MakeAtlas.Proofs.Workspace.OtherContents
import MakeAtlas.Proofs.Inference.Attempts
import MakeAtlas.Proofs.Inference.CreatedNodes
import MakeAtlas.Proofs.Project.SameRecords
import MakeAtlas.Proofs.Text.Words
import MakeAtlas.Proofs.Makefile.Prerequisites
import MakeAtlas.Proofs.Path.Ways
import MakeAtlas.Proofs.Path.RootedPaths
import MakeAtlas.Proofs.Evidence.AbsoluteHeaders
