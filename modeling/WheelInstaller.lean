import WheelInstaller.Bytes.Basic
import WheelInstaller.CommandLine.Command
import WheelInstaller.CommandLine.Run
import WheelInstaller.Container.EndRecord
import WheelInstaller.Container.Error
import WheelInstaller.Container.Index
import WheelInstaller.Container.Record
import WheelInstaller.Deflate.Huffman
import WheelInstaller.Deflate.Block
import WheelInstaller.Deflate.Inflate
import WheelInstaller.Deflate.Step
import WheelInstaller.FileSystem.Basic
import WheelInstaller.FileSystem.Error
import WheelInstaller.FileSystem.Lookup
import WheelInstaller.FileSystem.Operation
import WheelInstaller.Host.Error
import WheelInstaller.Host.Program
import WheelInstaller.Host.World
import WheelInstaller.Host.Rehearsal
import WheelInstaller.Install.Error
import WheelInstaller.Install.Extraction
import WheelInstaller.Install.Plan
import WheelInstaller.Install.Run
import WheelInstaller.Json
import WheelInstaller.Main
import WheelInstaller.Metadata.Summary
import WheelInstaller.Metadata.HeaderBlock
import WheelInstaller.Metadata.Error
import WheelInstaller.Ordered
import WheelInstaller.Packages.Initializer
import WheelInstaller.Packages.Normalize
import WheelInstaller.Path.Basic
import WheelInstaller.Process.Activity
import WheelInstaller.Process.Host
import WheelInstaller.Process.Image
import WheelInstaller.Host.Programs
import WheelInstaller.Process.Storage
import WheelInstaller.Process.Table
import WheelInstaller.PythonVersion
import WheelInstaller.RecordedPath
import WheelInstaller.Registry
import WheelInstaller.Report
import WheelInstaller.Shell.Arithmetic
import WheelInstaller.Shell.Commands
import WheelInstaller.Shell.Builtins
import WheelInstaller.Shell.Evaluation
import WheelInstaller.Shell.Expansion
import WheelInstaller.Shell.Field
import WheelInstaller.Shell.Grammar
import WheelInstaller.Shell.Jobs
import WheelInstaller.Shell.Running
import WheelInstaller.Shell.Level
import WheelInstaller.Shell.Lookup
import WheelInstaller.Shell.Names
import WheelInstaller.Shell.Syntax
import WheelInstaller.Shell.Redirection
import WheelInstaller.Shell.Script
import WheelInstaller.Shell.Source
import WheelInstaller.Shell.State
import WheelInstaller.Stream.Source
import WheelInstaller.Text.Classes
import WheelInstaller.Text.Encoding
import WheelInstaller.Text.Quoted
import WheelInstaller.Text.Fraction
import WheelInstaller.Text.Split
import WheelInstaller.Text.Wildcard
import WheelInstaller.Utility.Order
import WheelInstaller.Utility.Lines
import WheelInstaller.Utility.Basic
import WheelInstaller.Utility.Batch
import WheelInstaller.Utility.Columns
import WheelInstaller.Utility.Comparison
import WheelInstaller.Utility.Concatenation
import WheelInstaller.Utility.Condition
import WheelInstaller.Utility.Copy
import WheelInstaller.Utility.Count
import WheelInstaller.Utility.Naming
import WheelInstaller.Utility.Directories
import WheelInstaller.Utility.Dump
import WheelInstaller.Utility.Editor
import WheelInstaller.Utility.Editor.Machine
import WheelInstaller.Utility.Editor.Reading
import WheelInstaller.Utility.Editor.Script
import WheelInstaller.Utility.Excerpt
import WheelInstaller.Utility.Expression
import WheelInstaller.Utility.Touch
import WheelInstaller.Utility.Finding
import WheelInstaller.Utility.Finding.Expression
import WheelInstaller.Utility.Surroundings
import WheelInstaller.Utility.Launch
import WheelInstaller.Utility.Move
import WheelInstaller.Utility.Listing
import WheelInstaller.Utility.Permissions
import WheelInstaller.Utility.Moment
import WheelInstaller.Utility.Quoting
import WheelInstaller.Utility.Numbering
import WheelInstaller.Utility.Options
import WheelInstaller.Utility.Supervision
import WheelInstaller.Utility.Printing
import WheelInstaller.Utility.Repeats
import WheelInstaller.Utility.Resolution
import WheelInstaller.Utility.Search
import WheelInstaller.Utility.Sequence
import WheelInstaller.Utility.Sort
import WheelInstaller.Utility.TextPattern
import WheelInstaller.Utility.Translation
import WheelInstaller.Wheel.Basic
import WheelInstaller.Wheel.EntryStream
import WheelInstaller.Wheel.Error
import WheelInstaller.Wheel.FileName
import WheelInstaller.Wheel.Reading
import WheelInstaller.Proofs.Text.Split
import WheelInstaller.Proofs.Metadata.HeaderBlock
import WheelInstaller.Proofs.Path.Components
import WheelInstaller.Proofs.Path.Parents
import WheelInstaller.Proofs.Path.Resolution
import WheelInstaller.Proofs.Ordered
import WheelInstaller.Proofs.Placement
import WheelInstaller.Proofs.FileSystem.Tree
import WheelInstaller.Proofs.FileSystem.Plain
import WheelInstaller.Proofs.FileSystem.Walk
import WheelInstaller.Proofs.FileSystem.Lookup
import WheelInstaller.Proofs.FileSystem.Operation
import WheelInstaller.Proofs.FileSystem.Directories
import WheelInstaller.Proofs.FileSystem.Changes
import WheelInstaller.Proofs.FileSystem.Reach
import WheelInstaller.Proofs.Host.Rules
import WheelInstaller.Proofs.Host.World
import WheelInstaller.Proofs.Packages.Initializer
import WheelInstaller.Proofs.Install.Stages
import WheelInstaller.Proofs.Install.Requests
import WheelInstaller.Proofs.Install.Containment
import WheelInstaller.Proofs.Install.Places
import WheelInstaller.Proofs.Install.Preparation
import WheelInstaller.Proofs.Install.SummaryLast
import WheelInstaller.Proofs.Registry
import WheelInstaller.Proofs.FileSystem.Anchor
import WheelInstaller.Proofs.FileSystem.Present
import WheelInstaller.Proofs.Path.Spelling
import WheelInstaller.Proofs.Wheel.Summary
import WheelInstaller.Proofs.Wheel.Content
import WheelInstaller.Proofs.Wheel.Records
import WheelInstaller.Proofs.Host.Steady
import WheelInstaller.Proofs.Install.Quiet
import WheelInstaller.Proofs.Install.SourceKept
import WheelInstaller.Proofs.Install.CleanFailure
import WheelInstaller.Proofs.Install.Retention
import WheelInstaller.Proofs.Install.Untouched
import WheelInstaller.Proofs.Install.Deadline
import WheelInstaller.Proofs.Install.Entrance
import WheelInstaller.Proofs.Install.Furnishing
import WheelInstaller.Proofs.Install.Filling
import WheelInstaller.Proofs.Install.Result
import WheelInstaller.Proofs.Install.EarlyFailure
import WheelInstaller.Proofs.Install.Unpacking
import WheelInstaller.Proofs.Packages.Recording
import WheelInstaller.Proofs.Packages.Depiction
import WheelInstaller.Proofs.Packages.Normalize
import WheelInstaller.Proofs.Install.Halting
import WheelInstaller.Proofs.Deflate.Inflate
import WheelInstaller.Proofs.Wheel.Scripts
import WheelInstaller.Proofs.FileSystem.Linked
import WheelInstaller.Proofs.FileSystem.Slots
import WheelInstaller.Proofs.Host.Interleaving
import WheelInstaller.Proofs.Install.Separation
import WheelInstaller.Proofs.Install.Interleaving
import WheelInstaller.Proofs.Install.Workers
import WheelInstaller.Proofs.Acceptance
import WheelInstaller.Proofs.Install.Planning
import WheelInstaller.Proofs.Packages.Connected
import WheelInstaller.Proofs.Packages.Planned
import WheelInstaller.Proofs.FileSystem.Losses
import WheelInstaller.Proofs.Install.Committed
import WheelInstaller.Proofs.Wheel.DistInfo
import WheelInstaller.Proofs.Metadata.Declarations
import WheelInstaller.Proofs.Metadata.Grammar
import WheelInstaller.Proofs.Metadata.Sections
import WheelInstaller.Proofs.FileSystem.Sited
import WheelInstaller.Proofs.FileSystem.Additions
import WheelInstaller.Proofs.Host.Doubtful
import WheelInstaller.Proofs.Packages.Additions
import WheelInstaller.Proofs.Packages.Completion
import WheelInstaller.Proofs.Install.Copying
import WheelInstaller.Proofs.Install.Clearance
import WheelInstaller.Proofs.Packages.Nesting
import WheelInstaller.Proofs.Packages.Agreement
import WheelInstaller.Proofs.Wheel.FileName
import WheelInstaller.Proofs.Json
