import VideoBundle.Text.Blank
import VideoBundle.Text.Lines
import VideoBundle.Text.Word
import VideoBundle.Text.Printable
import VideoBundle.Text.LetterCase
import VideoBundle.Text.Search
import VideoBundle.Text.Units
import VideoBundle.Text.Quoted
import VideoBundle.Bytes.Utf8
import VideoBundle.Bytes.Base64
import VideoBundle.Bytes.Percent
import VideoBundle.Number.Basic
import VideoBundle.Value.Display
import VideoBundle.Json.Reader
import VideoBundle.Json.Writer
import VideoBundle.SourceTable
import VideoBundle.Specifier
import VideoBundle.HostPackage.Discovery
import VideoBundle.Project.Draft
import VideoBundle.Project.Artifact
import VideoBundle.Bundler.Log
import VideoBundle.Bundler.Report
import VideoBundle.Bundler.Bindings
import VideoBundle.Compile.Basic
import VideoBundle.Bundler.Tool
import VideoBundle.Settings
import VideoBundle.Project.Call
import VideoBundle.Project.Service
import VideoBundle.FileTree.Project
import VideoBundle.Playground
import VideoBundle.Journal.Basic
import VideoBundle.CommandLine.Basic
import VideoBundle.Journal.Setup
import VideoBundle.Main
import VideoBundle.Proofs.Path.Canonical
import VideoBundle.Proofs.Text.Trimming
import VideoBundle.Proofs.Value
import VideoBundle.Proofs.Outcomes
import VideoBundle.Proofs.SourceTable
import VideoBundle.Proofs.Module.Identifiers
import VideoBundle.Proofs.Specifier
import VideoBundle.Proofs.Module.ExportSearch
import VideoBundle.Proofs.Module.MissingExports
import VideoBundle.Proofs.Walk.Reached
import VideoBundle.Proofs.Walk.Invariant
import VideoBundle.Proofs.Walk.Generations
import VideoBundle.Proofs.Walk.Order
import VideoBundle.Proofs.Walk.Packages
import VideoBundle.Proofs.Walk.LinkedTable
import VideoBundle.Proofs.Walk.Failures
import VideoBundle.Proofs.Walk.Slice
import VideoBundle.Proofs.Compile.Files
import VideoBundle.Proofs.Compile.Conditions
import VideoBundle.Proofs.Compile.Reports
import VideoBundle.Proofs.Compile.Slice
import VideoBundle.Proofs.Number.Exact
import VideoBundle.Proofs.Number.Numerals
import VideoBundle.Proofs.Json.Texts
import VideoBundle.Proofs.Json.RoundTrip
import VideoBundle.Proofs.Json.Limits
import VideoBundle.Proofs.Json.Ascii
import VideoBundle.Proofs.Json.Strict
import VideoBundle.Proofs.Bundler.Transform
import VideoBundle.Proofs.Bundler.Printed
import VideoBundle.Proofs.Bundler.Scanning
import VideoBundle.Proofs.Bundler.ReadingBack
import VideoBundle.Proofs.Bundler.Quoting
import VideoBundle.Proofs.Bundler.PrintedLog
import VideoBundle.Proofs.Module.HostImports
import VideoBundle.Proofs.Module.DataFiles
import VideoBundle.Proofs.Module.Linking
import VideoBundle.Proofs.Module.NameSearch
import VideoBundle.Proofs.Module.ImportLines
import VideoBundle.Proofs.Module.ImportSources
import VideoBundle.Proofs.Module.ImportSites
import VideoBundle.Proofs.HostPackage.Getters
import VideoBundle.Proofs.HostPackage.Agreement
import VideoBundle.Proofs.HostPackage.UsableNames
import VideoBundle.Proofs.Project.Merge
import VideoBundle.Proofs.Number.Measures
import VideoBundle.Proofs.Project.Answers
import VideoBundle.Proofs.Project.Sessions
import VideoBundle.Proofs.Project.History
import VideoBundle.Proofs.Project.Effects
import VideoBundle.Proofs.Project.Artifacts
import VideoBundle.Proofs.Project.Isolation
import VideoBundle.Proofs.Project.Deletion
import VideoBundle.Proofs.Project.Retry
import VideoBundle.Proofs.Project.Locks
import VideoBundle.Proofs.Project.Turns
import VideoBundle.Proofs.Project.Serial
import VideoBundle.Proofs.Project.Linearization
import VideoBundle.Proofs.Bytes.RoundTrip
import VideoBundle.Proofs.FileTree.Assets
import VideoBundle.Proofs.Journal.Switching
import VideoBundle.Proofs.Playground
import VideoBundle.Proofs.Project.Spellings
import VideoBundle.Proofs.Project.FileArguments
import VideoBundle.Proofs.Module.BlankCode
import VideoBundle.Proofs.Project.DeletionOrder
import VideoBundle.Proofs.Project.StatusText
import VideoBundle.Proofs.Project.Restoring
