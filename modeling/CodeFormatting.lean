import CodeFormatting.Config.Json
import CodeFormatting.Json.Parser
import CodeFormatting.Ktfmt.Simulated
import CodeFormatting.Main
import CodeFormatting.Shell.Executor
import CodeFormatting.Proofs.Ktfmt.Protocol
import CodeFormatting.Proofs.Step.Agreement
import CodeFormatting.Proofs.Step.Sharing
import CodeFormatting.Proofs.FileSystem
import CodeFormatting.Proofs.Files.Single
import CodeFormatting.Proofs.Files.Tasks
import CodeFormatting.Proofs.Files.Progress
import CodeFormatting.Proofs.Files.Steady
import CodeFormatting.Proofs.Files.Pointwise
import CodeFormatting.Proofs.Files.Repeated
import CodeFormatting.Proofs.Files.Prediction
import CodeFormatting.Proofs.Files.Initialization
import CodeFormatting.Proofs.Command.Ktfmt
import CodeFormatting.Proofs.Ktfmt.Steady
import CodeFormatting.Proofs.Command.Check
import CodeFormatting.Proofs.Files.Convergence
import CodeFormatting.Proofs.Ktfmt.Initialization
import CodeFormatting.Proofs.Command.Failure
import CodeFormatting.Proofs.Text
import CodeFormatting.Proofs.Json.Printer
import CodeFormatting.Proofs.Json.Parser
import CodeFormatting.Proofs.Json.Records
import CodeFormatting.Proofs.Artifact.Coordinate
import CodeFormatting.Proofs.Journal
import CodeFormatting.Proofs.Ktfmt.Identity
import CodeFormatting.Proofs.Ktfmt.Settings
import CodeFormatting.Proofs.Ktfmt.Coordinate
import CodeFormatting.Proofs.Ktfmt.Release
import CodeFormatting.Proofs.Ktfmt.CommandLine
import CodeFormatting.Proofs.Artifact.Repository
import CodeFormatting.Proofs.Command.Settings
import CodeFormatting.Proofs.Config.Schema
import CodeFormatting.Proofs.Config.Rebase
import CodeFormatting.Proofs.Command.Version
import CodeFormatting.Proofs.Text.Octets
import CodeFormatting.Proofs.Environment
import CodeFormatting.Proofs.Ktfmt.Completion
import CodeFormatting.Proofs.Files.Provenance
import CodeFormatting.Proofs.Files.Reports
import CodeFormatting.Proofs.Path.Order
import CodeFormatting.Proofs.Command.Report
import CodeFormatting.Proofs.Command.Input
import CodeFormatting.Proofs.Ktfmt.Building
import CodeFormatting.Proofs.Npm.Executable
import CodeFormatting.Proofs.Npm.Npmrc
import CodeFormatting.Proofs.Ktfmt.Naming
import CodeFormatting.Proofs.Ktfmt.Java
import CodeFormatting.Proofs.Ktfmt.Preset
import CodeFormatting.Proofs.Command.Npm
