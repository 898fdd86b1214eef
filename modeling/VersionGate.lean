import VersionGate.Gate.Session
import VersionGate.Main
import VersionGate.Proofs.ExitCode
import VersionGate.Proofs.Narration
import VersionGate.Proofs.OrderingWarning
import VersionGate.Proofs.ToolchainName
import VersionGate.Proofs.Presentation
import VersionGate.Proofs.Components.LongestRun
import VersionGate.Proofs.Session
import VersionGate.Proofs.Cli.Precedence
import VersionGate.Proofs.Text.Line
import VersionGate.Proofs.Text.Words
import VersionGate.Proofs.VersionLine.Grammar
import VersionGate.Proofs.Source.FirstLine
import VersionGate.Proofs.AlignedVersions
import VersionGate.Proofs.QueryCommand
import VersionGate.Proofs.ExactVersion
import VersionGate.Proofs.ReportJson
import VersionGate.Proofs.VersionLine.Rejection
import VersionGate.Proofs.ErrorLine
import VersionGate.Proofs.ComparisonName
import VersionGate.Proofs.Cli.UnknownOption
import VersionGate.Proofs.Ui.Coloring
import VersionGate.Proofs.CheckLog
