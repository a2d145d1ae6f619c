import DeltaStudy.Artifact.Measurements
import DeltaStudy.Campaign.Course
import DeltaStudy.Campaign.Deltas
import DeltaStudy.Chart.Picture
import DeltaStudy.Chart.Svg
import DeltaStudy.CommandLine.Help
import DeltaStudy.CommandLine.Invocation
import DeltaStudy.Logging.Filter
import DeltaStudy.Main
import DeltaStudy.Numeral.Fixed
import DeltaStudy.Program.Conduct
import DeltaStudy.Program.Rehearsal
import DeltaStudy.Proofs.Campaign.Sweeps
import DeltaStudy.Proofs.Numeral.Doubles
import DeltaStudy.Protocol.Rows
import DeltaStudy.Report.Artifact
import DeltaStudy.Report.Calendar
import DeltaStudy.Report.Campaign
import DeltaStudy.Script.Program
import DeltaStudy.Settings.Reader
import DeltaStudy.Storage.Archive
import DeltaStudy.Storage.FileTree
import DeltaStudy.Study.Rendering
import DeltaStudy.Trend.Statistics
import DeltaStudy.Proofs.Campaign.Tallies
import DeltaStudy.Proofs.Numeral.Rounding
import DeltaStudy.Proofs.Numeral.Digits
import DeltaStudy.Proofs.Numeral.Literals
import DeltaStudy.Proofs.Numeral.Grids
import DeltaStudy.Proofs.Numeral.Shortest
import DeltaStudy.Proofs.Numeral.Positive
import DeltaStudy.Proofs.Protocol.Names
import DeltaStudy.Proofs.Text.Pieces
import DeltaStudy.Proofs.Campaign.Acceptance
import DeltaStudy.Proofs.Artifact.Columns
import DeltaStudy.Proofs.Artifact.Merging
import DeltaStudy.Proofs.Artifact.Rows
import DeltaStudy.Proofs.Artifact.Isolation
import DeltaStudy.Proofs.Artifact.Sheets
import DeltaStudy.Proofs.Artifact.Written
import DeltaStudy.Proofs.Numeral.Texts
import DeltaStudy.Proofs.Paths.Spellings
import DeltaStudy.Proofs.Storage.Archives
import DeltaStudy.Proofs.Storage.StandIns
import DeltaStudy.Proofs.Study.Analyses
import DeltaStudy.Proofs.Study.Comparisons
import DeltaStudy.Proofs.Study.Desks
import DeltaStudy.Proofs.Study.Partitions
import DeltaStudy.Proofs.Text.Plain
import DeltaStudy.Proofs.Text.Utf8
import DeltaStudy.Proofs.Protocol.Merging
import DeltaStudy.Proofs.Artifact.Rounds
import DeltaStudy.Proofs.Chart.Axes
import DeltaStudy.Proofs.Chart.Dashes
import DeltaStudy.Proofs.Artifact.Arrangements
import DeltaStudy.Proofs.Artifact.Gaps
import DeltaStudy.Proofs.Trend.Windows
import DeltaStudy.Proofs.Campaign.Artifacts
import DeltaStudy.Proofs.Campaign.Delays
import DeltaStudy.Proofs.Campaign.Deltas
import DeltaStudy.Proofs.Numeral.Order
import DeltaStudy.Proofs.Chart.Ranges
import DeltaStudy.Proofs.Chart.References
import DeltaStudy.Proofs.Chart.Difficulties
import DeltaStudy.Proofs.Chart.Legends
import DeltaStudy.Proofs.Artifact.Names
import DeltaStudy.Proofs.Text.Lines
import DeltaStudy.Proofs.Artifact.Faults
import DeltaStudy.Proofs.Report.Failures
import DeltaStudy.Proofs.Report.Statistics
import DeltaStudy.Proofs.Study.Charts
import DeltaStudy.Proofs.Chart.Segments
import DeltaStudy.Proofs.Paths.Extensions
import DeltaStudy.Proofs.Study.Outputs
import DeltaStudy.Proofs.Protocol.Spellings
