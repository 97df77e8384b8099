import LintFindings.Json.Writer
import LintFindings.Main
import LintFindings.Session
import LintFindings.Proofs.Report.Reading
import LintFindings.Proofs.Text.Codes
import LintFindings.Proofs.Report.Decoration
import LintFindings.Proofs.Finding.Grammar
import LintFindings.Proofs.CommandLine.Calls
import LintFindings.Proofs.Datum.Merged
import LintFindings.Proofs.Toml.Names
import LintFindings.Proofs.Settings.Origins
import LintFindings.Proofs.Settings.Readings
import LintFindings.Proofs.Settings.Given
import LintFindings.Proofs.Settings.Checked
import LintFindings.Proofs.Settings.Precedence
import LintFindings.Proofs.Settings.Culprits
import LintFindings.Proofs.CommandLine.Unusable
import LintFindings.Proofs.Json.Digits
import LintFindings.Proofs.Finding.Faults
import LintFindings.Proofs.Report.Marked
import LintFindings.Proofs.Log.Loggers
import LintFindings.Proofs.CommandLine.Flags
import LintFindings.Proofs.Input.Breaks
import LintFindings.Proofs.Input.Written
import LintFindings.Proofs.Log.Runs
import LintFindings.Proofs.CommandLine.Terminal
import LintFindings.Proofs.Finding.Blame
import LintFindings.Proofs.Report.Columns
import LintFindings.Proofs.Report.Labels
import LintFindings.Proofs.Report.Tally
import LintFindings.Proofs.Report.Composition
import LintFindings.Proofs.Text.IllFormed
import LintFindings.Proofs.Input.IllFormed
import LintFindings.Proofs.CommandLine.Sources
import LintFindings.Proofs.CommandLine.Records
import LintFindings.Proofs.Text.Shown
import LintFindings.Proofs.CommandLine.Told
