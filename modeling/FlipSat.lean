import FlipSat.Text.Blank
import FlipSat.Text.Lines
import FlipSat.Text.Numeral
import FlipSat.Text.Quoted
import FlipSat.Text.Upper
import FlipSat.Text.Utf8
import FlipSat.Binary64.Decimal
import FlipSat.Value.Basic
import FlipSat.Formula.Lines
import FlipSat.Formula.Dimacs
import FlipSat.Formula.File
import FlipSat.Search.Result
import FlipSat.Random.Source
import FlipSat.Assignment
import FlipSat.DenseSet
import FlipSat.Problem.Step
import FlipSat.Problem.Disturbance
import FlipSat.Yaml.Token
import FlipSat.Settings.File
import FlipSat.Notice
import FlipSat.Search.Report
import FlipSat.Stored
import FlipSat.Trace.Basic
import FlipSat.Log.Basic
import FlipSat.Search.Solver
import FlipSat.CommandLine.Basic
import FlipSat.Main
import FlipSat.Proofs.Refinement
import FlipSat.Proofs.RoundTrip
import FlipSat.Proofs.Budget
import FlipSat.Proofs.Check
import FlipSat.Proofs.Step
import FlipSat.Proofs.Changes
import FlipSat.Proofs.Override
import FlipSat.Proofs.Flip
import FlipSat.Proofs.LineFaults
import FlipSat.Proofs.DimacsStream
import FlipSat.Proofs.Polarity
import FlipSat.Proofs.Snapshot
import FlipSat.Proofs.Annealing
import FlipSat.Proofs.Timeout
import FlipSat.Proofs.Rebuild
import FlipSat.Proofs.TraceFiles
import FlipSat.Proofs.SearchTrace
import FlipSat.Proofs.SettingsFile
import FlipSat.Proofs.Command
import FlipSat.Proofs.FiniteSet
import FlipSat.Proofs.FormulaFile
import FlipSat.Proofs.Registry
