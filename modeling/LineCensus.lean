import LineCensus.Main
import LineCensus.Handover
import LineCensus.Proofs.Line.Opening
import LineCensus.Proofs.Line.Refinement
import LineCensus.Proofs.Line.Reachable
import LineCensus.Proofs.Line.Padding
import LineCensus.Proofs.Line.Respacing
import LineCensus.Proofs.Line.Kind
import LineCensus.Proofs.Line.Renumbering
import LineCensus.Proofs.Line.Reordering
import LineCensus.Proofs.Line.Insertion
import LineCensus.Proofs.Line.StringClose
import LineCensus.Proofs.Text.ByteSearch
import LineCensus.Proofs.Text.LossyLines
import LineCensus.Proofs.Text.Lines
import LineCensus.Proofs.Text.WellFormed
import LineCensus.Proofs.Tally.Bytes
import LineCensus.Proofs.Tally.Balance
import LineCensus.Proofs.Tally.Parts
import LineCensus.Proofs.Summary.Totals
import LineCensus.Proofs.Summary.Rows
import LineCensus.Proofs.Catalog.History
import LineCensus.Proofs.Path.Order
import LineCensus.Proofs.Walk.Extensions
import LineCensus.Proofs.Run.Extensions
import LineCensus.Proofs.Census.Order
import LineCensus.Proofs.Report.Csv
import LineCensus.Proofs.Report.Output
import LineCensus.Proofs.Report.Json
import LineCensus.Proofs.Run.Strictness
import LineCensus.Proofs.Run.Handover
import LineCensus.Proofs.Line.Normalized
import LineCensus.Proofs.Line.StringEscape
import LineCensus.Proofs.Definition.Build
import LineCensus.Proofs.Report.Listing
import LineCensus.Proofs.Line.Positions
import LineCensus.Proofs.Report.SortText
import LineCensus.Proofs.Catalog.Aliases
import LineCensus.Proofs.CommandLine.Mappings
import LineCensus.Proofs.Ignore.Override
import LineCensus.Proofs.Walk.Way
import LineCensus.Proofs.Walk.Overrides
import LineCensus.Proofs.Report.CsvReturn
import LineCensus.Proofs.Definition.Extensions
import LineCensus.Proofs.Definition.Spelling
import LineCensus.Proofs.CommandLine.Counts
import LineCensus.Proofs.Locale
