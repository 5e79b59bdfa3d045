import DocumentQuery.Monitor.Session
import DocumentQuery.Monitor.Trace
import DocumentQuery.Schema.Document
import DocumentQuery.Search.PredicateText
import DocumentQuery.Settings.Reader
import DocumentQuery.Proofs.Property.TopLevel
import DocumentQuery.Proofs.Property.UserPath
import DocumentQuery.Proofs.Compile.Attempt
import DocumentQuery.Proofs.Compile.Precedence
import DocumentQuery.Proofs.Compile.Reading
import DocumentQuery.Proofs.Compile.Lowering
import DocumentQuery.Proofs.Compile.Meaning
import DocumentQuery.Proofs.Compile.Quiet
import DocumentQuery.Proofs.Compile.Test
import DocumentQuery.Proofs.Compile.Assembly
import DocumentQuery.Proofs.Compile.Locality
import DocumentQuery.Proofs.Compile.Stages
import DocumentQuery.Proofs.Compile.References
import DocumentQuery.Proofs.Monitor.Accounting
import DocumentQuery.Proofs.Compile.Growth
import DocumentQuery.Proofs.Monitor.Consistency
import DocumentQuery.Proofs.Calendar.Date
import DocumentQuery.Proofs.Calendar.Moment
import DocumentQuery.Proofs.Number.Digits
import DocumentQuery.Proofs.Calendar.Timestamp
import DocumentQuery.Proofs.Compile.WireText
import DocumentQuery.Proofs.Compile.CutShort
import DocumentQuery.Proofs.Compile.Correspondence
import DocumentQuery.Proofs.Compile.AcrossSettings
import DocumentQuery.Proofs.Compile.Spelling
import DocumentQuery.Proofs.Compile.Shape
import DocumentQuery.Proofs.Json.Members
import DocumentQuery.Proofs.Schema.Document
import DocumentQuery.Proofs.Json.Same
import DocumentQuery.Proofs.Schema.RoundTrip
import DocumentQuery.Proofs.Search.Document
import DocumentQuery.Proofs.Schema.Parts
import DocumentQuery.Proofs.Schema.Reordered
import DocumentQuery.Proofs.Property.PartOrder
import DocumentQuery.Proofs.Property.Brackets
import DocumentQuery.Proofs.Property.Canonical
import DocumentQuery.Proofs.Property.Recognition
import DocumentQuery.Proofs.Property.SharedKey
import DocumentQuery.Proofs.Compile.Wildcard
import DocumentQuery.Proofs.Compile.Nesting
import DocumentQuery.Proofs.Compile.Negation
import DocumentQuery.Proofs.Compile.Membership
import DocumentQuery.Proofs.Schema.Faults
import DocumentQuery.Proofs.Monitor.Report
import DocumentQuery.Proofs.Filter.Literal
import DocumentQuery.Proofs.Compile.Place
import DocumentQuery.Proofs.Compile.Integers
