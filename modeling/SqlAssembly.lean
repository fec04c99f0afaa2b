import SqlAssembly.Calendar
import SqlAssembly.Clause.Comparison
import SqlAssembly.Clause.Rows
import SqlAssembly.CommandLine.Outcome
import SqlAssembly.Draft.Assembly
import SqlAssembly.Engine
import SqlAssembly.Main
import SqlAssembly.Memory.Database
import SqlAssembly.Proofs.Clause.Columns
import SqlAssembly.Proofs.Clause.Spelling
import SqlAssembly.Proofs.CommandLine.Report
import SqlAssembly.Proofs.Connection.Opening
import SqlAssembly.Proofs.Cursor
import SqlAssembly.Proofs.Fragment.Filling
import SqlAssembly.Proofs.Fragment.Flattening
import SqlAssembly.Proofs.Fragment.Regions
import SqlAssembly.Proofs.Identifier.Named
import SqlAssembly.Proofs.Identifier.Order
import SqlAssembly.Proofs.Identifier.Reading
import SqlAssembly.Proofs.Query.Arguments
import SqlAssembly.Proofs.Query.Blankness
import SqlAssembly.Proofs.Query.Classification
import SqlAssembly.Proofs.Query.Conjunction
import SqlAssembly.Proofs.Query.Failure
import SqlAssembly.Proofs.Query.Grouping
import SqlAssembly.Proofs.Query.Guard
import SqlAssembly.Proofs.Query.Mapping
import SqlAssembly.Proofs.Query.Negation
import SqlAssembly.Proofs.Query.Noninterference
import SqlAssembly.Proofs.Query.NullValues
import SqlAssembly.Proofs.Query.Operands
import SqlAssembly.Proofs.Query.Overrides
import SqlAssembly.Proofs.Query.Polarity
import SqlAssembly.Proofs.Query.Rearrangement
import SqlAssembly.Proofs.Query.Restriction
import SqlAssembly.Proofs.Query.Targets
import SqlAssembly.Proofs.Query.Verdict
import SqlAssembly.Proofs.Query.Written
import SqlAssembly.Proofs.Session.Cache
import SqlAssembly.Proofs.Session.Counting
import SqlAssembly.Proofs.Session.Keyed
import SqlAssembly.Proofs.Session.Quoting
import SqlAssembly.Proofs.Session.Recording
import SqlAssembly.Proofs.Session.Refusal
import SqlAssembly.Proofs.Session.Retry
import SqlAssembly.Proofs.Statement.Quoted
import SqlAssembly.Proofs.Statement.Verb
import SqlAssembly.Query.Assembly
import SqlAssembly.Session.Reading
import SqlAssembly.Session.Script
import SqlAssembly.Session.Shared
