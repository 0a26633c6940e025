import SqlScribe.Main
import SqlScribe.Proofs.Sql.Partition
import SqlScribe.Proofs.Sql.Rule
import SqlScribe.Proofs.Sql.RuleReading
import SqlScribe.Proofs.Sql.Lookahead
import SqlScribe.Proofs.Sql.Resumption
import SqlScribe.Proofs.Sql.Malformed
import SqlScribe.Proofs.Sql.Session
import SqlScribe.Proofs.Sql.LetterCase
import SqlScribe.Proofs.Json.Reading
import SqlScribe.Proofs.Json.Strings
import SqlScribe.Proofs.Json.Numbers
import SqlScribe.Proofs.Json.Sequence
import SqlScribe.Proofs.Json.Skipping
import SqlScribe.Proofs.Json.Values
import SqlScribe.Proofs.Json.Records
import SqlScribe.Proofs.Json.Pretty
import SqlScribe.Proofs.Document.Values
import SqlScribe.Proofs.Document.RoundTrip
import SqlScribe.Proofs.Json.Editing
import SqlScribe.Proofs.Document.DialectMember
import SqlScribe.Proofs.CommandLine.Generation
import SqlScribe.Proofs.CommandLine.Override
import SqlScribe.Proofs.Text.Escaped
import SqlScribe.Proofs.CommandLine.TokenLines
import SqlScribe.Proofs.CommandLine.TokenListing
import SqlScribe.Proofs.Number.Numeral
import SqlScribe.Proofs.Sql.Passage
import SqlScribe.Proofs.Sql.Code
import SqlScribe.Proofs.Sql.CodeReading
import SqlScribe.Proofs.Sql.QuotedText
import SqlScribe.Proofs.Statement.Tokens
import SqlScribe.Proofs.Statement.Leading
import SqlScribe.Proofs.Statement.CleanInsert
import SqlScribe.Proofs.Statement.CleanTable
import SqlScribe.Proofs.Statement.PartReading
import SqlScribe.Proofs.Statement.CellReading
import SqlScribe.Proofs.Statement.InsertReading
import SqlScribe.Proofs.Statement.TableReading
import SqlScribe.Proofs.Statement.KeyPlacement
import SqlScribe.Proofs.Statement.TableFaithful
import SqlScribe.Proofs.Statement.StatementCount
import SqlScribe.Proofs.Statement.CellForms
import SqlScribe.Proofs.Schema.FirstDefect
import SqlScribe.Proofs.Statement.CounterNames
import SqlScribe.Proofs.Statement.Counting
import SqlScribe.Proofs.Calendar.Mask
import SqlScribe.Proofs.Calendar.Instant
import SqlScribe.Proofs.Calendar.Forms
import SqlScribe.Proofs.Calendar.Spelling
import SqlScribe.Proofs.Calendar.Normalization
import SqlScribe.Proofs.Calendar.Rereading
