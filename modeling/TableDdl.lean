import TableDdl.Sql.Reserved
import TableDdl.Sql.Quote
import TableDdl.Sql.TypeName
import TableDdl.Decimal.Shortest
import TableDdl.Decimal.Text
import TableDdl.Json.Basic
import TableDdl.Json.Print
import TableDdl.Json.Parse
import TableDdl.Text.Blank
import TableDdl.Time.Timestamp
import TableDdl.Text.Printable
import TableDdl.Files.Path
import TableDdl.Files.Tree
import TableDdl.Template.Segment
import TableDdl.Template.Error
import TableDdl.Template.Scan
import TableDdl.Template.Value
import TableDdl.Template.Render
import TableDdl.Template.Compile
import TableDdl.Table.Descriptor
import TableDdl.Table.Normalize
import TableDdl.Ddl.Layout
import TableDdl.Ddl.Postgres
import TableDdl.Ddl.Redshift
import TableDdl.Dialect
import TableDdl.Translate
import TableDdl.Decimal.Read
import TableDdl.Yaml.Token
import TableDdl.Yaml.Scanner
import TableDdl.Yaml.Scanner.Scalar
import TableDdl.Yaml.Scanner.Property
import TableDdl.Yaml.Scanner.Stream
import TableDdl.Yaml.Event
import TableDdl.Yaml.Node
import TableDdl.Yaml.Scalar
import TableDdl.Text.Base64
import TableDdl.Yaml.Value
import TableDdl.Document
import TableDdl.Config
import TableDdl.Files.Disk
import TableDdl.Cli.Failure
import TableDdl.Cli.Commands
import TableDdl.Text.Similarity
import TableDdl.Cli.Grammar
import TableDdl.Cli.Help
import TableDdl.Cli.Args
import TableDdl.Cli.Program
import TableDdl.Main
import TableDdl.Proofs.ScanRoundTrip
import TableDdl.Proofs.ScanFaults
import TableDdl.Proofs.FileIncludes
import TableDdl.Proofs.CreateTable
import TableDdl.Proofs.RenderPositional
import TableDdl.Proofs.RenderNamed
import TableDdl.Proofs.SqlReading
import TableDdl.Proofs.IndexBlock
import TableDdl.Proofs.IndexNames
import TableDdl.Proofs.IdentifierLists
import TableDdl.Proofs.StringConstants
import TableDdl.Proofs.DerivedNames
import TableDdl.Proofs.SingleKeys
import TableDdl.Proofs.NormalizedTables
import TableDdl.Proofs.OperationDefault
import TableDdl.Proofs.TemplateDirectory
