import ApiScan.Assoc
import ApiScan.Build
import ApiScan.CommandLine.Arguments
import ApiScan.CommandLine.Run
import ApiScan.CommandLine.Session
import ApiScan.Config
import ApiScan.Config.Questions
import ApiScan.Config.Store
import ApiScan.DocComment
import ApiScan.Docs.Folder
import ApiScan.Docs.Output
import ApiScan.Failure
import ApiScan.Json.Basic
import ApiScan.Json.Printer
import ApiScan.Json.Reader
import ApiScan.Log
import ApiScan.Main
import ApiScan.Model.Basic
import ApiScan.Model.ColumnTable
import ApiScan.Model.DocumentSchema
import ApiScan.Model.SchemaFile
import ApiScan.Number.Binary64
import ApiScan.OpenApi.Document
import ApiScan.Path
import ApiScan.Project.Detection
import ApiScan.Project.Kind
import ApiScan.Project.Scan
import ApiScan.Project.Sources
import ApiScan.Proofs.Assoc
import ApiScan.Proofs.Build
import ApiScan.Proofs.Build.Apart
import ApiScan.Proofs.Build.Comments
import ApiScan.Proofs.Build.Idempotent
import ApiScan.Proofs.Build.Missing
import ApiScan.Proofs.Build.Rescan
import ApiScan.Proofs.Build.Scope
import ApiScan.Proofs.CommandLine.Configure
import ApiScan.Proofs.CommandLine.Delete
import ApiScan.Proofs.DocComment.Enclosed
import ApiScan.Proofs.DocComment.Opening
import ApiScan.Proofs.DocComment.Pieces
import ApiScan.Proofs.DocComment.Source
import ApiScan.Proofs.DocComment.Written
import ApiScan.Proofs.Docs.Comments
import ApiScan.Proofs.Docs.LastFile
import ApiScan.Proofs.Docs.Loaded
import ApiScan.Proofs.Docs.SameDocument
import ApiScan.Proofs.Docs.SchemaFiles
import ApiScan.Proofs.Docs.Schemas
import ApiScan.Proofs.Docs.Silent
import ApiScan.Proofs.Docs.Stored
import ApiScan.Proofs.Docs.Written
import ApiScan.Proofs.Extraction
import ApiScan.Proofs.Foreseen
import ApiScan.Proofs.Json.Number
import ApiScan.Proofs.Json.Plain
import ApiScan.Proofs.Json.Quoted
import ApiScan.Proofs.Json.Reread
import ApiScan.Proofs.Json.Settled
import ApiScan.Proofs.Model.ColumnArguments
import ApiScan.Proofs.Model.Commented
import ApiScan.Proofs.Model.CommentedBlock
import ApiScan.Proofs.Model.Declaration
import ApiScan.Proofs.Model.Definition
import ApiScan.Proofs.Model.DocumentSchema
import ApiScan.Proofs.Model.Layout
import ApiScan.Proofs.Model.Registration
import ApiScan.Proofs.Model.SchemaFile.Attributes
import ApiScan.Proofs.Model.SchemaFile.Blocks
import ApiScan.Proofs.Model.SchemaFile.Chunks
import ApiScan.Proofs.Model.SchemaFile.Models
import ApiScan.Proofs.Model.SchemaFile.Source
import ApiScan.Proofs.Model.SchemaSource
import ApiScan.Proofs.Model.TableCalls
import ApiScan.Proofs.Model.TableSource
import ApiScan.Proofs.Model.TopGroups
import ApiScan.Proofs.Model.WellFormed
import ApiScan.Proofs.Number.Rounding
import ApiScan.Proofs.Number.Shortest
import ApiScan.Proofs.OpenApi.Grouped
import ApiScan.Proofs.OpenApi.Paths
import ApiScan.Proofs.OpenApi.Settled
import ApiScan.Proofs.OpenApi.Worded
import ApiScan.Proofs.Path
import ApiScan.Proofs.Project.Comments
import ApiScan.Proofs.Project.FolderValue
import ApiScan.Proofs.Project.Routes
import ApiScan.Proofs.Project.SchemaPlace
import ApiScan.Proofs.Route.FileGroups
import ApiScan.Proofs.Route.FilePath
import ApiScan.Proofs.Route.MainFile.Command
import ApiScan.Proofs.Route.MainFile.Effect
import ApiScan.Proofs.Route.MainFile.Loading
import ApiScan.Proofs.Route.MainFile.Statement
import ApiScan.Proofs.Route.Mounted
import ApiScan.Proofs.Route.Parameter
import ApiScan.Proofs.Route.RouterSource
import ApiScan.Proofs.Route.Template
import ApiScan.Proofs.Source.Block
import ApiScan.Proofs.Source.Extension
import ApiScan.Proofs.Source.Segment
import ApiScan.Proofs.Text.Digits
import ApiScan.Proofs.Text.Order
import ApiScan.Proofs.Text.Search
import ApiScan.Proofs.Text.Utf8
import ApiScan.Proofs.Text.Words
import ApiScan.Proofs.Tree.Access
import ApiScan.Proofs.Tree.Extends
import ApiScan.Proofs.Tree.Follow
import ApiScan.Proofs.Tree.Growth
import ApiScan.Proofs.Tree.MakeFolders
import ApiScan.Proofs.Tree.WellFormed
import ApiScan.Proofs.Work
import ApiScan.Proofs.Yaml.Balance
import ApiScan.Proofs.Yaml.JsonForm
import ApiScan.Route.Basic
import ApiScan.Route.FileRoute
import ApiScan.Route.Mount
import ApiScan.Route.Router
import ApiScan.Source.Block
import ApiScan.Source.Comment
import ApiScan.Source.Extension
import ApiScan.Survey
import ApiScan.Terminal
import ApiScan.Text.Basic
import ApiScan.Text.Blank
import ApiScan.Text.CaseTable
import ApiScan.Text.CodePoint
import ApiScan.Text.Digits
import ApiScan.Text.Emoji
import ApiScan.Text.EmojiTable
import ApiScan.Text.Letter
import ApiScan.Text.Numeral
import ApiScan.Text.Order
import ApiScan.Text.Quoted
import ApiScan.Text.Ranges
import ApiScan.Text.UnprintedTable
import ApiScan.Text.Utf8
import ApiScan.Text.WidthTable
import ApiScan.Text.Word
import ApiScan.Text.WordTable
import ApiScan.Tree.Basic
import ApiScan.Work
import ApiScan.Yaml.Cursor
import ApiScan.Yaml.Draft
import ApiScan.Yaml.Fault
import ApiScan.Yaml.Node
import ApiScan.Yaml.Printer
import ApiScan.Yaml.Scalar
import ApiScan.Yaml.Style
import ApiScan.Yaml.Tag
import ApiScan.Yaml.Token
import ApiScan.Yaml.Token.Scalar
import ApiScan.Yaml.Token.Scan
import ApiScan.Yaml.Value
