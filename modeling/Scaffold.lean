import Scaffold.Archive.Bytes
import Scaffold.Archive.Reader
import Scaffold.Auth
import Scaffold.Backend.Basic
import Scaffold.Backend.ColumnType
import Scaffold.Backend.Constraint
import Scaffold.Backend.Encoding
import Scaffold.Backend.Sample
import Scaffold.Backend.Shape
import Scaffold.CommandLine.Command
import Scaffold.CommandLine.Option
import Scaffold.CommandLine.Run
import Scaffold.Config.Basic
import Scaffold.Config.File
import Scaffold.Decimal.Double
import Scaffold.Decimal.Shortest
import Scaffold.Files.Path
import Scaffold.Files.Tree
import Scaffold.Json.Node
import Scaffold.Json.Printer
import Scaffold.Json.Reader
import Scaffold.Json.Value
import Scaffold.Log.Event
import Scaffold.Log.Filter
import Scaffold.Log.Line
import Scaffold.Log.Settings
import Scaffold.Main
import Scaffold.Manifest
import Scaffold.Migration.Order
import Scaffold.Migration.Statement
import Scaffold.Payments
import Scaffold.Project.File
import Scaffold.Project.Generate
import Scaffold.Project.Warning
import Scaffold.Proofs.Archive.Unpacking
import Scaffold.Proofs.Auth.PublicRoutes
import Scaffold.Proofs.Backend.Encoding
import Scaffold.Proofs.Backend.Validator
import Scaffold.Proofs.CommandLine.Frame
import Scaffold.Proofs.CommandLine.Printing
import Scaffold.Proofs.CommandLine.Settings
import Scaffold.Proofs.Comments
import Scaffold.Proofs.Config.File
import Scaffold.Proofs.Config.Layers
import Scaffold.Proofs.EmbeddedJson
import Scaffold.Proofs.Files.Listing
import Scaffold.Proofs.Files.Path
import Scaffold.Proofs.Files.Store
import Scaffold.Proofs.Files.Tree
import Scaffold.Proofs.Files.Way
import Scaffold.Proofs.Json.LaidOut
import Scaffold.Proofs.Json.Quoted
import Scaffold.Proofs.KeyColumns
import Scaffold.Proofs.LinesKept
import Scaffold.Proofs.Migration.Again
import Scaffold.Proofs.Migration.Arrangement
import Scaffold.Proofs.Migration.Circle
import Scaffold.Proofs.Migration.Columns
import Scaffold.Proofs.Migration.Least
import Scaffold.Proofs.Migration.OffCircle
import Scaffold.Proofs.Migration.Places
import Scaffold.Proofs.Migration.Reference
import Scaffold.Proofs.Migration.Rounds
import Scaffold.Proofs.Migration.Standing
import Scaffold.Proofs.Migration.Statement
import Scaffold.Proofs.Project.Emission
import Scaffold.Proofs.Project.Endpoints
import Scaffold.Proofs.Project.Fallbacks
import Scaffold.Proofs.Project.File
import Scaffold.Proofs.Project.Gaps
import Scaffold.Proofs.Project.Insertion
import Scaffold.Proofs.Project.Migration
import Scaffold.Proofs.Project.Modules
import Scaffold.Proofs.Project.OpenRoutes
import Scaffold.Proofs.Project.Owners
import Scaffold.Proofs.Project.Paths
import Scaffold.Proofs.Project.Placement
import Scaffold.Proofs.Project.Repeats
import Scaffold.Proofs.Project.Resolution
import Scaffold.Proofs.Project.Views
import Scaffold.Proofs.Route.Body
import Scaffold.Proofs.Route.Handler
import Scaffold.Proofs.Route.Imports
import Scaffold.Proofs.Route.Index
import Scaffold.Proofs.Route.Normal
import Scaffold.Proofs.Route.Path
import Scaffold.Proofs.Route.Record
import Scaffold.Proofs.Route.Slug
import Scaffold.Proofs.Route.Spelling
import Scaffold.Proofs.Run.Answers
import Scaffold.Proofs.Run.Archive
import Scaffold.Proofs.Run.EmptyRoot
import Scaffold.Proofs.Run.Foreseeing
import Scaffold.Proofs.Run.Frame
import Scaffold.Proofs.Run.Landing
import Scaffold.Proofs.Run.Loading
import Scaffold.Proofs.Run.Rewriting
import Scaffold.Proofs.Run.Session
import Scaffold.Proofs.Run.Stopping
import Scaffold.Proofs.Run.Target
import Scaffold.Proofs.Run.Writing
import Scaffold.Proofs.Shape.OfNode
import Scaffold.Proofs.Shape.Restoring
import Scaffold.Proofs.StoredColumns
import Scaffold.Proofs.Text.AsciiLower
import Scaffold.Proofs.Text.Blank
import Scaffold.Proofs.Text.Firsts
import Scaffold.Proofs.Text.Lines
import Scaffold.Proofs.Text.Lower
import Scaffold.Proofs.Text.Parts
import Scaffold.Proofs.Text.Sigma
import Scaffold.Proofs.Text.Split
import Scaffold.Proofs.Toml.Keys
import Scaffold.Route.Module
import Scaffold.Route.Path
import Scaffold.Run.Failure
import Scaffold.Run.Host
import Scaffold.Run.Loading
import Scaffold.Run.Writing
import Scaffold.Schema
import Scaffold.Shape.Basic
import Scaffold.Shape.Mismatch
import Scaffold.Shape.OfJson
import Scaffold.Shape.OfNode
import Scaffold.Shape.OfYaml
import Scaffold.Text.Basic
import Scaffold.Text.LetterCase
import Scaffold.Text.Printable
import Scaffold.Toml.Reader
import Scaffold.Toml.Table
import Scaffold.Toml.Word
import Scaffold.Yaml.Cursor
import Scaffold.Yaml.Layout
import Scaffold.Yaml.Node
import Scaffold.Yaml.Resolve
import Scaffold.Yaml.Scalar
