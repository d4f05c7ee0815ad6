import SchoolAtlas.Catalogue
import SchoolAtlas.Census
import SchoolAtlas.Census.Text
import SchoolAtlas.Colour
import SchoolAtlas.Colour.Named
import SchoolAtlas.Colour.Single
import SchoolAtlas.Command
import SchoolAtlas.Command.Arguments
import SchoolAtlas.Command.DataDirectory
import SchoolAtlas.Command.Files
import SchoolAtlas.Command.FilterArguments
import SchoolAtlas.Csv
import SchoolAtlas.Csv.Row
import SchoolAtlas.Decimal.Numeral
import SchoolAtlas.Decimal.Shortest
import SchoolAtlas.Deflate
import SchoolAtlas.Deflate.Bits
import SchoolAtlas.Deflate.PrefixCode
import SchoolAtlas.Filter.Preset
import SchoolAtlas.Filter.State
import SchoolAtlas.Filter.Update
import SchoolAtlas.Gzip
import SchoolAtlas.Gzip.Checksum
import SchoolAtlas.Json.Document
import SchoolAtlas.Json.Number
import SchoolAtlas.Json.Record
import SchoolAtlas.Json.Value
import SchoolAtlas.Main
import SchoolAtlas.Map.Config
import SchoolAtlas.Map.Legend
import SchoolAtlas.Map.Ramp
import SchoolAtlas.Map.RegionValues
import SchoolAtlas.Map.Scalar
import SchoolAtlas.Map.Session
import SchoolAtlas.NameMap
import SchoolAtlas.Proofs.Filter.Admission
import SchoolAtlas.Proofs.Filter.Extent
import SchoolAtlas.Proofs.Lists
import SchoolAtlas.Proofs.Map.Schedule
import SchoolAtlas.Proofs.Map.Waiting
import SchoolAtlas.Proofs.Query.Narrowing
import SchoolAtlas.Proofs.Query.Regions
import SchoolAtlas.Proofs.Query.Roster
import SchoolAtlas.Proofs.Query.Rows
import SchoolAtlas.Proofs.Query.SchoolMap
import SchoolAtlas.Proofs.Query.Values
import SchoolAtlas.Proofs.Register.Reached
import SchoolAtlas.Proofs.Selection
import SchoolAtlas.Query.Aggregate
import SchoolAtlas.Query.Answer
import SchoolAtlas.Query.Compile
import SchoolAtlas.Query.Condition
import SchoolAtlas.Query.Extent
import SchoolAtlas.Query.Plan
import SchoolAtlas.Query.Report
import SchoolAtlas.Query.Shape
import SchoolAtlas.Query.Statement
import SchoolAtlas.Query.Text
import SchoolAtlas.Query.Visit
import SchoolAtlas.Register
import SchoolAtlas.Register.Clean
import SchoolAtlas.Register.Listing
import SchoolAtlas.Register.Load
import SchoolAtlas.Selection
import SchoolAtlas.Text.Blank
import SchoolAtlas.Text.LowerCase
import SchoolAtlas.Proofs.Filter.Consistency
import SchoolAtlas.Proofs.Filter.StudentRows
import SchoolAtlas.Proofs.Query.StudentGroups
import SchoolAtlas.Proofs.Query.StudentMap
import SchoolAtlas.Proofs.Query.ExamMap
import SchoolAtlas.Proofs.Text.ByteOrder
import SchoolAtlas.Proofs.Query.RosterRecords
import SchoolAtlas.Proofs.Query.DrillDown
import SchoolAtlas.Proofs.Query.Draft
import SchoolAtlas.Proofs.Query.PlanDraft
import SchoolAtlas.Proofs.Query.Form
import SchoolAtlas.Proofs.Text.Legible
import SchoolAtlas.Proofs.Query.Reading
import SchoolAtlas.Proofs.Query.Recovery
import SchoolAtlas.Proofs.Query.Restriction
import SchoolAtlas.Proofs.Query.Inclusion
import SchoolAtlas.Proofs.Query.Strictness
import SchoolAtlas.Proofs.Query.Ticking
import SchoolAtlas.Proofs.Query.Correspondence
import SchoolAtlas.Proofs.Query.RosterTotals
import SchoolAtlas.Proofs.Command.Rearrangement
import SchoolAtlas.Proofs.Json.Rereading
import SchoolAtlas.Proofs.Filter.Storage
import SchoolAtlas.Proofs.Text.LowerCase
import SchoolAtlas.Proofs.Register.Clean
import SchoolAtlas.Proofs.Register.Tidy
import SchoolAtlas.Proofs.Csv.Parts
import SchoolAtlas.Proofs.Register.Directory
import SchoolAtlas.Proofs.Register.Parts
import SchoolAtlas.Proofs.Map.RegionValues
import SchoolAtlas.Proofs.Query.LoadOrder
import SchoolAtlas.Proofs.Filter.Independence
import SchoolAtlas.Proofs.Filter.OpenTown
import SchoolAtlas.Proofs.Command.Replacement
import SchoolAtlas.Proofs.Text.Trim
import SchoolAtlas.Proofs.Csv.Written
import SchoolAtlas.Proofs.Register.Languages
import SchoolAtlas.Proofs.Register.Reloading
import SchoolAtlas.Proofs.Filter.Repetition
import SchoolAtlas.Proofs.Map.TownProfile
import SchoolAtlas.Proofs.Map.Ramp
import SchoolAtlas.Proofs.Float.Order
import SchoolAtlas.Proofs.Map.LegendRange
import SchoolAtlas.Proofs.Selection.Clicks
import SchoolAtlas.Proofs.Map.ColourExpression
import SchoolAtlas.Proofs.Float.Product
import SchoolAtlas.Proofs.Map.Painting
