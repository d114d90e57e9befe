import SchemaCode.CommandLine.Run
import SchemaCode.Edit
import SchemaCode.Main
import SchemaCode.Proofs.GivenNames
import SchemaCode.Proofs.Relation.Drafting
import SchemaCode.Proofs.Relation.History
import SchemaCode.Proofs.Relation.Ends
import SchemaCode.Proofs.Relation.Keys
import SchemaCode.Proofs.Relation.DependencyOrder
import SchemaCode.Proofs.Relation.DistinctNames
import SchemaCode.Proofs.Relation.SharedJunctions
import SchemaCode.Proofs.Relation.Junctions
import SchemaCode.Proofs.Relation.SharedColumns
import SchemaCode.Proofs.Relation.UniqueKeys
import SchemaCode.Proofs.Relation.Flags
import SchemaCode.Proofs.Relation.Extension
import SchemaCode.Proofs.Sql.LevelOrder
import SchemaCode.Proofs.Relation.Drops
import SchemaCode.Proofs.Schema.Decoding
import SchemaCode.Proofs.Schema.Outlines
import SchemaCode.Proofs.Schema.Notices
import SchemaCode.Proofs.Schema.RoundTrip
import SchemaCode.Proofs.CommandLine.Failures
import SchemaCode.Proofs.Text.Folding
import SchemaCode.Proofs.Sql.FoldedNames
import SchemaCode.Proofs.Code.Columns
import SchemaCode.Proofs.Code.Constraints
import SchemaCode.Proofs.Code.BackReferences
import SchemaCode.Proofs.Code.StoredLinks
import SchemaCode.Proofs.Code.References
import SchemaCode.Proofs.Code.Variables
import SchemaCode.Proofs.Code.Fragments
import SchemaCode.Proofs.Code.Imports
import SchemaCode.Proofs.Redrawing.Pruning
import SchemaCode.Proofs.Redrawing.Diagrams
import SchemaCode.Proofs.Rearranging.Reversing
import SchemaCode.Proofs.Rearranging.Swapping
import SchemaCode.Proofs.Code.Associations
import SchemaCode.Proofs.Code.Titles
import SchemaCode.Proofs.Schema.Refusals
import SchemaCode.Proofs.Schema.Positions
import SchemaCode.Proofs.Schema.Edits
