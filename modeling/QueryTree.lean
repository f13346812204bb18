import QueryTree.Attribute.Assign
import QueryTree.Attribute.Coercion
import QueryTree.Attribute.Collation
import QueryTree.Attribute.Location
import QueryTree.Attribute.Relabel
import QueryTree.Attribute.ReturnsSet
import QueryTree.Attribute.Type
import QueryTree.Attribute.Typmod
import QueryTree.BuiltinType
import QueryTree.Catalog
import QueryTree.Catalog.Record
import QueryTree.Command.Options
import QueryTree.Command.Report
import QueryTree.Command.Run
import QueryTree.Decimal
import QueryTree.Digits
import QueryTree.Json.Basic
import QueryTree.Json.Float
import QueryTree.Json.Printer
import QueryTree.Json.Reader
import QueryTree.Json.Record
import QueryTree.Json.Token
import QueryTree.Main
import QueryTree.Named
import QueryTree.Node.Basic
import QueryTree.Node.Build
import QueryTree.Node.Children
import QueryTree.Node.Choice
import QueryTree.Node.Clauses
import QueryTree.Node.Datum
import QueryTree.Node.Equality
import QueryTree.Node.Fields
import QueryTree.Node.Label
import QueryTree.Node.Leaves
import QueryTree.Node.Payload
import QueryTree.Node.Printer
import QueryTree.Node.Reader
import QueryTree.Node.Rebuild
import QueryTree.Node.Tag
import QueryTree.Oid
import QueryTree.Proofs.Answers
import QueryTree.Proofs.AttributeRows
import QueryTree.Proofs.ChildTraversal
import QueryTree.Proofs.Codec
import QueryTree.Proofs.CoercionChains
import QueryTree.Proofs.CollationPass
import QueryTree.Proofs.CollationSlots
import QueryTree.Proofs.Congruence
import QueryTree.Proofs.Counter
import QueryTree.Proofs.Coverage
import QueryTree.Proofs.DecimalText
import QueryTree.Proofs.DepthLimit
import QueryTree.Proofs.Height
import QueryTree.Proofs.Indistinguishable
import QueryTree.Proofs.Itinerary
import QueryTree.Proofs.JsonText
import QueryTree.Proofs.LeafRewrites
import QueryTree.Proofs.LocalTypes
import QueryTree.Proofs.Locations
import QueryTree.Proofs.Lockstep
import QueryTree.Proofs.NormalForm
import QueryTree.Proofs.Outcomes
import QueryTree.Proofs.QueryFrame
import QueryTree.Proofs.RawWalks
import QueryTree.Proofs.Registrations
import QueryTree.Proofs.Relabeling
import QueryTree.Proofs.Replies
import QueryTree.Proofs.Resolvable
import QueryTree.Proofs.RoundTrip
import QueryTree.Proofs.Sameness
import QueryTree.Proofs.Scopes
import QueryTree.Proofs.SetSearch
import QueryTree.Proofs.Slots
import QueryTree.Proofs.Splicing
import QueryTree.Proofs.StartingDeeper
import QueryTree.Proofs.Termination
import QueryTree.Proofs.Transcripts
import QueryTree.Proofs.Unanimity
import QueryTree.Proofs.WalkOrder
import QueryTree.Proofs.Wrappers
import QueryTree.RawNode.Basic
import QueryTree.RawNode.Children
import QueryTree.RawNode.Choice
import QueryTree.RawNode.Equality
import QueryTree.RawNode.Fields
import QueryTree.RawNode.Label
import QueryTree.RawNode.Leaves
import QueryTree.RawNode.Payload
import QueryTree.RawNode.Printer
import QueryTree.RawNode.Reader
import QueryTree.RawNode.Tag
import QueryTree.Scope
import QueryTree.Shortest
import QueryTree.Traversal.Control
import QueryTree.Traversal.Nesting
import QueryTree.Traversal.Raw
import QueryTree.Traversal.Run
import QueryTree.Traversal.Transform
import QueryTree.Traversal.Walk
import QueryTree.TreeError
