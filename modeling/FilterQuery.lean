import FilterQuery.Configuration.Reading
import FilterQuery.Logging
import FilterQuery.Proofs.Sql.ClientFaults
import FilterQuery.Proofs.Sql.Meaning
import FilterQuery.Sql.Fragment
import FilterQuery.Proofs.Expression.Binding
import FilterQuery.Proofs.Expression.Acceptance
import FilterQuery.Proofs.Expression.Faults
import FilterQuery.Proofs.Sql.Bindings
import FilterQuery.Proofs.Sql.Coverage
import FilterQuery.Proofs.Sql.DialectAgreement
import FilterQuery.Proofs.Sql.Parameters
import FilterQuery.Proofs.Sql.Presence
import FilterQuery.Proofs.Sql.Shape
import FilterQuery.Proofs.Query.Accumulation
import FilterQuery.Proofs.Query.Collection
import FilterQuery.Proofs.Query.Indexes
import FilterQuery.Proofs.Query.Input
import FilterQuery.Proofs.Query.PairOrder
import FilterQuery.Proofs.Query.Submission
import FilterQuery.Proofs.Filter.Writing
import FilterQuery.Proofs.Mapping.Consistency
import FilterQuery.Proofs.Mapping.DeclarationOrder
import FilterQuery.Proofs.Sql.DeclarationOrder
import FilterQuery.Proofs.Query.LastShape
import FilterQuery.Proofs.Filter.ListLiterals
import FilterQuery.Proofs.Sql.LikeMatching
import FilterQuery.Proofs.Sql.ListReading
import FilterQuery.Proofs.Query.FirstFault
import FilterQuery.Proofs.Query.Appending
import FilterQuery.Proofs.Sql.Enclosure
import FilterQuery.Proofs.Constraint.Integers
import FilterQuery.Proofs.Constraint.Calendar
import FilterQuery.Proofs.Filter.Numbers
import FilterQuery.Proofs.Filter.QuotedElements
import FilterQuery.Proofs.Sql.Repetition
import FilterQuery.Proofs.Filter.Grammars
import FilterQuery.Proofs.Configuration.Variables
import FilterQuery.Proofs.Query.SortSyntax
