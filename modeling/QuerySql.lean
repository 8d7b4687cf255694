import QuerySql.Query.Json
import QuerySql.Settings.Document
import QuerySql.Statement.Find
import QuerySql.Statement.Insert
import QuerySql.Proofs.Sql.Scan
import QuerySql.Proofs.Outcome
import QuerySql.Proofs.Statement.Placeholders
import QuerySql.Proofs.Sql.Formula
import QuerySql.Proofs.Predicate.Expansion
import QuerySql.Proofs.Predicate.Outline
import QuerySql.Proofs.Predicate.Reading
import QuerySql.Proofs.Predicate.TextMatch
import QuerySql.Proofs.Statement.Conditions
import QuerySql.Proofs.Statement.Shape
import QuerySql.Proofs.Predicate.Leaves
import QuerySql.Proofs.Statement.Inlined
import QuerySql.Proofs.Predicate.Qualifiers
import QuerySql.Proofs.Predicate.Wildcards
import QuerySql.Proofs.Statement.Clauses
import QuerySql.Proofs.Statement.Qualifiers
import QuerySql.Proofs.Statement.Populations
import QuerySql.Proofs.Sql.Lexeme
import QuerySql.Proofs.Sql.Blanked
import QuerySql.Proofs.Statement.Literals
import QuerySql.Proofs.Json.RoundTrip
import QuerySql.Proofs.Query.RoundTrip
import QuerySql.Proofs.Schema.RoundTrip
import QuerySql.Proofs.Statement.Isolation
import QuerySql.Proofs.Statement.Marker
import QuerySql.Proofs.Predicate.LiteralMatch
import QuerySql.Proofs.Statement.Assembly
import QuerySql.Proofs.Statement.Projection
import QuerySql.Proofs.Settings.Precedence
import QuerySql.Proofs.Predicate.Requalified
import QuerySql.Proofs.Statement.AssociationFilters
import QuerySql.Proofs.Predicate.Respelled
import QuerySql.Proofs.Statement.Respelled
import QuerySql.Proofs.Predicate.Validity
import QuerySql.Proofs.Query.Reordered
import QuerySql.Proofs.Predicate.Reordered
import QuerySql.Proofs.Predicate.Orders
import QuerySql.Proofs.Statement.Orders
import QuerySql.Proofs.Statement.Substitution
import QuerySql.Proofs.Statement.Dialects
import QuerySql.Proofs.Predicate.Membership
import QuerySql.Proofs.Statement.Folded
import QuerySql.Proofs.Sql.Unquoted
import QuerySql.Proofs.Statement.Items
import QuerySql.Proofs.Statement.JoinedItems
import QuerySql.Proofs.Statement.Grouping
import QuerySql.Proofs.Statement.SelectLists
import QuerySql.Proofs.Statement.Insertion
import QuerySql.Proofs.Statement.Scalars
import QuerySql.Proofs.Statement.Extension
import QuerySql.Proofs.Statement.Unwrapped
import QuerySql.Proofs.Schema.Insertions
import QuerySql.Proofs.Query.Filter
import QuerySql.Proofs.Settings.Agreement
import QuerySql.Proofs.Compiler.Invariant
import QuerySql.Proofs.Json.Override
import QuerySql.Proofs.Sql.Quotation
import QuerySql.Proofs.Statement.References
