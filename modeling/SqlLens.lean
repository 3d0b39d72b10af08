import SqlLens.Main
import SqlLens.Proofs.Alias
import SqlLens.Proofs.Cache
import SqlLens.Proofs.Error
import SqlLens.Proofs.Filter.Coverage
import SqlLens.Proofs.Filter.Outline
import SqlLens.Proofs.Node.Accepted
import SqlLens.Proofs.Node.Preorder
import SqlLens.Proofs.Node.Presentation
import SqlLens.Proofs.Render.Malformed
import SqlLens.Proofs.Sql.Application
import SqlLens.Proofs.Sql.Condition
import SqlLens.Proofs.Sql.Kept
import SqlLens.Proofs.Sql.Opaque
import SqlLens.Proofs.Sql.Rows
import SqlLens.Proofs.Sql.Spelling
import SqlLens.Proofs.Truncate.Budget
import SqlLens.Proofs.Truncate.Complete
import SqlLens.Proofs.Truncate.Cost
import SqlLens.Proofs.Truncate.Length
import SqlLens.Proofs.Truncate.Statements
