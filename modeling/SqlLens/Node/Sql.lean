import SqlLens.Error
import SqlLens.Sql.Parser
import SqlLens.Sql.ToNode

namespace SqlLens

-- The trees of the statements of a text.
def Node.ofSql (d : Dialect) (text : String) : Except Error (List Node) :=
  match Sql.parse d text with
  | .ok statements => .ok (statements.map Sql.Statement.toNode)
  | .error fault => .error (.query fault.message)

end SqlLens
