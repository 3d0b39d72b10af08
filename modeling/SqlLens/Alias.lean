import SqlLens.Node.Walk

namespace SqlLens

-- Aliases with their tables; each alias occurs once.
structure AliasMap where
  entries : List (String × String) := []
deriving DecidableEq, Repr

namespace AliasMap

-- A later entry takes the place of an earlier one.
def insert (m : AliasMap) (name table : String) : AliasMap :=
  if m.entries.any (·.1 == name) then
    ⟨m.entries.map fun e => if e.1 == name then (name, table) else e⟩
  else ⟨m.entries ++ [(name, table)]⟩

def extend (m : AliasMap) (pairs : List (String × String)) : AliasMap :=
  pairs.foldl (fun m p => m.insert p.1 p.2) m

def ofList (pairs : List (String × String)) : AliasMap := ({} : AliasMap).extend pairs

-- The table that a qualifier stands for, if it is a known alias.
def resolve? (m : AliasMap) (qualifier : String) : Option String := m.entries.lookup qualifier

def size (m : AliasMap) : Nat := m.entries.length

end AliasMap

-- The alias that a node declares, with its table.
def Node.alias? : Node → Option (String × String)
  | .table t => t.aliasName.map fun name => (name, t.qualifiedName)
  | _ => none

-- All aliases that the statements declare anywhere.
def AliasMap.ofStatements (statements : List Node) : AliasMap :=
  ofList ((statements.flatMap Node.walk).filterMap Node.alias?)

-- The aliases of one statement, with further entries on top.
def statementAliases (statement : Node) (extra : List (String × String)) : AliasMap :=
  (AliasMap.ofStatements [statement]).extend extra

end SqlLens
