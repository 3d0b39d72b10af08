import SqlLens.Node.Walk

namespace SqlLens.Node

variable {n : Node} {ns ms : List Node}

@[simp]
theorem sizeOption_none : sizeOption none = 0 := by simp [sizeOption]

@[simp]
theorem sizeOption_some : sizeOption (some n) = n.size := by simp [sizeOption]

@[simp]
theorem sizeList_nil : sizeList [] = 0 := by simp [sizeList]

@[simp]
theorem sizeList_cons : sizeList (n :: ns) = n.size + sizeList ns := by simp [sizeList]

@[simp]
theorem sizeList_append : sizeList (ns ++ ms) = sizeList ns + sizeList ms := by
  induction ns
  case nil => simp
  case cons hi => simp [hi, Nat.add_assoc]

@[simp]
theorem sizeList_toList (o : Option Node) : sizeList o.toList = sizeOption o := by
  cases o <;> simp

@[simp]
theorem sizeList_filterMap_cons (f : Node → Option Node) :
    sizeList ((n :: ns).filterMap f) = sizeOption (f n) + sizeList (ns.filterMap f) := by
  rw [List.filterMap_cons]
  cases f n <;> simp

theorem size_select (s : Select Node) : (select s).size = 1 + (
    sizeOption s.withClause + sizeList s.distinctClause + sizeList s.targetList +
    sizeList s.fromClause + sizeOption s.whereClause + sizeList s.groupClause +
    sizeOption s.havingClause + sizeOption s.larg + sizeOption s.rarg + sizeList s.sortClause +
    sizeOption s.limitCount + sizeOption s.limitOffset) := by
  cases s
  simp [size, sizeSelect]

theorem size_pos (n : Node) : 0 < n.size := by
  cases n <;> simp only [size] <;> omega

end SqlLens.Node
