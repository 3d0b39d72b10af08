import SqlLens.Proofs.Node.Size

namespace SqlLens.Node

variable {n m : Node} {stack : List Node} {slot : Slot} {k : Nat}

@[simp]
theorem sizeList_always : sizeList ((always slot n).flatMap (·.2.nodes)) = n.size := by
  simp [always, Child.nodes]

@[simp]
theorem sizeList_present (o : Option Node) :
    sizeList ((present slot o).flatMap (·.2.nodes)) = sizeOption o := by
  cases o <;> simp [present, Child.nodes]

@[simp]
theorem sizeList_nonempty (ns : List Node) :
    sizeList ((nonempty slot ns).flatMap (·.2.nodes)) = sizeList ns := by
  cases ns <;> simp [nonempty, Child.nodes]

theorem size_eq (n : Node) : n.size = 1 + sizeList n.offspring := by
  cases n
  case select s => simp +arith [size_select, offspring, children]
  all_goals simp +arith [size, offspring, children]

theorem size_le_sizeList (h : m ∈ stack) : m.size ≤ sizeList stack := by
  induction stack
  case nil => cases h
  case cons n stack hi =>
    rw [sizeList_cons]
    cases h
    case head => omega
    case tail h => have := hi h; omega

theorem size_lt_of_mem_offspring (h : m ∈ n.offspring) : m.size < n.size := by
  have := size_eq n
  have := size_le_sizeList h
  omega

-- With enough steps the stack is empty in the end, and then every node of it has been walked.
theorem visit_eq (h : sizeList stack ≤ k) : visit k stack = stack.flatMap walk := by
  induction k using Nat.strongRecOn generalizing stack
  case ind k hi =>
    cases stack
    case nil => simp [visit]
    case cons n stack =>
      rw [sizeList_cons] at h
      have pos := size_pos n
      have size := size_eq n
      obtain ⟨k, rfl⟩ : ∃ j, k = j + 1 := ⟨k - 1, by omega⟩
      have below : walk n = n :: n.offspring.flatMap walk := by
        obtain ⟨j, hj⟩ : ∃ j, n.size = j + 1 := ⟨n.size - 1, by omega⟩
        rw [walk, hj, visit, List.append_nil, hi j (by omega) (by omega)]
      rw [visit, hi k (by omega) (by rw [sizeList_append]; omega), List.flatMap_append,
        List.flatMap_cons, below, List.cons_append]

theorem walk_eq (n : Node) : n.walk = n :: n.offspring.flatMap walk := by
  have size := size_eq n
  rw [walk, size, Nat.add_comm, visit, List.append_nil, visit_eq (Nat.le_refl _)]

end SqlLens.Node
