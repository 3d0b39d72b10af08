namespace SqlLens

variable {α β : Type} [BEq α] [LawfulBEq α] [DecidableEq α] {entries : List (α × β)} {key key' : α}
  {value : β}

theorem lookup_cons (entry : α × β) :
    (entry :: entries).lookup key = if key = entry.1 then some entry.2 else entries.lookup key := by
  rw [List.lookup_cons]
  split <;> simp_all

-- What is found when the value of one key has been replaced.
theorem lookup_overwrite :
    (entries.map fun e => if e.1 == key then (key, value) else e).lookup key' =
      if key' = key then (entries.lookup key).map fun _ => value else entries.lookup key' := by
  induction entries
  case nil => simp
  case cons entry rest hi =>
    rw [List.map_cons, lookup_cons, lookup_cons, lookup_cons, hi]
    by_cases here : entry.1 = key <;> grind

-- The first of the entries in reverse is the last one.
theorem lookup_reverse : entries.reverse.lookup key =
    (entries.filter (·.1 == key)).getLast?.map (·.2) := by
  rw [List.getLast?_filter]
  induction entries.reverse
  case nil => rfl
  case cons entry rest hi =>
    rw [lookup_cons, List.find?_cons, hi]
    by_cases here : key = entry.1 <;> grind

end SqlLens
