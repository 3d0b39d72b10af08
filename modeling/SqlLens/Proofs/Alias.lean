import Mathlib.Data.List.Induction
import SqlLens.Alias
import SqlLens.Proofs.Lookup
import SqlLens.Proofs.Node.Preorder

namespace SqlLens

-- The table that the node names, if it is called `q` there.
def Node.tableCalled? (q : String) : Node → Option Table
  | .table t => if t.aliasName = some q then some t else none
  | _ => none

namespace AliasMap

variable {m m' : AliasMap} {q name name' table table' : String} {pairs es : List (String × String)}

section Entries

def names (m : AliasMap) : List String := m.entries.map (·.1)

-- The entry of `name` takes another table, every other entry stays.
def overwrite (name table : String) (e : String × String) : String × String :=
  if e.1 == name then (name, table) else e

theorem mem_names_iff : name ∈ m.names ↔ m.entries.any (·.1 == name) := by
  simp [names]

theorem insert_of_mem (h : name ∈ m.names) :
    m.insert name table = ⟨m.entries.map (overwrite name table)⟩ := by
  rw [mem_names_iff] at h
  simp only [insert, h, ite_true]
  rfl

theorem insert_of_not_mem (h : name ∉ m.names) :
    m.insert name table = ⟨m.entries ++ [(name, table)]⟩ := by
  rw [mem_names_iff] at h
  simp only [insert, h]
  rfl

theorem overwrite_of_ne {e : String × String} (h : e.1 ≠ name) : overwrite name table e = e := by
  simp [overwrite, h]

@[simp]
theorem fst_overwrite (e : String × String) : (overwrite name table e).1 = e.1 := by
  by_cases h : e.1 = name <;> simp [overwrite, h]

theorem overwrite_overwrite (e : String × String) :
    overwrite name table' (overwrite name table e) = overwrite name table' e := by
  by_cases h : e.1 = name <;> simp [overwrite, h]

theorem overwrite_comm (ne : name ≠ name') (e : String × String) :
    overwrite name table (overwrite name' table' e) =
      overwrite name' table' (overwrite name table e) := by
  by_cases h : e.1 = name <;> by_cases h' : e.1 = name' <;> simp_all [overwrite]

theorem map_overwrite (h : name ∉ es.map (·.1)) : es.map (overwrite name table) = es := by
  have other (e : String × String) (he : e ∈ es) : overwrite name table e = e :=
    overwrite_of_ne fun hn => h (List.mem_map.mpr ⟨e, he, hn⟩)
  rw [List.map_congr_left other, List.map_id']

theorem names_insert : (m.insert name table).names =
    if name ∈ m.names then m.names else m.names ++ [name] := by
  split
  case isTrue h => simp [insert_of_mem h, names]
  case isFalse h => simp [insert_of_not_mem h, names]

theorem mem_names_insert : q ∈ (m.insert name table).names ↔ q = name ∨ q ∈ m.names := by
  rw [names_insert]
  split <;> grind

theorem nodup_names_insert (h : m.names.Nodup) : (m.insert name table).names.Nodup := by
  rw [names_insert]
  split
  case isTrue => exact h
  case isFalse absent => exact List.nodup_append.mpr ⟨h, by simp, by grind⟩

theorem nodup_names_extend (h : m.names.Nodup) : (m.extend pairs).names.Nodup := by
  induction pairs generalizing m
  case nil => exact h
  case cons p pairs hi => exact hi (nodup_names_insert h)

theorem nodup_names_ofList : (ofList pairs).names.Nodup := nodup_names_extend List.nodup_nil

end Entries

section Resolve

theorem isSome_resolve?_iff : (m.resolve? q).isSome ↔ q ∈ m.names := by
  simp [resolve?, names, List.lookup_isSome_iff]

theorem resolve?_insert : (m.insert name table).resolve? q =
    if q = name then some table else m.resolve? q := by
  by_cases present : name ∈ m.names
  case pos =>
    obtain ⟨t, ht⟩ := Option.isSome_iff_exists.mp (isSome_resolve?_iff.mpr present)
    rw [resolve?] at ht
    rw [insert_of_mem present]
    have found : (m.entries.map (overwrite name table)).lookup q = _ := lookup_overwrite
    rwa [ht, Option.map_some] at found
  case neg =>
    have absent : m.resolve? name = none := by
      rw [← Option.not_isSome_iff_eq_none]
      exact mt isSome_resolve?_iff.mp present
    rw [resolve?] at absent
    rw [insert_of_not_mem present, resolve?, List.lookup_append, lookup_cons, List.lookup_nil]
    split
    case isTrue h => simp [h, absent]
    case isFalse => simp [resolve?]

-- The last of the further entries wins, and only without one the map itself is asked.
theorem resolve?_extend : (m.extend pairs).resolve? q =
    ((pairs.filter (·.1 == q)).getLast?.map (·.2)).or (m.resolve? q) := by
  rw [← lookup_reverse]
  induction pairs generalizing m
  case nil => rfl
  case cons p pairs hi =>
    change ((m.insert p.1 p.2).extend pairs).resolve? q = _
    rw [hi, resolve?_insert, List.reverse_cons, List.lookup_append, lookup_cons, List.lookup_nil,
      Option.or_assoc]
    split <;> simp

end Resolve

section Merge

theorem insert_insert : (m.insert name table).insert name table' = m.insert name table' := by
  have again : name ∈ (m.insert name table).names := mem_names_insert.mpr (.inl rfl)
  rw [insert_of_mem again]
  by_cases h : name ∈ m.names
  case pos => simp [insert_of_mem h, Function.comp_def, overwrite_overwrite]
  case neg =>
    have last : overwrite name table' (name, table) = (name, table') := by simp [overwrite]
    simp [insert_of_not_mem h, map_overwrite h, last]

-- An entry that is there keeps its place, so it does not matter when it is overwritten.
theorem insert_comm (h : name ∈ m.names) (ne : name ≠ name') :
    (m.insert name' table').insert name table = (m.insert name table).insert name' table' := by
  rw [insert_of_mem (mem_names_insert.mpr (.inr h)), insert_of_mem h]
  by_cases h' : name' ∈ m.names
  case pos =>
    rw [insert_of_mem h', insert_of_mem (by simpa [names] using h')]
    simp [Function.comp_def, overwrite_comm ne]
  case neg =>
    have last : overwrite name table (name', table') = (name', table') := overwrite_of_ne ne.symm
    rw [insert_of_not_mem h', insert_of_not_mem (by simpa [names] using h')]
    simp [last]

theorem extend_insert (h : name ∈ m.names) (hp : name ∉ pairs.map (·.1)) :
    (m.extend pairs).insert name table = (m.insert name table).extend pairs := by
  induction pairs generalizing m
  case nil => rfl
  case cons p pairs hi =>
    rw [List.map_cons, List.mem_cons, not_or] at hp
    have step := hi (m := m.insert p.1 p.2) (mem_names_insert.mpr (.inr h)) hp.2
    rw [insert_comm h hp.1] at step
    exact step

-- To enter all of a map and then one more pair is to enter all of the map with that pair.
theorem extend_entries_insert (unique : m'.names.Nodup) :
    m.extend (m'.insert name table).entries = (m.extend m'.entries).insert name table := by
  by_cases h : name ∈ m'.names
  case neg => simp [insert_of_not_mem h, extend]
  case pos =>
    obtain ⟨pre, old, post, split⟩ : ∃ pre old post, m'.entries = pre ++ (name, old) :: post := by
      obtain ⟨⟨_, old⟩, he, rfl⟩ := List.mem_map.mp h
      obtain ⟨pre, post, split⟩ := List.append_of_mem he
      exact ⟨pre, old, post, split⟩
    have ⟨before, behind⟩ : name ∉ pre.map (·.1) ∧ name ∉ post.map (·.1) := by
      rw [names, split, List.map_append, List.map_cons, List.nodup_middle, List.nodup_cons]
        at unique
      simpa [not_or] using unique.1
    have here : overwrite name table (name, old) = (name, table) := by simp [overwrite]
    have entered (table : String) : m.extend (pre ++ (name, table) :: post) =
        ((m.extend pre).insert name table).extend post := by
      simp [extend]
    have there : name ∈ ((m.extend pre).insert name old).names := mem_names_insert.mpr (.inl rfl)
    calc m.extend (m'.insert name table).entries
      _ = m.extend (pre ++ (name, table) :: post) := by
        rw [insert_of_mem h, split, List.map_append, List.map_cons, map_overwrite before, here,
          map_overwrite behind]
      _ = (((m.extend pre).insert name old).insert name table).extend post := by
        rw [entered, insert_insert]
      _ = (m.extend m'.entries).insert name table := by
        rw [← extend_insert there behind, split, entered]

theorem extend_entries_ofList : m.extend (ofList pairs).entries = m.extend pairs := by
  induction pairs using List.reverseRecOn
  case nil => rfl
  case append_singleton pairs p hi =>
    have last (m : AliasMap) : m.extend (pairs ++ [p]) = (m.extend pairs).insert p.1 p.2 := by
      simp [extend]
    have whole : ofList (pairs ++ [p]) = (ofList pairs).insert p.1 p.2 := last {}
    rw [whole, extend_entries_insert nodup_names_ofList, hi, last]

end Merge

end AliasMap

open AliasMap

variable {m : AliasMap} {q : String}

-- Of the tables that some nodes name, the last one under an alias.
theorem getLast?_alias? (nodes : List Node) (q : String) :
    ((nodes.filterMap Node.alias?).filter (·.1 == q)).getLast?.map (·.2) =
      (nodes.filterMap (Node.tableCalled? q)).getLast?.map Table.qualifiedName := by
  have named (n : Node) : (n.alias?.filter (·.1 == q)).map (·.2) =
      (n.tableCalled? q).map Table.qualifiedName := by
    cases n
    case table t =>
      cases h : t.aliasName
      case none => simp [Node.alias?, Node.tableCalled?, h]
      case some name =>
        by_cases hn : name = q <;> simp [Node.alias?, Node.tableCalled?, h, hn, Option.filter]
    all_goals rfl
  rw [List.filter_filterMap, ← List.getLast?_map, List.map_filterMap, ← List.getLast?_map,
    List.map_filterMap]
  simp only [named]

-- What a map has to say that is entered on top of another one goes before.
theorem resolve?_extend_entries (pairs : List (String × String)) :
    (m.extend (ofList pairs).entries).resolve? q =
      ((ofList pairs).resolve? q).or (m.resolve? q) := by
  rw [extend_entries_ofList, ofList, resolve?_extend, resolve?_extend, Option.or_assoc]
  rfl

theorem ofStatements_concat (S : List Node) (s : Node) : ofStatements (S ++ [s]) =
    (ofStatements S).extend (ofStatements [s]).entries := by
  rw [ofStatements, ofStatements, ofStatements, extend_entries_ofList, List.flatMap_append,
    List.filterMap_append, ofList, ofList, extend, List.foldl_append]
  rfl

theorem ofStatements_eq_foldl (S : List Node) : ofStatements S =
    S.foldl (fun m s => m.extend (ofStatements [s]).entries) {} := by
  induction S using List.reverseRecOn
  case nil => rfl
  case append_singleton S s hi => rw [ofStatements_concat, hi, List.foldl_append]; rfl

theorem resolve?_ofStatements (S : List Node) (q : String) : (ofStatements S).resolve? q =
    (S.filterMap fun s => (ofStatements [s]).resolve? q).getLast? := by
  induction S using List.reverseRecOn
  case nil => rfl
  case append_singleton S s hi =>
    have last : ([s].filterMap fun s => (ofStatements [s]).resolve? q).getLast? =
        (ofStatements [s]).resolve? q := by
      cases h : (ofStatements [s]).resolve? q <;> simp [h]
    rw [ofStatements_concat, List.filterMap_append, List.getLast?_append, last, ← hi]
    exact resolve?_extend_entries _

theorem resolve?_ofStatements_singleton (s : Node) (q : String) : (ofStatements [s]).resolve? q =
    (s.preorder.filterMap (Node.tableCalled? q)).getLast?.map Table.qualifiedName := by
  rw [ofStatements, List.flatMap_singleton, Node.walk_eq_preorder, ofList, resolve?_extend,
    getLast?_alias?]
  exact Option.or_none

-- A further entry goes before the tables of the statement, and of either sort the last one counts.
-- The map of several statements is their maps entered one after the other, so that of them, too,
-- the last one counts.
theorem resolve?_statementAliases :
    (∀ (statement : Node) (extra : List (String × String)) (q : String),
      (statementAliases statement extra).resolve? q =
        ((extra.filter (·.1 == q)).getLast?.map (·.2)).or
          ((statement.preorder.filterMap (Node.tableCalled? q)).getLast?.map Table.qualifiedName)) ∧
    ∀ S : List Node,
      ofStatements S = S.foldl (fun m s => m.extend (ofStatements [s]).entries) {} ∧
      ∀ q, (ofStatements S).resolve? q =
        (S.filterMap fun s => (ofStatements [s]).resolve? q).getLast? := by
  refine ⟨fun statement extra q => ?one, fun S => ⟨ofStatements_eq_foldl S, ?all⟩⟩
  case one => rw [statementAliases, resolve?_extend, resolve?_ofStatements_singleton]
  case all => exact resolve?_ofStatements S

end SqlLens
