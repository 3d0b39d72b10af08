import Mathlib.Data.List.Nodup
import SqlLens.Json.Decode
import SqlLens.Proofs.Except

namespace SqlLens.Json

namespace Value

mutual

-- How many arrays and objects are open at a time where the value is deepest.
def depth : Value → Nat
  | .array items _ => 1 + depthItems items
  | .object members _ => 1 + depthMembers members
  | .null | .bool _ | .number _ | .string _ | .badText _ | .openText _ | .badScalar _
  | .nothing _ | .noColon _ => 0

def depthItems : List Value → Nat
  | [] => 0
  | v :: vs => max v.depth (depthItems vs)

def depthMembers : List (String × Value) → Nat
  | [] => 0
  | m :: ms => max (depthMember m) (depthMembers ms)

def depthMember : String × Value → Nat
  | (_, v) => v.depth

end

variable {vs : List Value} {ms : List (String × Value)} {n limit : Nat}

theorem depthItems_le_iff : depthItems vs ≤ n ↔ ∀ v ∈ vs, v.depth ≤ n := by
  induction vs
  case nil => simp [depthItems]
  case cons v vs hi => simp only [depthItems, Nat.max_le, hi, List.forall_mem_cons]

theorem depthMembers_le_iff : depthMembers ms ≤ n ↔ ∀ m ∈ ms, m.2.depth ≤ n := by
  induction ms
  case nil => simp [depthMembers]
  case cons m ms hi =>
    obtain ⟨key, v⟩ := m
    simp only [depthMembers, depthMember, Nat.max_le, hi, List.forall_mem_cons]

theorem depth_list_lt_iff :
    (list vs).depth < limit ↔ 1 < limit ∧ ∀ v ∈ vs, v.depth < limit - 1 := by
  have items : depthItems vs ≤ limit - 2 ↔ _ := depthItems_le_iff
  simp only [list, depth]
  constructor
  case mp =>
    intro h
    refine ⟨by omega, fun v hv => ?_⟩
    have := items.mp (by omega) v hv
    omega
  case mpr =>
    intro ⟨hl, h⟩
    have := items.mpr fun v hv => Nat.le_sub_of_add_le (by have := h v hv; omega)
    omega

theorem depth_record_lt_iff :
    (record ms).depth < limit ↔ 1 < limit ∧ ∀ m ∈ ms, m.2.depth < limit - 1 := by
  have members : depthMembers ms ≤ limit - 2 ↔ _ := depthMembers_le_iff
  simp only [record, depth]
  constructor
  case mp =>
    intro h
    refine ⟨by omega, fun m hm => ?_⟩
    have := members.mp (by omega) m hm
    omega
  case mpr =>
    intro ⟨hl, h⟩
    have := members.mpr fun m hm => Nat.le_sub_of_add_le (by have := h m hm; omega)
    omega

end Value

namespace Decode

variable {ρ : Type} {fields rest : List (Field ρ)} {f : Field ρ} {ms : List (String × Value)}
  {limit : Nat}

-- Sets one field after the other.
def setAll : List (Field ρ) → List Value → ρ → Decoded ρ
  | f :: fields, v :: vs, r => do setAll fields vs (← f.set v r)
  | _, _, r => .ok r

theorem enter_of_lt (h : 1 < limit) : enter limit = .ok () := by
  simp [enter, Nat.not_le.mpr h]

theorem enter_eq_ok_iff {u : Unit} : enter limit = .ok u ↔ 1 < limit := by
  rw [enter]
  split <;> simp <;> omega

theorem find?_name (unique : (fields.map (·.name)).Nodup) (hf : f ∈ fields) :
    fields.find? (·.name == f.name) = some f := by
  induction fields
  case nil => cases hf
  case cons g fields hi =>
    have ⟨hg, unique⟩ := List.nodup_cons.mp unique
    obtain rfl | hf := List.mem_cons.mp hf
    · simp
    · have hn : g.name ≠ f.name := fun hn => hg (List.mem_map.mpr ⟨f, hf, hn.symm⟩)
      simp [hn, hi unique hf]

-- `rest` are the fields that are still to come, `seen` the names of the others.
theorem members_eq_setAll (seen : List String) (unique : (fields.map (·.name)).Nodup)
    (sub : rest ⊆ fields) (fresh : ((rest.map (·.name)).reverse ++ seen).Nodup)
    (names : ms.map (·.1) = rest.map (·.name)) (r : ρ) :
    members fields seen ms r = do
      let r ← setAll rest (ms.map (·.2)) r
      return ((rest.map (·.name)).reverse ++ seen, r) := by
  induction rest generalizing ms seen r
  case nil =>
    cases List.map_eq_nil_iff.mp names
    simp [members, setAll]
  case cons f rest hi =>
    obtain ⟨⟨key, v⟩, ms, rfl, rfl, hm⟩ := List.map_eq_cons_iff.mp names
    have ⟨hf, sub⟩ := List.cons_subset.mp sub
    simp only [List.map_cons, List.reverse_cons, List.append_assoc, List.singleton_append] at fresh ⊢
    have hs : f.name ∉ seen := (List.nodup_cons.mp (List.nodup_append.mp fresh).2.1).1
    simp only [members, find?_name unique hf, setAll, hs, List.contains_eq_mem, decide_false]
    cases f.set v r
    case error => rfl
    case ok r => simp [hi (f.name :: seen) sub fresh hm r]

theorem record_eq_setAll (hl : 1 < limit) (unique : (fields.map (·.name)).Nodup)
    (names : ms.map (·.1) = fields.map (·.name)) (blank : ρ) :
    record limit name blank fields (.record ms) = setAll fields (ms.map (·.2)) blank := by
  have read := members_eq_setAll [] unique (List.Subset.refl _)
    (by simpa using List.nodup_reverse.mpr unique) names blank
  have complete : fields.find? (fun f => f.presence == .required &&
      !((fields.map Field.name).reverse ++ []).contains f.name) = none := by
    rw [List.find?_eq_none]
    intro f hf
    have : ∃ g ∈ fields, g.name = f.name := ⟨f, hf, rfl⟩
    simp [this]
  simp only [record, Value.record, enter_of_lt hl, read, Except.ok_bind]
  cases setAll fields (ms.map (·.2)) blank
  case error => rfl
  case ok r => simp only [Except.ok_bind, Except.pure_eq_ok, ObjectEnd.check, complete]

theorem tagged_record {decode : Tagged → Decoded α} (hl : 1 < limit) (tag : String) (v : Value) :
    tagged limit decode (.record [(tag, v)]) = decode ⟨tag, some v⟩ := by
  simp only [tagged, Value.record, enter_of_lt hl, Except.ok_bind, Except.pure_eq_ok]
  cases decode ⟨tag, some v⟩ <;> rfl

theorem tagged_record_eq_ok_iff {decode : Tagged → Decoded α} :
    tagged limit decode (.record [(tag, v)]) = .ok a ↔
      1 < limit ∧ decode ⟨tag, some v⟩ = .ok a := by
  simp [tagged, Value.record, Except.bind_eq_ok_iff, enter_eq_ok_iff]

end Decode

end SqlLens.Json
