import SqlLens.Node.Json
import SqlLens.Proofs.Json.Record

namespace SqlLens

open Json Decode

variable {d : Node.ChildDecoder} {n : Node} {ns : List Node} {limit : Nat}

-- A list is read back if its items are.
theorem decode_list {α : Type} {encode : α → Value} {decode : Decoder α} {as : List α}
    (hl : (Value.list (as.map encode)).depth < limit)
    (h : ∀ a ∈ as, (encode a).depth < limit - 1 → decode (encode a) = .ok a) :
    Decode.list limit decode (.list (as.map encode)) = .ok as := by
  rw [Value.depth_list_lt_iff, List.forall_mem_map] at hl
  have read : (as.map encode).mapM decode = .ok as := by
    rw [Except.mapM_eq_ok_iff, List.forall₂_map_left_iff, List.forall₂_same]
    exact fun a ha => h a ha (hl.2 a ha)
  simp [Value.list, Decode.list, enter_of_lt hl.1, read, ListEnd.check]

@[simp]
theorem decode_string (s : String) : Decode.string (.string s) = .ok s := rfl

@[simp]
theorem decode_bool (b : Bool) : Decode.bool (.bool b) = .ok b := rfl

theorem decode_texts (ss : List String) (hl : (encodeTexts ss).depth < limit) :
    Decode.list limit string (encodeTexts ss) = .ok ss := by
  rw [encodeTexts] at hl ⊢
  exact decode_list hl fun _ _ _ => rfl

@[simp]
theorem decode_text? (s : Option String) :
    Node.ChildDecoder.text? (.option .string s) = .ok s := by
  cases s <;> rfl

@[simp]
theorem decode_bool? (b : Option Bool) : Decode.option bool (.option .bool b) = .ok b := by
  cases b <;> rfl

@[simp]
theorem SetOp.decode_encode (op : SetOp) : choice limit names op.encode = .ok op := by
  cases op <;> rfl

@[simp]
theorem JoinKind.decode_encode (k : JoinKind) : choice limit names k.encode = .ok k := by
  cases k <;> rfl

@[simp]
theorem OperatorKind.decode_encode (k : OperatorKind) : choice limit names k.encode = .ok k := by
  cases k <;> rfl

@[simp]
theorem SublinkKind.decode_encode (k : SublinkKind) : choice limit names k.encode = .ok k := by
  cases k <;> rfl

@[simp]
theorem SortDir.decode_encode (k : SortDir) : choice limit names k.encode = .ok k := by
  cases k <;> rfl

@[simp]
theorem NullTest.decode_encode (negated : Bool) :
    choice limit names (.string (if negated then "IsNotNull" else "IsNull")) = .ok negated := by
  cases negated <;> rfl

theorem Constant.decode_encode (c : Constant) (hl : c.encode.depth < limit) :
    Constant.decode limit c.encode = .ok c := by
  cases c
  case null => rfl
  all_goals
    have ⟨hl, _⟩ := Value.depth_record_lt_iff.mp hl
    rw [encode, decode, tagged_record hl]
    rfl

namespace Node

theorem encode_ne_null (n : Node) : n.encode ≠ .null := by
  cases n <;> simp [encode, Value.record]

-- The children are read back wherever the record leaves them room.
structure ChildDecoder.Faithful (d : ChildDecoder) : Prop where
  one  : ∀ {n : Node}, n.encode.depth < d.limit - 1 → d.one n.encode = .ok n
  many : ∀ {ns : List Node}, (Value.list (encodeList ns)).depth < d.limit - 1 →
    d.many (.list (encodeList ns)) = .ok ns

namespace ChildDecoder.Faithful

variable (hd : d.Faithful)

include hd

theorem option {n : Option Node} (h : (encodeOption n).depth < d.limit - 1) :
    d.option (encodeOption n) = .ok n := by
  cases n
  case none => rfl
  case some n =>
    rw [encodeOption] at h ⊢
    rw [ChildDecoder.option, Decode.option]
    · simp [hd.one h]
    · exact n.encode_ne_null

end ChildDecoder.Faithful

-- The kinds differ in their fields only: under its tag each has a record, of which every field is
-- read back on its own.
theorem decodeWith_encode (hd : d.Faithful) (hl : d.limit = limit - 1)
    (h : n.encode.depth < limit) : decodeWith limit d n.encode = .ok n := by
  cases n
  case star => rfl
  case truncated => rfl
  case const c =>
    simp only [encode, Value.depth_record_lt_iff, List.forall_mem_singleton, ← hl] at h
    rw [encode, decodeWith, tagged_record h.1]
    simp [Tagged.carrying, c.decode_encode h.2]
  all_goals
    rename_i r
    cases r
    simp only [encode, encodeSelect, Value.depth_record_lt_iff, List.forall_mem_cons, ← hl] at h
    rw [encode, decodeWith, tagged_record h.1]
    simp only [Tagged.carrying, encodeSelect, ChildDecoder.select, ChildDecoder.update,
      ChildDecoder.delete, ChildDecoder.insert, ChildDecoder.table, ChildDecoder.derived,
      ChildDecoder.join, ChildDecoder.withClause, ChildDecoder.cte, ChildDecoder.target,
      ChildDecoder.operator, ChildDecoder.row, ChildDecoder.nullTest, ChildDecoder.call,
      ChildDecoder.sublink, ChildDecoder.column, ChildDecoder.sort, ChildDecoder.other]
    rw [record_eq_setAll h.2.1.1 (by simp [field]) rfl]
    simp [setAll, field, ChildDecoder.choice, ChildDecoder.texts, decode_texts, hd.one, hd.many,
      hd.option, h]

theorem encodeList_eq_map (ns : List Node) : encodeList ns = ns.map encode := by
  induction ns
  case nil => simp [encodeList]
  case cons n ns hi => simp [encodeList, hi]

theorem decode_encode (h : n.encode.depth < limit) : decode limit n.encode = .ok n := by
  induction limit using Nat.strongRecOn generalizing n
  case ind limit hi =>
    rw [decode.eq_def]
    split
    case h_1 k =>
      refine decodeWith_encode ⟨hi (k + 1) (by omega), fun {ns} hl => ?_⟩ rfl h
      rw [encodeList_eq_map] at hl ⊢
      exact decode_list hl fun n _ => hi k (by omega)
    case h_2 _ small =>
      -- No child is left any room.
      have none_fits : limit - 1 - 1 = 0 := by
        by_contra
        exact small (limit - 3) (by omega)
      exact decodeWith_encode ⟨by simp [none_fits], by simp [none_fits]⟩ rfl h

theorem decodeAll_encodeAll (h : (encodeAll ns).depth < limit) :
    decodeAll limit (encodeAll ns) = .ok ns := by
  rw [encodeAll, encodeList_eq_map] at h ⊢
  exact decode_list h fun n _ => decode_encode

-- Every list of statements is what its JSON is read as, so its JSON is that of no other list.
theorem json_round_trip :
    (∀ ns limit, (encodeAll ns).depth < limit → decodeAll limit (encodeAll ns) = .ok ns) ∧
    Function.Injective encodeAll := by
  refine ⟨fun ns limit => decodeAll_encodeAll, fun ns ns' h => ?_⟩
  have read := decodeAll_encodeAll (Nat.lt_succ_self (encodeAll ns).depth)
  rw [h, decodeAll_encodeAll (by simp)] at read
  exact (Except.ok.inj read).symm

-- A query in a condition, with options present and absent and the two kinds without a record.
theorem json_round_trip_sublink :
    let query : Node := .select {
      targetList := [.target { name := some "n", val := some .star }]
      whereClause := some (.sublink {
        kind := .any, operator := some "=", testexpr := some (.const .null)
        subselect := .select { sortClause := [.sort { node := .truncated, nullsFirst := some true }] } }) }
    (encodeAll [query, .star]).depth < depthLimit ∧
    decodeAll depthLimit (encodeAll [query, .star]) = .ok [query, .star] := by
  intro query
  have shallow : (encodeAll [query, .star]).depth < depthLimit := by decide +kernel
  exact ⟨shallow, json_round_trip.1 _ _ shallow⟩

end Node

end SqlLens
