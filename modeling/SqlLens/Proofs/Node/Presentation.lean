import SqlLens.Proofs.Json.Presentation
import SqlLens.Proofs.Node.Json

namespace SqlLens

open Json Decode

variable {d : Node.ChildDecoder} {limit : Nat}

namespace Node

-- The fields of the record of a kind. With a field goes the value that it may be left out with; the
-- others have to be there.
def schema : String → Option (List (String × Option Value))
  | "Select" => some [
    ("op", some (.string "None")), ("all", some (.bool false)), ("distinct", some (.bool false)),
    ("distinctClause", some (.list [])), ("targetList", some (.list [])),
    ("fromClause", some (.list [])), ("whereClause", some .null), ("groupClause", some (.list [])),
    ("havingClause", some .null), ("sortClause", some (.list [])), ("limitCount", some .null),
    ("limitOffset", some .null), ("withClause", some .null), ("larg", some .null),
    ("rarg", some .null)]
  | "Update" => some [
    ("relation", none), ("targetList", some (.list [])), ("fromClause", some (.list [])),
    ("whereClause", some .null)]
  | "DeleteFrom" => some [("relation", none), ("whereClause", some .null)]
  | "InsertInto" => some [
    ("relation", none), ("cols", some (.list [])), ("selectStmt", some .null)]
  | "RangeVar" => some [("schemaname", some .null), ("relname", none), ("alias", some .null)]
  | "RangeSubselect" => some [
    ("lateral", some (.bool false)), ("subquery", none), ("alias", some .null)]
  | "JoinExpr" => some [
    ("jointype", some (.string "Inner")), ("isNatural", some (.bool false)), ("larg", none),
    ("rarg", none), ("usingClause", some (.list [])), ("quals", some .null)]
  | "WithClause" => some [("recursive", some (.bool false)), ("ctes", some (.list []))]
  | "CommonTableExpr" => some [
    ("ctename", none), ("aliascolnames", some (.list [])), ("ctequery", none)]
  | "ResTarget" => some [("name", some .null), ("val", some .null)]
  | "AExpr" => some [
    ("kind", none), ("name", some (.string "")), ("lexpr", some .null), ("rexpr", some .null)]
  | "Row" => some [("args", some (.list []))]
  | "NullTest" => some [("arg", none), ("nulltesttype", none)]
  | "FuncCall" => some [
    ("funcname", some (.string "")), ("args", some (.list [])), ("agg_order", some (.list [])),
    ("agg_filter", some .null), ("agg_within_group", some (.bool false)),
    ("agg_star", some (.bool false)), ("agg_distinct", some (.bool false))]
  | "SubLink" => some [
    ("subLinkType", none), ("operName", some .null), ("testexpr", some .null),
    ("subselect", none)]
  | "ColumnRef" => some [("fields", some (.list []))]
  | "SortBy" => some [
    ("node", none), ("dir", some (.string "Default")), ("nulls_first", some .null)]
  | "Other" => some [("kind", none), ("sql", some .null)]
  | _ => none

-- Two values that differ only in how the records of nodes are laid out.
inductive Restated : Value → Value → Prop
  | same (v : Value) : Restated v v
  | list {vs ws : List Value} (items : List.Forall₂ Restated vs ws) :
      Restated (.list vs) (.list ws)
  | record {tag : String} {fields : List (String × Option Value)}
      {ms ks : List (String × Value)} {vs : List (Value × Value)}
      (kind : schema tag = some fields) (members : Rewritten fields ms ks vs)
      (values : ∀ v ∈ vs, Restated v.1 v.2) :
      Restated (.record [(tag, .record ms)]) (.record [(tag, .record ks)])

theorem indifferent_string : Indifferent Restated string := by
  intro v w a h read
  cases h
  case same => exact read
  all_goals cases read

theorem indifferent_bool : Indifferent Restated bool := by
  intro v w a h read
  cases h
  case same => exact read
  all_goals cases read

theorem indifferent_choice {α : Type} (known : List (String × α)) :
    Indifferent Restated (d.choice known) := by
  intro v w a h read
  cases h
  case same => exact read
  case list => cases read
  case record =>
    -- No alternative carries a record.
    simp only [ChildDecoder.choice, choice, tagged_record_eq_ok_iff] at read
    have read := read.2
    split at read
    case h_1 => cases read
    case h_2 => cases read

theorem indifferent_option {α : Type} {decode : Decoder α} (h : Indifferent Restated decode) :
    Indifferent Restated (Decode.option decode) := by
  intro v w a restated read
  cases restated
  case same => exact read
  case list items =>
    simp only [Decode.option, Value.list, Except.bind_eq_ok_iff] at read ⊢
    obtain ⟨a, read, e⟩ := read
    exact ⟨a, h (.list items) read, e⟩
  case record kind members values =>
    simp only [Decode.option, Value.record, Except.bind_eq_ok_iff] at read ⊢
    obtain ⟨a, read, e⟩ := read
    exact ⟨a, h (.record kind members values) read, e⟩

theorem indifferent_list {α : Type} {decode : Decoder α} (limit : Nat)
    (h : Indifferent Restated decode) : Indifferent Restated (Decode.list limit decode) := by
  intro v w as restated read
  cases restated
  case same => exact read
  case record => cases read
  case list vs ws items =>
    simp only [Decode.list, Value.list, Except.bind_eq_ok_iff, Except.mapM_eq_ok_iff] at read ⊢
    obtain ⟨u, entered, as', read, rest⟩ := read
    refine ⟨u, entered, as', ?_, rest⟩
    clear rest
    induction items generalizing as'
    case nil => exact read
    case cons restated _ hi =>
      cases read
      case cons read reads => exact .cons (h restated read) (hi _ reads)

-- Children are read from restated values as from the original ones.
structure ChildDecoder.Lenient (d : ChildDecoder) : Prop where
  one   : Indifferent Restated d.one
  many  : Indifferent Restated d.many
  empty : ∀ {ns : List Node}, d.many (.list []) = .ok ns → ns = []

section Fits

variable {ρ : Type} {blank : ρ} {key : String} {p : Presence}

theorem fits_string {set : ρ → String → ρ} (hp : p ≠ .required) (h : set blank s = blank) :
    Field.Fits Restated blank (key, some (.string s)) (field key p string set) :=
  Field.fits_spare indifferent_string hp (by rintro _ ⟨⟩; exact h)

theorem fits_bool {set : ρ → Bool → ρ} (hp : p ≠ .required) (h : set blank b = blank) :
    Field.Fits Restated blank (key, some (.bool b)) (field key p bool set) :=
  Field.fits_spare indifferent_bool hp (by rintro _ ⟨⟩; exact h)

theorem fits_choice {α : Type} {known : List (String × α)} {set : ρ → α → ρ}
    (hp : p ≠ .required) (h : (known.find? (·.1 == s)).map (fun a => set blank a.2) = some blank) :
    Field.Fits Restated blank (key, some (.string s)) (field key p (d.choice known) set) := by
  refine Field.fits_spare (indifferent_choice known) hp fun a read => ?_
  simp only [ChildDecoder.choice, choice, tagged] at read
  obtain ⟨⟨name, a'⟩, found, e⟩ := Option.map_eq_some_iff.mp h
  rw [found] at read
  cases read
  exact e

theorem fits_null {α : Type} {decode : Decoder α} {set : ρ → Option α → ρ}
    (same : Indifferent Restated decode) (hp : p ≠ .required) (h : set blank none = blank) :
    Field.Fits Restated blank (key, some .null) (field key p (Decode.option decode) set) :=
  Field.fits_spare (indifferent_option same) hp (by rintro _ ⟨⟩; exact h)

theorem eq_nil_of_decode_list {α : Type} {decode : Decoder α} {as : List α}
    (h : Decode.list limit decode (.list []) = .ok as) : as = [] := by
  simp only [Decode.list, Value.list, Except.bind_eq_ok_iff] at h
  obtain ⟨_, _, _, ⟨⟩, _, _, ⟨⟩⟩ := h
  rfl

theorem fits_texts {set : ρ → List String → ρ} (hp : p ≠ .required) (h : set blank [] = blank) :
    Field.Fits Restated blank (key, some (.list [])) (field key p d.texts set) := by
  refine Field.fits_spare (indifferent_list _ indifferent_string) hp fun ss read => ?_
  rw [eq_nil_of_decode_list read, h]

theorem fits_many (hd : d.Lenient) {set : ρ → List Node → ρ} (hp : p ≠ .required)
    (h : set blank [] = blank) :
    Field.Fits Restated blank (key, some (.list [])) (field key p d.many set) := by
  refine Field.fits_spare hd.many hp fun ns read => ?_
  rw [hd.empty read, h]

end Fits

-- The kinds differ in their fields only: none of the fields sees the others, and each holds what it
-- may be left out with before it is set.
theorem decodeWith_restated (hd : d.Lenient) : Indifferent Restated (decodeWith limit d) := by
  intro v w n restated read
  cases restated
  case same => exact read
  case list => cases read
  case record tag fields ms ks vs kind members values =>
    rw [decodeWith, tagged_record_eq_ok_iff] at read ⊢
    obtain ⟨hl, read⟩ := read
    refine ⟨hl, ?_⟩
    unfold schema at kind
    split at kind
    case h_19 => cases kind
    all_goals
      obtain rfl := Option.some.inj kind
      simp only [Tagged.carrying, Except.bind_eq_ok_iff] at read ⊢
      obtain ⟨r, read, e⟩ := read
      refine ⟨r, Tolerant.record_rewritten ?_ members values read, e⟩
      constructor
      case unique => simp
      case apart => simp [Field.apart_field]
      case fits =>
        simp [Field.fits_required, fits_string, fits_bool, fits_choice, fits_null, fits_texts,
          fits_many hd, hd.one, indifferent_string, indifferent_bool, indifferent_choice,
          ChildDecoder.option, ChildDecoder.text?, SetOp.names, JoinKind.names, SortDir.names]

theorem indifferent_decode (limit : Nat) : Indifferent Restated (decode limit) := by
  induction limit using Nat.strongRecOn
  case ind limit hi =>
    rw [decode.eq_def]
    split
    case h_1 k =>
      refine decodeWith_restated ⟨hi (k + 1) (by omega), ?_, eq_nil_of_decode_list⟩
      exact indifferent_list _ (hi k (by omega))
    case h_2 => exact decodeWith_restated ⟨nofun, nofun, nofun⟩

-- Whatever layout the records of a tree are given, the tree is what is read; so are the statements
-- of a list from every text that spells their trees so.
theorem decode_of_restated :
    (∀ n w limit, n.encode.depth < limit → Restated n.encode w → decode limit w = .ok n) ∧
    (∀ ns w text, (encodeAll ns).depth < depthLimit → Restated (encodeAll ns) w →
      Json.read text = ⟨w, false⟩ → ofJson text = .ok ns) := by
  constructor
  case left =>
    intro n w limit h restated
    exact indifferent_decode limit restated (decode_encode h)
  case right =>
    intro ns w text h restated spelled
    have read : decodeAll depthLimit w = .ok ns :=
      indifferent_list _ (indifferent_decode _) restated (decodeAll_encodeAll h)
    simp [ofJson, spelled, Document.decode, read]

-- Fields of three records are swapped, left out and added; the innermost of them as a text.
theorem decode_of_restated_update :
    let table : Node := .table { name := "t", aliasName := some "u" }
    let update : Node := .update {
      relation := table, targetList := [.target { name := some "a" }] }
    let inner : Value := .record [("RangeVar", .record [
      ("alias", .string "u"), ("relname", .string "t")])]
    let value : Value := .record [("Update", .record [
      ("targetList", .list [
        .record [("ResTarget", .record [("note", .list [.null]), ("name", .string "a")])]]),
      ("relation", inner)])]
    Restated update.encode value ∧ decode depthLimit value = .ok update ∧
    ofJson "[\x7b\"RangeVar\": \x7b\"alias\":\"u\", \"relname\":\"t\"\x7d\x7d]" = .ok [table] := by
  intro table update inner value
  have swapped : Restated table.encode inner :=
    .record rfl
      (.reorder (.drop (by simp [Value.option]) (.keep (by simp) (.keep (by simp) .nil)))
        (.swap ..))
      (by simp [Restated.same, Value.option])
  have target : Restated (Node.target { name := some "a" }).encode
      (.record [("ResTarget", .record [("note", .list [.null]), ("name", .string "a")])]) :=
    .record rfl
      (.add (by simp) (.list (by simp [Value.Whole.null]))
        (.keep (by simp) (.drop (by simp [encodeOption]) .nil)))
      (by simp [Restated.same, Value.option])
  have restated : Restated update.encode value :=
    .record rfl
      (.reorder (.keep (by simp) (.keep (by simp) (.drop (by simp [encodeList])
        (.drop (by simp [encodeOption]) .nil)))) (.swap ..))
      (by simpa using ⟨swapped, .list (.cons target .nil)⟩)
  refine ⟨restated, decode_of_restated.1 _ _ _ (by decide +kernel) restated, ?_⟩
  refine decode_of_restated.2 [table] (.list [inner]) _ (by decide +kernel)
    (.list (.cons swapped .nil)) ?_
  cbv

end Node

end SqlLens
