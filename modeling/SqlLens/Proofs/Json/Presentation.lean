import Mathlib.Data.List.Pairwise
import SqlLens.Proofs.Json.Record

namespace SqlLens.Json

namespace Value

-- What is the tree of a text that is nowhere malformed.
inductive Whole : Value → Prop
  | null : Whole .null
  | bool (b : Bool) : Whole (.bool b)
  | number (literal : String) : Whole (.number literal)
  | string (s : String) : Whole (.string s)
  | list {vs : List Value} (items : ∀ v ∈ vs, Whole v) : Whole (.list vs)
  | record {ms : List (String × Value)} (members : ∀ m ∈ ms, Whole m.2) : Whole (.record ms)

theorem skipItems_eq_ok {vs : List Value} (h : ∀ v ∈ vs, v.skip = .ok ()) :
    skipItems vs = .ok () := by
  induction vs
  case nil => rfl
  case cons v vs hi =>
    rw [List.forall_mem_cons] at h
    simp [skipItems, h.1, hi h.2]

theorem skipMembers_eq_ok {ms : List (String × Value)} (h : ∀ m ∈ ms, m.2.skip = .ok ()) :
    skipMembers ms = .ok () := by
  induction ms
  case nil => rfl
  case cons m ms hi =>
    rw [List.forall_mem_cons] at h
    obtain ⟨key, v⟩ := m
    simp [skipMembers, skipMember, h.1, hi h.2]

theorem Whole.skip_eq_ok {v : Value} (h : v.Whole) : v.skip = .ok () := by
  induction h
  case list _ items => simp [Value.list, skip, skipItems_eq_ok items, ListEnd.check]
  case record _ members => simp [Value.record, skip, skipMembers_eq_ok members, ObjectEnd.check]
  all_goals simp [skip]

end Value

-- How the members of an object may be rewritten. Every member belongs to one of `fields`; with a
-- field goes the value that it may be left out with, if there is one. The last list has the values
-- of the members that stay, old and new.
inductive Rewritten (fields : List (String × Option Value)) :
    List (String × Value) → List (String × Value) → List (Value × Value) → Prop
  | nil : Rewritten fields [] [] []
  | keep {key : String} {v w : Value} {ms ks : List (String × Value)} {vs : List (Value × Value)}
      (known : key ∈ fields.map (·.1)) (rest : Rewritten fields ms ks vs) :
      Rewritten fields ((key, v) :: ms) ((key, w) :: ks) ((v, w) :: vs)
  | drop {key : String} {v : Value} {ms ks : List (String × Value)} {vs : List (Value × Value)}
      (default : (key, some v) ∈ fields) (rest : Rewritten fields ms ks vs) :
      Rewritten fields ((key, v) :: ms) ks vs
  | add {key : String} {v : Value} {ms ks : List (String × Value)} {vs : List (Value × Value)}
      (unknown : key ∉ fields.map (·.1)) (whole : v.Whole) (rest : Rewritten fields ms ks vs) :
      Rewritten fields ms ((key, v) :: ks) vs
  | reorder {ms ks ks' : List (String × Value)} {vs : List (Value × Value)}
      (rest : Rewritten fields ms ks vs) (order : ks.Perm ks') : Rewritten fields ms ks' vs

namespace Decode

variable {ρ : Type} {R : Value → Value → Prop} {spec : List (String × Option Value)}
  {blank r r' : ρ} {fields : List (Field ρ)} {f g : Field ρ} {key key' : String} {v w : Value}
  {ms ks : List (String × Value)} {vs : List (Value × Value)}
  {seen seen' : List String} {limit : Nat}

-- The names of the members that belong to a field.
def known (fields : List (Field ρ)) (ms : List (String × Value)) : List String :=
  (ms.map (·.1)).filter fun key => (fields.find? (·.name == key)).isSome

-- Setting one field after the other, in the order of the members.
inductive Sets (fields : List (Field ρ)) : List (String × Value) → ρ → ρ → Prop
  | nil {r : ρ} : Sets fields [] r r
  | pass {key : String} {v : Value} {ms : List (String × Value)} {r r' : ρ}
      (unknown : fields.find? (·.name == key) = none) (skip : v.skip = .ok ())
      (rest : Sets fields ms r r') : Sets fields ((key, v) :: ms) r r'
  | set {f : Field ρ} {key : String} {v : Value} {ms : List (String × Value)} {r r₁ r' : ρ}
      (found : fields.find? (·.name == key) = some f) (set : f.set v r = .ok r₁)
      (rest : Sets fields ms r₁ r') : Sets fields ((key, v) :: ms) r r'

theorem known_cons_of_none (h : fields.find? (·.name == key) = none) :
    known fields ((key, v) :: ms) = known fields ms := by
  simp [known, h]

theorem known_cons_of_some (h : fields.find? (·.name == key) = some f) :
    known fields ((key, v) :: ms) = key :: known fields ms := by
  simp [known, h]

theorem known_perm (h : ms.Perm ks) : (known fields ms).Perm (known fields ks) :=
  (h.map _).filter _

-- Reading members is setting one field after the other, none of them twice.
theorem members_eq_ok_iff (fresh : seen.Nodup) : members fields seen ms r = .ok (seen', r') ↔
    seen' = (known fields ms).reverse ++ seen ∧ seen'.Nodup ∧ Sets fields ms r r' := by
  induction ms generalizing seen r
  case nil =>
    simp only [members, known, Except.ok.injEq, Prod.mk.injEq]
    constructor
    case mp =>
      rintro ⟨rfl, rfl⟩
      exact ⟨rfl, fresh, .nil⟩
    case mpr =>
      rintro ⟨rfl, _, sets⟩
      cases sets
      exact ⟨rfl, rfl⟩
  case cons m ms hi =>
    obtain ⟨key, v⟩ := m
    cases found : fields.find? (·.name == key)
    case none =>
      simp only [members, found, known_cons_of_none found, Except.bind_eq_ok_iff, hi fresh]
      constructor
      case mp =>
        rintro ⟨⟨⟩, skip, rfl, nodup, sets⟩
        exact ⟨rfl, nodup, .pass found skip sets⟩
      case mpr =>
        rintro ⟨rfl, nodup, sets⟩
        cases sets
        case pass _ skip sets => exact ⟨(), skip, rfl, nodup, sets⟩
        case set found' _ _ => simp [found] at found'
    case some f =>
      simp only [members, found, known_cons_of_some found, List.reverse_cons, List.append_assoc,
        List.singleton_append, List.contains_eq_mem, decide_eq_true_eq]
      split
      case isTrue again =>
        simp only [reduceCtorEq, false_iff, not_and]
        rintro rfl nodup
        exact absurd again (List.nodup_cons.mp (List.nodup_append.mp nodup).2.1).1
      case isFalse first =>
        simp only [Except.bind_eq_ok_iff, hi (List.nodup_cons.mpr ⟨first, fresh⟩)]
        constructor
        case mp =>
          rintro ⟨r₁, set, rfl, nodup, sets⟩
          exact ⟨rfl, nodup, .set found set sets⟩
        case mpr =>
          rintro ⟨rfl, nodup, sets⟩
          cases sets
          case pass unknown _ _ => simp [found] at unknown
          case set g r₁ found' set sets =>
            obtain rfl := Option.some.inj (found.symm.trans found')
            exact ⟨r₁, set, rfl, nodup, sets⟩

theorem record_eq_ok_iff : record limit name blank fields (.record ms) = .ok r ↔
    1 < limit ∧ (known fields ms).Nodup ∧
      (∀ f ∈ fields, f.presence = .required → f.name ∈ known fields ms) ∧
      Sets fields ms blank r := by
  have complete : fields.find? (fun f => f.presence == .required &&
      !((known fields ms).reverse ++ []).contains f.name) = none ↔
      ∀ f ∈ fields, f.presence = .required → f.name ∈ known fields ms := by
    simp [List.find?_eq_none]
  simp only [record, Value.record, Except.bind_eq_ok_iff, enter_eq_ok_iff,
    Prod.exists, members_eq_ok_iff List.nodup_nil, ObjectEnd.check]
  constructor
  case mp =>
    rintro ⟨_, hl, seen, r', ⟨rfl, nodup, sets⟩, _, _, h⟩
    split at h
    case h_1 => cases h
    case h_2 found =>
      cases h
      exact ⟨hl, by simpa using nodup, complete.mp found, sets⟩
  case mpr =>
    rintro ⟨hl, nodup, required, sets⟩
    refine ⟨(), hl, _, r, ⟨rfl, by simpa using nodup, sets⟩, (), trivial, ?_⟩
    rw [complete.mpr required]
    rfl

-- Whether reading takes values for the same that `R` takes for the same.
def Indifferent (R : Value → Value → Prop) (decode : Decoder α) : Prop :=
  ∀ ⦃v w a⦄, R v w → decode v = .ok a → decode w = .ok a

namespace Field

-- It does not matter which of two fields is set first.
def Apart (f g : Field ρ) : Prop :=
  ∀ v w r r', (do g.set w (← f.set v r)) = .ok r' ↔ (do f.set v (← g.set w r)) = .ok r'

-- The value, if the field can be set to it at all, is what the record holds already.
def Idle (f : Field ρ) (v : Value) (r : ρ) : Prop := ∀ ⦃r'⦄, f.set v r = .ok r' → r' = r

instance : Std.Symm (@Apart ρ) where
  symm _ _ h := fun v w r r' => (h w v r r').symm

theorem Apart.idle (h : Apart f g) (idle : f.Idle v r) (set : g.set w r = .ok r') :
    f.Idle v r' := by
  intro r₂ set'
  obtain ⟨r₁, again, set''⟩ := Except.bind_eq_ok_iff.mp
    ((h v w r r₂).mpr (Except.bind_eq_ok_iff.mpr ⟨r', set, set'⟩))
  obtain rfl := idle again
  exact Except.ok.inj (set''.symm.trans set)

theorem apart_field {decode : Decoder α} {decode' : Decoder β} {set : ρ → α → ρ} {set' : ρ → β → ρ}
    (h : ∀ r a b, set' (set r a) b = set (set' r b) a) :
    Apart (field key p decode set) (field key' p' decode' set') := by
  intro v w r r'
  simp only [field]
  cases decode v <;> cases decode' w <;> simp [h]

-- How the field that belongs to an entry of a list of fields is read.
structure Fits (R : Value → Value → Prop) (blank : ρ) (entry : String × Option Value)
    (f : Field ρ) : Prop where
  name  : f.name = entry.1
  same  : ∀ ⦃v w r r'⦄, R v w → f.set v r = .ok r' → f.set w r = .ok r'
  spare : ∀ v, entry.2 = some v → f.presence ≠ .required ∧ f.Idle v blank

theorem set_field_eq_ok_iff {decode : Decoder α} {set : ρ → α → ρ} :
    (field key p decode set).set v r = .ok r' ↔ ∃ a, decode v = .ok a ∧ set r a = r' := by
  simp only [field, Except.bind_eq_ok_iff, Except.pure_eq_ok, Except.ok.injEq]

theorem same_field {decode : Decoder α} {set : ρ → α → ρ} (same : Indifferent R decode) (hR : R v w)
    (h : (field key p decode set).set v r = .ok r') :
    (field key p decode set).set w r = .ok r' := by
  obtain ⟨a, h, e⟩ := set_field_eq_ok_iff.mp h
  exact set_field_eq_ok_iff.mpr ⟨a, same hR h, e⟩

theorem fits_required {decode : Decoder α} {set : ρ → α → ρ} (same : Indifferent R decode) :
    Fits R blank (key, none) (field key p decode set) where
  name := rfl
  same _ _ _ _ := same_field same
  spare := nofun

theorem fits_spare {decode : Decoder α} {set : ρ → α → ρ} (same : Indifferent R decode)
    (hp : p ≠ .required) (idle : ∀ a, decode v = .ok a → set blank a = blank) :
    Fits R blank (key, some v) (field key p decode set) where
  name := rfl
  same _ _ _ _ := same_field same
  spare w hw := by
    obtain rfl := Option.some.inj hw
    refine ⟨hp, fun r' h => ?_⟩
    obtain ⟨a, read, rfl⟩ := set_field_eq_ok_iff.mp h
    exact idle a read

end Field

-- Swapping the fields of a record, leaving them out and rewriting their values does not change what
-- is read.
structure Tolerant (R : Value → Value → Prop) (blank : ρ) (spec : List (String × Option Value))
    (fields : List (Field ρ)) : Prop where
  unique : (spec.map (·.1)).Nodup
  fits   : List.Forall₂ (Field.Fits R blank) spec fields
  apart  : fields.Pairwise Field.Apart

namespace Tolerant

variable (ht : Tolerant R blank spec fields)

include ht

theorem names : fields.map (·.name) = spec.map (·.1) := by
  have fits := ht.fits
  clear ht
  induction fits
  case nil => rfl
  case cons fit _ hi => simp [fit.name, hi]

theorem exists_fits {entry : String × Option Value} (h : entry ∈ spec) :
    ∃ f, fields.find? (·.name == entry.1) = some f ∧ f.Fits R blank entry := by
  have ⟨i, hi, e⟩ := List.getElem_of_mem h
  have hi' : i < fields.length := ht.fits.length_eq ▸ hi
  have fit := ht.fits.get hi hi'
  simp only [List.get_eq_getElem, e] at fit
  refine ⟨fields[i], ?_, fit⟩
  rw [← fit.name]
  exact find?_name (ht.names ▸ ht.unique) (List.getElem_mem hi')

theorem find?_eq_none (h : key ∉ spec.map (·.1)) : fields.find? (·.name == key) = none := by
  rw [← ht.names] at h
  simpa using h

theorem apart_of_ne (hf : fields.find? (·.name == key) = some f)
    (hg : fields.find? (·.name == key') = some g) (h : key ≠ key') : f.Apart g := by
  refine ht.apart.forall (List.mem_of_find?_eq_some hf) (List.mem_of_find?_eq_some hg) fun e => ?_
  have hf := List.find?_some hf
  have hg := List.find?_some hg
  simp_all

-- The members may be read in any order.
theorem sets_perm (hp : ms.Perm ks) (nodup : (known fields ms).Nodup)
    (sets : Sets fields ms r r') : Sets fields ks r r' := by
  induction hp generalizing r
  case nil => exact sets
  case cons m _ _ _ hi =>
    cases sets
    case pass none skip sets => exact .pass none skip (hi (known_cons_of_none none ▸ nodup) sets)
    case set found set sets =>
      rw [known_cons_of_some found] at nodup
      exact .set found set (hi (List.nodup_cons.mp nodup).2 sets)
  case swap m m' _ =>
    cases sets
    case pass none skip sets =>
      cases sets
      case pass none' skip' sets => exact .pass none' skip' (.pass none skip sets)
      case set found set sets => exact .set found set (.pass none skip sets)
    case set f key v r₁ found set sets =>
      cases sets
      case pass none skip sets => exact .pass none skip (.set found set sets)
      case set g key' w r₂ found' set' sets =>
        rw [known_cons_of_some found, known_cons_of_some found'] at nodup
        have apart := ht.apart_of_ne found found' (by rintro rfl; simp at nodup)
        have ⟨r₁', set', set⟩ := Except.bind_eq_ok_iff.mp
          ((apart v w _ _).mp (Except.bind_eq_ok_iff.mpr ⟨r₁, set, set'⟩))
        exact .set found' set' (.set found set sets)
  case trans hp _ hi hi' => exact hi' ((known_perm hp).nodup_iff.mp nodup) (hi nodup sets)

-- Rewriting brings in no member of a field and no second member of any.
theorem known_rewritten (h : Rewritten spec ms ks vs) :
    known fields ks ⊆ known fields ms ∧ ((known fields ms).Nodup → (known fields ks).Nodup) := by
  induction h
  case nil => simp
  case keep known _ hi =>
    obtain ⟨entry, he, rfl⟩ := List.mem_map.mp known
    have ⟨f, found, _⟩ := ht.exists_fits he
    rw [known_cons_of_some found, known_cons_of_some found]
    refine ⟨List.cons_subset_cons _ hi.1, fun nodup => ?_⟩
    rw [List.nodup_cons] at nodup ⊢
    exact ⟨fun h => nodup.1 (hi.1 h), hi.2 nodup.2⟩
  case drop default _ hi =>
    have ⟨f, found, _⟩ := ht.exists_fits default
    rw [known_cons_of_some found]
    exact ⟨List.subset_cons_of_subset _ hi.1, fun nodup => hi.2 (List.nodup_cons.mp nodup).2⟩
  case add unknown _ _ hi =>
    rw [known_cons_of_none (ht.find?_eq_none unknown)]
    exact hi
  case reorder order hi =>
    have perm : (known fields _).Perm (known fields _) := known_perm order
    exact ⟨List.Subset.trans perm.symm.subset hi.1, fun nodup => perm.nodup_iff.mp (hi.2 nodup)⟩

-- Rewriting takes away no required member.
theorem required_rewritten (h : Rewritten spec ms ks vs)
    (found : fields.find? (·.name == key) = some f) (required : f.presence = .required)
    (hk : key ∈ known fields ms) : key ∈ known fields ks := by
  induction h
  case nil => exact hk
  case keep known _ hi =>
    obtain ⟨entry, he, rfl⟩ := List.mem_map.mp known
    have ⟨f', found', _⟩ := ht.exists_fits he
    rw [known_cons_of_some found', List.mem_cons] at hk ⊢
    exact hk.imp_right hi
  case drop default _ hi =>
    have ⟨f', found', fits⟩ := ht.exists_fits default
    rw [known_cons_of_some found', List.mem_cons] at hk
    obtain rfl | hk := hk
    · obtain rfl := Option.some.inj (found.symm.trans found')
      exact absurd required (fits.spare _ rfl).1
    · exact hi hk
  case add unknown _ _ hi =>
    rw [known_cons_of_none (ht.find?_eq_none unknown)]
    exact hi hk
  case reorder order hi => exact (known_perm order).subset (hi hk)

-- Fields that are still to be set hold what they may be left out with.
theorem sets_rewritten (h : Rewritten spec ms ks vs) (same : ∀ v ∈ vs, R v.1 v.2)
    (nodup : (known fields ms).Nodup) (idle : ∀ key v f, (key, some v) ∈ spec →
      key ∈ known fields ms → fields.find? (·.name == key) = some f → f.Idle v r)
    (sets : Sets fields ms r r') : Sets fields ks r r' := by
  induction h generalizing r
  case nil => exact sets
  case keep key v w ms ks vs known _ hi =>
    rw [List.forall_mem_cons] at same
    obtain ⟨entry, he, rfl⟩ := List.mem_map.mp known
    have ⟨f, found, fits⟩ := ht.exists_fits he
    rw [known_cons_of_some found, List.nodup_cons] at nodup
    cases sets
    case pass none _ _ => simp [found] at none
    case set f' r₁ found' set sets =>
      obtain rfl := Option.some.inj (found.symm.trans found')
      refine .set found (fits.same same.1 set) (hi same.2 nodup.2 ?_ sets)
      intro key v' g hd hk hg
      have apart := ht.apart_of_ne hg found (by rintro rfl; exact nodup.1 hk)
      refine apart.idle (idle key v' g hd ?_ hg) set
      rw [known_cons_of_some found]
      exact List.mem_cons_of_mem _ hk
  case drop key v ms ks vs default _ hi =>
    have ⟨f, found, fits⟩ := ht.exists_fits default
    rw [known_cons_of_some found] at nodup idle
    cases sets
    case pass none _ _ => simp [found] at none
    case set f' r₁ found' set sets =>
      obtain rfl := Option.some.inj (found.symm.trans found')
      obtain rfl := idle key v f default List.mem_cons_self found set
      exact hi same (List.nodup_cons.mp nodup).2
        (fun key v g hd hk => idle key v g hd (List.mem_cons_of_mem _ hk)) sets
  case add unknown whole _ hi =>
    exact .pass (ht.find?_eq_none unknown) whole.skip_eq_ok (hi same nodup idle sets)
  case reorder rest order hi =>
    exact ht.sets_perm order ((ht.known_rewritten rest).2 nodup) (hi same nodup idle sets)

theorem record_rewritten (h : Rewritten spec ms ks vs) (same : ∀ v ∈ vs, R v.1 v.2)
    (read : record limit name blank fields (.record ms) = .ok r) :
    record limit name blank fields (.record ks) = .ok r := by
  rw [record_eq_ok_iff] at read ⊢
  obtain ⟨hl, nodup, required, sets⟩ := read
  refine ⟨hl, (ht.known_rewritten h).2 nodup, fun f hf hr => ?_,
    ht.sets_rewritten h same nodup ?_ sets⟩
  · have found := find?_name (ht.names ▸ ht.unique) hf
    exact ht.required_rewritten h found hr (required f hf hr)
  · intro key v f default _ found
    obtain ⟨f', found', fits⟩ := ht.exists_fits default
    obtain rfl := Option.some.inj (found.symm.trans found')
    exact (fits.spare v rfl).2

end Tolerant

end Decode

end SqlLens.Json
