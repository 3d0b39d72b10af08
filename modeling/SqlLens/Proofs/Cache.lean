import Mathlib.Data.Finset.Card
import Mathlib.Data.Finset.Image
import SqlLens.Cache
import SqlLens.Proofs.Except
import SqlLens.Proofs.Lookup

namespace SqlLens.Cache

-- No two of the keys have the same hash.
def CollisionFree (hash : Key → UInt64) (keys : List Key) : Prop :=
  ∀ k ∈ keys, ∀ k' ∈ keys, hash k = hash k' → k = k'

instance (hash : Key → UInt64) (keys : List Key) : Decidable (CollisionFree hash keys) :=
  inferInstanceAs (Decidable (∀ k ∈ keys, ∀ k' ∈ keys, hash k = hash k' → k = k'))

-- A text that is asked for, and what goes if the cache is full by then.
structure Call where
  eviction : Eviction
  key      : Key

-- An insertion, and what goes if the cache is full by then.
structure Write extends Call where
  statements : List Node

-- The cache after one insertion after the other.
def writeAll (c : Cache) (ws : List Write) : Cache :=
  ws.foldl (fun c w => c.insert w.eviction w.key w.statements) c

-- The statements that were inserted last for a key.
def latest? (ws : List Write) (k : Key) : Option (List Node) :=
  (ws.reverse.find? (·.key = k)).map (·.statements)

-- The keys that one cache has and the other has not.
def lost (keys : List Key) (c c' : Cache) : Finset Key :=
  keys.toFinset.filter fun k => (c.get? k).isSome ∧ (c'.get? k).isNone

-- The answers to one call after the other, and the cache that they leave.
def parseAll (c : Cache) : List Call → List (Except Error (List Node)) × Cache
  | [] => ([], c)
  | call :: rest =>
    let (answer, c) := c.parse call.eviction call.key
    let (answers, c) := c.parseAll rest
    (answer :: answers, c)

variable {c : Cache} {e : Eviction} {k k' : Key} {v v' : List Node} {gone : List UInt64}
  {entries : List (UInt64 × List Node)} {h : UInt64} {w : Write} {ws : List Write}
  {keys : List Key} {hash : Key → UInt64} {maxSize : Nat} {call : Call} {calls : List Call}

theorem lookup_filter : (entries.filter fun e => !gone.contains e.1).lookup h =
    if h ∈ gone then none else entries.lookup h := by
  induction entries
  case nil => simp
  case cons entry rest hi =>
    rw [List.filter_cons, lookup_cons]
    split <;> simp_all [lookup_cons] <;> grind

theorem isSome_get?_iff : (c.get? k).isSome ↔ c.hash k ∈ c.hashes := by
  simp [get?, hashes, List.lookup_isSome_iff]

theorem get?_put : (c.put k v).get? k' = if c.hash k' = c.hash k then some v else c.get? k' := by
  by_cases present : c.hash k ∈ c.hashes
  case pos =>
    obtain ⟨u, hu⟩ := Option.isSome_iff_exists.mp (isSome_get?_iff.mpr present)
    rw [get?] at hu
    simp only [put, List.contains_eq_mem, present, decide_true, if_true, get?, lookup_overwrite, hu,
      Option.map_some]
  case neg =>
    have absent : c.entries.lookup (c.hash k) = none := by
      rw [← Option.not_isSome_iff_eq_none]
      exact mt isSome_get?_iff.mp present
    simp only [put, List.contains_eq_mem, present, decide_false, Bool.false_eq_true, if_false, get?,
      List.lookup_append, lookup_cons, List.lookup_nil]
    split
    case isTrue h => simp [h, absent]
    case isFalse => simp

-- All that an insertion does to what is found.
theorem get?_insert : (c.insert e k v).get? k' =
    if c.hash k' = c.hash k then some v
    else if c.hash k' ∈ c.evicted e then none else c.get? k' := by
  have kept : (c.makeRoom e).get? k' = if c.hash k' ∈ c.evicted e then none else c.get? k' :=
    lookup_filter
  rw [insert, get?_put, kept]
  rfl

@[simp]
theorem hash_insert : (c.insert e k v).hash = c.hash := by
  simp only [insert, put]
  split <;> rfl

@[simp]
theorem maxSize_insert : (c.insert e k v).maxSize = c.maxSize := by
  simp only [insert, put]
  split <;> rfl

theorem size_put : (c.put k v).size = if c.hash k ∈ c.hashes then c.size else c.size + 1 := by
  simp only [put, List.contains_eq_mem, decide_eq_true_eq]
  split <;> simp [size]

theorem length_evicted_le : (c.evicted e).length ≤ c.maxSize / 2 := by
  unfold evicted
  split
  case isTrue => simp [e.pick_length]
  case isFalse => simp

theorem evicted_of_maxSize_le_one (h : c.maxSize ≤ 1) : c.evicted e = [] := by
  have := c.length_evicted_le (e := e)
  rw [← List.length_eq_zero_iff]
  omega

-- As many entries go as there are hashes to go by, if not more.
theorem size_makeRoom_le : (c.makeRoom e).size + (c.evicted e).length ≤ c.size := by
  let goes (h : UInt64) : Bool := (c.evicted e).contains h
  have chosen : (c.evicted e).Sublist c.hashes := by
    unfold evicted
    split
    case isTrue => exact e.pick_sub _ _
    case isFalse => exact List.nil_sublist _
  have all : (c.evicted e).filter goes = c.evicted e := by simp [goes]
  have going : (c.evicted e).length ≤ (c.entries.filter (goes ·.1)).length := by
    have := (chosen.filter goes).length_le
    rwa [all, hashes, List.filter_map, List.length_map] at this
  have split : c.size = (c.entries.filter (goes ·.1)).length + (c.makeRoom e).size :=
    List.length_eq_length_filter_add fun entry : UInt64 × List Node => goes entry.1
  omega

-- A full cache has room for one entry after it has given up half of its bound.
theorem size_insert_le (h : 2 ≤ c.maxSize) (hs : c.size ≤ c.maxSize) :
    (c.insert e k v).size ≤ c.maxSize := by
  have room := c.size_makeRoom_le (e := e)
  have one : (c.insert e k v).size ≤ (c.makeRoom e).size + 1 := by
    rw [insert, size_put]
    split <;> omega
  by_cases full : c.maxSize ≤ c.size
  case pos =>
    have half : (c.evicted e).length = c.maxSize / 2 := by
      have : c.hashes.length = c.size := List.length_map _
      rw [evicted, if_pos full, e.pick_length]
      omega
    omega
  case neg => omega

theorem insert_of_maxSize_le_one (h : c.maxSize ≤ 1) : c.insert e k v = c.put k v := by
  have room : c.makeRoom e = c := by simp [makeRoom, evicted_of_maxSize_le_one h, erase]
  rw [insert, room]

theorem latest?_concat (ws : List Write) (w : Write) (k : Key) :
    latest? (ws ++ [w]) k = if w.key = k then some w.statements else latest? ws k := by
  by_cases h : w.key = k <;> simp [latest?, h]

theorem isSome_latest?_iff : (latest? ws k).isSome ↔ k ∈ ws.map (·.key) := by
  simp [latest?]

theorem card_keys_concat (ws : List Write) (w : Write) :
    ((ws ++ [w]).map (·.key)).toFinset.card =
      if w.key ∈ ws.map (·.key) then (ws.map (·.key)).toFinset.card
      else (ws.map (·.key)).toFinset.card + 1 := by
  have keys : ((ws ++ [w]).map (·.key)).toFinset =
      Insert.insert w.key (ws.map (·.key)).toFinset := by
    ext k
    simp
  rw [keys, Finset.card_insert_eq_ite]
  simp only [List.mem_toFinset]

section CollisionFree

variable (free : CollisionFree hash keys) (hc : c.hash = hash)

include free hc

-- Other keys find what they found before, unless it went.
theorem get?_insert_of_ne (hk : k ∈ keys) (hk' : k' ∈ keys) (ne : k' ≠ k) :
    (c.insert e k v).get? k' = if hash k' ∈ c.evicted e then none else c.get? k' := by
  have apart : hash k' ≠ hash k := fun same => ne (free k' hk' k hk same)
  rw [get?_insert, hc, if_neg apart]

-- A key that is not found any more is one of those that went.
theorem card_lost_le : (lost keys c (c.insert e k v)).card ≤ c.maxSize / 2 := by
  have mem_lost {k' : Key} (h : k' ∈ lost keys c (c.insert e k v)) :
      k' ∈ keys ∧ (c.get? k').isSome ∧ (c.insert e k v).get? k' = none := by
    simpa [lost] using h
  calc (lost keys c (c.insert e k v)).card
    _ ≤ (c.evicted e).toFinset.card := by
      refine Finset.card_le_card_of_injOn hash ?went ?apart
      case went =>
        intro k' hk'
        obtain ⟨_, before, after⟩ := mem_lost hk'
        by_contra stays
        have stays : hash k' ∉ c.evicted e := by simpa using stays
        rw [get?_insert, hc, if_neg stays] at after
        split at after
        case isTrue => cases after
        case isFalse => simp [after] at before
      case apart =>
        intro k₁ h₁ k₂ h₂ same
        exact free k₁ (mem_lost h₁).1 k₂ (mem_lost h₂).1 same
    _ ≤ (c.evicted e).length := List.toFinset_card_le _
    _ ≤ c.maxSize / 2 := length_evicted_le

end CollisionFree

-- A cache of this bound after these insertions.
structure Recorded (maxSize : Nat) (hash : Key → UInt64) (keys : List Key) (ws : List Write)
    (c : Cache) : Prop where
  maxSize_eq : c.maxSize = maxSize
  hash_eq    : c.hash = hash
  latest     : ∀ k ∈ keys, ∀ v, c.get? k = some v → latest? ws k = some v
  bound      : 2 ≤ maxSize → c.size ≤ maxSize
  complete   : maxSize ≤ 1 → ∀ k ∈ keys, c.get? k = latest? ws k
  distinct   : maxSize ≤ 1 → c.size = (ws.map (·.key)).toFinset.card

theorem Recorded.insert (free : CollisionFree hash keys) (hw : w.key ∈ keys)
    (r : Recorded maxSize hash keys ws c) :
    Recorded maxSize hash keys (ws ++ [w]) (c.insert w.eviction w.key w.statements) where
  maxSize_eq := by rw [maxSize_insert, r.maxSize_eq]
  hash_eq := by rw [hash_insert, r.hash_eq]
  latest := by
    intro k hk v found
    rw [latest?_concat]
    by_cases same : w.key = k
    case pos =>
      rw [if_pos same]
      simpa [get?_insert, same] using found
    case neg =>
      rw [if_neg same]
      rw [get?_insert_of_ne free r.hash_eq hw hk (Ne.symm same)] at found
      split at found
      case isTrue => cases found
      case isFalse => exact r.latest k hk v found
  bound := by
    intro h
    have small := size_insert_le (e := w.eviction) (k := w.key) (v := w.statements)
      (r.maxSize_eq ▸ h) (r.maxSize_eq ▸ r.bound h)
    rwa [r.maxSize_eq] at small
  complete := by
    intro h k hk
    have stays : c.evicted w.eviction = [] := evicted_of_maxSize_le_one (r.maxSize_eq ▸ h)
    rw [latest?_concat]
    by_cases same : w.key = k
    case pos => simp [get?_insert, same]
    case neg =>
      rw [get?_insert_of_ne free r.hash_eq hw hk (Ne.symm same), if_neg same, stays]
      simp [r.complete h k hk]
  distinct := by
    intro h
    have known : c.hash w.key ∈ c.hashes ↔ w.key ∈ ws.map (·.key) := by
      rw [← isSome_get?_iff, r.complete h _ hw, isSome_latest?_iff]
    rw [insert_of_maxSize_le_one (r.maxSize_eq ▸ h), size_put, card_keys_concat,
      r.distinct h]
    simp only [known]

theorem recorded_writeAll (free : CollisionFree hash keys) (used : ∀ w ∈ ws, w.key ∈ keys) :
    Recorded maxSize hash keys ws (writeAll { maxSize, hash } ws) := by
  induction ws using List.reverseRecOn
  case nil => constructor <;> simp [writeAll, latest?, get?, size]
  case append_singleton ws w hi =>
    have before := hi fun w' hw' => used w' (List.mem_append_left _ hw')
    rw [writeAll, List.foldl_concat]
    exact before.insert free (used w (by simp))

-- After any insertions, of whatever entries each of them made go: what is found was inserted last;
-- the next insertion is found, takes at most half of the bound away and changes no other key; the
-- bound is kept if it is two or more, and else everything is.
theorem bounded_store (maxSize : Nat) (hash : Key → UInt64) (keys : List Key)
    (free : CollisionFree hash keys) (ws : List Write) (used : ∀ w ∈ ws, w.key ∈ keys) :
    let c := writeAll { maxSize, hash } ws
    (∀ k ∈ keys, ∀ v, c.get? k = some v → latest? ws k = some v) ∧
    (∀ e, ∀ k ∈ keys, ∀ v, (c.insert e k v).get? k = some v ∧
      (lost keys c (c.insert e k v)).card ≤ maxSize / 2 ∧
      ∀ k' ∈ keys, k' ≠ k → (c.insert e k v).get? k' = none ∨
        (c.insert e k v).get? k' = c.get? k') ∧
    (2 ≤ maxSize → c.size ≤ maxSize) ∧
    (maxSize ≤ 1 → (∀ k ∈ keys, c.get? k = latest? ws k) ∧
      c.size = (ws.map (·.key)).toFinset.card) := by
  intro c
  have r : Recorded maxSize hash keys ws c := recorded_writeAll free used
  refine ⟨r.latest, ?insertion, r.bound, fun h => ⟨r.complete h, r.distinct h⟩⟩
  case insertion =>
    intro e k hk v
    refine ⟨by simp [get?_insert], r.maxSize_eq ▸ card_lost_le free r.hash_eq, ?others⟩
    case others =>
      intro k' hk' ne
      rw [get?_insert_of_ne free r.hash_eq hk hk' ne]
      split
      case isTrue => exact .inl rfl
      case isFalse => exact .inr rfl

-- A full cache in which a key that is there is inserted again: the key itself goes first, and the
-- other one stays.
theorem bounded_store_again :
    let a : Key := ⟨"SELECT 1", .generic⟩
    let b : Key := ⟨"SELECT 1", .mysql⟩
    let hash : Key → UInt64 := fun k => if k.dialect = .mysql then 1 else 0
    let ws : List Write := [⟨⟨.oldest, a⟩, []⟩, ⟨⟨.oldest, b⟩, [.star]⟩]
    let c := writeAll { maxSize := 2, hash } ws
    let c' := c.insert .oldest a [.truncated]
    CollisionFree hash [a, b] ∧ c.size ≤ 2 ∧ c'.get? a = some [.truncated] ∧
      (lost [a, b] c c').card ≤ 1 ∧ (c'.get? b = none ∨ c'.get? b = c.get? b) := by
  intro a b hash ws c c'
  have free : CollisionFree hash [a, b] := by decide +kernel
  have used : ∀ w ∈ ws, w.key ∈ [a, b] := by decide +kernel
  obtain ⟨_, insertion, bound, _⟩ := bounded_store 2 hash [a, b] free ws used
  obtain ⟨found, few, others⟩ := insertion .oldest a (by simp) [.truncated]
  exact ⟨free, bound (by simp), found, few, others b (by simp) (by decide +kernel)⟩

-- Whatever is found for one of the keys is what its text is parsed as.
def Truthful (keys : List Key) (c : Cache) : Prop :=
  ∀ k ∈ keys, ∀ v, c.get? k = some v → Node.ofSql k.dialect k.text = .ok v

-- All that a call can do: it finds the statements and leaves the cache, or it parses the text and
-- stores what it gets, or it fails and leaves the cache.
theorem parse_cases (c : Cache) (e : Eviction) (k : Key) :
    (∃ v, c.get? k = some v ∧ c.parse e k = (.ok v, c)) ∨
    (∃ v, Node.ofSql k.dialect k.text = .ok v ∧ c.parse e k = (.ok v, c.insert e k v)) ∨
    (∃ fault, Node.ofSql k.dialect k.text = .error fault ∧ c.parse e k = (.error fault, c)) := by
  unfold parse
  cases found : c.get? k
  case some v => exact .inl ⟨v, rfl, rfl⟩
  case none =>
    cases parsed : Node.ofSql k.dialect k.text
    case ok v => exact .inr (.inl ⟨v, rfl, rfl⟩)
    case error fault => exact .inr (.inr ⟨fault, rfl, rfl⟩)

theorem Truthful.insert (free : CollisionFree c.hash keys) (hk : k ∈ keys) (t : Truthful keys c)
    (parsed : Node.ofSql k.dialect k.text = .ok v) : Truthful keys (c.insert e k v) := by
  intro k' hk' v' found
  by_cases same : k' = k
  case pos =>
    subst same
    have : v = v' := by simpa [get?_insert] using found
    exact this ▸ parsed
  case neg =>
    rw [get?_insert_of_ne free rfl hk hk' same] at found
    split at found
    case isTrue => cases found
    case isFalse => exact t k' hk' v' found

theorem Truthful.parse (free : CollisionFree c.hash keys) (hk : k ∈ keys) (t : Truthful keys c) :
    (c.parse e k).1 = Node.ofSql k.dialect k.text ∧ Truthful keys (c.parse e k).2 ∧
      (c.parse e k).2.hash = c.hash := by
  obtain ⟨v, found, h⟩ | ⟨v, parsed, h⟩ | ⟨fault, failed, h⟩ := c.parse_cases e k <;> rw [h]
  · exact ⟨(t k hk v found).symm, t, rfl⟩
  · exact ⟨parsed.symm, t.insert free hk parsed, hash_insert⟩
  · exact ⟨failed.symm, t, rfl⟩

theorem Truthful.parseAll (free : CollisionFree c.hash keys)
    (asked : ∀ call ∈ calls, call.key ∈ keys) (t : Truthful keys c) :
    (c.parseAll calls).1 = calls.map (fun call => Node.ofSql call.key.dialect call.key.text) ∧
      Truthful keys (c.parseAll calls).2 := by
  induction calls generalizing c
  case nil => exact ⟨rfl, t⟩
  case cons call rest hi =>
    obtain ⟨answer, t', hash⟩ := t.parse (e := call.eviction) free (asked call (by simp))
    obtain ⟨answers, t''⟩ := hi (hash ▸ free) (fun call' h => asked call' (by simp [h])) t'
    exact ⟨by simp [Cache.parseAll, answer, answers], t''⟩

theorem parseAll_concat (c : Cache) (calls : List Call) (call : Call) :
    (c.parseAll (calls ++ [call])).2 =
      ((c.parseAll calls).2.parse call.eviction call.key).2 := by
  induction calls generalizing c
  case nil => rfl
  case cons first rest hi => exact hi _

-- A cache cannot be told from its answers: each of them is what parsing the text anew gives, and a
-- text that is no SQL leaves no trace.
theorem parse_transparent (maxSize : Nat) (hash : Key → UInt64) (calls : List Call)
    (free : CollisionFree hash (calls.map (·.key))) :
    let c : Cache := { maxSize, hash }
    (c.parseAll calls).1 = calls.map (fun call => Node.ofSql call.key.dialect call.key.text) ∧
    ∀ before call after fault, calls = before ++ call :: after →
      Node.ofSql call.key.dialect call.key.text = .error fault →
      (c.parseAll (before ++ [call])).2 = (c.parseAll before).2 := by
  intro c
  have empty : Truthful (calls.map (·.key)) c := by simp [Truthful, get?, c]
  refine ⟨(empty.parseAll free fun call h => List.mem_map_of_mem h).1, ?failure⟩
  case failure =>
    intro before call after fault _ failed
    rw [parseAll_concat]
    obtain ⟨v, _, h⟩ | ⟨v, parsed, _⟩ | ⟨_, _, h⟩ :=
      (c.parseAll before).2.parse_cases call.eviction call.key
    · rw [h]
    · cases failed.symm.trans parsed
    · rw [h]

-- A cache of two that is asked for one text in two dialects, with a text that is no SQL between.
theorem parse_transparent_dialects :
    let hash : Key → UInt64 := fun k =>
      k.text.length.toUInt64 * 2 + if k.dialect = .mysql then 1 else 0
    let first : Call := ⟨.oldest, "SELECT 1", .generic⟩
    let second : Call := ⟨.oldest, "SELEC 1", .generic⟩
    let calls : List Call := [first, second, ⟨.oldest, "SELECT 1", .mysql⟩,
      ⟨.oldest, "SELECT 22", .mysql⟩, first]
    let c : Cache := { maxSize := 2, hash }
    CollisionFree hash (calls.map (·.key)) ∧
      (c.parseAll calls).1 =
        calls.map (fun call => Node.ofSql call.key.dialect call.key.text) ∧
      ∃ fault, Node.ofSql .generic "SELEC 1" = .error fault ∧
        (c.parseAll [first, second]).2 = (c.parseAll [first]).2 := by
  intro hash first second calls c
  have free : CollisionFree hash (calls.map (·.key)) := by decide +kernel
  have refused : (Node.ofSql .generic "SELEC 1").toOption.isNone := by decide +kernel
  obtain ⟨answers, failures⟩ := parse_transparent 2 hash calls free
  obtain ⟨fault, failed⟩ := Except.exists_of_isNone refused
  exact ⟨free, answers, fault, failed, failures [first] second _ fault rfl failed⟩

end SqlLens.Cache
