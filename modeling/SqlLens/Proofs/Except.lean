import Mathlib.Data.List.Forall2

namespace Except

variable {α β : Type} {ε ε' : Type} {x : Except ε α} {f : α → Except ε β}

@[simp]
theorem ok_bind (a : α) (f : α → Except ε β) : (.ok a : Except ε α) >>= f = f a := rfl

@[simp]
theorem error_bind (e : ε) (f : α → Except ε β) : (.error e : Except ε α) >>= f = .error e := rfl

theorem bind_eq_ok_iff : x >>= f = .ok b ↔ ∃ a, x = .ok a ∧ f a = .ok b := by
  cases x <;> simp [bind, Except.bind]

theorem bind_eq_error_iff :
    x >>= f = .error e ↔ x = .error e ∨ ∃ a, x = .ok a ∧ f a = .error e := by
  cases x <;> simp [bind, Except.bind]

theorem map_eq_ok_iff {f : α → β} : f <$> x = .ok b ↔ ∃ a, x = .ok a ∧ f a = b := by
  cases x <;> simp [Functor.map, Except.map]

@[simp]
theorem pure_eq_ok (a : α) : (pure a : Except ε α) = .ok a := rfl

@[simp]
theorem mapError_ok (g : ε → ε') (a : α) : (.ok a : Except ε α).mapError g = .ok a := rfl

@[simp]
theorem mapError_error (g : ε → ε') (e : ε) :
    (.error e : Except ε α).mapError g = .error (g e) := rfl

theorem exists_of_isSome (h : x.toOption.isSome) : ∃ a, x = .ok a := by
  cases x
  case error => cases h
  case ok a => exact ⟨a, rfl⟩

theorem exists_of_isNone (h : x.toOption.isNone) : ∃ e, x = .error e := by
  cases x
  case error e => exact ⟨e, rfl⟩
  case ok => cases h

-- The result of a computation that is evaluated once, with what was computed of it.
theorem exists_of_any {p : α → Bool} (h : x.toOption.any p) : ∃ a, x = .ok a ∧ p a := by
  cases x
  case error => cases h
  case ok a => exact ⟨a, rfl, h⟩

theorem exists_of_bind {g : α → Option β} (h : x.toOption.bind g = some b) :
    ∃ a, x = .ok a ∧ g a = some b := by
  cases x
  case error => cases h
  case ok a => exact ⟨a, rfl, h⟩

theorem mapM_eq_ok_iff {as : List α} {bs : List β} :
    as.mapM f = .ok bs ↔ List.Forall₂ (fun a b => f a = .ok b) as bs := by
  induction as generalizing bs
  case nil => simp [eq_comm]
  case cons a as hi =>
    simp only [List.mapM_cons, bind_eq_ok_iff, pure_eq_ok, ok.injEq, List.forall₂_cons_left_iff, hi]
    grind

theorem exists_of_mem_mapM {as : List α} {bs : List β} (h : as.mapM f = .ok bs) (hb : b ∈ bs) :
    ∃ a ∈ as, f a = .ok b := by
  rw [mapM_eq_ok_iff] at h
  induction h
  case nil => cases hb
  case cons a b' as bs ha _ hi =>
    obtain rfl | hb := List.mem_cons.mp hb
    · exact ⟨a, List.mem_cons_self, ha⟩
    · have ⟨a', ha', h⟩ := hi hb
      exact ⟨a', List.mem_cons_of_mem _ ha', h⟩

-- The first failure is the failure of the whole.
theorem exists_of_mapM_eq_error {as : List α} (h : as.mapM f = .error e) :
    ∃ pre a post, as = pre ++ a :: post ∧ f a = .error e ∧ ∀ a' ∈ pre, ∃ b, f a' = .ok b := by
  induction as
  case nil => cases h
  case cons a as hi =>
    simp only [List.mapM_cons, bind_eq_error_iff] at h
    obtain h | ⟨b, ha, h | ⟨_, _, h⟩⟩ := h
    · exact ⟨[], a, as, rfl, h, by simp⟩
    · have ⟨pre, a', post, has, ha', hp⟩ := hi h
      refine ⟨a :: pre, a', post, by simp [has], ha', ?_⟩
      simpa using ⟨⟨b, ha⟩, hp⟩
    · cases h

end Except
