import SqlLens.Proofs.Truncate.Search

namespace SqlLens.Truncate

-- The characters that a search comes to: those of the text it found, or all of the budget, if it is
-- left to a cut.
def spent (m : Nat) : Option String → Nat
  | some s => s.length
  | none   => m

variable {render : Renderer} {S S' : List Node} {c : Candidate} {rest cs : List Candidate}
  {m m₁ m₂ : Nat} {r r₁ : Option String} {text s s₁ : String}

-- The first part is replaced, and if the text does not fit yet, the search goes on.
theorem search_cons_ok_iff : search render m (c :: rest) S = .ok r ↔
    ∃ S' text, c.location.replace S c.replacement = .ok S' ∧ render S' = .ok text ∧
      (text.length ≤ m ∧ r = some text ∨ m < text.length ∧ search render m rest S' = .ok r) := by
  rw [search]
  cases c.location.replace S c.replacement
  case error => simp
  case ok S' =>
    cases ht : render S'
    case error => simp [ht]
    case ok text =>
      by_cases fits : text.length ≤ m
      case pos => simp [ht, fits, Nat.not_lt.mpr fits, eq_comm]
      case neg => simp [ht, fits, Nat.lt_of_not_le fits]

theorem spent_le (h : search render m cs S = .ok r) : spent m r ≤ m := by
  induction cs generalizing S
  case nil =>
    cases h
    exact Nat.le_refl m
  case cons c rest hi =>
    obtain ⟨S', text, _, _, ⟨fits, rfl⟩ | ⟨_, h⟩⟩ := search_cons_ok_iff.mp h
    · exact fits
    · exact hi h

theorem search_mono (hm : m₁ ≤ m₂) (h : search render m₁ cs S = .ok r₁) :
    ∃ r₂, search render m₂ cs S = .ok r₂ ∧ spent m₁ r₁ ≤ spent m₂ r₂ := by
  induction cs generalizing S
  case nil =>
    cases h
    exact ⟨none, rfl, hm⟩
  case cons c rest hi =>
    obtain ⟨S', text, hS, ht, h⟩ := search_cons_ok_iff.mp h
    by_cases fits : text.length ≤ m₂
    case pos =>
      -- The larger budget is met here, the smaller one here or by a text that keeps to it.
      refine ⟨some text, search_cons_ok_iff.mpr ⟨S', text, hS, ht, .inl ⟨fits, rfl⟩⟩, ?_⟩
      obtain ⟨_, rfl⟩ | ⟨long, h⟩ := h
      · exact Nat.le_refl _
      · calc spent m₁ r₁
          _ ≤ m₁ := spent_le h
          _ ≤ text.length := Nat.le_of_lt long
    case neg =>
      obtain ⟨short, _⟩ | ⟨_, h⟩ := h
      · omega
      · obtain ⟨r₂, h₂, le⟩ := hi h
        exact ⟨r₂, search_cons_ok_iff.mpr ⟨S', text, hS, ht, .inr ⟨by omega, h₂⟩⟩, le⟩

theorem length_getD_hardCut (hm : 3 ≤ m) (long : m < text.length) :
    (r.getD (hardCut text m)).length = spent m r := by
  cases r
  case none => exact length_hardCut hm long
  case some => rfl

-- With more to spend a truncation still has a text, and one that is no shorter.
theorem truncate_mono (render : Renderer) (S : List Node) (m₁ m₂ : Nat) (h3 : 3 ≤ m₁)
    (hm : m₁ ≤ m₂) (s₁ : String) (h : truncate render S m₁ = .ok s₁) :
    ∃ s₂, truncate render S m₂ = .ok s₂ ∧ s₁.length ≤ s₂.length := by
  obtain ⟨text, full, _⟩ := Except.bind_eq_ok_iff.mp h
  by_cases long₁ : m₁ < text.length
  case neg =>
    have same : s₁ = text := by
      rw [truncate_of_fits full (by omega)] at h
      exact (Except.ok.inj h).symm
    exact ⟨text, truncate_of_fits full (by omega), by rw [same]⟩
  case pos =>
    obtain ⟨cs, r₁, found, searched, rfl⟩ : ∃ cs r, possibleTruncations render S = .ok cs ∧
        search render m₁ (schedule cs) S = .ok r ∧ s₁ = r.getD (hardCut text m₁) := by
      obtain ⟨cs, found, hs | ⟨hs, cut⟩⟩ := search_of_truncate_ok full long₁ h
      · exact ⟨cs, some s₁, found, hs, rfl⟩
      · exact ⟨cs, none, found, hs, cut⟩
    rw [length_getD_hardCut h3 long₁]
    by_cases long₂ : m₂ < text.length
    case neg =>
      refine ⟨text, truncate_of_fits full (by omega), ?_⟩
      exact (spent_le searched).trans (Nat.le_of_lt long₁)
    case pos =>
      obtain ⟨r₂, searched₂, le⟩ := search_mono hm searched
      refine ⟨_, truncate_eq_of_search full long₂ found searched₂, ?_⟩
      rwa [length_getD_hardCut (h3.trans hm) long₂]

-- Four characters leave only a cut; for eight it is enough to replace the inner condition.
theorem truncate_mono_nested :
    let render : Renderer := fun S => .ok (.ofList (.replicate (Node.sizeList S) 'x'))
    let inner : Node := .select { whereClause := some (.row ⟨[.star, .star, .star]⟩) }
    let S : List Node := [.select {
      withClause := some (.with ⟨false, [.cte ⟨"c", [], inner⟩]⟩)
      whereClause := some (.row ⟨[.star, .star]⟩) }]
    truncate render S 4 = .ok "x..." ∧
      ∃ s, truncate render S 8 = .ok s ∧ "x...".length ≤ s.length := by
  intro render inner S
  have h : truncate render S 4 = .ok "x..." := by cbv
  exact ⟨h, truncate_mono render S 4 8 (by decide) (by decide) "x..." h⟩

end SqlLens.Truncate
