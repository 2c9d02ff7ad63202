/-! Results that are a value or an error. -/

namespace KeywordHarvest

variable {ε α β : Type} {result : Except ε α} {value : α}

theorem bind_eq_ok {rest : α → Except ε β} {last : β} :
    result >>= rest = .ok last ↔ ∃ value, result = .ok value ∧ rest value = .ok last := by
  cases result with
  | error fault => exact iff_of_false nofun (by rintro ⟨_, missing, _⟩; cases missing)
  | ok value => simp [bind, Except.bind]

theorem toOption_eq_some : result.toOption = some value ↔ result = .ok value := by
  cases result <;> simp [Except.toOption]

theorem mapError_eq_error {φ : Type} {describe : ε → φ} {described : φ} :
    result.mapError describe = .error described ↔
      ∃ fault, result = .error fault ∧ described = describe fault := by
  cases result with
  | error fault =>
      constructor
      · intro same
        cases same
        exact ⟨fault, rfl, rfl⟩
      · rintro ⟨_, same, rfl⟩
        cases same
        rfl
  | ok found => exact iff_of_false nofun (by rintro ⟨_, same, _⟩; cases same)

end KeywordHarvest
