import HotFire.Config.Basic

/-! What a valid configuration promises. -/

namespace HotFire
namespace StandConfig

theorem flaw?_eq_none_iff (c : StandConfig) :
    c.flaw? = none ↔
      c.pressure.limits.min < c.pressure.limits.max ∧
        (c.pressure.limits.slope.isFinite ∧ c.pressure.limits.intercept.isFinite ∧
          c.pressure.limits.nominal.isFinite) ∧
        c.schedule.preigniteMs < c.schedule.hotflowMs ∧ c.schedule.pollMs ≠ 0 ∧
        c.gitvc.pulsesMs.length ≤ GitvcPlan.maxPulses ∧
        ∀ hz ∈ c.rates, hz ≠ 0 ∧ hz ≤ maxHz := by
  have hchain : ∀ (p : Prop) [Decidable p] (flaw : Flaw) (rest : Option Flaw),
      (if p then some flaw else rest) = none ↔ ¬ p ∧ rest = none := by
    intro p _ flaw rest
    split <;> simp_all
  simp only [flaw?, hchain]
  simp [and_assoc]

theorem validate_eq_ok_iff (c : StandConfig) : c.validate = .ok () ↔ c.flaw? = none := by
  cases h : c.flaw? <;> simp [validate, h]

theorem preignite_lt_hotflow {c : StandConfig} (h : c.validate = .ok ()) :
    c.timing.preignite < c.timing.hotflow := by
  obtain ⟨-, -, hlt, -⟩ := c.flaw?_eq_none_iff.mp (c.validate_eq_ok_iff.mp h)
  exact Nat.mul_lt_mul_of_pos_right (UInt64.lt_iff_toNat_lt.mp hlt) (by decide)

end StandConfig
end HotFire
