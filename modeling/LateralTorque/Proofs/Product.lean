import LateralTorque.Proofs.Double

/-!
# Products in double precision

A product of two doubles is computed exactly and then rounded to 53 bits, or fewer where it is tiny.
Rounding may carry into one more bit; only beyond `2 ^ 1024` does the result overflow.

* `isFinite_round` — a number below `2 ^ 1023` is finite after rounding;
* `isFinite_mul`, `isFinite_percent` — a finite number times a small one, such as `0.01`, is finite.

The second factor has to be below `1/2`, which leaves room for the carry.  How far a rounded product
is from the exact one is left out: a stored override may come to zero when it is scaled, and
`UsableTuning` says so.
-/

set_option autoImplicit false

namespace LateralTorque.Double

open Float.Model Float.Model.UnpackedFloat

/-! ## Packing -/

theorem isFinite_ofFields (s : Sign) (exponent : BitVec 11) (mantissa : BitVec 52) :
    (ofFields s exponent mantissa).isFinite = decide (exponent ≠ -1#11) := by
  rw [ofFields_eq]
  split
  · split <;> simp_all [UnpackedFloat.isFinite]
  · split
    · split <;> simp_all [UnpackedFloat.isFinite]
    · simp_all [UnpackedFloat.isFinite]

theorem isFinite_unpack_packComponents (s : Sign) {exponent : BitVec 11} (mantissa : BitVec 52)
    (h : exponent ≠ -1#11) :
    (UnpackedFloat.unpack .binary64 (packComponents .binary64 s exponent mantissa)).isFinite
      = true := by
  show (ofFields s exponent mantissa).isFinite = true
  rw [isFinite_ofFields]
  exact decide_eq_true h

/-- A number with an exponent in range stays finite when it is packed. -/
theorem isFinite_unpack_pack {s : Sign} {m : Nat} {e : Int} {hm : 0 < m} (h : e ≤ 971) :
    (UnpackedFloat.unpack .binary64 (UnpackedFloat.pack .binary64 (.finite s m e hm))).isFinite
      = true := by
  have hbias : ((Format.binary64.exponentBias : Nat) : Int) = 1023 := rfl
  unfold UnpackedFloat.pack
  dsimp only
  rw [hbias]
  have hbiased : (e + 1023 + ((52 : Nat) : Int)).toNat < 2047 := by omega
  rw [if_neg (Nat.not_le.mpr (Nat.succ_lt_succ hbiased))]
  split
  · refine isFinite_unpack_packComponents s _ fun hmax => ?_
    have hsame := congrArg BitVec.toNat hmax
    rw [BitVec.toNat_ofNat, Nat.mod_eq_of_lt (Nat.lt_succ_of_lt hbiased)] at hsame
    exact absurd hsame hbiased.ne
  · exact isFinite_unpack_packComponents s _ (by decide)

/-! ## Rounding -/

theorem shiftRight_mantissa (em : ExtendedMantissa) (n : Nat) :
    (em >>> n).mantissa = em.mantissa / 2 ^ n := by
  show (n.repeat ExtendedMantissa.shiftRightOne em).mantissa = _
  induction n with
  | zero => simp [Nat.repeat]
  | succ n ih =>
    show (n.repeat ExtendedMantissa.shiftRightOne em).mantissa / 2 = _
    rw [ih, Nat.div_div_eq_div_mul, Nat.pow_succ]

theorem mantissa_ofMantissaAndAccuracy (m : Nat) (accuracy : Accuracy) :
    (ExtendedMantissa.ofMantissaAndAccuracy m accuracy).mantissa = m := by
  cases accuracy with
  | exact => rfl
  | inexact relative => cases relative <;> rfl

theorem roundedMantissa_le (em : ExtendedMantissa) : em.roundedMantissa ≤ em.mantissa + 1 := by
  unfold ExtendedMantissa.roundedMantissa
  generalize em.accuracy = accuracy
  cases accuracy with
  | exact => exact Nat.le_succ _
  | inexact relative =>
    cases relative <;> simp only [Accuracy.roundToNearestEven] <;> omega

theorem targetExponent_eq (total : Int) :
    Format.binary64.targetExponent total = max (total - 53) (-1074) := rfl

/-- Shifting to the target exponent leaves a mantissa of 53 bits. -/
theorem shifted_mantissa_lt (m : Nat) (e : Int) (accuracy : Accuracy) :
    (shiftToTargetExponent .binary64 m e accuracy).1.mantissa < 2 ^ 53 := by
  unfold shiftToTargetExponent shiftToExponent
  dsimp only
  rw [shiftRight_mantissa, mantissa_ofMantissaAndAccuracy, targetExponent_eq, totalExponent]
  rw [Nat.div_lt_iff_lt_mul (Nat.two_pow_pos _), ← Nat.pow_add]
  refine Nat.lt_of_lt_of_le Nat.lt_log2_self (Nat.pow_le_pow_right (by decide) ?_)
  omega

theorem shifted_exponent (m : Nat) (e : Int) (accuracy : Accuracy) :
    (shiftToTargetExponent .binary64 m e accuracy).2
      = max e (max (m.log2 + 1 + e - 53) (-1074)) := by
  unfold shiftToTargetExponent shiftToExponent
  dsimp only
  rw [targetExponent_eq, totalExponent]
  omega

/-- Rounding a number below `2 ^ 1023` does not overflow. -/
theorem isFinite_round {s : Sign} {m : Nat} {e : Int} (accuracy : Accuracy)
    (htotal : m.log2 + 1 + e ≤ 1023) (he : e ≤ 970) :
    (UnpackedFloat.unpack .binary64
      (UnpackedFloat.pack .binary64 (roundWithAccuracy .binary64 s m e accuracy))).isFinite
        = true := by
  have hmantissa := shifted_mantissa_lt m e accuracy
  have hexponent := shifted_exponent m e accuracy
  unfold roundWithAccuracy
  generalize shiftToTargetExponent .binary64 m e accuracy = shifted at hmantissa hexponent
  obtain ⟨em, e₁⟩ := shifted
  dsimp only at hmantissa hexponent ⊢
  have hrounded : em.roundedMantissa.log2 ≤ 53 := by
    have hle := roundedMantissa_le em
    by_cases hzero : em.roundedMantissa = 0
    · simp [hzero]
    · exact Nat.le_of_lt_succ ((Nat.log2_lt hzero).mpr (by omega))
  have hfinal := shifted_exponent em.roundedMantissa e₁ .exact
  generalize shiftToTargetExponent .binary64 em.roundedMantissa e₁ .exact = final at hfinal
  obtain ⟨em₂, e₂⟩ := final
  dsimp only at hfinal ⊢
  split
  · exact isFinite_unpack_packComponents s 0 (by decide)
  · exact isFinite_unpack_pack (by omega)

/-! ## Multiplying -/

/-- The magnitude of a double that is not infinite lies below `2 ^ 1024`. -/
theorem bounds_of_parts {x : Float} {s : Sign} {m : Nat} {e : Int} {hm : 0 < m}
    (h : parts x = .finite s m e hm) : (m.log2 : Int) + 1 + e ≤ 1024 ∧ e ≤ 971 := by
  obtain ⟨t, exponent, mantissa, hfields⟩ := exists_ofFields x.toModel.toBits.toBitVec
  have hx : parts x = ofFields t exponent mantissa := hfields
  have hmantissa := mantissa.isLt
  have hexponent := exponent.isLt
  rw [hx, ofFields_eq] at h
  split at h
  · split at h <;> cases h
  rename_i hmax
  have hfield : exponent.toNat ≠ 2047 := fun hsame => hmax (BitVec.eq_of_toNat_eq hsame)
  split at h
  · split at h
    · cases h
    · rename_i hzero
      cases h
      have hlog := (Nat.log2_lt (k := 52) (Nat.pos_iff_ne_zero.mp hm)).mpr hmantissa
      omega
  · cases h
    have hlog := (Nat.log2_lt (k := 53) (Nat.pos_iff_ne_zero.mp hm)).mpr
      (by rw [toNat_implicit]; omega)
    omega

theorem log2_mul_le (m n : Nat) : (m * n).log2 ≤ m.log2 + n.log2 + 1 := by
  by_cases hzero : m * n = 0
  · simp [hzero]
  · refine Nat.le_of_lt_succ ((Nat.log2_lt hzero).mpr ?_)
    calc m * n < 2 ^ (m.log2 + 1) * 2 ^ (n.log2 + 1) :=
          Nat.mul_lt_mul'' Nat.lt_log2_self Nat.lt_log2_self
      _ = 2 ^ (m.log2 + n.log2 + 1 + 1) := by rw [← Nat.pow_add]; congr 1; omega

/-- A finite number times one below a half is finite. -/
theorem isFinite_mul {x y : Float} (hx : x.isFinite = true) {s : Sign} {n : Nat} {f : Int}
    {hn : 0 < n} (hy : parts y = .finite s n f hn) (hsmall : (n.log2 : Int) + 1 + f < 0) :
    (x * y).isFinite = true := by
  have hmul : parts (x * y) = UnpackedFloat.unpack .binary64
      (UnpackedFloat.pack .binary64 (UnpackedFloat.mul .binary64 (parts x) (parts y))) := rfl
  rw [isFinite_eq] at hx ⊢
  rw [hmul, hy]
  cases hparts : parts x with
  | notANumber => rw [hparts] at hx; cases hx
  | infinity t => rw [hparts] at hx; cases hx
  | zero t => exact isFinite_unpack_packComponents _ 0 (by decide)
  | finite t m e hm =>
    have hbounds := bounds_of_parts hparts
    have hlog := log2_mul_le m n
    exact isFinite_round .exact (by omega) (by omega)

theorem isFinite_percent {x : Float} (hx : x.isFinite = true) : (x * 0.01).isFinite = true := by
  have hparts : parts 0.01 = .finite .positive 5764607523034235 (-59) (by decide) := rfl
  exact isFinite_mul hx hparts (by decide)

end LateralTorque.Double
