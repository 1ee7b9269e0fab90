import Mathlib
import LateralTorque.Scalar

/-!
# Special values in double precision

`Float` has a logical model: a double is a bit pattern, and its operations unpack the pattern,
compute and pack again.  What the controller's guards rely on is proved of that model here: signs,
comparisons and the two kinds of values that are not finite.

* `pack_parts` — a double is made of its parts;
* `parts_neg`, `abs_neg` — negation changes the sign and nothing else;
* `eq_or_zeros_of_beq` — doubles that compare as equal are equal, but for the sign of a zero;
* `neg_lt_neg_iff`, `lt_neg_iff` — negation turns comparisons around;
* `clamp_cases`, `clamp_within`, `isFinite_clamp_iff` — what holding a double between two limits of
  one magnitude makes of it;
* `sub_self_of_isFinite`, `zero_add_eq` — a difference that cancels, and what it adds to.

How results are rounded does not matter to any of this, and is left out but for the products in
`Product`.  Functions without a logical model do not occur.
-/

set_option autoImplicit false

namespace LateralTorque.Double

open Float.Model Float.Model.UnpackedFloat

/-! ## The fields of a double -/

/-- The number in a sign, an exponent field and a mantissa field. -/
def ofFields (s : Sign) (exponent : BitVec 11) (mantissa : BitVec 52) : UnpackedFloat :=
  UnpackedFloat.unpack .binary64 (packComponents .binary64 s exponent mantissa)

theorem toNat_implicit (mantissa : BitVec 52) :
    (1#1 ++ mantissa).toNat = 2 ^ 52 + mantissa.toNat := by
  rw [BitVec.toNat_append, ← Nat.shiftLeft_add_eq_or_of_lt mantissa.isLt]
  rfl

theorem unpackSign_packComponents (s : Sign) (exponent : BitVec 11) (mantissa : BitVec 52) :
    Sign.ofBitVec (unpackSign (packComponents .binary64 s exponent mantissa)) = s := by
  have h : unpackSign (packComponents .binary64 s exponent mantissa) = s.toBitVec := by
    ext i hi
    obtain rfl : i = 0 := by omega
    simp only [unpackSign, packComponents, BitVec.getElem_cast, BitVec.extractLsb,
      BitVec.getElem_extractLsb', BitVec.getLsbD_append]
    rfl
  rw [h]
  cases s <;> rfl

theorem ofFields_eq (s : Sign) (exponent : BitVec 11) (mantissa : BitVec 52) :
    ofFields s exponent mantissa =
      if exponent = -1#11 then
        if mantissa = 0#52 then .infinity s else .notANumber
      else if exponent = 0#11 then
        if h : mantissa = 0#52 then .zero s
        else .finite s mantissa.toNat (-1074)
          (by simpa [BitVec.toNat_pos, BitVec.pos_iff_ne_zero] using h)
      else .finite s (1#1 ++ mantissa).toNat ((exponent.toNat : Int) - 1075)
        (by rw [toNat_implicit]; omega) := by
  unfold ofFields UnpackedFloat.unpack
  simp only [unpackMantissa_packComponents, unpackExponent_packComponents,
    unpackSign_packComponents]
  have hbias : ((Format.binary64.exponentBias : Nat) : Int)
      + (Format.binary64.mantissaBitsWithoutImplicit : Nat) = 1075 := rfl
  simp only [hbias]
  split
  · rfl
  · split
    · rename_i hzero
      split
      · rfl
      · simp [hzero]
    · rfl

/-- Every double is the number in its own fields. -/
theorem exists_ofFields (b : BitVec Format.binary64.numBits) :
    ∃ s exponent mantissa, UnpackedFloat.unpack .binary64 b = ofFields s exponent mantissa := by
  refine ⟨Sign.ofBitVec (unpackSign b), unpackExponent b, unpackMantissa b, ?_⟩
  unfold ofFields UnpackedFloat.unpack
  simp only [unpackMantissa_packComponents, unpackExponent_packComponents,
    unpackSign_packComponents]

/-- Packing finds the fields again, of every number but NaN. -/
theorem pack_ofFields (s : Sign) (exponent : BitVec 11) (mantissa : BitVec 52)
    (hnumber : ofFields s exponent mantissa ≠ .notANumber) :
    UnpackedFloat.pack .binary64 (ofFields s exponent mantissa)
      = packComponents .binary64 s exponent mantissa := by
  have hm := mantissa.isLt
  have he := exponent.isLt
  rw [ofFields_eq] at hnumber ⊢
  by_cases hmax : exponent = -1#11
  · by_cases hzero : mantissa = 0#52
    · simp only [hmax, hzero, if_true, UnpackedFloat.pack]
      rfl
    · simp [hmax, hzero] at hnumber
  by_cases hsub : exponent = 0#11
  · by_cases hzero : mantissa = 0#52
    · simp only [hsub, hzero, dif_pos, UnpackedFloat.pack]
      rfl
    · have hpos : mantissa.toNat ≠ 0 := by
        intro h
        exact hzero (BitVec.toNat_inj.mp (by simpa using h))
      have hlog : mantissa.toNat.log2 < 52 := (Nat.log2_lt hpos).mpr hm
      have hbiased : ((-1074 : Int) + (Format.binary64.exponentBias : Nat)
          + (Format.binary64.mantissaBitsWithoutImplicit : Nat)).toNat = 1 := rfl
      have hbits : Format.binary64.mantissaBits = 53 := rfl
      rw [if_neg hmax, if_pos hsub, dif_neg hzero, UnpackedFloat.pack]
      simp only [hbiased, hbits]
      rw [if_neg (by decide), if_neg (by omega), hsub]
      simp
  · have hvalue := toNat_implicit mantissa
    have hpos : (1#1 ++ mantissa).toNat ≠ 0 := by omega
    have hlog : (1#1 ++ mantissa).toNat.log2 = 52 := by
      have hupper := (Nat.log2_lt hpos (k := 53)).mpr (by omega)
      have hlower := (Nat.le_log2 hpos (k := 52)).mpr (by omega)
      omega
    have hbiased : ((exponent.toNat : Int) - 1075 + (Format.binary64.exponentBias : Nat)
        + (Format.binary64.mantissaBitsWithoutImplicit : Nat)).toNat = exponent.toNat := by
      have hb : ((Format.binary64.exponentBias : Nat) : Int) = 1023 := rfl
      have hm : ((Format.binary64.mantissaBitsWithoutImplicit : Nat) : Int) = 52 := rfl
      rw [hb, hm]
      omega
    have hne : exponent.toNat ≠ 2047 := by
      intro h
      exact hmax (BitVec.toNat_inj.mp (by simpa using h))
    have hbits : Format.binary64.mantissaBits = 53 := rfl
    rw [if_neg hmax, if_neg hsub, UnpackedFloat.pack]
    simp only [hbiased, hbits, hlog]
    rw [if_neg (by show ¬ 2 ^ 11 ≤ exponent.toNat + 1; omega), if_pos trivial]
    congr 1
    · simp
    · apply BitVec.eq_of_toNat_eq
      rw [BitVec.toNat_ofNat, hvalue]
      show (2 ^ 52 + mantissa.toNat) % 2 ^ 52 = mantissa.toNat
      omega

/-- Unpacking a packed number gives it back. -/
theorem unpack_pack_ofFields (s : Sign) (exponent : BitVec 11) (mantissa : BitVec 52) :
    UnpackedFloat.unpack .binary64 (UnpackedFloat.pack .binary64 (ofFields s exponent mantissa))
      = ofFields s exponent mantissa := by
  by_cases hnumber : ofFields s exponent mantissa = .notANumber
  · rw [hnumber]
    rfl
  · rw [pack_ofFields s exponent mantissa hnumber]
    rfl

theorem neg_ofFields (s : Sign) (exponent : BitVec 11) (mantissa : BitVec 52) :
    (ofFields s exponent mantissa).neg = ofFields (-s) exponent mantissa := by
  rw [ofFields_eq, ofFields_eq]
  split
  · split <;> rfl
  · split
    · split <;> rfl
    · rfl

/-! ## Parts and signs -/

/-- A double taken apart: sign, mantissa and exponent, or a special value. -/
def parts (x : Float) : UnpackedFloat := x.toModel.unpack

/-- A double is made of its parts. -/
theorem pack_parts (x : Float) : Float.ofModel (Float.Model.pack (parts x)) = x := by
  obtain ⟨⟨bits, hvalid⟩⟩ := x
  have hbits : UnpackedFloat.pack .binary64 (UnpackedFloat.unpack .binary64 bits.toBitVec)
      = bits.toBitVec := pack_unpack_of_valid hvalid
  show Float.ofModel
    ⟨⟨UnpackedFloat.pack .binary64 (UnpackedFloat.unpack .binary64 bits.toBitVec)⟩, _⟩ = _
  simp only [hbits]

theorem parts_neg (x : Float) : parts (-x) = (parts x).neg := by
  obtain ⟨s, exponent, mantissa, h⟩ := exists_ofFields x.toModel.toBits.toBitVec
  have hx : parts x = ofFields s exponent mantissa := h
  show UnpackedFloat.unpack .binary64 (UnpackedFloat.pack .binary64 (parts x).neg) = (parts x).neg
  rw [hx, neg_ofFields]
  exact unpack_pack_ofFields _ _ _

theorem abs_neg (x : Float) : (-x).abs = x.abs := by
  have h : (parts x).neg.abs = (parts x).abs := by cases parts x <;> rfl
  show Float.ofModel (Float.Model.pack (parts (-x)).abs)
    = Float.ofModel (Float.Model.pack (parts x).abs)
  rw [parts_neg, h]

/-! ## Comparisons -/

theorem lt_iff {x y : Float} : x < y ↔ (parts x).compare (parts y) = some .lt := by
  show decide (UnpackedFloat.lt (parts x) (parts y) = true) = true ↔ _
  simp [UnpackedFloat.lt]

theorem beq_iff {x y : Float} : (x == y) = true ↔ (parts x).compare (parts y) = some .eq := by
  show UnpackedFloat.beq (parts x) (parts y) = true ↔ _
  simp [UnpackedFloat.beq]

theorem isFinite_eq (x : Float) : x.isFinite = (parts x).isFinite := rfl

theorem isNaN_eq (x : Float) : x.isNaN = (parts x).isNaN := rfl

theorem parts_zero : parts 0.0 = .zero .positive := rfl

theorem neg_neg (u : UnpackedFloat) : u.neg.neg = u := by
  cases u with
  | notANumber => rfl
  | infinity s | zero s | finite s m e h => cases s <;> rfl

theorem compare_neg_neg (u v : UnpackedFloat) : u.neg.compare v.neg = v.compare u := by
  have hswap : ∀ (e₁ e₂ : Int) (m₁ m₂ : Nat),
      ((compare e₁ e₂).then (compare m₁ m₂)).swap = (compare e₂ e₁).then (compare m₂ m₁) := by
    intro e₁ e₂ m₁ m₂
    rw [Ordering.swap_then, Int.compare_swap, Nat.compare_swap]
  cases u with
  | notANumber => cases v <;> rfl
  | infinity s =>
    cases v with
    | notANumber => cases s <;> rfl
    | infinity t => cases s <;> cases t <;> rfl
    | zero t => cases s <;> rfl
    | finite t m e h => cases s <;> cases t <;> rfl
  | zero s =>
    cases v with
    | notANumber => rfl
    | infinity t => cases t <;> rfl
    | zero t => rfl
    | finite t m e h => cases t <;> rfl
  | finite s m e h =>
    cases v with
    | notANumber => cases s <;> rfl
    | infinity t => cases s <;> cases t <;> rfl
    | zero t => cases s <;> rfl
    | finite t n f g =>
      cases s <;> cases t
      · exact congrArg some (hswap f e n m).symm
      · rfl
      · rfl
      · exact congrArg some (hswap e f m n)

/-- Numbers that compare as equal are the same, or zeros of either sign. -/
theorem compare_eq_iff {u v : UnpackedFloat} :
    u.compare v = some .eq ↔
      (u ≠ .notANumber ∧ u = v) ∨ ∃ s t, u = .zero s ∧ v = .zero t := by
  cases u with
  | notANumber => simp [UnpackedFloat.compare]
  | infinity s =>
    cases v with
    | notANumber => simp [UnpackedFloat.compare]
    | infinity t => cases s <;> cases t <;> simp [UnpackedFloat.compare, compare]
    | zero t => cases s <;> simp [UnpackedFloat.compare]
    | finite t n f hn => cases s <;> simp [UnpackedFloat.compare]
  | zero s =>
    cases v with
    | notANumber => simp [UnpackedFloat.compare]
    | infinity t => cases t <;> simp [UnpackedFloat.compare]
    | zero t => simp [UnpackedFloat.compare]
    | finite t n f hn => cases t <;> simp [UnpackedFloat.compare]
  | finite s m e hm =>
    cases v with
    | notANumber => simp [UnpackedFloat.compare]
    | infinity t => cases t <;> simp [UnpackedFloat.compare]
    | zero t => cases s <;> simp [UnpackedFloat.compare]
    | finite t n f hn => cases s <;> cases t <;> simp [UnpackedFloat.compare, and_comm]

theorem eq_zero_of_parts {x : Float} {s : Sign} (h : parts x = .zero s) : x = 0.0 ∨ x = -0.0 := by
  have hpack := pack_parts x
  rw [h] at hpack
  cases s with
  | positive => exact .inl hpack.symm
  | negative => exact .inr hpack.symm

/-- **Doubles that compare as equal are equal**, but for the sign of a zero. -/
theorem eq_or_zeros_of_beq {x y : Float} (h : (x == y) = true) :
    x = y ∨ (x = 0.0 ∨ x = -0.0) ∧ (y = 0.0 ∨ y = -0.0) := by
  rw [beq_iff, compare_eq_iff] at h
  rcases h with ⟨-, hparts⟩ | ⟨s, t, hx, hy⟩
  · left
    rw [← pack_parts x, hparts, pack_parts]
  · exact .inr ⟨eq_zero_of_parts hx, eq_zero_of_parts hy⟩

theorem neg_lt_neg_iff {x y : Float} : -x < -y ↔ y < x := by
  rw [lt_iff, lt_iff, parts_neg, parts_neg, compare_neg_neg]

theorem lt_neg_iff {x y : Float} : x < -y ↔ y < -x := by
  rw [lt_iff, lt_iff, parts_neg, parts_neg, ← compare_neg_neg, neg_neg]

theorem not_lt_self (x : Float) : ¬ x < x := by
  rw [lt_iff]
  cases parts x with
  | notANumber => simp [UnpackedFloat.compare]
  | infinity s => cases s <;> simp [UnpackedFloat.compare, compare]
  | zero s => simp [UnpackedFloat.compare]
  | finite s m e h => cases s <;> simp [UnpackedFloat.compare]

/-- A positive double is infinite or has a positive sign and a mantissa. -/
theorem parts_of_pos {x : Float} (h : 0.0 < x) :
    parts x = .infinity .positive ∨ ∃ m e hm, parts x = .finite .positive m e hm := by
  rw [lt_iff, parts_zero] at h
  cases hx : parts x with
  | notANumber => simp [hx, UnpackedFloat.compare] at h
  | zero s => simp [hx, UnpackedFloat.compare] at h
  | infinity s =>
    cases s with
    | negative => simp [hx, UnpackedFloat.compare] at h
    | positive => exact .inl rfl
  | finite s m e hm =>
    cases s with
    | negative => simp [hx, UnpackedFloat.compare] at h
    | positive => exact .inr ⟨m, e, hm, rfl⟩

/-- What compares as equal to a positive number is positive. -/
theorem pos_of_beq {x y : Float} (h : (x == y) = true) (hy : 0.0 < y) : 0.0 < x := by
  rcases eq_or_zeros_of_beq h with rfl | ⟨-, rfl | rfl⟩
  · exact hy
  · exact absurd hy (by decide)
  · exact absurd hy (by decide)

theorem not_lt_neg_of_pos {x : Float} (h : 0.0 < x) : ¬ x < -x := by
  rw [lt_iff, parts_neg]
  rcases parts_of_pos h with hx | ⟨m, e, hm, hx⟩ <;> rw [hx] <;>
    simp [UnpackedFloat.neg, UnpackedFloat.compare, Neg.neg, compare]

theorem not_lt_zero_of_pos {x : Float} (h : 0.0 < x) : ¬ x < 0.0 := by
  rw [lt_iff, parts_zero]
  rcases parts_of_pos h with hx | ⟨m, e, hm, hx⟩ <;> rw [hx] <;> simp [UnpackedFloat.compare]

theorem not_zero_lt_neg_of_pos {x : Float} (h : 0.0 < x) : ¬ 0.0 < -x := by
  rw [lt_iff, parts_zero, parts_neg]
  rcases parts_of_pos h with hx | ⟨m, e, hm, hx⟩ <;> rw [hx] <;>
    simp [UnpackedFloat.neg, UnpackedFloat.compare, Neg.neg]

/-! ## Between two limits of one magnitude -/

variable {limit x : Float}

theorem clamp_cases (h : 0.0 < limit) (x : Float) :
    (limit < x ∧ Scalar.clamp x (-limit) limit = limit) ∨
      (x < -limit ∧ Scalar.clamp x (-limit) limit = -limit) ∨
      (¬ limit < x ∧ ¬ x < -limit ∧ Scalar.clamp x (-limit) limit = x) := by
  unfold Scalar.clamp
  by_cases hupper : limit < x
  · refine .inl ⟨hupper, ?_⟩
    simp only [if_pos hupper]
    exact if_neg (not_lt_neg_of_pos h)
  · simp only [if_neg hupper]
    by_cases hlower : x < -limit
    · exact .inr (.inl ⟨hlower, if_pos hlower⟩)
    · exact .inr (.inr ⟨hupper, hlower, if_neg hlower⟩)

/-- A number held between the limits is, negated, beyond neither of them. -/
theorem clamp_within (h : 0.0 < limit) (x : Float) :
    ¬ limit < -Scalar.clamp x (-limit) limit ∧ ¬ -Scalar.clamp x (-limit) limit < -limit := by
  rcases clamp_cases h x with ⟨_, hc⟩ | ⟨_, hc⟩ | ⟨hupper, hlower, hc⟩ <;> rw [hc]
  · exact ⟨not_lt_neg_of_pos h, not_lt_self _⟩
  · exact ⟨fun hlt => not_lt_self _ (lt_neg_iff.mp hlt),
      fun hlt => not_lt_neg_of_pos h (neg_lt_neg_iff.mp hlt)⟩
  · rw [lt_neg_iff, neg_lt_neg_iff]
    exact ⟨hlower, hupper⟩

theorem isNaN_eq_false_of_lt {x y : Float} (h : x < y) : x.isNaN = false ∧ y.isNaN = false := by
  rw [lt_iff] at h
  rw [isNaN_eq, isNaN_eq]
  cases hx : parts x <;> cases hy : parts y <;>
    simp_all [UnpackedFloat.compare, UnpackedFloat.isNaN]

theorem isNaN_eq_false_of_isFinite {x : Float} (h : x.isFinite = true) : x.isNaN = false := by
  rw [isFinite_eq] at h
  rw [isNaN_eq]
  cases hx : parts x with
  | notANumber => rw [hx] at h; cases h
  | infinity s | zero s | finite s m e hm => rfl

theorem isFinite_neg (x : Float) : (-x).isFinite = x.isFinite := by
  rw [isFinite_eq, isFinite_eq, parts_neg]
  cases parts x <;> rfl

/-- A positive number below a finite one is finite. -/
theorem isFinite_of_lt (hpos : 0.0 < limit) (hlt : limit < x) (hx : x.isFinite = true) :
    limit.isFinite = true := by
  rw [lt_iff] at hlt
  rw [isFinite_eq] at hx ⊢
  rcases parts_of_pos hpos with h | ⟨m, e, hm, h⟩ <;> rw [h] at hlt ⊢
  · cases hp : parts x <;> rw [hp] at hlt hx <;>
      simp_all [UnpackedFloat.compare, UnpackedFloat.isFinite]
  · rfl

/-- A number that is not beyond a finite limit on either side is finite or NaN. -/
theorem isFinite_of_within (hpos : 0.0 < limit) (hlimit : limit.isFinite = true)
    (hupper : ¬ limit < x) (hlower : ¬ x < -limit) (hx : x.isNaN = false) :
    x.isFinite = true := by
  rw [lt_iff] at hupper hlower
  rw [parts_neg] at hlower
  rw [isFinite_eq] at hlimit ⊢
  rw [isNaN_eq] at hx
  rcases parts_of_pos hpos with h | ⟨m, e, hm, h⟩ <;> rw [h] at hlimit hupper hlower
  · cases hlimit
  · cases hp : parts x with
    | notANumber => rw [hp] at hx; cases hx
    | zero s | finite s m e hm => rfl
    | infinity s =>
      rw [hp] at hupper hlower
      cases s with
      | negative => exact absurd rfl hlower
      | positive => exact absurd rfl hupper

/-- **Between limits of one magnitude** the result is finite where the number is not NaN and where
the number or the magnitude is finite, and nowhere else. -/
theorem isFinite_clamp_iff (hpos : 0.0 < limit) (x : Float) :
    (Scalar.clamp x (-limit) limit).isFinite = true ↔
      x.isNaN = false ∧ (x.isFinite = true ∨ limit.isFinite = true) := by
  rcases clamp_cases hpos x with ⟨hlt, hc⟩ | ⟨hlt, hc⟩ | ⟨hupper, hlower, hc⟩ <;> rw [hc]
  · refine ⟨fun h => ⟨(isNaN_eq_false_of_lt hlt).2, .inr h⟩, ?_⟩
    rintro ⟨_, h | h⟩
    · exact isFinite_of_lt hpos hlt h
    · exact h
  · rw [isFinite_neg]
    refine ⟨fun h => ⟨(isNaN_eq_false_of_lt hlt).1, .inr h⟩, ?_⟩
    rintro ⟨_, h | h⟩
    · exact isFinite_of_lt hpos (lt_neg_iff.mp hlt) ((isFinite_neg x).trans h)
    · exact h
  · refine ⟨fun h => ⟨isNaN_eq_false_of_isFinite h, .inl h⟩, ?_⟩
    rintro ⟨hnan, h | h⟩
    · exact h
    · exact isFinite_of_within hpos h hupper hlower hnan

/-! ## Differences that cancel -/

theorem sub_self_parts (u : UnpackedFloat) :
    u.sub .binary64 u = if u.isFinite then .zero .positive else .notANumber := by
  cases u with
  | notANumber => rfl
  | infinity s | zero s => cases s <;> rfl
  | finite s m e hm =>
    simp [UnpackedFloat.sub, UnpackedFloat.decreaseExponent, UnpackedFloat.normalize,
      UnpackedFloat.isFinite]

theorem sub_self_of_isFinite (h : x.isFinite = true) : x - x = 0.0 := by
  rw [isFinite_eq] at h
  show Float.ofModel (Float.Model.pack ((parts x).sub .binary64 (parts x))) = 0.0
  rw [sub_self_parts, if_pos h]
  rfl

/-- Only the sign of a zero is lost in a sum with zero. -/
theorem zero_add_eq (x : Float) : 0.0 + x = x ∨ x = -0.0 ∧ 0.0 + x = 0.0 := by
  by_cases hx : parts x = .zero .negative
  · right
    have hneg : x = -0.0 := by rw [← pack_parts x, hx]; rfl
    subst hneg
    exact ⟨rfl, rfl⟩
  · left
    have hsum : UnpackedFloat.add .binary64 (.zero .positive) (parts x) = parts x := by
      cases hparts : parts x with
      | zero s =>
        cases s with
        | positive => rfl
        | negative => exact absurd hparts hx
      | notANumber | infinity s | finite s m e hm => rfl
    show Float.ofModel
      (Float.Model.pack (UnpackedFloat.add .binary64 (.zero .positive) (parts x))) = x
    rw [hsum, pack_parts]

end LateralTorque.Double
