import LateralTorque.Proofs.Horizon
import LateralTorque.Proofs.Mirror

/-!
# What persists of a value

A value persists over future ones as far as they agree with it: not at all where one of them has
another sign, and otherwise as the value of least magnitude among them and itself.  That says what
persists however the future values are gone through, so that neither their order nor the unit in
which they are measured counts.

Values are real numbers, in lists of any length; zero has a sign of its own, so that nothing
persists over a future zero.

* `Persists` — the law of what persists, `persists_persistentValue` — it is kept;
* `Persists.unique` — it leaves no choice, not even between values of one magnitude;
* `persistentValue_selects` — the law with what follows from it: any order of the future values,
  more of them, and a change of all signs or of the unit.

NaN among the values, which has the sign of zero to the controller, is left out.
-/

set_option autoImplicit false

namespace LateralTorque

/-! ## Signs -/

namespace Exact

/-- Another unit of measurement changes no sign. -/
theorem sign_mul_of_pos {k : ℝ} (hk : 0 < k) (x : ℝ) : Scalar.sign (k * x) = Scalar.sign x := by
  have hneg : k * x < 0 ↔ x < 0 := smul_neg_iff_of_pos_left hk
  unfold Scalar.sign
  simp only [mul_pos_iff_of_pos_left hk, hneg]

/-- A number is known by its sign and its magnitude. -/
theorem eq_of_sign_of_abs {x y : ℝ} (hsign : Scalar.sign x = Scalar.sign y) (habs : |x| = |y|) :
    x = y := by
  rcases abs_eq_abs.mp habs with hsame | rfl
  · exact hsame
  · rw [sign_neg] at hsign
    unfold Scalar.sign at hsign
    rcases lt_trichotomy y 0 with h | rfl | h
    · norm_num [h, h.not_gt] at hsign
    · exact neg_zero
    · norm_num [h] at hsign

end Exact

/-! ## The law -/

/-- What persists of a value: nothing where a future value differs in sign, and otherwise the value
of least magnitude, the value itself included. -/
structure Persists (future : List ℝ) (current value : ℝ) : Prop where
  nothing : (∃ v ∈ future, Scalar.sign v ≠ Scalar.sign current) → value = 0
  least : (∀ v ∈ future, Scalar.sign v = Scalar.sign current) →
    value ∈ current :: future ∧ ∀ v ∈ current :: future, |value| ≤ |v|

variable {future other : List ℝ} {current value : ℝ}

theorem persists_persistentValue (future : List ℝ) (current : ℝ) :
    Persists future current (persistentValue future current) :=
  ⟨persistFrom_of_differ, persistFrom_of_agree current⟩

/-- Values of one magnitude that both could persist have one sign, so they are the same. -/
theorem Persists.unique {another : ℝ} (h : Persists future current value)
    (hanother : Persists future current another) : value = another := by
  by_cases hagree : ∀ v ∈ future, Scalar.sign v = Scalar.sign current
  · have hsigns : ∀ v ∈ current :: future, Scalar.sign v = Scalar.sign current :=
      List.forall_mem_cons.mpr ⟨rfl, hagree⟩
    obtain ⟨hmem, hleast⟩ := h.least hagree
    obtain ⟨hmem', hleast'⟩ := hanother.least hagree
    apply Exact.eq_of_sign_of_abs
    · rw [hsigns value hmem, hsigns another hmem']
    · exact le_antisymm (hleast another hmem') (hleast' value hmem)
  · push Not at hagree
    rw [h.nothing hagree, hanother.nothing hagree]

theorem Persists.eq_persistentValue (h : Persists future current value) :
    persistentValue future current = value :=
  (persists_persistentValue future current).unique h

/-- The order of the future values does not count. -/
theorem Persists.perm (h : Persists future current value) (hperm : future.Perm other) :
    Persists other current value where
  nothing hdiffers := by
    apply h.nothing
    obtain ⟨v, hmem, hv⟩ := hdiffers
    exact ⟨v, hperm.mem_iff.mpr hmem, hv⟩
  least hagree := by
    have hall : ∀ v, v ∈ current :: future ↔ v ∈ current :: other :=
      fun v => (hperm.cons current).mem_iff
    obtain ⟨hmem, hleast⟩ := h.least fun v hv => hagree v (hperm.mem_iff.mp hv)
    exact ⟨(hall value).mp hmem, fun v hv => hleast v ((hall v).mpr hv)⟩

/-- Measured in another unit, the same persists. -/
theorem Persists.scale (h : Persists future current value) {k : ℝ} (hk : 0 < k) :
    Persists (future.map (k * ·)) (k * current) (k * value) where
  nothing hdiffers := by
    obtain ⟨w, hmem, hw⟩ := hdiffers
    obtain ⟨v, hv, rfl⟩ := List.mem_map.mp hmem
    rw [Exact.sign_mul_of_pos hk, Exact.sign_mul_of_pos hk] at hw
    rw [h.nothing ⟨v, hv, hw⟩, mul_zero]
  least hagree := by
    rw [List.forall_mem_map] at hagree
    simp only [Exact.sign_mul_of_pos hk] at hagree
    obtain ⟨hmem, hleast⟩ := h.least hagree
    rw [← List.map_cons (f := (k * ·)), List.forall_mem_map]
    refine ⟨List.mem_map_of_mem hmem, fun v hv => ?_⟩
    rw [abs_mul, abs_mul]
    exact mul_le_mul_of_nonneg_left (hleast v hv) (abs_nonneg k)

/-- Further future values leave no more of a value. -/
theorem Persists.abs_le_of_append {further : List ℝ} {less : ℝ}
    (hless : Persists (future ++ further) current less) (h : Persists future current value) :
    |less| ≤ |value| := by
  by_cases hagree : ∀ v ∈ future ++ further, Scalar.sign v = Scalar.sign current
  · obtain ⟨hmem, -⟩ := h.least (List.forall_mem_append.mp hagree).1
    exact (hless.least hagree).2 value (List.mem_append_left further hmem)
  · push Not at hagree
    rw [hless.nothing hagree, abs_zero]
    exact abs_nonneg value

/-- **What persists of a value** is nothing where a future value differs from it in sign, and
otherwise the value of least magnitude.  So the order of the future values does not count, further
ones leave no more of it, and it goes with a change of all signs and with a change of the unit. -/
theorem persistentValue_selects (future : List ℝ) (current : ℝ) :
    ((∃ v ∈ future, Scalar.sign v ≠ Scalar.sign current) → persistentValue future current = 0) ∧
    ((∀ v ∈ future, Scalar.sign v = Scalar.sign current) →
      persistentValue future current ∈ current :: future ∧
        ∀ v ∈ current :: future, |persistentValue future current| ≤ |v|) ∧
    (∀ other, future.Perm other → persistentValue other current = persistentValue future current) ∧
    (∀ further, |persistentValue (future ++ further) current| ≤ |persistentValue future current|) ∧
    persistentValue (future.map (- ·)) (-current) = -persistentValue future current ∧
    ∀ k, 0 < k →
      persistentValue (future.map (k * ·)) (k * current) = k * persistentValue future current := by
  have h := persists_persistentValue future current
  refine ⟨h.nothing, h.least, fun other hperm => ?_, fun further => ?_,
    persistentValue_neg future current, fun k hk => ?_⟩
  · exact (h.perm hperm).eq_persistentValue
  · exact (persists_persistentValue (future ++ further) current).abs_le_of_append h
  · exact (h.scale hk).eq_persistentValue

/-- The least of three positive jerks persists, in any order and unit, and nothing does over a
negative one. -/
theorem persistentValue_selects_of_jerks :
    let growing : List ℝ := [0.5, 0.3]
    let reversing : List ℝ := [0.5, -0.2, 0.3]
    (∀ v ∈ growing, Scalar.sign v = Scalar.sign 0.4) ∧
      (∃ v ∈ reversing, Scalar.sign v ≠ Scalar.sign 0.4) ∧
      growing.Perm [0.3, 0.5] ∧ (0 : ℝ) < 2 ∧
      persistentValue growing 0.4 = 0.3 ∧ persistentValue reversing 0.4 = 0 ∧
      persistentValue [0.3, 0.5] 0.4 = (0.3 : ℝ) ∧
      persistentValue (growing.map (2 * ·)) (2 * 0.4) = 2 * 0.3 := by
  intro growing reversing
  have hagree : ∀ v ∈ growing, Scalar.sign v = Scalar.sign 0.4 := by
    norm_num [growing, Scalar.sign]
  have hdiffers : ∃ v ∈ reversing, Scalar.sign v ≠ Scalar.sign 0.4 :=
    ⟨-0.2, by simp [reversing], by norm_num [Scalar.sign]⟩
  have hperm : growing.Perm [0.3, 0.5] := List.Perm.swap 0.3 0.5 []
  obtain ⟨-, hselects, horder, -, -, hunit⟩ := persistentValue_selects growing 0.4
  have hleast : persistentValue growing 0.4 = 0.3 := by
    obtain ⟨hmem, hle⟩ := hselects hagree
    have hthird := hle 0.3 (by simp [growing])
    have hvalues : persistentValue growing 0.4 ∈ [0.4, 0.5, 0.3] := hmem
    simp only [List.mem_cons, List.not_mem_nil, or_false] at hvalues
    rcases hvalues with hvalue | hvalue | hvalue
    · rw [hvalue] at hthird
      norm_num at hthird
    · rw [hvalue] at hthird
      norm_num at hthird
    · exact hvalue
  refine ⟨hagree, hdiffers, hperm, two_pos, hleast,
    (persistentValue_selects reversing 0.4).1 hdiffers, ?_, ?_⟩
  · rw [horder _ hperm, hleast]
  · rw [hunit 2 two_pos, hleast]

end LateralTorque
