import Mathlib
import LateralTorque.Proofs.Guarded
import LateralTorque.Proofs.Horizon

/-!
# What a jerk estimate depends on

A jerk estimate reads a plan twice: at one time a little ahead, where it takes the planned
acceleration, and along a window of samples, where it compares the planned jerks.  Neither reading
goes beyond the sample that it needs.

The plan is any good plan, in exact arithmetic, with any speed, accelerations, delay and factors,
and curvature measured in either way.  The second plan, which agrees with the first one on the
samples that are needed, may be anything after them.

* `interpPoints_congr` — a curve depends on its points up to the first one not below the argument;
* `persistentValue_coherent` — what persists of a value has its sign and no larger magnitude;
* `JerkEstimate.window_congr`, `JerkEstimate.desiredJerk_congr` — the two readings of a plan;
* `JerkEstimate.estimate_coherent_and_local` — the terms of an estimate fit together, and the later
  part of the plan does not change them.

Times are not part of it: two plans that are compared have the same times.
-/

set_option autoImplicit false

namespace LateralTorque

/-! ## Curves that differ late -/

namespace Exact

/-- Two lists of points have the same ones up to the first that is not below `x`. -/
def AgreeUpTo (x : ℝ) (points others : List (ℝ × ℝ)) : Prop :=
  ∀ i : Nat, (∀ j < i, ∀ p : ℝ × ℝ, points[j]? = some p → p.1 < x) → points[i]? = others[i]?

variable {x : ℝ} {points others : List (ℝ × ℝ)}

theorem AgreeUpTo.exists_of_cons {p : ℝ × ℝ} (h : AgreeUpTo x (p :: points) others) :
    ∃ rest, others = p :: rest := by
  have hfirst := h 0 fun j hj => absurd hj (Nat.not_lt_zero j)
  cases others with
  | nil => cases hfirst
  | cons q rest =>
    cases hfirst
    exact ⟨rest, rfl⟩

theorem AgreeUpTo.tail {p : ℝ × ℝ} (h : AgreeUpTo x (p :: points) (p :: others)) (hp : p.1 < x) :
    AgreeUpTo x points others := by
  intro i hbelow
  refine h (i + 1) fun j hj q hq => ?_
  cases j with
  | zero =>
    cases hq
    exact hp
  | succ j => exact hbelow j (by omega) q hq

theorem interpAfter_congr (h : AgreeUpTo x points others) (before : ℝ × ℝ) :
    interpAfter x before points = interpAfter x before others := by
  induction points generalizing before others with
  | nil =>
    have hnone := h 0 fun j hj => absurd hj (Nat.not_lt_zero j)
    rw [List.getElem?_nil, eq_comm, List.getElem?_eq_none_iff, Nat.le_zero,
      List.length_eq_zero_iff] at hnone
    rw [hnone]
  | cons p rest ih =>
    obtain ⟨rest', rfl⟩ := h.exists_of_cons
    unfold interpAfter
    by_cases hx : x ≤ p.1
    · rw [if_pos hx, if_pos hx]
    · rw [if_neg hx, if_neg hx]
      exact ih (h.tail (not_le.mp hx)) p

/-- The last point counts where the argument is beyond it, and then all points do. -/
theorem getLast?_eq_of_agreeUpTo (hapart : points.Pairwise fun p q => p.1 < q.1)
    (hlength : points.length = others.length) (h : AgreeUpTo x points others) {last : ℝ × ℝ}
    (hlast : points.getLast? = some last) (hx : last.1 ≤ x) : others.getLast? = some last := by
  obtain ⟨rest, rfl⟩ := List.getLast?_eq_some_iff.mp hlast
  have hbelow : ∀ j < rest.length, ∀ p, (rest ++ [last])[j]? = some p → p.1 < x := by
    intro j hj p hp
    rw [List.getElem?_append_left hj] at hp
    have hmem := List.mem_of_getElem? hp
    exact ((List.pairwise_append.mp hapart).2.2 p hmem last (by simp)).trans_le hx
  have hsame := h rest.length hbelow
  rw [List.length_append, List.length_singleton] at hlength
  rw [List.getLast?_eq_getElem?, ← hlength, Nat.add_sub_cancel, ← hsame]
  simp

/-- **A curve depends on its points** up to the first one that is not below the argument. -/
theorem interpPoints_congr (hapart : points.Pairwise fun p q => p.1 < q.1)
    (hbreakpoints : points.map Prod.fst = others.map Prod.fst) (h : AgreeUpTo x points others) :
    interpPoints x points = interpPoints x others := by
  cases points with
  | nil =>
    rw [List.map_nil, eq_comm, List.map_eq_nil_iff] at hbreakpoints
    rw [hbreakpoints]
  | cons first rest =>
    obtain ⟨rest', rfl⟩ := h.exists_of_cons
    obtain ⟨last, hlast⟩ : ∃ last, rest.getLast?.getD first = last := ⟨_, rfl⟩
    obtain ⟨last', hlast'⟩ : ∃ last', rest'.getLast?.getD first = last' := ⟨_, rfl⟩
    have hend : (first :: rest).getLast? = some last := by rw [List.getLast?_cons, hlast]
    have hend' : (first :: rest').getLast? = some last' := by rw [List.getLast?_cons, hlast']
    have hsame : last'.1 = last.1 := by
      have hfst := congrArg List.getLast? hbreakpoints
      rw [List.getLast?_map, List.getLast?_map, hend, hend'] at hfst
      exact (Option.some.inj hfst).symm
    unfold interpPoints
    dsimp only
    rw [hlast, hlast', hsame]
    by_cases hfirst : x ≤ first.1
    · rw [if_pos hfirst, if_pos hfirst]
    rw [if_neg hfirst, if_neg hfirst]
    by_cases hx : last.1 ≤ x
    · have hlength : (first :: rest).length = (first :: rest').length := by
        simpa using congrArg List.length hbreakpoints
      have hreached := getLast?_eq_of_agreeUpTo hapart hlength h hend hx
      rw [hend', Option.some.injEq] at hreached
      rw [if_pos hx, if_pos hx, hreached]
    · rw [if_neg hx, if_neg hx]
      exact interpAfter_congr (h.tail (not_le.mp hfirst)) first

end Exact

/-! ## What persists of a value -/

/-- What persists of a value is nothing, or has its sign, and is no larger. -/
theorem persistentValue_coherent (future : List ℝ) (current : ℝ) :
    (persistentValue future current = 0 ∨
      Scalar.sign (persistentValue future current) = Scalar.sign current) ∧
    |persistentValue future current| ≤ |current| := by
  by_cases hagree : ∀ v ∈ future, Scalar.sign v = Scalar.sign current
  · obtain ⟨hmem, hleast⟩ := persistFrom_of_agree current hagree
    refine ⟨.inr ?_, hleast current List.mem_cons_self⟩
    rcases List.mem_cons.mp hmem with hcurrent | hfuture
    · exact congrArg Scalar.sign hcurrent
    · exact hagree _ hfuture
  · push Not at hagree
    have hzero : persistentValue future current = 0 := persistFrom_of_differ hagree
    rw [hzero, abs_zero]
    exact ⟨.inl rfl, abs_nonneg current⟩

/-! ## Plans that differ late -/

/-- Another plan at the same times, with the same accelerations up to sample `upto`.  Roll and pitch
may be any. -/
structure Trajectory.SameUpTo (t other : Trajectory ℝ) (upto : Nat) : Prop where
  times : other.times = t.times
  length : other.lateralAccels.length = t.lateralAccels.length
  accels : ∀ i ≤ upto, other.lateralAccels[i]? = t.lateralAccels[i]?

theorem Trajectory.SameUpTo.length_eq {t other : Trajectory ℝ} {upto : Nat}
    (h : t.SameUpTo other upto) (hlength : t.lateralAccels.length = t.length) :
    other.lateralAccels.length = other.length := by
  rw [h.length, hlength, Trajectory.length, Trajectory.length, h.times]

namespace JerkEstimate

open Trajectory

/-- The first sample at or after the time at which the planned acceleration is read, or the last
sample of the plan. -/
noncomputable def readIndex (t : Trajectory ℝ) (delay : ℝ) : Nat :=
  (t.times.findIdx? fun time => delay + jerkTimeMargin ≤ time).getD (t.length - 1)

variable {t other : Trajectory ℝ} {upto : Nat} {speed delay : ℝ}

theorem upperIndex_congr (h : t.SameUpTo other upto) (speed : ℝ) :
    upperIndex other speed = upperIndex t speed := by
  unfold upperIndex
  rw [h.times]

theorem plannedJerk_congr (h : t.SameUpTo other upto) {j : Nat} (hj : j + 1 ≤ upto) :
    other.plannedJerk j = t.plannedJerk j := by
  unfold plannedJerk
  simp only [List.getD_eq_getElem?_getD, h.times, h.accels j (by omega), h.accels (j + 1) hj]

/-- The jerks of the window lie between samples up to the upper index. -/
theorem window_congr (hlength : t.lateralAccels.length = t.length) (h : t.SameUpTo other upto)
    (hupper : upperIndex t speed ≤ upto) : window other speed = window t speed := by
  have htimes : other.length = t.length := congrArg List.length h.times
  unfold window
  rw [upperIndex_congr h]
  apply List.ext_getElem?
  intro i
  rw [List.getElem?_take, List.getElem?_take, List.getElem?_drop, List.getElem?_drop,
    getElem?_jerks (h.length_eq hlength), getElem?_jerks hlength, htimes]
  split
  · rename_i hi
    rw [plannedJerk_congr h (by omega)]
  · rfl

/-- A sample with all earlier ones before the time that is read is not beyond the read index. -/
theorem le_readIndex {i : Nat} (hi : i < t.length)
    (hbefore : ∀ j < i, ∀ time, t.times[j]? = some time → time < delay + jerkTimeMargin) :
    i ≤ readIndex t delay := by
  unfold readIndex
  cases hfound : t.times.findIdx? fun time => delay + jerkTimeMargin ≤ time with
  | none =>
    show i ≤ t.length - 1
    omega
  | some k =>
    show i ≤ k
    by_contra hbeyond
    obtain ⟨hk, hreached, -⟩ := List.findIdx?_eq_some_iff_getElem.mp hfound
    have hearlier := hbefore k (not_le.mp hbeyond) _ (List.getElem?_eq_getElem hk)
    rw [decide_eq_true_iff] at hreached
    exact absurd hearlier (not_lt.mpr hreached)

/-- Plans that are the same up to the read index have the same points as far as they are read. -/
theorem agreeUpTo_points (hlength : t.lateralAccels.length = t.length)
    (h : t.SameUpTo other upto) (hread : readIndex t delay ≤ upto) :
    Exact.AgreeUpTo (delay + jerkTimeMargin) (t.times.zip t.lateralAccels)
      (other.times.zip other.lateralAccels) := by
  have htimes : other.length = t.length := congrArg List.length h.times
  intro i hbelow
  rw [getElem?_points hlength, getElem?_points (h.length_eq hlength), htimes, h.times]
  by_cases hi : i < t.length
  · have hreached : i ≤ readIndex t delay := by
      refine le_readIndex hi fun j hj time htime => ?_
      obtain ⟨hj', rfl⟩ := List.getElem?_eq_some_iff.mp htime
      refine hbelow j hj (t.times[j], t.lateralAccels.getD j 0) ?_
      rw [getElem?_points hlength, if_pos (show j < t.length from hj'),
        List.getD_eq_getElem _ _ hj']
    simp only [List.getD_eq_getElem?_getD, h.accels i (hreached.trans hread)]
  · rw [if_neg hi, if_neg hi]

/-- The planned acceleration is read between samples up to the read index. -/
theorem desiredJerk_congr (hgood : t.isGood = true) (h : t.SameUpTo other upto)
    (hread : readIndex t delay ≤ upto) (desiredAccel : ℝ) :
    desiredJerk other desiredAccel delay = desiredJerk t desiredAccel delay := by
  have hlength := (length_of_isGood hgood).2
  have hbreakpoints : (t.times.zip t.lateralAccels).map Prod.fst
      = (other.times.zip other.lateralAccels).map Prod.fst := by
    rw [List.map_fst_zip hlength.ge, List.map_fst_zip (h.length_eq hlength).ge, h.times]
  have hapart : (t.times.zip t.lateralAccels).Pairwise fun p q => p.1 < q.1 := by
    have hchain := List.isChain_iff_pairwise.mp (isChain_times_of_isGood hgood)
    rwa [← List.map_fst_zip hlength.ge, List.pairwise_map] at hchain
  unfold desiredJerk interp
  rw [Exact.interpPoints_congr hapart hbreakpoints (agreeUpTo_points hlength h hread)]

/-! ## The estimate -/

/-- **The terms of a jerk estimate fit together, and they depend on the near part of the plan
only.**  What persists is nothing or has the sign of the desired jerk, and is no larger; the setpoint
term is in proportion to it.  Where nothing persists, and wherever the steering angle is measured,
all terms are zero and the acceleration error is not scaled.  Accelerations after both the window and
the sample at which the plan is read, rolls and pitches do not matter. -/
theorem estimate_coherent_and_local (h : t.isGood = true)
    (speed desiredAccel actualJerk delay : ℝ) (useSteeringAngle : Bool)
    (jerkFactor accelFactor : ℝ) :
    let e := ofTrajectory t speed desiredAccel actualJerk delay useSteeringAngle jerkFactor
      accelFactor
    (e.lookahead = 0 ∨ Scalar.sign e.lookahead = Scalar.sign e.desired) ∧
    |e.lookahead| ≤ |e.desired| ∧
    e.setpoint = jerkFactor * e.lookahead ∧
    (useSteeringAngle = true ∨ e.lookahead = 0 →
      e.lookahead = 0 ∧ e.setpoint = 0 ∧ e.measurement = 0 ∧ e.accelFrictionFactor = 1) ∧
    (¬ (useSteeringAngle = true ∨ e.lookahead = 0) → e.accelFrictionFactor = accelFactor) ∧
    ∀ other, t.SameUpTo other (max (upperIndex t speed) (readIndex t delay)) →
      ofTrajectory other speed desiredAccel actualJerk delay useSteeringAngle jerkFactor
        accelFactor = e := by
  intro e
  obtain ⟨hsign, hsmaller⟩ :=
    persistentValue_coherent (window t speed) (desiredJerk t desiredAccel delay)
  have hlocal : ∀ other, t.SameUpTo other (max (upperIndex t speed) (readIndex t delay)) →
      ofTrajectory other speed desiredAccel actualJerk delay useSteeringAngle jerkFactor
        accelFactor = e := by
    intro other hother
    unfold ofTrajectory
    rw [window_congr (length_of_isGood h).2 hother (le_max_left _ _),
      desiredJerk_congr h hother (le_max_right _ _)]
    rfl
  by_cases hnothing : (useSteeringAngle
      || persistentValue (window t speed) (desiredJerk t desiredAccel delay) == 0) = true
  · have he : e = ⟨desiredJerk t desiredAccel delay, 0, jerkFactor * 0, jerkFactor * 0, 1⟩ :=
      if_pos hnothing
    rw [mul_zero] at he
    refine ⟨.inl (by rw [he]), by simp [he], by simp [he], fun _ => by simp [he], fun hnot => ?_,
      hlocal⟩
    exact absurd (.inr (by rw [he])) hnot
  · have he : e = ⟨desiredJerk t desiredAccel delay,
        persistentValue (window t speed) (desiredJerk t desiredAccel delay),
        jerkFactor * persistentValue (window t speed) (desiredJerk t desiredAccel delay),
        jerkFactor * actualJerk, accelFactor⟩ := if_neg hnothing
    rw [Bool.or_eq_true, Exact.beq_iff] at hnothing
    refine ⟨by rw [he]; exact hsign, by rw [he]; exact hsmaller, by rw [he], fun hnone => ?_,
      fun _ => by rw [he], hlocal⟩
    rw [he] at hnone
    exact absurd hnone hnothing

/-- The plan with one sample after the control horizon is read at its first sample. -/
theorem readIndex_planEndingAt (last : ℝ) : readIndex (planEndingAt last) 0.2 = 0 := by
  have htimes : (planEndingAt last).times
      = 1 / 2 :: (List.range 17).map fun (i : Nat) => (1 / 2 : ℝ) + (i + 1 : Nat) / 32 := by
    rw [planEndingAt, List.range_succ_eq_map]
    simp
  rw [readIndex, htimes, List.findIdx?_cons]
  norm_num [jerkTimeMargin]

/-- The sample after the control horizon does not change the estimate. -/
theorem estimate_barring_last_sample :
    (planEndingAt 0).isGood = true ∧
      (planEndingAt 0).SameUpTo (planEndingAt 5)
        (max (upperIndex (planEndingAt 0) 5) (readIndex (planEndingAt 0) 0.2)) ∧
      estimateEndingAt 5 = estimateEndingAt 0 ∧
      |(estimateEndingAt 0).lookahead| ≤ |(estimateEndingAt 0).desired| := by
  have hgood : (planEndingAt 0).isGood = true := isGood_planEndingAt 0
  have hsame : (planEndingAt 0).SameUpTo (planEndingAt 5)
      (max (upperIndex (planEndingAt 0) 5) (readIndex (planEndingAt 0) 0.2)) := by
    rw [readIndex_planEndingAt, upperIndex_of_not_reachesBeyond (not_reachesBeyond_planEndingAt 0)]
    refine ⟨rfl, by simp [planEndingAt], fun i hi => ?_⟩
    have hhorizon : i < 17 := Nat.lt_succ_of_le hi
    simp [planEndingAt, List.getElem?_append, hhorizon]
  obtain ⟨-, hsmaller, -, -, -, hlocal⟩ :=
    estimate_coherent_and_local hgood 5 0 0.2 0.2 false 0.4 0.7
  exact ⟨hgood, hsame, hlocal _ hsame, hsmaller⟩

end JerkEstimate

end LateralTorque
