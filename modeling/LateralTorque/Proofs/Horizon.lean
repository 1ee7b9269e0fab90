import Mathlib
import LateralTorque.Lookahead
import LateralTorque.Proofs.Exact

/-!
# How far a jerk estimate looks ahead

The jerk estimate keeps the part of the desired jerk that persists along the plan, up to the first
sample beyond the look-ahead time.  A plan that ends before that time is followed to the end of the
control horizon only, even where it has more samples.

The plan is any good plan, in exact arithmetic, and curvature is measured from the yaw rate:
measured from the steering angle, there are no jerk terms to look ahead for.  Speed, delay and
factors are any.

* `persistFrom_of_agree`, `persistFrom_of_differ` — the persistent part of a value;
* `JerkEstimate.Consults` — an estimate answers for the planned jerks up to a sample;
* `JerkEstimate.consults_horizon_iff` — it does up to the sample where the look ahead ends, and up
  to the last sample of a plan within the look-ahead time exactly where the jerks that are left out
  change nothing;
* `JerkEstimate.late_reversal_unseen` — a plan where they do.

That a jerk is consulted is said by its effect: the estimate is as if the jerk counted, whether or
not it was looked at.
-/

set_option autoImplicit false

namespace LateralTorque

/-! ## The persistent part of a value -/

/-- A value of another sign among the future ones leaves nothing. -/
theorem persistFrom_of_differ {sign least : ℝ} {future : List ℝ}
    (h : ∃ v ∈ future, Scalar.sign v ≠ sign) : persistFrom sign least future = 0 := by
  induction future generalizing least with
  | nil =>
    obtain ⟨v, hmem, -⟩ := h
    cases hmem
  | cons first rest ih =>
    unfold persistFrom
    by_cases hfirst : Scalar.sign first = sign
    · rw [if_pos (Exact.beq_iff.mpr hfirst)]
      apply ih
      obtain ⟨v, hmem, hv⟩ := h
      rcases List.mem_cons.mp hmem with rfl | hmem
      · exact absurd hfirst hv
      · exact ⟨v, hmem, hv⟩
    · rw [if_neg (mt Exact.beq_iff.mp hfirst)]

/-- Future values of one sign leave the one of least magnitude. -/
theorem persistFrom_of_agree {sign : ℝ} (least : ℝ) {future : List ℝ}
    (h : ∀ v ∈ future, Scalar.sign v = sign) :
    persistFrom sign least future ∈ least :: future ∧
      ∀ v ∈ least :: future, |persistFrom sign least future| ≤ |v| := by
  induction future generalizing least with
  | nil => simp [persistFrom]
  | cons first rest ih =>
    rw [List.forall_mem_cons] at h
    unfold persistFrom
    rw [if_pos (Exact.beq_iff.mpr h.1)]
    simp only [Exact.abs_eq]
    by_cases hless : |first| < |least|
    · rw [if_pos hless]
      obtain ⟨hmem, hleast⟩ := ih first h.2
      refine ⟨List.mem_cons_of_mem _ hmem, ?_⟩
      rw [List.forall_mem_cons]
      exact ⟨(hleast first List.mem_cons_self).trans hless.le, hleast⟩
    · rw [if_neg hless]
      obtain ⟨hmem, hleast⟩ := ih least h.2
      rw [List.forall_mem_cons] at hleast
      refine ⟨?_, ?_⟩
      · rcases List.mem_cons.mp hmem with heq | hmem
        · rw [heq]
          exact List.mem_cons_self
        · exact List.mem_cons_of_mem _ (List.mem_cons_of_mem _ hmem)
      · rw [List.forall_mem_cons, List.forall_mem_cons]
        exact ⟨hleast.1, hleast.1.trans (not_lt.mp hless), hleast.2⟩

/-! ## Planned jerks -/

/-- The planned jerk from sample `j` to the next one. -/
noncomputable def Trajectory.plannedJerk (t : Trajectory ℝ) (j : Nat) : ℝ :=
  (t.lateralAccels.getD (j + 1) 0 - t.lateralAccels.getD j 0)
    / (t.times.getD (j + 1) 0 - t.times.getD j 0)

namespace Trajectory

variable {t : Trajectory ℝ}

theorem length_of_isGood (h : t.isGood = true) :
    controlLength ≤ t.length ∧ t.lateralAccels.length = t.length := by
  simp only [isGood, Bool.and_eq_true, decide_eq_true_eq, beq_iff_eq] at h
  exact ⟨h.1.1.1.1.1, h.1.1.1.1.2⟩

theorem getElem?_points (h : t.lateralAccels.length = t.length) (i : Nat) :
    (t.times.zip t.lateralAccels)[i]?
      = if i < t.length then some (t.times.getD i 0, t.lateralAccels.getD i 0) else none := by
  by_cases hi : i < t.length
  · have htime : i < t.times.length := hi
    have haccel : i < t.lateralAccels.length := by omega
    rw [if_pos hi, List.getElem?_zip_eq_some, List.getD_eq_getElem _ _ htime,
      List.getD_eq_getElem _ _ haccel]
    exact ⟨List.getElem?_eq_getElem htime, List.getElem?_eq_getElem haccel⟩
  · rw [if_neg hi, List.getElem?_eq_none_iff, List.length_zip]
    exact (min_le_left _ _).trans (not_lt.mp hi)

/-- The planned jerks in the order of the samples. -/
theorem getElem?_jerks (h : t.lateralAccels.length = t.length) (j : Nat) :
    t.jerks[j]? = if j + 1 < t.length then some (t.plannedJerk j) else none := by
  unfold jerks
  dsimp only
  rw [List.getElem?_zipWith, List.getElem?_tail, getElem?_points h, getElem?_points h]
  by_cases hj : j + 1 < t.length
  · rw [if_pos hj, if_pos hj, if_pos (by omega)]
    rfl
  · rw [if_neg hj, if_neg hj]
    split <;> simp_all

end Trajectory

namespace JerkEstimate

variable {t : Trajectory ℝ} {speed : ℝ}

/-- The planned jerks from the first one that counts up to sample `upper`. -/
theorem mem_window_iff (h : t.lateralAccels.length = t.length) {upper : Nat}
    (hupper : upper < t.length) {v : ℝ} :
    v ∈ (t.jerks.drop skippedJerks).take (upper - skippedJerks) ↔
      ∃ j, skippedJerks ≤ j ∧ j < upper ∧ v = t.plannedJerk j := by
  rw [List.mem_iff_getElem?]
  constructor
  · rintro ⟨i, hi⟩
    rw [List.getElem?_take, List.getElem?_drop, Trajectory.getElem?_jerks h] at hi
    split at hi
    · rename_i hbefore
      rw [if_pos (by omega)] at hi
      cases hi
      exact ⟨skippedJerks + i, by omega, by omega, rfl⟩
    · cases hi
  · rintro ⟨j, hlower, hj, rfl⟩
    refine ⟨j - skippedJerks, ?_⟩
    rw [List.getElem?_take, List.getElem?_drop, Trajectory.getElem?_jerks h, if_pos (by omega)]
    have hplace : skippedJerks + (j - skippedJerks) = j := by omega
    rw [hplace, if_pos (by omega)]

/-! ## The end of the look ahead -/

/-- The first sample beyond the look-ahead time, or the last sample of the plan. -/
noncomputable def horizonIndex (t : Trajectory ℝ) (speed : ℝ) : Nat :=
  (t.times.findIdx? fun time => lookaheadTime speed < time).getD (t.length - 1)

/-- Whether a plan reaches beyond the look-ahead time. -/
def ReachesBeyond (t : Trajectory ℝ) (speed : ℝ) : Prop :=
  ∃ time ∈ t.times, lookaheadTime speed < time

theorem upperIndex_of_reachesBeyond (h : ReachesBeyond t speed) :
    upperIndex t speed = horizonIndex t speed := by
  unfold upperIndex horizonIndex
  cases hfound : t.times.findIdx? fun time => lookaheadTime speed < time with
  | some i => rfl
  | none =>
    obtain ⟨time, hmem, hbeyond⟩ := h
    have hwithin := List.findIdx?_eq_none_iff.mp hfound time hmem
    rw [decide_eq_false_iff_not] at hwithin
    exact absurd hbeyond hwithin

theorem findIdx?_of_not_reachesBeyond (h : ¬ ReachesBeyond t speed) :
    (t.times.findIdx? fun time => lookaheadTime speed < time) = Option.none := by
  rw [List.findIdx?_eq_none_iff]
  intro time hmem
  rw [decide_eq_false_iff_not]
  exact fun hbeyond => h ⟨time, hmem, hbeyond⟩

theorem upperIndex_of_not_reachesBeyond (h : ¬ ReachesBeyond t speed) :
    upperIndex t speed = Trajectory.controlLength - 1 := by
  rw [upperIndex, findIdx?_of_not_reachesBeyond h]
  rfl

theorem horizonIndex_of_not_reachesBeyond (h : ¬ ReachesBeyond t speed) :
    horizonIndex t speed = t.length - 1 := by
  rw [horizonIndex, findIdx?_of_not_reachesBeyond h]
  rfl

theorem upperIndex_lt (h : Trajectory.controlLength ≤ t.length) (speed : ℝ) :
    upperIndex t speed < t.length := by
  unfold upperIndex
  cases hfound : t.times.findIdx? fun time => lookaheadTime speed < time with
  | some i =>
    obtain ⟨hi, -, -⟩ := List.findIdx?_eq_some_iff_getElem.mp hfound
    exact hi
  | none =>
    rw [Trajectory.controlLength] at h ⊢
    show 17 - 1 < t.length
    omega

/-! ## What an estimate answers for -/

/-- An estimate answers for the planned jerks up to sample `upper`: one that differs in sign from
the desired jerk leaves nothing of it, and otherwise what persists is the jerk of least
magnitude. -/
structure Consults (e : JerkEstimate ℝ) (t : Trajectory ℝ) (upper : Nat) : Prop where
  reverses : ∀ j, skippedJerks ≤ j → j < upper →
    Scalar.sign (t.plannedJerk j) ≠ Scalar.sign e.desired → e.lookahead = 0
  persists : (∀ j, skippedJerks ≤ j → j < upper →
      Scalar.sign (t.plannedJerk j) = Scalar.sign e.desired) →
    (e.lookahead = e.desired ∨
      ∃ j, skippedJerks ≤ j ∧ j < upper ∧ e.lookahead = t.plannedJerk j) ∧
    |e.lookahead| ≤ |e.desired| ∧
    ∀ j, skippedJerks ≤ j → j < upper → |e.lookahead| ≤ |t.plannedJerk j|

/-- A planned jerk agrees with an estimate: it has the sign of the desired jerk and is no smaller
than what persists of it. -/
def Agrees (e : JerkEstimate ℝ) (jerk : ℝ) : Prop :=
  Scalar.sign jerk = Scalar.sign e.desired ∧ |e.lookahead| ≤ |jerk|

/-- An estimate answers for further jerks where nothing persists, or where they all agree with
it. -/
theorem Consults.extend_iff {e : JerkEstimate ℝ} {near far : Nat} (h : e.Consults t near)
    (hskipped : skippedJerks ≤ near) (hle : near ≤ far) :
    e.Consults t far ↔
      e.lookahead = 0 ∨ ∀ j, near ≤ j → j < far → e.Agrees (t.plannedJerk j) := by
  constructor
  · intro hfar
    by_cases hzero : e.lookahead = 0
    · exact .inl hzero
    · have hsame : ∀ j, skippedJerks ≤ j → j < far →
          Scalar.sign (t.plannedJerk j) = Scalar.sign e.desired := by
        intro j hj hjfar
        by_contra hdiffers
        exact hzero (hfar.reverses j hj hjfar hdiffers)
      obtain ⟨-, -, hleast⟩ := hfar.persists hsame
      refine .inr fun j hj hjfar => ?_
      exact ⟨hsame j (hskipped.trans hj) hjfar, hleast j (hskipped.trans hj) hjfar⟩
  · intro hrest
    refine ⟨fun j hj hjfar hdiffers => ?_, fun hsame => ?_⟩
    · rcases hrest with hzero | hagree
      · exact hzero
      · by_cases hjnear : j < near
        · exact h.reverses j hj hjnear hdiffers
        · exact absurd (hagree j (not_lt.mp hjnear) hjfar).1 hdiffers
    · obtain ⟨hvalue, hdesired, hleast⟩ :=
        h.persists fun j hj hjnear => hsame j hj (hjnear.trans_le hle)
      refine ⟨?_, hdesired, fun j hj hjfar => ?_⟩
      · rcases hvalue with hvalue | ⟨j, hj, hjnear, hvalue⟩
        · exact .inl hvalue
        · exact .inr ⟨j, hj, hjnear.trans_le hle, hvalue⟩
      · by_cases hjnear : j < near
        · exact hleast j hj hjnear
        · rcases hrest with hzero | hagree
          · rw [hzero, abs_zero]
            exact abs_nonneg _
          · exact (hagree j (not_lt.mp hjnear) hjfar).2

variable {desiredAccel actualJerk delay jerkFactor accelFactor : ℝ}

/-- Away from the steering angle the look ahead is the persistent part of the desired jerk. -/
theorem lookahead_ofTrajectory :
    (ofTrajectory t speed desiredAccel actualJerk delay false jerkFactor accelFactor).lookahead
      = persistentValue (window t speed) (desiredJerk t desiredAccel delay) := by
  unfold ofTrajectory
  dsimp only
  split
  · rename_i hnothing
    rw [Bool.false_or, Exact.beq_iff] at hnothing
    exact hnothing.symm
  · rfl

theorem desired_ofTrajectory :
    (ofTrajectory t speed desiredAccel actualJerk delay false jerkFactor accelFactor).desired
      = desiredJerk t desiredAccel delay := by
  unfold ofTrajectory
  dsimp only
  split <;> rfl

/-- An estimate answers for the jerks that it was made from. -/
theorem consults_upperIndex (h : t.isGood = true) :
    (ofTrajectory t speed desiredAccel actualJerk delay false jerkFactor accelFactor).Consults t
      (upperIndex t speed) := by
  obtain ⟨hlength, haccels⟩ := Trajectory.length_of_isGood h
  have hwindow : ∀ v, v ∈ window t speed ↔
      ∃ j, skippedJerks ≤ j ∧ j < upperIndex t speed ∧ v = t.plannedJerk j :=
    fun v => mem_window_iff haccels (upperIndex_lt hlength speed)
  refine ⟨fun j hj hupper hdiffers => ?_, fun hsame => ?_⟩
  · rw [desired_ofTrajectory] at hdiffers
    rw [lookahead_ofTrajectory]
    exact persistFrom_of_differ ⟨_, (hwindow _).mpr ⟨j, hj, hupper, rfl⟩, hdiffers⟩
  · rw [desired_ofTrajectory] at hsame ⊢
    rw [lookahead_ofTrajectory]
    have hagree : ∀ v ∈ window t speed,
        Scalar.sign v = Scalar.sign (desiredJerk t desiredAccel delay) := by
      intro v hv
      obtain ⟨j, hj, hupper, rfl⟩ := (hwindow v).mp hv
      exact hsame j hj hupper
    obtain ⟨hmem, hleast⟩ := persistFrom_of_agree (desiredJerk t desiredAccel delay) hagree
    rw [List.forall_mem_cons] at hleast
    refine ⟨?_, hleast.1, fun j hj hupper => hleast.2 _ ((hwindow _).mpr ⟨j, hj, hupper, rfl⟩)⟩
    rcases List.mem_cons.mp hmem with heq | hmem
    · exact .inl heq
    · exact .inr ((hwindow _).mp hmem)

/-- **The look ahead** answers for the planned jerks up to the first sample beyond the look-ahead
time.  Where there is none it answers for those up to the end of the control horizon, and for the
whole plan exactly where nothing persists or the later jerks agree with what does. -/
theorem consults_horizon_iff (h : t.isGood = true)
    (speed desiredAccel actualJerk delay jerkFactor accelFactor : ℝ) :
    let e := ofTrajectory t speed desiredAccel actualJerk delay false jerkFactor accelFactor
    (¬ ReachesBeyond t speed → e.Consults t (Trajectory.controlLength - 1)) ∧
      (e.Consults t (horizonIndex t speed) ↔
        ReachesBeyond t speed ∨ e.lookahead = 0 ∨
          ∀ j, Trajectory.controlLength - 1 ≤ j → j < t.length - 1 →
            e.Agrees (t.plannedJerk j)) := by
  intro e
  have hupper : e.Consults t (upperIndex t speed) := consults_upperIndex h
  by_cases hbeyond : ReachesBeyond t speed
  · rw [← upperIndex_of_reachesBeyond hbeyond]
    exact ⟨fun hnot => absurd hbeyond hnot, fun _ => .inl hbeyond, fun _ => hupper⟩
  · rw [horizonIndex_of_not_reachesBeyond hbeyond, or_iff_right hbeyond]
    rw [upperIndex_of_not_reachesBeyond hbeyond] at hupper
    have hlength := (Trajectory.length_of_isGood h).1
    exact ⟨fun _ => hupper, hupper.extend_iff (by decide) (Nat.sub_le_sub_right hlength 1)⟩

/-! ## A short plan with one sample after the control horizon -/

/-- A plan of samples 1/32 of a second apart, the first of them half a second from now.  Its
acceleration grows by one m/s² each second up to the end of the control horizon. -/
noncomputable def planEndingAt (last : ℝ) : Trajectory ℝ where
  times := (List.range 18).map fun (i : Nat) => (1 / 2 : ℝ) + i / 32
  lateralAccels := ((List.range 17).map fun (i : Nat) => (1 / 2 : ℝ) + i / 32) ++ [last]
  rolls := List.replicate 18 0
  pitches := List.replicate 18 0

/-- Its estimate at 5 m/s, with no acceleration desired yet. -/
noncomputable def estimateEndingAt (last : ℝ) : JerkEstimate ℝ :=
  ofTrajectory (planEndingAt last) 5 0 0.2 0.2 false 0.4 0.7

variable (last : ℝ)

theorem length_planEndingAt : (planEndingAt last).length = 18 := rfl

theorem isGood_planEndingAt : (planEndingAt last).isGood = true := by
  have hascending : Trajectory.ascending (planEndingAt last).times = true := by
    norm_num [planEndingAt, Trajectory.ascending, List.range_succ]
  unfold Trajectory.isGood
  rw [hascending, Exact.all_isFinite, length_planEndingAt]
  simp [planEndingAt, Trajectory.controlLength]

/-- At 5 m/s the whole plan lies within the look-ahead time of 1.4 seconds. -/
theorem not_reachesBeyond_planEndingAt : ¬ ReachesBeyond (planEndingAt last) 5 := by
  have htime : lookaheadTime (5 : ℝ) = 1.4 := by
    norm_num [lookaheadTime, interp, interpPoints]
  rintro ⟨time, hmem, hbeyond⟩
  obtain ⟨i, hi, rfl⟩ := List.mem_map.mp hmem
  rw [List.mem_range] at hi
  rw [htime] at hbeyond
  have hbound : (i : ℝ) ≤ 17 := by exact_mod_cast Nat.le_of_lt_succ hi
  norm_num at hbeyond
  linarith

theorem time_planEndingAt {i : Nat} (h : i < 18) :
    (planEndingAt last).times.getD i 0 = 1 / 2 + i / 32 := by
  simp [planEndingAt, List.getD_eq_getElem?_getD, h]

theorem accel_planEndingAt {i : Nat} (h : i < 17) :
    (planEndingAt last).lateralAccels.getD i 0 = 1 / 2 + i / 32 := by
  simp [planEndingAt, List.getD_eq_getElem?_getD, List.getElem?_append, h]

theorem plannedJerk_planEndingAt {j : Nat} (h : j < 16) :
    (planEndingAt last).plannedJerk j = 1 := by
  unfold Trajectory.plannedJerk
  rw [time_planEndingAt last (by omega), time_planEndingAt last (by omega),
    accel_planEndingAt last (by omega), accel_planEndingAt last (by omega)]
  push_cast
  field_simp
  ring

theorem lastJerk_planEndingAt : (planEndingAt last).plannedJerk 16 = (last - 1) * 32 := by
  have haccel : (planEndingAt last).lateralAccels.getD 17 0 = last := by
    simp [planEndingAt, List.getD_eq_getElem?_getD]
  unfold Trajectory.plannedJerk
  rw [haccel, time_planEndingAt last (by omega), time_planEndingAt last (by omega),
    accel_planEndingAt last (by omega)]
  norm_num
  ring

/-- With a delay of 0.2 seconds the plan is read at its first sample. -/
theorem desired_estimateEndingAt : (estimateEndingAt last).desired = 1 := by
  have hplan : interp (0.2 + jerkTimeMargin) (planEndingAt last).times
      (planEndingAt last).lateralAccels = 1 / 2 := by
    norm_num [planEndingAt, List.range_succ_eq_map, interp, interpPoints, jerkTimeMargin]
  rw [estimateEndingAt, desired_ofTrajectory, desiredJerk, hplan]
  norm_num [jerkTimeMargin]

/-- What persists is the jerk up to the end of the control horizon, whatever comes after it. -/
theorem lookahead_estimateEndingAt : (estimateEndingAt last).lookahead = 1 := by
  have hupper : (estimateEndingAt last).Consults (planEndingAt last) 16 := by
    have hmade : (estimateEndingAt last).Consults (planEndingAt last)
        (upperIndex (planEndingAt last) 5) :=
      consults_upperIndex (isGood_planEndingAt last)
    rwa [upperIndex_of_not_reachesBeyond (not_reachesBeyond_planEndingAt last)] at hmade
  obtain ⟨hvalue, -, -⟩ := hupper.persists fun j _ hj => by
    rw [plannedJerk_planEndingAt last hj, desired_estimateEndingAt]
  rcases hvalue with hvalue | ⟨j, -, hj, hvalue⟩
  · rw [hvalue, desired_estimateEndingAt]
  · rw [hvalue, plannedJerk_planEndingAt last hj]

/-- A plan that goes on growing is consulted to its end. -/
theorem consults_horizon_of_growing :
    let t := planEndingAt (33 / 32)
    t.isGood = true ∧ ¬ ReachesBeyond t 5 ∧
      (estimateEndingAt (33 / 32)).Consults t (horizonIndex t 5) := by
  intro t
  have hgood : t.isGood = true := isGood_planEndingAt (33 / 32)
  refine ⟨hgood, not_reachesBeyond_planEndingAt _, ?_⟩
  refine (consults_horizon_iff hgood 5 0 0.2 0.2 0.4 0.7).2.mpr (.inr (.inr fun j hj hlast => ?_))
  have hj' : 16 ≤ j := hj
  have hlast' : j < 17 := hlast
  obtain rfl : j = 16 := by omega
  show Scalar.sign _ = Scalar.sign (estimateEndingAt (33 / 32)).desired ∧
    |(estimateEndingAt (33 / 32)).lookahead| ≤ _
  rw [lastJerk_planEndingAt, desired_estimateEndingAt, lookahead_estimateEndingAt]
  norm_num

/-- A plan that reverses in its last sample still counts as persistent. -/
theorem late_reversal_unseen :
    let t := planEndingAt 0
    let e := estimateEndingAt 0
    t.isGood = true ∧ ¬ ReachesBeyond t 5 ∧ horizonIndex t 5 = 17 ∧
      Scalar.sign (t.plannedJerk 16) ≠ Scalar.sign e.desired ∧ e.lookahead = 1 ∧
      ¬ e.Consults t (horizonIndex t 5) := by
  intro t e
  have hwithin : ¬ ReachesBeyond t 5 := not_reachesBeyond_planEndingAt 0
  have hindex : horizonIndex t 5 = 17 := horizonIndex_of_not_reachesBeyond hwithin
  have hdiffers : Scalar.sign (t.plannedJerk 16) ≠ Scalar.sign e.desired := by
    rw [lastJerk_planEndingAt, desired_estimateEndingAt]
    norm_num [Scalar.sign]
  have hlookahead : e.lookahead = 1 := lookahead_estimateEndingAt 0
  refine ⟨isGood_planEndingAt 0, hwithin, hindex, hdiffers, hlookahead, fun hconsults => ?_⟩
  rw [hindex] at hconsults
  have hzero := hconsults.reverses 16 (by decide) (by omega) hdiffers
  rw [hlookahead] at hzero
  norm_num at hzero

end JerkEstimate

end LateralTorque
