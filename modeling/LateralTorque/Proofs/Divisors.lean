import LateralTorque.Proofs.Guarded
import LateralTorque.Proofs.Overrides
import LateralTorque.Proofs.Smoothing
import LateralTorque.Proofs.Windup

/-!
# The divisors of a cycle

In exact arithmetic a controller divides by positive numbers, in every cycle of every run: by times,
which are positive because the parameters were checked and the delay is never negative; by the
factor of the torque response, which every writer of the tuning keeps positive; by the spacing of a
good plan; and by a speed that is held above zero.

The analytic model is the linear law, whose divisor is the factor.  Of a host's own source of tuning
it is asked that it keeps the factor positive (`TuningSource.KeepsPositive`); a fixed tuning and a
store with any contents need no such promise.

* `Controller.accelFactor_nextTuning_pos` — the factor stays positive whatever a store holds;
* `Controller.Divisible` — what every command keeps of a controller, so that it can divide;
* `Controller.PositiveDivisors` — the divisors of a cycle are positive.

That these are all the divisors is not said here: it follows from `GuardedRun`.  Divisions inside
the vehicle's curvature model, a neural model and the low speed law are left to those.
-/

set_option autoImplicit false

namespace LateralTorque

/-! ## The factor of the torque response -/

/-- A source that hands over a positive factor where it is given one.  What a store holds is checked
when it is read, so this asks something only of a host's own source. -/
def TuningSource.KeepsPositive : TuningSource ℝ → Prop
  | .fixed | .keyed _ => True
  | .hosted refresh => ∀ tick (current tuning : Tuning ℝ), 0 < current.accelFactor →
      refresh tick current = some tuning → 0 < tuning.accelFactor

theorem Tuning.accelFactor_estimated_pos {t : Tuning ℝ} (h : 0 < t.accelFactor)
    (factor offset friction : ℝ) : 0 < (t.estimated factor offset friction).accelFactor := by
  unfold estimated
  split
  · exact h
  · rename_i haccepted
    exact Decidable.not_not.mp (not_or.mp haccepted).1

namespace Controller

variable {c : Controller ℝ}

/-- Whatever a store holds, the factor stays positive. -/
theorem accelFactor_nextTuning_pos (hsource : c.capabilities.tuningSource.KeepsPositive)
    (h : 0 < c.tuning.accelFactor) : 0 < c.nextTuning.accelFactor := by
  cases hkind : c.capabilities.tuningSource with
  | fixed =>
    have hkept : c.nextTuning = c.tuning := by rw [nextTuning, hkind]; rfl
    rwa [hkept]
  | keyed store =>
    by_cases hdue : Tuning.refreshPeriod ∣ c.tick + 1
    · rcases Tuning.overrides_cases ℝ store with ⟨factor, friction, hover⟩ | hunset | hunreadable
      · rcases nextTuning_of_overrides hkind hdue hover with hnew | ⟨_, hkept⟩
        · have hpercent : 0 < factor * 0.01 := mul_pos hover.positive (by norm_num)
          exact hnew ▸ hpercent
        · rwa [hkept]
      · rw [nextTuning_of_unsets hkind hdue hunset]
        exact h
      · rwa [nextTuning_of_unreadable hkind hdue hunreadable]
    · rwa [nextTuning_of_not_dvd hkind hdue]
  | hosted refresh =>
    rw [hkind] at hsource
    cases hanswer : refresh (c.tick + 1) c.tuning with
    | none =>
      have hkept : c.nextTuning = c.tuning := by
        simp only [nextTuning, hkind, TuningSource.refresh, hanswer]
      rwa [hkept]
    | some tuning =>
      have hnew : c.nextTuning = tuning := by
        simp only [nextTuning, hkind, TuningSource.refresh, hanswer]
      exact hnew ▸ hsource _ _ _ h hanswer

end Controller

/-! ## What every command keeps -/

/-- The periods of a feature context are positive. -/
structure FeatureContext.Timed (c : FeatureContext ℝ) : Prop where
  period : 0 < c.period
  filter : 0 < c.pitchFilter.period

theorem FeatureContext.Timed.assemble {c : FeatureContext ℝ} (h : c.Timed)
    (inputs : FeatureInputs ℝ) (t : Trajectory ℝ) : (c.assemble inputs t).1.Timed := by
  unfold FeatureContext.assemble FeatureContext.record FeatureContext.takePitch
  cases inputs.pitch <;> exact ⟨h.period, h.filter⟩

/-- The periods of a PID controller are positive. -/
structure Pid.Timed (c : Pid ℝ) : Prop where
  period : 0 < c.period
  filter : 0 < c.errorFilter.period

namespace Controller

/-- What holds of a controller between commands, so that it can divide: positive periods, a delay in
its range, a positive factor and a source of the tuning that leaves it so. -/
structure Divisible (c : Controller ℝ) : Prop where
  rate : 0 < c.params.rate
  pid : c.pid.Timed
  context : c.context.Timed
  delayFilter : 0 < c.delay.filter.period
  delay : c.delay.Ranged
  accelFactor : 0 < c.tuning.accelFactor
  source : c.capabilities.tuningSource.KeepsPositive

variable {c : Controller ℝ}

theorem divisible_of_create {params : Params ℝ} {capabilities : Capabilities ℝ}
    {c₀ : Controller ℝ} (h : create params capabilities = .ok c₀)
    (hsource : capabilities.tuningSource.KeepsPositive) : c₀.Divisible := by
  obtain ⟨hvalid, -, rfl⟩ := create_eq_ok_iff.mp h
  obtain ⟨-, hrate, hdelay, hfactor, -⟩ := Params.validate_eq_ok_iff.mp hvalid
  have hperiod : 0 < params.period := one_div_pos.mpr hrate
  exact ⟨hrate, ⟨hperiod, hperiod⟩, ⟨hperiod, hperiod⟩, hperiod,
    DelayEstimator.ranged_create _ hdelay hperiod, hfactor, hsource⟩

theorem pid_timed_obey (h : c.pid.Timed) (command : Command ℝ) : (c.obey command).pid.Timed := by
  rcases c.obey_pid command with hsame | ⟨_, hreset⟩ | ⟨input, _, _, rfl, _, hupdate⟩
  · exact hsame ▸ h
  · exact hreset ▸ ⟨h.period, h.filter⟩
  · rw [obey, hupdate]
    exact ⟨h.period, h.filter⟩

/-- A cycle keeps a controller so that it can divide, whatever it is given. -/
theorem Divisible.step (h : c.Divisible) (input : CycleInput ℝ) : (c.step input).1.Divisible := by
  have hcontext : (c.step input).1.context.Timed := by
    rw [step_context, nextContext, openCycle_context]
    split
    · split
      · exact h.context.assemble _ _
      · exact h.context
    · exact h.context
  have hdelay : (c.step input).1.delay.Ranged ∧ 0 < (c.step input).1.delay.filter.period := by
    rw [step_delay]
    split
    · refine ⟨h.delay.update _ _, ?_⟩
      rw [DelayEstimator.filter_period_update]
      exact h.delayFilter
    · exact ⟨h.delay, h.delayFilter⟩
  exact {
    rate := (c.step_params input).symm ▸ h.rate
    pid := pid_timed_obey h.pid (.cycle input)
    context := hcontext
    delayFilter := hdelay.2
    delay := hdelay.1
    accelFactor := (c.step_tuning input).symm ▸ accelFactor_nextTuning_pos h.source h.accelFactor
    source := (c.step_capabilities input).symm ▸ h.source }

/-- So does every other command, as long as the sources that it hands over can be used. -/
theorem Divisible.obey (h : c.Divisible) {command : Command ℝ}
    (hsupply : ∀ source, command = .supply source → source.KeepsPositive) :
    (c.obey command).Divisible := by
  cases command with
  | cycle input => exact h.step input
  | reset =>
    exact ⟨h.rate, ⟨h.pid.period, h.pid.filter⟩, ⟨h.context.period, h.context.period⟩,
      h.delayFilter, h.delay, h.accelFactor, h.source⟩
  | retune factor offset friction =>
    rw [obey_retune_eq]
    exact ⟨h.rate, h.pid, h.context, h.delayFilter, h.delay,
      Tuning.accelFactor_estimated_pos h.accelFactor factor offset friction, h.source⟩
  | supply source =>
    exact ⟨h.rate, h.pid, h.context, h.delayFilter, h.delay, h.accelFactor, hsupply source rfl⟩

theorem Divisible.run (h : c.Divisible) {commands : List (Command ℝ)}
    (hsupply : ∀ source, .supply source ∈ commands → source.KeepsPositive) :
    (c.run commands).Divisible := by
  refine run_induction_of_mem (P := Divisible) (fun d command hmem hd => ?_) h
  exact hd.obey fun source heq => hsupply source (heq ▸ hmem)

end Controller

/-! ## The divisors of a cycle -/

theorem CycleInput.isGood_of_usableTrajectory {input : CycleInput ℝ} {t : Trajectory ℝ}
    (h : input.usableTrajectory = some t) : t.isGood = true := by
  rw [usableTrajectory, Option.filter_eq_some_iff] at h
  exact h.2

namespace Controller

/-- The numbers that a cycle divides by are positive, in the controller with which it starts: the
rate and the period, the sums of time constant and period of the three filters, the factor of the
torque response, the time over which the plan is read (with a delay that is not negative), the
spacing of a plan in use, and the speed. -/
structure PositiveDivisors (c : Controller ℝ) (input : CycleInput ℝ) : Prop where
  rate : 0 < c.params.rate
  period : 0 < c.params.period ∧ 0 < c.pid.period ∧ 0 < c.context.period
  errorFilter : 0 < Pid.errorTimeConstant + c.pid.errorFilter.period
  delayFilter : 0 < DelayEstimator.timeConstant + c.delay.filter.period
  pitchFilter : 0 < pitchTimeConstant + c.context.pitchFilter.period
  accelFactor : 0 < c.tuning.accelFactor
  jerkTime : 0 ≤ c.delay.delay ∧ 0 < c.delay.delay + jerkTimeMargin
  spacing : ∀ t, input.usableTrajectory = some t →
    t.times.IsChain fun before after => 0 < after - before
  speed : 0 < Scalar.maxNum input.vehicle.speed minDivisorSpeed

theorem Divisible.positiveDivisors {c : Controller ℝ} (h : c.Divisible) (input : CycleInput ℝ) :
    c.openCycle.1.PositiveDivisors input where
  rate := c.openCycle_params.symm ▸ h.rate
  period := by
    rw [openCycle_params, openCycle_pid, openCycle_context]
    exact ⟨one_div_pos.mpr h.rate, h.pid.period, h.context.period⟩
  errorFilter := by
    rw [openCycle_pid]
    exact add_pos (by norm_num [Pid.errorTimeConstant]) h.pid.filter
  delayFilter := by
    rw [openCycle_delay]
    exact add_pos_of_nonneg_of_pos DelayEstimator.timeConstant_nonneg h.delayFilter
  pitchFilter := by
    rw [openCycle_context]
    exact add_pos (by norm_num [pitchTimeConstant]) h.context.filter
  accelFactor := by
    rw [openCycle_eq]
    exact accelFactor_nextTuning_pos h.source h.accelFactor
  jerkTime := by
    rw [openCycle_delay]
    have hdelay := h.delay.delay_nonneg
    exact ⟨hdelay, add_pos_of_nonneg_of_pos hdelay (by norm_num [jerkTimeMargin])⟩
  spacing t ht := by
    have hgood := CycleInput.isGood_of_usableTrajectory ht
    exact (Trajectory.isChain_times_of_isGood hgood).imp fun _ _ => sub_pos.mpr
  speed := divisorSpeed_pos _

end Controller

end LateralTorque
