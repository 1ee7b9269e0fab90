import LateralTorque.Proofs.Run

/-!
# A reset is a new start

A reset clears the memory of a controller part by part.  What it leaves is, but for the record of
the latest cycle, the controller that was created from the same parameters and capabilities, with
the count, the tuning, the delay estimate and the source of tuning that are in use; and a record is
written anew in every cycle, so that nothing of the earlier run comes back.

This holds of any number system, of any run before the reset, and of any run after it.  The run
before may have set the controller to any state that a run can lead to, with NaN in its filters and
terms.

* `SameBuild` — controllers that a reset makes the same, `run_sameBuild` every run keeps to them;
* `cycles_of_report` — the record of the latest cycle has no influence;
* `takingOver` — a new controller that takes over what a reset keeps;
* `reset_cycles_eq_fresh` — after a reset, every run goes the way of a new controller's, state by
  state.

What a reset keeps it keeps on purpose: how actuator and vehicle answer is known from before, and
clearing the memory of a drive does not change it.
-/

set_option autoImplicit false

namespace LateralTorque

variable {α : Type} [Scalar α]

/-! ## What a reset of the parts forgets -/

@[simp] theorem Pid.reset_update (c : Pid α) (error feedforward speed : α) (freeze : Bool) :
    (c.update error feedforward speed freeze).reset = c.reset := rfl

theorem FeatureContext.reset_assemble (c : FeatureContext α) (inputs : FeatureInputs α)
    (t : Trajectory α) : (c.assemble inputs t).1.reset = c.reset := by
  unfold assemble record takePitch
  cases inputs.pitch <;> rfl

@[simp] theorem SaturationMonitor.reset_update (m : SaturationMonitor α) (counted : Bool) :
    (m.update counted).reset = m.reset := rfl

namespace Controller

/-! ## Controllers of one build -/

/-- A controller of the build of `c₀`: it differs in nothing but memory, tuning and source of
tuning. -/
structure SameBuild (c₀ c : Controller α) : Prop where
  params : c.params = c₀.params
  capabilities : c.capabilities =
    { c₀.capabilities with tuningSource := c.capabilities.tuningSource }
  pid : c.pid.reset = c₀.pid.reset
  context : c.context.reset = c₀.context.reset
  saturation : c.saturation.reset = c₀.saturation.reset

theorem SameBuild.refl (c : Controller α) : SameBuild c c := ⟨rfl, rfl, rfl, rfl, rfl⟩

variable {c₀ c : Controller α}

theorem reset_nextContext (c : Controller α) (input : CycleInput α) :
    (c.nextContext input).reset = c.context.reset := by
  unfold nextContext
  split
  · exact c.context.reset_assemble _ _
  · rfl

theorem sameBuild_step (h : SameBuild c₀ c) (input : CycleInput α) :
    SameBuild c₀ (c.step input).1 := by
  have hcapabilities := h.capabilities
  rw [← c.step_capabilities input] at hcapabilities
  have hpid : c.openCycle.1.pid.reset = c₀.pid.reset := by rw [openCycle_pid, h.pid]
  have hcontext : (c.openCycle.1.prepare input).1.context.reset = c₀.context.reset := by
    rw [prepare_eq, outcome_context, reset_nextContext, openCycle_context, h.context]
  have hsaturation : c.openCycle.1.saturation.reset = c₀.saturation.reset := by
    rw [openCycle_saturation, h.saturation]
  have hparams := (c.step_params input).trans h.params
  rcases c.step_cases input with ⟨_, hs⟩ | ⟨_, _, hs⟩ | ⟨_, _, _, _, hs⟩ <;>
    rw [hs] at hparams hcapabilities ⊢
  · exact ⟨hparams, hcapabilities, hpid, by simpa using h.context, hsaturation⟩
  · exact ⟨hparams, hcapabilities, hpid, hcontext, hsaturation⟩
  · exact ⟨hparams, hcapabilities, hpid, hcontext, hsaturation⟩

theorem sameBuild_obey (h : SameBuild c₀ c) (command : Command α) :
    SameBuild c₀ (c.obey command) := by
  cases command with
  | cycle input => exact sameBuild_step h input
  | reset => exact ⟨h.params, h.capabilities, h.pid, h.context, h.saturation⟩
  | retune factor offset friction =>
    rw [obey_retune_eq]
    exact ⟨h.params, h.capabilities, h.pid, h.context, h.saturation⟩
  | supply source =>
    refine ⟨h.params, ?_, h.pid, h.context, h.saturation⟩
    rw [obey, withTuningSource, h.capabilities]

/-- No run changes the build of a controller. -/
theorem run_sameBuild (c : Controller α) (commands : List (Command α)) :
    SameBuild c (c.run commands) :=
  run_induction (P := SameBuild c) (fun _ command h => sameBuild_obey h command)
    (SameBuild.refl c) commands

/-! ## The new start -/

/-- A controller with the count, the tuning, the delay estimate and the source of tuning that
another one has in use. -/
def takingOver (fresh c : Controller α) : Controller α :=
  { fresh with
    capabilities := { fresh.capabilities with tuningSource := c.capabilities.tuningSource }
    tuning := c.tuning
    delay := c.delay
    tick := c.tick }

/-- A reset leaves a new controller of the same build, and the record of the latest cycle. -/
theorem SameBuild.reset_eq (h : SameBuild c₀ c) :
    c.reset = { c₀.reset.takingOver c.reset with report := c.report } := by
  simp only [reset, takingOver]
  rw [← h.capabilities, h.params, h.pid, h.context, h.saturation]

/-- A controller that has done nothing yet is as after a reset. -/
theorem initial_reset (params : Params α) (capabilities : Capabilities α) :
    (initial params capabilities).reset = initial params capabilities := rfl

/-! ## The record -/

/-- A cycle writes its record anew. -/
theorem step_of_report (c : Controller α) (record : Diagnostics α) (input : CycleInput α) :
    ({ c with report := record }.step input).1 = (c.step input).1 := by
  have hopen : { c with report := record }.openCycle.1 = c.openCycle.1 := by
    rw [openCycle_eq, openCycle_eq]
    rfl
  cases hactive : input.active with
  | false => rw [step_of_idle _ hactive, step_of_idle _ hactive, hopen]
  | true => rw [step_of_active _ hactive, step_of_active _ hactive, hopen]

/-- The record of the cycle before a run has no influence on the cycles of the run. -/
theorem cycles_of_report (c : Controller α) (record : Diagnostics α)
    (commands : List (Command α)) :
    { c with report := record }.cycles commands = c.cycles commands := by
  induction commands generalizing c with
  | nil => rfl
  | cons command rest ih =>
    cases command with
    | cycle input => rw [cycles_cycle, cycles_cycle, step_of_report]
    | reset => exact ih c.reset
    | retune factor offset friction =>
      rw [cycles_cons_of_not_cycle _ rfl, cycles_cons_of_not_cycle _ rfl, obey_retune_eq,
        obey_retune_eq]
      exact ih { c with tuning := c.tuning.estimated factor offset friction }
    | supply source => exact ih (c.withTuningSource source)

/-- **A reset is a new start.**  After a reset at the end of any run, every further run goes through
the states, and so through the torques and records, of a controller newly created from the same
parameters and capabilities that has taken over count, tuning, delay estimate and source of
tuning. -/
theorem reset_cycles_eq_fresh {params : Params α} {capabilities : Capabilities α}
    {fresh : Controller α} (h : create params capabilities = .ok fresh)
    (before after : List (Command α)) :
    let c := (fresh.run before).reset
    c.cycles after = (fresh.takingOver c).cycles after := by
  intro c
  obtain ⟨-, -, rfl⟩ := create_eq_ok_iff.mp h
  have hreset := (run_sameBuild (initial params capabilities) before).reset_eq
  rw [initial_reset] at hreset
  calc c.cycles after
      = { (initial params capabilities).takingOver c with
          report := c.report }.cycles after := congrArg (fun d => d.cycles after) hreset
    _ = ((initial params capabilities).takingOver c).cycles after := cycles_of_report _ _ _

/-- After two turns with a live estimate between them, a reset starts anew with the estimated tuning
and the estimated delay. -/
theorem reset_cycles_eq_fresh_after_turns :
    let params : Params Float := { Params.standard with estimateDelay := true }
    let fresh := initial params Capabilities.standard
    let answered : CycleInput Float :=
      { CycleInput.turn 20.0 0.001 with actuatorTorque := some 0.3 }
    let c := (fresh.run
      [.cycle answered, .retune 2.0 0.0 0.2, .cycle (.turn 30.0 0.05)]).reset
    let after : List (Command Float) :=
      [.cycle (.turn 25.0 0.002), .retune 1.5 0.0 0.1, .cycle answered]
    create params Capabilities.standard = .ok fresh ∧
      c.tuning.accelFactor < fresh.tuning.accelFactor ∧ fresh.delay.delay < c.delay.delay ∧
      c.cycles after = (fresh.takingOver c).cycles after := by
  intro params fresh answered c after
  have hcreate : create params Capabilities.standard = .ok fresh :=
    create_standard (Params.validate_eq_ok_iff.mpr (by decide +kernel)) rfl
  exact ⟨hcreate, by decide +kernel, by decide +kernel, reset_cycles_eq_fresh hcreate
    [.cycle answered, .retune 2.0 0.0 0.2, .cycle (.turn 30.0 0.05)] after⟩

end Controller

end LateralTorque
