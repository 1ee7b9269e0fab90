import Mathlib
import LateralTorque.Controller

/-!
# Runs of a controller

A host gives a controller its inputs, resets it, hands it live estimates of the torque response and
may exchange the source of its tuning, all in any order.  A run is the list of what the host does.
Results about runs are results about all such lists, so that nothing is assumed of the host.

What a cycle does is said here once, in any number system, and used by all that follows; no later
proof opens the definition of a cycle again.

* `validate_eq_ok_iff`, `create_eq_ok_iff` — which parameters and capabilities are accepted;
* `Command`, `obey`, `run`, `cycles` — what a host does, the state after it, and the states after
  its cycles;
* `step_cases` — the three ways a cycle ends: idle, held or driven;
* `openCycle_eq`, `prepare_eq` — what a cycle does before it ends;
* `run_induction` — what every command preserves holds after every run.

A live estimate that is refused leaves the controller as it was.
-/

set_option autoImplicit false

namespace LateralTorque

/-- Steps that give a result have given one after the first of them. -/
theorem exists_of_bind_eq_ok {ε β γ : Type} {first : Except ε β} {next : β → Except ε γ} {r : γ}
    (h : first >>= next = .ok r) : ∃ b, first = .ok b ∧ next b = .ok r := by
  cases first with
  | error cause => cases h
  | ok b => exact ⟨b, rfl, h⟩

variable {α : Type} [Scalar α]

/-! ## Acceptance -/

theorem Params.validate_eq_ok_iff {p : Params α} :
    p.validate = .ok () ↔ 0 < p.steerMax ∧ 0 < p.rate ∧ 0 ≤ p.actuatorDelay ∧
      0 < p.tuning.accelFactor ∧ ∀ named ∈ p.schedules, named.2.isValid = true := by
  unfold Params.validate
  split
  · simp [*]
  split
  · simp [*]
  split
  · simp [*]
  split
  · simp [*]
  split
  · rename_i named hfound
    have hflaw := List.find?_some hfound
    refine ⟨fun h => (by cases h), fun h => ?_⟩
    rw [h.2.2.2.2 named (List.mem_of_find?_eq_some hfound)] at hflaw
    cases hflaw
  · rename_i hsteer hrate hdelay hfactor _ hnone
    rw [List.find?_eq_none] at hnone
    refine ⟨fun _ => ⟨Decidable.not_not.mp hsteer, Decidable.not_not.mp hrate,
      Decidable.not_not.mp hdelay, Decidable.not_not.mp hfactor,
      fun named hmem => ?_⟩, fun _ => rfl⟩
    simpa using hnone named hmem

/-- The standard parameters pass their own check. -/
theorem Params.validate_standard : (standard : Params Float).validate = .ok () :=
  validate_eq_ok_iff.mpr (by decide +kernel)

namespace Controller

theorem create_eq_ok_iff {params : Params α} {capabilities : Capabilities α} {c : Controller α} :
    create params capabilities = .ok c ↔ params.validate = .ok () ∧
      (∀ network, capabilities.torqueModel.neuralModel? = some network →
        network.inputSize = featureCount) ∧ c = initial params capabilities := by
  unfold create
  cases hv : params.validate with
  | error flaw => simp [Except.mapError, bind, Except.bind]
  | ok accepted =>
    cases hn : capabilities.torqueModel.neuralModel? with
    | none => simp [Except.mapError, bind, Except.bind, pure, Except.pure, eq_comm]
    | some network =>
      by_cases hsize : network.inputSize = featureCount
      · simp [Except.mapError, bind, Except.bind, pure, Except.pure, hsize, eq_comm]
      · simp [Except.mapError, bind, Except.bind, hsize, throw, throwThe, MonadExceptOf.throw]

theorem create_standard {params : Params α} {capabilities : Capabilities α}
    (hp : params.validate = .ok ())
    (hn : capabilities.torqueModel.neuralModel? = none) :
    create params capabilities = .ok (initial params capabilities) :=
  create_eq_ok_iff.mpr ⟨hp, fun network h => (by rw [hn] at h; cases h), rfl⟩

end Controller

/-! ## A plain vehicle -/

/-- A single track vehicle with the linear torque model, the standard table of low speed factors and
a fixed tuning. -/
def Capabilities.standard : Capabilities α where
  curvatureModel :=
    ({ steerRatio := 15.0, wheelbase := 2.7, slipFactor := -0.002 } : BicycleModel α).curvature
  torqueModel := .analytic .linear
  lowSpeedLaw := LowSpeedTable.standard.law
  tuningSource := .fixed

/-- An engaged cycle of a vehicle that goes straight on a level road, while a curvature is asked for
without a plan. -/
def CycleInput.turn (speed curvature : α) : CycleInput α where
  active := true
  vehicle := ⟨speed, 0, 0, 0, 0, false⟩
  road := ⟨0, none, 0⟩
  desired := ⟨curvature, none⟩
  trajectory := none
  actuatorTorque := none
  steerLimited := false

/-! ## Commands -/

/-- What a host does with a controller: one cycle, a reset, a live estimate of the torque response,
or another source of tuning, which may be the same store with other contents. -/
inductive Command (α : Type) where
  | cycle (input : CycleInput α)
  | reset
  | retune (factor offset friction : α)
  | supply (source : TuningSource α)

/-- Whether a command is a cycle. -/
def Command.isCycle : Command α → Bool
  | .cycle _ => true
  | .reset | .retune .. | .supply _ => false

omit [Scalar α] in
theorem Command.eq_cycle_of_isCycle {command : Command α} (h : command.isCycle = true) :
    ∃ input, command = .cycle input := by
  cases command with
  | cycle input => exact ⟨input, rfl⟩
  | reset | retune _ _ _ | supply _ => cases h

/-- The tuning after a live estimate of the torque response; one that is refused changes nothing. -/
def Tuning.estimated (t : Tuning α) (factor offset friction : α) : Tuning α :=
  if ¬ 0 < factor ∨ !Scalar.isFinite offset ∨ !Scalar.isFinite friction then t
  else { t with accelFactor := factor, accelOffset := offset, friction := friction }

/-- Whether the cycle of a record reached the PID controller. -/
def Diagnostics.driven {α : Type} (r : Diagnostics α) : Bool := r.active && !r.modelFault

namespace Controller

/-- The controller after a command; a live estimate that is refused changes nothing. -/
def obey (c : Controller α) : Command α → Controller α
  | .cycle input => (c.step input).1
  | .reset => c.reset
  | .retune factor offset friction =>
    match c.retune factor offset friction with
    | .ok retuned => retuned
    | .error _ => c
  | .supply source => c.withTuningSource source

/-- The controller after a run. -/
def run (c : Controller α) (commands : List (Command α)) : Controller α := commands.foldl obey c

/-- The controller after each cycle of a run.  The torque of the cycle is its `output`, and its
`report` the record. -/
def cycles (c : Controller α) : List (Command α) → List (Controller α)
  | [] => []
  | command :: rest =>
    if command.isCycle then c.obey command :: (c.obey command).cycles rest
    else (c.obey command).cycles rest

@[simp] theorem run_cons (c : Controller α) (command : Command α) (rest : List (Command α)) :
    c.run (command :: rest) = (c.obey command).run rest := rfl

@[simp] theorem cycles_cycle (c : Controller α) (input : CycleInput α) (rest : List (Command α)) :
    c.cycles (.cycle input :: rest) = (c.step input).1 :: (c.step input).1.cycles rest := rfl

theorem run_concat (c : Controller α) (before : List (Command α)) (command : Command α) :
    c.run (before ++ [command]) = (c.run before).obey command := by
  rw [run, List.foldl_append]
  rfl

theorem cycles_cons_of_not_cycle (c : Controller α) {command : Command α}
    (h : command.isCycle = false) (rest : List (Command α)) :
    c.cycles (command :: rest) = (c.obey command).cycles rest := by
  rw [cycles, if_neg (by simp [h])]

/-- What every command preserves holds after every run. -/
theorem run_induction {P : Controller α → Prop}
    (hstep : ∀ c command, P c → P (c.obey command)) {c : Controller α} (h : P c)
    (commands : List (Command α)) : P (c.run commands) := by
  induction commands generalizing c with
  | nil => exact h
  | cons command rest ih => exact ih (hstep c command h)

/-- What every command of a run preserves holds after the run. -/
theorem run_induction_of_mem {P : Controller α → Prop} {commands : List (Command α)}
    (hstep : ∀ c, ∀ command ∈ commands, P c → P (c.obey command)) {c : Controller α} (h : P c) :
    P (c.run commands) := by
  induction commands generalizing c with
  | nil => exact h
  | cons command rest ih =>
    exact ih (fun d other hmem => hstep d other (List.mem_cons_of_mem command hmem))
      (hstep c command List.mem_cons_self h)

/-- What every command preserves, as long as a cycle leaves a controller with `Q`, holds after every
run whose cycles all do. -/
theorem run_induction_of_cycles {P Q : Controller α → Prop}
    (hstep : ∀ c command, P c → (command.isCycle = true → Q (c.obey command)) → P (c.obey command))
    {c : Controller α} (h : P c) {commands : List (Command α)}
    (hcycles : ∀ d ∈ c.cycles commands, Q d) : P (c.run commands) := by
  induction commands generalizing c with
  | nil => exact h
  | cons command rest ih =>
    cases hcommand : command.isCycle with
    | false =>
      rw [cycles_cons_of_not_cycle c hcommand] at hcycles
      exact ih (hstep c command h fun htrue => (by simp [hcommand] at htrue)) hcycles
    | true =>
      rw [cycles, if_pos hcommand, List.forall_mem_cons] at hcycles
      exact ih (hstep c command h fun _ => hcycles.1) hcycles.2

/-! ## The parts of a cycle -/

/-- The tuning of the next cycle. -/
def nextTuning (c : Controller α) : Tuning α :=
  match c.capabilities.tuningSource.refresh (c.tick + 1) c.tuning with
  | .adopt tuning | .replace tuning => tuning
  | .keep | .failed _ => c.tuning

/-- The start of a cycle moves nothing but the count, the tuning and the record. -/
theorem openCycle_eq (c : Controller α) :
    c.openCycle.1 = { c with
      tick := c.tick + 1
      tuning := c.nextTuning
      report := { c with tick := c.tick + 1, tuning := c.nextTuning }.openRecord } := by
  unfold openCycle refreshTuning nextTuning
  dsimp only
  cases c.capabilities.tuningSource.refresh (c.tick + 1) c.tuning <;> rfl

@[simp] theorem openCycle_params (c : Controller α) : c.openCycle.1.params = c.params := by
  rw [openCycle_eq]

@[simp] theorem openCycle_capabilities (c : Controller α) :
    c.openCycle.1.capabilities = c.capabilities := by
  rw [openCycle_eq]

@[simp] theorem openCycle_pid (c : Controller α) : c.openCycle.1.pid = c.pid := by
  rw [openCycle_eq]

@[simp] theorem openCycle_lowSpeed (c : Controller α) : c.openCycle.1.lowSpeed = c.lowSpeed := by
  rw [openCycle_eq]

@[simp] theorem openCycle_delay (c : Controller α) : c.openCycle.1.delay = c.delay := by
  rw [openCycle_eq]

@[simp] theorem openCycle_context (c : Controller α) : c.openCycle.1.context = c.context := by
  rw [openCycle_eq]

@[simp] theorem openCycle_saturation (c : Controller α) :
    c.openCycle.1.saturation = c.saturation := by
  rw [openCycle_eq]

@[simp] theorem openCycle_output (c : Controller α) : c.openCycle.1.output = c.output := by
  rw [openCycle_eq]

/-- The record with which a cycle starts claims nothing about the output. -/
theorem openCycle_report (c : Controller α) :
    c.openCycle.1.report.active = false ∧ c.openCycle.1.report.modelFault = false ∧
      c.openCycle.1.report.saturated = false ∧ c.openCycle.1.report.output = 0 :=
  ⟨rfl, rfl, rfl, rfl⟩

/-- The low speed factor that a cycle leaves. -/
def nextLowSpeed (c : Controller α) (input : CycleInput α) : LowSpeedScheduler α :=
  (c.scheduleLowSpeed (c.lowSpeedInputs input (c.signals input))).1

/-- What the torque model makes of a cycle, with the feature context after it and whether the neural
model was used. -/
def outcome (c : Controller α) (input : CycleInput α) :
    Except ModelError (ModelTorques α) × FeatureContext α × Bool :=
  let sig := c.signals input
  let factor := (c.nextLowSpeed input).lastFactor
  c.modelTorques input sig (c.lookAhead input sig)
    (sig.desiredAccel + factor * input.desired.curvature)
    (sig.actualAccel + factor * sig.actualCurvature)

/-- The values of a cycle from which the features of the neural model are made. -/
def cycleFeatures (c : Controller α) (network : NeuralModel α) (input : CycleInput α) :
    FeatureInputs α :=
  let sig := c.signals input
  let factor := (c.nextLowSpeed input).lastFactor
  c.featureInputs network input sig (c.lookAhead input sig)
    (sig.desiredAccel + factor * input.desired.curvature)
    (sig.actualAccel + factor * sig.actualCurvature)

/-- The feature context that an active cycle leaves: the cycle is recorded, once, where the neural
model is asked. -/
def nextContext (c : Controller α) (input : CycleInput α) : FeatureContext α :=
  match input.usableTrajectory, c.capabilities.torqueModel.neuralModel? with
  | some t, some network => (c.context.assemble (c.cycleFeatures network input) t).1
  | _, _ => c.context

theorem outcome_context (c : Controller α) (input : CycleInput α) :
    (c.outcome input).2.1 = c.nextContext input := by
  unfold outcome modelTorques nextContext
  cases input.usableTrajectory <;> cases c.capabilities.torqueModel.neuralModel? <;> rfl

theorem prepare_eq (c : Controller α) (input : CycleInput α) :
    (c.prepare input).1 = { c with
      lowSpeed := c.nextLowSpeed input
      context := (c.outcome input).2.1
      report := { c.report with
        active := true
        actualAccel := (c.signals input).actualAccel
        desiredAccel := (c.signals input).desiredAccel
        lowSpeedFactor := (c.nextLowSpeed input).lastFactor
        desiredJerk := (c.lookAhead input (c.signals input)).desired
        lookaheadJerk := (c.lookAhead input (c.signals input)).lookahead
        usedNeural := (c.outcome input).2.2 } } := rfl

theorem prepare_result (c : Controller α) (input : CycleInput α) :
    (c.prepare input).2.1 = (c.outcome input).1 := rfl

@[simp] theorem prepare_params (c : Controller α) (input : CycleInput α) :
    (c.prepare input).1.params = c.params := rfl

@[simp] theorem prepare_pid (c : Controller α) (input : CycleInput α) :
    (c.prepare input).1.pid = c.pid := rfl

@[simp] theorem prepare_output (c : Controller α) (input : CycleInput α) :
    (c.prepare input).1.output = c.output := rfl

theorem step_of_idle (c : Controller α) {input : CycleInput α} (hidle : input.active = false) :
    (c.step input).1 = { c.openCycle.1 with output := 0 } := by
  simp [step, hidle]

theorem step_of_active (c : Controller α) {input : CycleInput α} (hactive : input.active = true) :
    (c.step input).1 = ((c.openCycle.1.prepare input).1.settle input
      (c.openCycle.1.prepare input).2.1).1 := by
  simp [step, hactive, stepActive]

/-- **The three ways a cycle ends.**  An idle cycle puts out no torque; an active one is held where
the model fails or its torques are not finite, and driven with finite torques otherwise. -/
theorem step_cases (c : Controller α) (input : CycleInput α) :
    (input.active = false ∧ (c.step input).1 = { c.openCycle.1 with output := 0 }) ∨
    (input.active = true ∧
      (∀ torques, (c.openCycle.1.prepare input).2.1 = .ok torques → torques.areFinite = false) ∧
      (c.step input).1 = (c.openCycle.1.prepare input).1.hold) ∨
    (input.active = true ∧ ∃ torques, (c.openCycle.1.prepare input).2.1 = .ok torques ∧
      torques.areFinite = true ∧
      (c.step input).1 = ((c.openCycle.1.prepare input).1.drive input torques).1) := by
  cases hactive : input.active with
  | false => exact .inl ⟨rfl, c.step_of_idle hactive⟩
  | true =>
    rw [c.step_of_active hactive]
    cases hresult : (c.openCycle.1.prepare input).2.1 with
    | error cause => exact .inr (.inl ⟨rfl, fun torques h => (by cases h), rfl⟩)
    | ok torques =>
      cases hfinite : torques.areFinite with
      | false =>
        refine .inr (.inl ⟨rfl, fun other h => ?_, by simp [settle, hfinite]⟩)
        cases h
        exact hfinite
      | true => exact .inr (.inr ⟨rfl, torques, rfl, hfinite, by simp [settle, hfinite]⟩)

/-- The record says whether the controller was engaged. -/
@[simp] theorem step_report_active (c : Controller α) (input : CycleInput α) :
    (c.step input).1.report.active = input.active := by
  rcases c.step_cases input with ⟨hidle, hs⟩ | ⟨hactive, _, hs⟩ | ⟨hactive, _, _, _, hs⟩
  · rw [hs, hidle]
    rfl
  · rw [hs, hactive]
    rfl
  · rw [hs, hactive]
    rfl

/-- A cycle reports a fault exactly where it is active and the model gives no finite torques. -/
theorem step_modelFault_iff (c : Controller α) (input : CycleInput α) :
    (c.step input).1.report.modelFault = true ↔ input.active = true ∧
      ∀ torques, (c.openCycle.1.prepare input).2.1 = .ok torques → torques.areFinite = false := by
  rcases c.step_cases input with ⟨hidle, hs⟩ | ⟨hactive, hfaulty, hs⟩ |
    ⟨_, torques, hresult, hfinite, hs⟩
  · have hsound : (c.step input).1.report.modelFault = false := by rw [hs]; rfl
    simp [hsound, hidle]
  · have hfault : (c.step input).1.report.modelFault = true := by rw [hs]; rfl
    exact ⟨fun _ => ⟨hactive, hfaulty⟩, fun _ => hfault⟩
  · have hsound : (c.step input).1.report.modelFault = false := by rw [hs]; rfl
    rw [hsound]
    refine ⟨fun h => (by cases h), fun ⟨_, hnone⟩ => ?_⟩
    rw [hnone torques hresult] at hfinite
    cases hfinite

/-! ## Context and record -/

/-- A cycle records itself in the feature context if it is active. -/
theorem step_context (c : Controller α) (input : CycleInput α) :
    (c.step input).1.context =
      if input.active then c.openCycle.1.nextContext input else c.context := by
  rcases c.step_cases input with ⟨hidle, hs⟩ | ⟨hactive, _, hs⟩ | ⟨hactive, _, _, _, hs⟩ <;> rw [hs]
  · rw [hidle]
    exact c.openCycle_context
  · rw [hactive, if_pos rfl, ← outcome_context]
    rfl
  · rw [hactive, if_pos rfl, ← outcome_context]
    rfl

theorem step_report_usedNeural (c : Controller α) (input : CycleInput α) :
    (c.step input).1.report.usedNeural =
      (input.active && (c.openCycle.1.outcome input).2.2) := by
  rcases c.step_cases input with ⟨hidle, hs⟩ | ⟨hactive, _, hs⟩ | ⟨hactive, _, _, _, hs⟩ <;> rw [hs]
  · rw [hidle]
    rfl
  · rw [hactive]
    rfl
  · rw [hactive]
    rfl

theorem step_report_desiredAccel (c : Controller α) {input : CycleInput α}
    (hactive : input.active = true) :
    (c.step input).1.report.desiredAccel = (c.openCycle.1.signals input).desiredAccel := by
  rcases c.step_cases input with ⟨hidle, _⟩ | ⟨_, _, hs⟩ | ⟨_, _, _, _, hs⟩
  · rw [hidle] at hactive
    cases hactive
  · rw [hs]
    rfl
  · rw [hs]
    rfl

/-- A cycle without a fault drives the PID controller with the torques of the model, and they are in
its record. -/
theorem step_driven (c : Controller α) {input : CycleInput α} (hactive : input.active = true)
    (hsound : (c.step input).1.report.modelFault = false) :
    ∃ torques, (c.openCycle.1.outcome input).1 = .ok torques ∧
      (c.step input).1.pid = c.pid.update torques.error torques.feedforward input.vehicle.speed
        input.freezesIntegrator ∧
      (c.step input).1.report.error = torques.error ∧
      (c.step input).1.report.frictionInput = torques.frictionInput ∧
      (c.step input).1.report.features = torques.features := by
  rcases c.step_cases input with ⟨hidle, _⟩ | ⟨_, _, hs⟩ | ⟨_, torques, hresult, _, hs⟩
  · rw [hidle] at hactive
    cases hactive
  · rw [hs] at hsound
    cases hsound
  · rw [prepare_result] at hresult
    rw [hs, ← c.openCycle_pid]
    exact ⟨torques, hresult, rfl, rfl, rfl, rfl⟩

/-- A cycle that reaches the PID controller takes the feedback of the actuator into the estimate of
its delay, with the torque of the same cycle. -/
theorem step_delay (c : Controller α) (input : CycleInput α) :
    (c.step input).1.delay =
      if (c.step input).1.report.driven then
        c.delay.update input.actuatorTorque (c.step input).1.pid.control
      else c.delay := by
  rcases c.step_cases input with ⟨_, hs⟩ | ⟨_, _, hs⟩ | ⟨_, torques, _, _, hs⟩ <;> rw [hs]
  · exact c.openCycle_delay
  · rw [if_neg (by simp [Diagnostics.driven, hold])]
    exact c.openCycle_delay
  · have hdriven :
        ((c.openCycle.1.prepare input).1.drive input torques).1.report.driven = true := rfl
    rw [if_pos hdriven, ← c.openCycle_delay]
    rfl

/-! ## Count and tuning -/

/-- Every cycle is counted. -/
@[simp] theorem step_tick (c : Controller α) (input : CycleInput α) :
    (c.step input).1.tick = c.tick + 1 := by
  have hopen : c.openCycle.1.tick = c.tick + 1 := by rw [openCycle_eq]
  rw [← hopen]
  rcases c.step_cases input with ⟨_, h⟩ | ⟨_, _, h⟩ | ⟨_, _, _, _, h⟩ <;> rw [h] <;> rfl

/-- The tuning is settled at the start of a cycle. -/
theorem step_tuning (c : Controller α) (input : CycleInput α) :
    (c.step input).1.tuning = c.nextTuning := by
  have hopen : c.openCycle.1.tuning = c.nextTuning := by rw [openCycle_eq]
  rw [← hopen]
  rcases c.step_cases input with ⟨_, h⟩ | ⟨_, _, h⟩ | ⟨_, _, _, _, h⟩ <;> rw [h] <;> rfl

/-! ## What no run changes -/

@[simp] theorem step_params (c : Controller α) (input : CycleInput α) :
    (c.step input).1.params = c.params := by
  rcases c.step_cases input with ⟨_, h⟩ | ⟨_, _, h⟩ | ⟨_, _, _, _, h⟩ <;> rw [h] <;>
    simp [hold, drive]

@[simp] theorem step_capabilities (c : Controller α) (input : CycleInput α) :
    (c.step input).1.capabilities = c.capabilities := by
  rcases c.step_cases input with ⟨_, h⟩ | ⟨_, _, h⟩ | ⟨_, _, _, _, h⟩
  · rw [h, openCycle_capabilities]
  · rw [h, ← c.openCycle_capabilities]
    rfl
  · rw [h, ← c.openCycle_capabilities]
    rfl

/-- A live estimate moves nothing but the tuning. -/
theorem obey_retune_eq (c : Controller α) (factor offset friction : α) :
    c.obey (.retune factor offset friction)
      = { c with tuning := c.tuning.estimated factor offset friction } := by
  unfold obey retune Tuning.estimated
  by_cases hrefused : ¬ 0 < factor ∨ !Scalar.isFinite offset ∨ !Scalar.isFinite friction
  · simp only [hrefused, if_true]
  · simp only [hrefused, if_false]

theorem obey_retune (c : Controller α) (factor offset friction : α) :
    ∃ tuning, c.obey (.retune factor offset friction) = { c with tuning := tuning } :=
  ⟨_, c.obey_retune_eq factor offset friction⟩

/-- The count goes with the cycles and nothing else. -/
theorem obey_tick (c : Controller α) (command : Command α) :
    (c.obey command).tick = c.tick + if command.isCycle then 1 else 0 := by
  cases command with
  | cycle input => exact c.step_tick input
  | reset | supply _ => rfl
  | retune factor offset friction =>
    rw [obey_retune_eq]
    rfl

theorem run_tick (c : Controller α) (commands : List (Command α)) :
    (c.run commands).tick = c.tick + commands.countP Command.isCycle := by
  induction commands generalizing c with
  | nil => rfl
  | cons command rest ih =>
    rw [run_cons, ih, obey_tick, List.countP_cons]
    omega

@[simp] theorem obey_params (c : Controller α) (command : Command α) :
    (c.obey command).params = c.params := by
  cases command with
  | cycle input => exact c.step_params input
  | reset => rfl
  | retune factor offset friction =>
    obtain ⟨tuning, h⟩ := c.obey_retune factor offset friction
    rw [h]
  | supply source => rfl

/-- No command exchanges the torque model. -/
@[simp] theorem obey_torqueModel (c : Controller α) (command : Command α) :
    (c.obey command).capabilities.torqueModel = c.capabilities.torqueModel := by
  cases command with
  | cycle input => rw [obey, step_capabilities]
  | reset | supply _ => rfl
  | retune factor offset friction => rw [obey_retune_eq]

@[simp] theorem run_torqueModel (c : Controller α) (commands : List (Command α)) :
    (c.run commands).capabilities.torqueModel = c.capabilities.torqueModel :=
  run_induction (P := fun d => d.capabilities.torqueModel = c.capabilities.torqueModel)
    (fun d command h => (d.obey_torqueModel command).trans h) rfl commands

@[simp] theorem run_params (c : Controller α) (commands : List (Command α)) :
    (c.run commands).params = c.params :=
  run_induction (P := fun d => d.params = c.params)
    (fun d command h => (d.obey_params command).trans h) rfl commands

end Controller

end LateralTorque
