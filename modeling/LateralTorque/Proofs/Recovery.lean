import LateralTorque.Proofs.Extended
import LateralTorque.Proofs.Recording

/-!
# Recovery of a feature context

A feature context meets values that are not finite: an infinite roll, a pitch that is NaN.  Its
histories forget them after 30 calls.  The smoothed pitch does not: it is a weighted mean with all
that came before.

The number system is `Extended`, in which a result is finite exactly as its operands say; overflow
of finite values is left out.  The calls before may have any values and plans, the 30 calls of the
recovery have finite inputs, and only the last of them needs a good plan.

* `isFinite_interp`, `isFinite_futureTimes` — finite plans and inputs give finite planned features;
* `isFinite_pitch_afterCalls` — the smoothed pitch is finite as long as every pitch was;
* `features_finite_iff` — after 30 calls with finite values, the feature vectors are finite exactly
  where every pitch ever given was;
* `nan_pitch_not_forgotten` — one pitch that is NaN, and 30 calls that do not help.

A reset of the context is the way out: it starts the filter again.
-/

set_option autoImplicit false

namespace LateralTorque

/-! ## Curves and times -/

namespace Extended

theorem isFinite_linearMap {s₀ s₁ : ℝ} (hne : s₁ ≠ s₀) {t₀ t₁ x : Extended}
    (h₀ : Scalar.isFinite t₀ = true) (h₁ : Scalar.isFinite t₁ = true)
    (hx : Scalar.isFinite x = true) :
    Scalar.isFinite (linearMap (real s₀) (real s₁) t₀ t₁ x) = true := by
  unfold linearMap
  rw [isFinite_add, real_sub, isFinite_div _ (sub_ne_zero.mpr hne)]
  simp [h₀, h₁, hx]

/-- A point of a curve with two finite coordinates. -/
def FinitePoint (point : Extended × Extended) : Prop :=
  Scalar.isFinite point.1 = true ∧ Scalar.isFinite point.2 = true

/-- A jump is taken without dividing by its width. -/
theorem isFinite_interpAfter {x : Extended} (hx : Scalar.isFinite x = true)
    {before : Extended × Extended} (hbefore : FinitePoint before)
    {points : List (Extended × Extended)} (hpoints : ∀ point ∈ points, FinitePoint point) :
    Scalar.isFinite (interpAfter x before points) = true := by
  induction points generalizing before with
  | nil => exact hbefore.2
  | cons point rest ih =>
    have hpoint := hpoints point List.mem_cons_self
    unfold interpAfter
    split
    · split
      · exact hpoint.2
      · rename_i hwidth
        obtain ⟨s₀, hs₀⟩ := isFinite_iff.mp hbefore.1
        obtain ⟨s₁, hs₁⟩ := isFinite_iff.mp hpoint.1
        rw [hs₀, hs₁, real_beq_iff] at hwidth
        rw [hs₀, hs₁]
        exact isFinite_linearMap hwidth hbefore.2 hpoint.2 hx
    · exact ih hpoint fun other hmem => hpoints other (List.mem_cons_of_mem point hmem)

theorem isFinite_interpPoints {x : Extended} (hx : Scalar.isFinite x = true)
    {points : List (Extended × Extended)} (hpoints : ∀ point ∈ points, FinitePoint point) :
    Scalar.isFinite (interpPoints x points) = true := by
  cases points with
  | nil => rfl
  | cons first rest =>
    rw [List.forall_mem_cons] at hpoints
    unfold interpPoints
    dsimp only
    split
    · exact hpoints.1.2
    · split
      · cases hlast : rest.getLast? with
        | none => exact hpoints.1.2
        | some last => exact (hpoints.2 last (List.mem_of_getLast? hlast)).2
      · exact isFinite_interpAfter hx hpoints.1 hpoints.2

/-- A curve through finite points is finite at every finite place. -/
theorem isFinite_interp {x : Extended} (hx : Scalar.isFinite x = true)
    {breakpoints values : List Extended} (hbreakpoints : ∀ b ∈ breakpoints, Scalar.isFinite b = true)
    (hvalues : ∀ v ∈ values, Scalar.isFinite v = true) :
    Scalar.isFinite (interp x breakpoints values) = true :=
  isFinite_interpPoints hx fun _ hmem =>
    ⟨hbreakpoints _ (List.of_mem_zip hmem).1, hvalues _ (List.of_mem_zip hmem).2⟩

/-- The times of the future features are finite: no speed makes their divisor vanish. -/
theorem isFinite_futureTimes {offset accel speed : Extended}
    (hoffset : Scalar.isFinite offset = true) (haccel : Scalar.isFinite accel = true)
    (hspeed : Scalar.isFinite speed = true) :
    ∀ time ∈ futureTimes offset accel speed, Scalar.isFinite time = true := by
  obtain ⟨v, rfl⟩ := isFinite_iff.mp hspeed
  have hone : (minDivisorSpeed : Extended) = real 1 := by
    show real (OfScientific.ofScientific 10 true 1) = real 1
    norm_num
  have hdivisor : max v 1 ≠ 0 := ne_of_gt (lt_of_lt_of_le one_pos (le_max_right v 1))
  have hstarts : ∀ start ∈ (futureOffsets : List Extended), Scalar.isFinite start = true := by
    simp [futureOffsets]
  intro time htime
  obtain ⟨start, hstart, rfl⟩ := List.mem_map.mp htime
  dsimp only
  rw [hone, maxNum_real, isFinite_add, isFinite_mul, isFinite_div _ hdivisor]
  simp [hstarts start hstart, hoffset, haccel]

end Extended

/-- Whether all values that a call is given are finite. -/
def FeatureInputs.isFinite {α : Type} [Scalar α] (inputs : FeatureInputs α) : Bool :=
  [inputs.speed, inputs.longitudinalAccel, inputs.setpoint, inputs.measurement,
    inputs.jerkSetpoint, inputs.jerkMeasurement, inputs.desiredAccel, inputs.frictionInput,
    inputs.roll, inputs.timeOffset].all Scalar.isFinite && inputs.pitch.all Scalar.isFinite

namespace FeatureContext

/-! ## The smoothed pitch -/

/-- A context whose pitch filter is settled and gives new samples the weight `weight`. -/
structure Smooths {α : Type} (context : FeatureContext α) (weight : α) : Prop where
  settled : context.pitchFilter.settled = true
  weight : context.pitchFilter.weight = weight

/-- Whether a pitch, if there is one, keeps a smoothed pitch finite. -/
def keepsPitch {α : Type} [Scalar α] (weight : α) (pitch : Option α) : Bool :=
  pitch.all fun p => Scalar.isFinite p && Scalar.isFinite weight

theorem smooths_create (period : Extended) :
    (create period).Smooths (LowPass.weightOf pitchTimeConstant period) := ⟨rfl, rfl⟩

variable {context : FeatureContext Extended} {weight : Extended}

theorem Smooths.record (h : context.Smooths weight) (inputs : FeatureInputs Extended) :
    (context.record inputs).Smooths weight := by
  unfold FeatureContext.record takePitch
  cases inputs.pitch with
  | none => exact ⟨h.settled, h.weight⟩
  | some p => exact ⟨rfl, h.weight⟩

/-- A weighted mean is finite where both parts and the weight are. -/
theorem Smooths.isFinite_pitch_record (h : context.Smooths weight)
    (inputs : FeatureInputs Extended) :
    Scalar.isFinite (context.record inputs).pitch
      = (Scalar.isFinite context.pitch && keepsPitch weight inputs.pitch) := by
  unfold FeatureContext.record takePitch pitch
  cases hpitch : inputs.pitch with
  | none => simp [keepsPitch]
  | some p =>
    simp only [LowPass.update, h.settled, h.weight, if_true, keepsPitch, Option.all_some,
      Extended.isFinite_add, Extended.isFinite_mul, Extended.isFinite_sub, Extended.isFinite_one,
      Bool.true_and]
    cases Scalar.isFinite weight <;> simp

theorem Smooths.afterCalls (h : context.Smooths weight)
    (calls : List (FeatureInputs Extended × Trajectory Extended)) :
    (context.afterCalls calls).Smooths weight := by
  induction calls generalizing context with
  | nil => exact h
  | cons call rest ih => exact ih (h.record call.1)

/-- **The smoothed pitch** is finite as long as every pitch was. -/
theorem Smooths.isFinite_pitch_afterCalls (h : context.Smooths weight)
    (calls : List (FeatureInputs Extended × Trajectory Extended)) :
    Scalar.isFinite (context.afterCalls calls).pitch
      = (Scalar.isFinite context.pitch && calls.all fun call => keepsPitch weight call.1.pitch) := by
  induction calls generalizing context with
  | nil => simp [FeatureContext.afterCalls]
  | cons call rest ih =>
    rw [List.all_cons, ← Bool.and_assoc, ← h.isFinite_pitch_record]
    exact ih (h.record call.1)

/-! ## Samples -/

variable {inputs : FeatureInputs Extended} {t : Trajectory Extended}

theorem isFinite_cycleRoll (hinputs : inputs.isFinite = true)
    (hpitch : Scalar.isFinite context.pitch = true) :
    Scalar.isFinite (context.cycleRoll inputs) = true := by
  simp only [FeatureInputs.isFinite, List.all_cons, Bool.and_eq_true] at hinputs
  unfold cycleRoll
  cases inputs.pitch with
  | none => simp [hinputs]
  | some p => simp [pitchedRoll, hinputs, hpitch]

theorem isFinite_sample (hinputs : inputs.isFinite = true)
    (hpitch : Scalar.isFinite (context.record inputs).pitch = true) :
    Scalar.isFinite (context.sample inputs).roll = true ∧
      Scalar.isFinite (context.sample inputs).desiredAccel = true := by
  have htaken : Scalar.isFinite (context.takePitch inputs.pitch).pitch = true := hpitch
  refine ⟨isFinite_cycleRoll hinputs htaken, ?_⟩
  simp only [FeatureInputs.isFinite, List.all_cons, Bool.and_eq_true] at hinputs
  simp [sample, hinputs]

/-- Calls with finite values leave finite samples, as long as the smoothed pitch is finite. -/
theorem Smooths.isFinite_callSamples (h : context.Smooths weight)
    (hpitch : Scalar.isFinite context.pitch = true)
    {calls : List (FeatureInputs Extended × Trajectory Extended)}
    (hcalls : ∀ call ∈ calls, call.1.isFinite = true ∧ keepsPitch weight call.1.pitch = true) :
    ∀ s ∈ context.callSamples calls,
      Scalar.isFinite s.roll = true ∧ Scalar.isFinite s.desiredAccel = true := by
  induction calls generalizing context with
  | nil =>
    intro s hs
    cases hs
  | cons call rest ih =>
    rw [List.forall_mem_cons] at hcalls
    have hnext : Scalar.isFinite (context.record call.1).pitch = true := by
      rw [h.isFinite_pitch_record, hpitch, hcalls.1.2]
      rfl
    rw [callSamples, List.forall_mem_cons]
    exact ⟨isFinite_sample hcalls.1.1 hnext, ih (h.record call.1) hnext hcalls.2⟩

/-! ## Features -/

/-- A usable plan has finite values only. -/
theorem isFinite_of_isGood {t : Trajectory Extended} (ht : t.isGood = true) :
    (∀ x ∈ t.times, Scalar.isFinite x = true) ∧ (∀ x ∈ t.lateralAccels, Scalar.isFinite x = true) ∧
      (∀ x ∈ t.rolls, Scalar.isFinite x = true) ∧ ∀ x ∈ t.pitches, Scalar.isFinite x = true := by
  simp only [Trajectory.isGood, Bool.and_eq_true, List.all_append, List.all_eq_true] at ht
  obtain ⟨-, ⟨⟨htimes, haccels⟩, hrolls⟩, hpitches⟩ := ht
  exact ⟨htimes, haccels, hrolls, hpitches⟩

/-- The planned rolls are finite where roll and smoothed pitch are. -/
theorem all_isFinite_futureRolls {t : Trajectory Extended} (ht : t.isGood = true)
    (roll pitch : Extended) {times : List Extended} (hne : times ≠ [])
    (htimes : ∀ time ∈ times, Scalar.isFinite time = true) :
    (futureRolls t roll pitch times).all Scalar.isFinite = true ↔
      Scalar.isFinite roll = true ∧ Scalar.isFinite pitch = true := by
  obtain ⟨hgrid, -, hrolls, hpitches⟩ := isFinite_of_isGood ht
  have hplanned : ∀ time ∈ times, Scalar.isFinite
      (pitchedRoll (interp time t.times t.rolls + roll) (interp time t.times t.pitches + pitch))
        = true ↔ Scalar.isFinite roll = true ∧ Scalar.isFinite pitch = true := by
    intro time htime
    have hroll := Extended.isFinite_interp (htimes time htime) hgrid hrolls
    have hpitch := Extended.isFinite_interp (htimes time htime) hgrid hpitches
    simp [pitchedRoll, hroll, hpitch]
  obtain ⟨first, hfirst⟩ := List.exists_mem_of_ne_nil times hne
  unfold futureRolls
  rw [List.all_map, List.all_eq_true]
  exact ⟨fun hall => (hplanned first hfirst).mp (hall first hfirst),
    fun hboth time htime => (hplanned time htime).mpr hboth⟩

/-- The times at which a call looks at the plan. -/
noncomputable def planTimes (inputs : FeatureInputs Extended) : List Extended :=
  futureTimes inputs.timeOffset inputs.longitudinalAccel inputs.speed

theorem planTimes_ne_nil (inputs : FeatureInputs Extended) : planTimes inputs ≠ [] := by
  simp [planTimes, futureTimes, futureOffsets]

theorem isFinite_planTimes (hinputs : inputs.isFinite = true) :
    ∀ time ∈ planTimes inputs, Scalar.isFinite time = true := by
  simp only [FeatureInputs.isFinite, List.all_cons, Bool.and_eq_true] at hinputs
  exact Extended.isFinite_futureTimes (by simp [hinputs]) (by simp [hinputs]) (by simp [hinputs])

theorem all_isFinite_futureAccels (ht : t.isGood = true) (hinputs : inputs.isFinite = true) :
    (futureAccels t (planTimes inputs)).all Scalar.isFinite = true := by
  obtain ⟨hgrid, haccels, -, -⟩ := isFinite_of_isGood ht
  unfold futureAccels
  rw [List.all_map, List.all_eq_true]
  exact fun time htime => Extended.isFinite_interp (isFinite_planTimes hinputs time htime)
    (fun x hx => hgrid x (List.mem_of_mem_take hx)) haccels

/-- The parts of which features are made, beside the values of the call. -/
theorem all_isFinite_features_iff (context : FeatureContext Extended)
    (hinputs : inputs.isFinite = true) (t : Trajectory Extended) :
    (context.features inputs t).toList.all Scalar.isFinite = true ↔
      Scalar.isFinite (context.cycleRoll inputs) = true ∧
      (pastSamples context.desiredAccels inputs.desiredAccel).all Scalar.isFinite = true ∧
      (futureAccels t (planTimes inputs)).all Scalar.isFinite = true ∧
      (pastSamples context.rolls (context.cycleRoll inputs)).all Scalar.isFinite = true ∧
      (futureRolls t (context.cycleRoll inputs) context.pitch (planTimes inputs)).all
        Scalar.isFinite = true := by
  simp only [FeatureInputs.isFinite, List.all_cons, List.all_nil, Bool.and_eq_true] at hinputs
  simp only [features, Features.toList, planTimes, List.all_append, List.all_cons, List.all_nil,
    List.all_replicate, hinputs, Bool.and_eq_true, ite_self]
  tauto

/-! ## Thirty calls -/

theorem keepsPitch_iff {pitch : Option Extended} : keepsPitch weight pitch = true ↔
    ∀ p, pitch = some p → Scalar.isFinite p = true ∧ Scalar.isFinite weight = true := by
  cases pitch with
  | none => simp [keepsPitch]
  | some p => simp [keepsPitch]

/-- A history forgets what came before the last 30 samples. -/
theorem all_isFinite_pastSamples {h : History Extended historyLength}
    {old recent : List (FeatureSample Extended)} {f : FeatureSample Extended → Extended}
    (hrecords : h.Records ((old ++ recent).map f)) (hfull : historyLength ≤ recent.length)
    (hrecent : ∀ s ∈ recent, Scalar.isFinite (f s) = true) (current : Extended) :
    (pastSamples h current).all Scalar.isFinite = true := by
  rw [List.all_eq_true]
  intro x hx
  rw [List.map_append] at hrecords
  have hne : old.map f ++ recent.map f ≠ [] := by
    intro hempty
    have hnone := congrArg List.length hempty
    rw [List.length_append, List.length_map, List.length_map, List.length_nil] at hnone
    rw [historyLength] at hfull
    omega
  obtain ⟨i, hi⟩ := exists_of_mem_pastSamples hrecords hne hx
  have hmem := mem_of_pastSample?_append hi (by rwa [List.length_map])
  obtain ⟨s, hs, rfl⟩ := List.mem_map.mp hmem
  exact hrecent s hs

/-- The smoothed pitch after calls, in terms of the pitches given. -/
theorem isFinite_pitch_iff (period : Extended)
    (calls : List (FeatureInputs Extended × Trajectory Extended)) :
    Scalar.isFinite ((create period).afterCalls calls).pitch = true ↔
      ∀ call ∈ calls, ∀ p, call.1.pitch = some p → Scalar.isFinite p = true ∧
        Scalar.isFinite (LowPass.weightOf pitchTimeConstant period) = true := by
  have hlevel : Scalar.isFinite (create period).pitch = true := rfl
  rw [(smooths_create period).isFinite_pitch_afterCalls, hlevel, Bool.true_and, List.all_eq_true]
  exact forall₂_congr fun call _ => keepsPitch_iff

/-- A smoothed pitch that is not finite shows in the features. -/
theorem isFinite_pitch_of_features (hinputs : inputs.isFinite = true) (ht : t.isGood = true)
    (hall : (context.features inputs t).toList.all Scalar.isFinite = true) :
    Scalar.isFinite context.pitch = true := by
  obtain ⟨-, -, -, -, hplanned⟩ := (all_isFinite_features_iff context hinputs t).mp hall
  exact ((all_isFinite_futureRolls ht _ _ (planTimes_ne_nil inputs)
    (isFinite_planTimes hinputs)).mp hplanned).2

/-- The features of a call are read off the context that has recorded it. -/
theorem assemble_afterCalls (context : FeatureContext Extended)
    (calls : List (FeatureInputs Extended × Trajectory Extended))
    (last : FeatureInputs Extended × Trajectory Extended) :
    ((context.afterCalls calls).assemble last.1 last.2).2
      = (context.afterCalls (calls ++ [last])).features last.1 last.2 := by
  rw [afterCalls_append]
  rfl

/-- **A context recovers from anything but a bad pitch.**  After calls with any values, and 30 calls
or more whose values are finite, the feature vectors are finite exactly where every pitch that the
context was ever given is, and the weight of a pitch if it was given one.  The other values, however
bad, are forgotten. -/
theorem features_finite_iff (period : Extended)
    (before recovery : List (FeatureInputs Extended × Trajectory Extended))
    (last : FeatureInputs Extended × Trajectory Extended) (hlong : 29 ≤ recovery.length)
    (hinputs : ∀ call ∈ recovery ++ [last], call.1.isFinite = true)
    (hplan : last.2.isGood = true) :
    (((create period).afterCalls (before ++ recovery)).assemble last.1 last.2).2.toList.all
        Scalar.isFinite = true ↔
      ∀ call ∈ before ++ (recovery ++ [last]), ∀ p, call.1.pitch = some p →
        Scalar.isFinite p = true ∧
          Scalar.isFinite (LowPass.weightOf pitchTimeConstant period) = true := by
  have hlast : last.1.isFinite = true := hinputs last (by simp)
  rw [assemble_afterCalls, List.append_assoc, ← isFinite_pitch_iff]
  refine ⟨isFinite_pitch_of_features hlast hplan, fun hpitch => ?_⟩
  have hgiven := (isFinite_pitch_iff _ _).mp hpitch
  have hbefore : Scalar.isFinite ((create period).afterCalls before).pitch = true :=
    (isFinite_pitch_iff _ _).mpr fun call hmem => hgiven call (List.mem_append_left _ hmem)
  have hsamples := ((smooths_create period).afterCalls before).isFinite_callSamples hbefore
    fun call hmem =>
      ⟨hinputs call hmem, keepsPitch_iff.mpr (hgiven call (List.mem_append_right _ hmem))⟩
  have hfull : historyLength ≤
      (((create period).afterCalls before).callSamples (recovery ++ [last])).length := by
    rw [length_callSamples, List.length_append, historyLength]
    exact Nat.succ_le_succ hlong
  have hrecords := records_afterCalls (records_create period) (before ++ (recovery ++ [last]))
  rw [List.nil_append, callSamples_append] at hrecords
  have hroll := isFinite_cycleRoll hlast hpitch
  refine (all_isFinite_features_iff _ hlast _).mpr
    ⟨hroll, ?_, all_isFinite_futureAccels hplan hlast, ?_, ?_⟩
  · exact all_isFinite_pastSamples hrecords.desiredAccels hfull (fun s hs => (hsamples s hs).2) _
  · exact all_isFinite_pastSamples hrecords.rolls hfull (fun s hs => (hsamples s hs).1) _
  · exact (all_isFinite_futureRolls hplan _ _ (planTimes_ne_nil _)
      (isFinite_planTimes hlast)).mpr ⟨hroll, hpitch⟩

/-- A call at 20 m/s on a road with the given roll and pitch. -/
noncomputable def straightCall (roll : Extended) (pitch : Option Extended) :
    FeatureInputs Extended where
  speed := .real 20
  longitudinalAccel := .real 0
  setpoint := .real 0
  measurement := .real 0
  jerkSetpoint := .real 0
  jerkMeasurement := .real 0
  desiredAccel := .real 0
  frictionInput := .real 0
  roll := roll
  pitch := pitch
  timeOffset := .real 0

/-- A plan to go straight on for 16 seconds. -/
noncomputable def levelPlan : Trajectory Extended :=
  let zeros : List Extended := List.replicate Trajectory.controlLength (.real 0)
  ⟨(List.range Trajectory.controlLength).map fun i => .real i, zeros, zeros, zeros⟩

theorem isGood_levelPlan : levelPlan.isGood = true := by
  norm_num [levelPlan, Trajectory.isGood, Trajectory.length, Trajectory.controlLength,
    Trajectory.ascending, List.range_succ, Extended.real_lt_iff]

/-- At 100 calls per second the weight of a pitch is a number. -/
theorem isFinite_weight :
    Scalar.isFinite (LowPass.weightOf pitchTimeConstant (Extended.real 0.01)) = true := by
  have hsum : pitchTimeConstant + Extended.real 0.01 = .real (0.5 + 0.01) := rfl
  rw [LowPass.weightOf, hsum, Extended.isFinite_div _ (by norm_num)]
  rfl

/-- A roll that is NaN and an infinite one are forgotten after 30 calls. -/
theorem features_finite_after_bad_rolls :
    let before := [(straightCall .nan none, levelPlan),
      (straightCall (.infinity true) (some (.real 0.1)), levelPlan)]
    let recovery := List.replicate 29 (straightCall (.real 0.02) (some (.real 0.1)), levelPlan)
    let last := (straightCall (.real 0.01) none, levelPlan)
    (((create (.real 0.01)).afterCalls (before ++ recovery)).assemble last.1 last.2).2.toList.all
      Scalar.isFinite = true := by
  intro before recovery last
  refine (features_finite_iff (.real 0.01) before recovery last ?_ ?_ isGood_levelPlan).mpr ?_
  · simp [recovery]
  · intro call hmem
    simp only [recovery, last, List.mem_append, List.mem_replicate, List.mem_singleton] at hmem
    rcases hmem with ⟨-, rfl⟩ | rfl <;> simp [FeatureInputs.isFinite, straightCall]
  · intro call hmem p hp
    refine ⟨?_, isFinite_weight⟩
    simp only [before, recovery, last, List.mem_append, List.mem_cons, List.not_mem_nil, or_false,
      List.mem_replicate] at hmem
    rcases hmem with (rfl | rfl) | ⟨-, rfl⟩ | rfl
    · cases hp
    · cases hp; rfl
    · cases hp; rfl
    · cases hp

/-- One pitch that is NaN is still there after 30 calls with finite values. -/
theorem nan_pitch_not_forgotten :
    let recovery := List.replicate 29 (straightCall (.real 0) (some (.real 0)), levelPlan)
    let last := (straightCall (.real 0) (some (.real 0)), levelPlan)
    (∀ call ∈ recovery ++ [last], call.1.isFinite = true ∧ call.2.isGood = true) ∧
      (((create (.real 0.01)).afterCalls ((straightCall (.real 0) (some .nan), levelPlan)
        :: recovery)).assemble last.1 last.2).2.toList.all Scalar.isFinite = false := by
  intro recovery last
  refine ⟨fun call hmem => ?_, ?_⟩
  · simp only [recovery, last, List.mem_append, List.mem_replicate, List.mem_singleton] at hmem
    rcases hmem with ⟨-, rfl⟩ | rfl <;>
      exact ⟨by simp [FeatureInputs.isFinite, straightCall], isGood_levelPlan⟩
  · rw [Bool.eq_false_iff, assemble_afterCalls]
    intro hall
    have hpitch := isFinite_pitch_of_features (by simp [last, FeatureInputs.isFinite, straightCall])
      isGood_levelPlan hall
    have hbad := (isFinite_pitch_iff _ _).mp hpitch _ List.mem_cons_self .nan rfl
    cases hbad.1

end FeatureContext

end LateralTorque
