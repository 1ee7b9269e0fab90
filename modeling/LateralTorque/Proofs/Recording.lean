import LateralTorque.Features
import LateralTorque.Proofs.History

/-!
# What a feature context records

Every call of a feature context adds one sample to its histories, the desired acceleration of the
call and its roll.  The past features are read off the last 30 samples.

The calls are any calls, in any number system: the inputs may be anything, and so may the plans,
which a context reads but does not keep.

* `FeatureSample` — what one call leaves behind;
* `Records.record`, `records_afterCalls` — a context records the samples of its calls;
* `features_full` — the vectors of a cycle have as many entries as there are features;
* `features_recall` — the past features of a context are those of three of the samples it records.

The pitch filter is the part of a context that is not described by its last samples; it is the
matter of `Recovery`.
-/

set_option autoImplicit false

namespace LateralTorque

variable {α : Type}

/-! ## Samples -/

/-- What a call leaves in the histories. -/
structure FeatureSample (α : Type) where
  roll : α
  desiredAccel : α

/-- The sample that a past feature is read from: of the last 30, the one with `10 * i` older ones, or
the newest if there are not that many. -/
def pastSample? {β : Type} (samples : List β) (i : Nat) : Option β :=
  (samples.rtake historyLength)[min (10 * i) ((samples.rtake historyLength).length - 1)]?

theorem pastSample?_map {β γ : Type} (f : β → γ) (samples : List β) (i : Nat) :
    pastSample? (samples.map f) i = (pastSample? samples i).map f := by
  have hrtake : (samples.map f).rtake historyLength = (samples.rtake historyLength).map f := by
    simp [List.rtake, List.map_drop]
  rw [pastSample?, hrtake, List.length_map, List.getElem?_map]
  rfl

theorem exists_pastSample? {β : Type} {samples : List β} (hne : samples ≠ []) (i : Nat) :
    ∃ x, pastSample? samples i = some x := by
  have hpos : 0 < samples.length := List.length_pos_iff.mpr hne
  have hlength : (samples.rtake historyLength).length = min samples.length historyLength := by
    simp only [List.rtake, List.length_drop]
    omega
  have hindex : min (10 * i) ((samples.rtake historyLength).length - 1)
      < (samples.rtake historyLength).length := by
    rw [hlength, historyLength]
    omega
  exact ⟨_, List.getElem?_eq_getElem hindex⟩

/-- Only the last 30 samples count. -/
theorem mem_of_pastSample?_append {β : Type} {old recent : List β} {i : Nat} {x : β}
    (hx : pastSample? (old ++ recent) i = some x) (hfull : historyLength ≤ recent.length) :
    x ∈ recent := by
  have hrecent : (old ++ recent).rtake historyLength = recent.rtake historyLength := by
    rw [List.rtake, List.length_append, Nat.add_sub_assoc hfull, List.drop_length_add_append]
    rfl
  rw [pastSample?, hrecent] at hx
  exact List.mem_of_mem_drop (List.mem_of_getElem? hx)

/-! ## Contexts -/

namespace FeatureContext

variable [Scalar α]

/-- The sample of a call: its roll, adjusted for the smoothed pitch if the pitch is known, and its
desired acceleration. -/
def sample (context : FeatureContext α) (inputs : FeatureInputs α) : FeatureSample α where
  roll := (context.takePitch inputs.pitch).cycleRoll inputs
  desiredAccel := inputs.desiredAccel

/-- A context into which samples were recorded, oldest first. -/
structure Records (context : FeatureContext α) (samples : List (FeatureSample α)) : Prop where
  rolls : context.rolls.Records (samples.map FeatureSample.roll)
  desiredAccels : context.desiredAccels.Records (samples.map FeatureSample.desiredAccel)

theorem records_create (period : α) : (create period).Records [] :=
  ⟨History.records_empty, History.records_empty⟩

variable {context : FeatureContext α} {samples : List (FeatureSample α)}

/-- The pitch is kept apart from the histories. -/
theorem takePitch_histories (context : FeatureContext α) (pitch : Option α) :
    (context.takePitch pitch).rolls = context.rolls ∧
      (context.takePitch pitch).desiredAccels = context.desiredAccels := by
  unfold takePitch
  cases pitch <;> exact ⟨rfl, rfl⟩

/-- A call adds its sample. -/
theorem Records.record (h : context.Records samples) (inputs : FeatureInputs α) :
    (context.record inputs).Records (samples ++ [context.sample inputs]) := by
  obtain ⟨hrolls, haccels⟩ := context.takePitch_histories inputs.pitch
  have hpushed : (context.record inputs).rolls = context.rolls.push (context.sample inputs).roll ∧
      (context.record inputs).desiredAccels
        = context.desiredAccels.push (context.sample inputs).desiredAccel := by
    rw [← hrolls, ← haccels]
    exact ⟨rfl, rfl⟩
  constructor
  · rw [hpushed.1, List.map_append]
    exact h.rolls.push (by decide) _
  · rw [hpushed.2, List.map_append]
    exact h.desiredAccels.push (by decide) _

end FeatureContext

/-! ## Features -/

/-- Each vector of features has its full length. -/
structure Features.Full (f : Features α) : Prop where
  setpoint : f.setpoint.length = featureCount
  measurement : f.measurement.length = featureCount
  feedforward : f.feedforward.length = featureCount

theorem FeatureContext.features_full [Scalar α] (c : FeatureContext α) (inputs : FeatureInputs α)
    (t : Trajectory α) : (c.features inputs t).Full := by
  constructor <;>
    simp [features, pastSamples, historyOffsets, futureRolls, futureAccels, futureTimes,
      futureOffsets, featureCount]

/-- The past features in place `i` are those of a sample: its roll in all three vectors, and its
desired acceleration in the feedforward vector. -/
structure Features.Recalls (f : Features α) (i : Nat) (s : FeatureSample α) : Prop where
  accel : f.feedforward[4 + i]? = some s.desiredAccel
  feedforwardRoll : f.feedforward[11 + i]? = some s.roll
  setpointRoll : f.setpoint[11 + i]? = some s.roll
  measurementRoll : f.measurement[11 + i]? = some s.roll

namespace FeatureContext

variable [Scalar α] {context : FeatureContext α} {samples : List (FeatureSample α)}

/-- Where the past features stand in the vectors. -/
theorem features_recalls_getOrNewest? (context : FeatureContext α) (inputs : FeatureInputs α)
    (t : Trajectory α) {i : Nat} (hi : i < 3) : (context.features inputs t).Recalls i
      ⟨(context.rolls.getOrNewest? (10 * i)).getD (context.cycleRoll inputs),
        (context.desiredAccels.getOrNewest? (10 * i)).getD inputs.desiredAccel⟩ := by
  match i, hi with
  | 0, _ | 1, _ | 2, _ => exact ⟨rfl, rfl, rfl, rfl⟩

omit [Scalar α] in
/-- A history of one component of the samples recalls that of the sampled one. -/
theorem getOrNewest?_eq_of_pastSample? {h : History α historyLength} {f : FeatureSample α → α}
    (hrecords : h.Records (samples.map f)) {i : Nat} {s : FeatureSample α}
    (hs : pastSample? samples i = some s) : h.getOrNewest? (10 * i) = some (f s) := by
  have hne : samples.map f ≠ [] := by
    rintro hempty
    rw [List.map_eq_nil_iff] at hempty
    rw [hempty] at hs
    cases hs
  calc h.getOrNewest? (10 * i) = pastSample? (samples.map f) i := hrecords.getOrNewest?_eq hne _
    _ = some (f s) := by rw [pastSample?_map, hs]; rfl

omit [Scalar α] in
/-- Past features are samples of the history, if it has any. -/
theorem exists_of_mem_pastSamples {h : History α historyLength} {values : List α}
    (hrecords : h.Records values) (hne : values ≠ []) {current x : α}
    (hx : x ∈ pastSamples h current) : ∃ i, pastSample? values i = some x := by
  obtain ⟨offset, hoffset, rfl⟩ := List.mem_map.mp hx
  have hplace : ∃ i, offset = 10 * i := by
    simp only [historyOffsets, List.mem_cons, List.not_mem_nil, or_false] at hoffset
    rcases hoffset with rfl | rfl | rfl
    · exact ⟨0, rfl⟩
    · exact ⟨1, rfl⟩
    · exact ⟨2, rfl⟩
  obtain ⟨i, rfl⟩ := hplace
  obtain ⟨value, hvalue⟩ := exists_pastSample? hne i
  have hread : h.getOrNewest? (10 * i) = some value :=
    (hrecords.getOrNewest?_eq hne (10 * i)).trans hvalue
  exact ⟨i, by rw [hread, hvalue]; rfl⟩

/-- **The past features of a context** are those of three of the samples that it records. -/
theorem features_recall (h : context.Records samples) (hne : samples ≠ [])
    (inputs : FeatureInputs α) (t : Trajectory α) {i : Nat} (hi : i < 3) :
    ∃ s, pastSample? samples i = some s ∧ (context.features inputs t).Recalls i s := by
  obtain ⟨s, hs⟩ := exists_pastSample? hne i
  have hrecalls := context.features_recalls_getOrNewest? inputs t hi
  rw [getOrNewest?_eq_of_pastSample? h.rolls hs,
    getOrNewest?_eq_of_pastSample? h.desiredAccels hs] at hrecalls
  exact ⟨s, hs, hrecalls⟩

/-! ## Calls -/

/-- The context after calls with the given values and plans. -/
def afterCalls (context : FeatureContext α) (calls : List (FeatureInputs α × Trajectory α)) :
    FeatureContext α :=
  calls.foldl (fun c call => (c.assemble call.1 call.2).1) context

theorem afterCalls_append (context : FeatureContext α)
    (first second : List (FeatureInputs α × Trajectory α)) :
    context.afterCalls (first ++ second) = (context.afterCalls first).afterCalls second :=
  List.foldl_append

/-- The samples of calls. -/
def callSamples (context : FeatureContext α) :
    List (FeatureInputs α × Trajectory α) → List (FeatureSample α)
  | [] => []
  | call :: rest => context.sample call.1 :: (context.record call.1).callSamples rest

@[simp] theorem length_callSamples (context : FeatureContext α)
    (calls : List (FeatureInputs α × Trajectory α)) :
    (context.callSamples calls).length = calls.length := by
  induction calls generalizing context with
  | nil => rfl
  | cons call rest ih => exact congrArg (· + 1) (ih _)

theorem callSamples_append (context : FeatureContext α)
    (first second : List (FeatureInputs α × Trajectory α)) :
    context.callSamples (first ++ second)
      = context.callSamples first ++ (context.afterCalls first).callSamples second := by
  induction first generalizing context with
  | nil => rfl
  | cons call rest ih => exact congrArg (context.sample call.1 :: ·) (ih _)

theorem records_afterCalls (h : context.Records samples)
    (calls : List (FeatureInputs α × Trajectory α)) :
    (context.afterCalls calls).Records (samples ++ context.callSamples calls) := by
  induction calls generalizing context samples with
  | nil => simpa [afterCalls, callSamples] using h
  | cons call rest ih =>
    rw [callSamples, List.append_cons]
    exact ih (h.record call.1)

end FeatureContext

end LateralTorque
