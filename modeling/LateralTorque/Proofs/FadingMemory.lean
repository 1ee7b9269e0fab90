import LateralTorque.Proofs.Smoothing

/-!
# The memory of a low-pass filter

A low-pass filter is used in three ways: it takes in samples, its time constant is changed, and it
is reset, to a value that stands for the signal or to one that only holds the place of the first
sample.  In exact arithmetic its value is an average of what it has been told since the last reset,
and the share that an earlier value still has in it is computed from the weights in between.

The period is positive, and time constants are not negative, at the start and wherever they are
changed; samples and starting values are any real numbers, and the actions come in any order.

* `Averages` — a filter is an average of what it has to go by, `Averages.apply` — one action;
* `share` — the share of its value that a filter keeps, `Alike.sub_after` — nothing else remains of
  the difference between two filters;
* `Below.apply` — filters in order stay in order;
* `averages_and_forgets` — the laws after any actions.

A value that is infinite or NaN is never forgotten, which exact arithmetic leaves out; `Recovery`
has the case of the pitch filter.
-/

set_option autoImplicit false

namespace LateralTorque.LowPass

/-! ## Actions -/

section Actions

variable {α : Type}

/-- What is done with a filter: it takes in a sample, its time constant is changed, or it starts
again, at a value that stands for the signal if `settled`. -/
inductive Action (α : Type) where
  | update (sample : α)
  | retime (timeConstant : α)
  | reset (start : α) (settled : Bool)

/-- Whether an action brings a filter a value. -/
def Action.bringsValue : Action α → Bool
  | .update _ => true
  | .retime _ => false
  | .reset _ _ => true

/-- What a start gives a filter to go by: itself, if it stands for the signal. -/
def basis (start : α) (settled : Bool) : List α := if settled then [start] else []

/-- What a filter has to go by after an action. -/
def Action.extend (known : List α) : Action α → List α
  | .update sample => known ++ [sample]
  | .retime _ => known
  | .reset start settled => basis start settled

/-- What a filter has to go by after a list of actions: the samples since the last reset, or since
the start if there is none, and before them the value of that reset or start if it stands for the
signal. -/
def known (start : α) (settled : Bool) (actions : List (Action α)) : List α :=
  actions.foldl Action.extend (basis start settled)

variable [Scalar α]

/-- A filter after an action. -/
def apply (f : LowPass α) : Action α → LowPass α
  | .update sample => f.update sample
  | .retime timeConstant => f.retime timeConstant
  | .reset start settled => f.reset start settled

/-- A filter after a list of actions. -/
def after (f : LowPass α) (actions : List (Action α)) : LowPass α := actions.foldl apply f

/-- The share of its value that a filter keeps through an action. -/
def shareOf (f : LowPass α) : Action α → α
  | .update _ => if f.settled then 1 - f.weight else 0
  | .retime _ => 1
  | .reset _ _ => 0

/-- The share of its value that a filter keeps through a list of actions. -/
def share (f : LowPass α) : List (Action α) → α
  | [] => 1
  | a :: later => f.shareOf a * (f.apply a).share later

end Actions

variable {f g : LowPass ℝ} {a b : Action ℝ} {actions : List (Action ℝ)}

/-! ## Filters in use -/

/-- An action that gives a filter no negative time constant. -/
def Action.Timely : Action ℝ → Prop
  | .retime timeConstant => 0 ≤ timeConstant
  | _ => True

/-- A filter in use: a new sample counts, and counts no more than wholly. -/
structure Proper (f : LowPass ℝ) : Prop where
  period : 0 < f.period
  weight_pos : 0 < f.weight
  weight_le_one : f.weight ≤ 1

theorem proper_create (start : ℝ) {timeConstant period : ℝ} (hconstant : 0 ≤ timeConstant)
    (hperiod : 0 < period) (settled : Bool) : (create start timeConstant period settled).Proper where
  period := hperiod
  weight_pos := div_pos hperiod (add_pos_of_nonneg_of_pos hconstant hperiod)
  weight_le_one := (weightOf_mem hconstant hperiod).2

theorem Proper.apply (h : f.Proper) (ha : a.Timely) : (f.apply a).Proper := by
  cases a with
  | update sample => exact ⟨h.period, h.weight_pos, h.weight_le_one⟩
  | retime timeConstant =>
    have hnew := proper_create f.value ha h.period f.settled
    exact ⟨h.period, hnew.weight_pos, hnew.weight_le_one⟩
  | reset start settled => exact ⟨h.period, h.weight_pos, h.weight_le_one⟩

/-! ## An average of what is known -/

/-- A filter that is an average of what it has to go by, and unsettled where that is nothing. -/
structure Averages (known : List ℝ) (f : LowPass ℝ) : Prop where
  settled : f.settled = true ↔ known ≠ []
  value : f.settled = true → f.value ∈ convexHull ℝ {v | v ∈ known}

theorem averages_basis (f : LowPass ℝ) : Averages (basis f.value f.settled) f where
  settled := by cases f.settled <;> simp [basis]
  value hsettled := subset_convexHull ℝ _ (by simp [basis, hsettled])

theorem Averages.apply {known : List ℝ} (h : Averages known f) (hf : f.Proper) (a : Action ℝ) :
    Averages (a.extend known) (f.apply a) := by
  cases a with
  | update sample =>
    refine ⟨by simp [LowPass.apply, update, Action.extend], fun _ => ?_⟩
    apply update_mem (convex_convexHull ℝ _) ⟨hf.weight_pos.le, hf.weight_le_one⟩
    · intro hsettled
      exact convexHull_mono (fun v hv => List.mem_append_left _ hv) (h.value hsettled)
    · exact subset_convexHull ℝ _ (by simp [Action.extend])
  | retime timeConstant => exact ⟨h.settled, h.value⟩
  | reset start settled => exact averages_basis (f.reset start settled)

theorem averages_after (hf : f.Proper) (hactions : ∀ a ∈ actions, a.Timely) :
    (f.after actions).Proper ∧ Averages (known f.value f.settled actions) (f.after actions) := by
  induction actions using List.reverseRecOn with
  | nil => exact ⟨hf, averages_basis f⟩
  | append_singleton before a ih =>
    rw [List.forall_mem_append, List.forall_mem_singleton] at hactions
    obtain ⟨hproper, haverages⟩ := ih hactions.1
    rw [after, known, List.foldl_concat, List.foldl_concat]
    exact ⟨hproper.apply hactions.2, haverages.apply hproper a⟩

/-! ## What is kept of a value -/

/-- Filters that differ in their value only. -/
structure Alike (f g : LowPass ℝ) : Prop where
  period : f.period = g.period
  weight : f.weight = g.weight
  settled : f.settled = g.settled

theorem Alike.eq_of_value (h : f.Alike g) (hvalue : f.value = g.value) : f = g := by
  obtain ⟨value, period, weight, settled⟩ := f
  obtain ⟨rfl, rfl, rfl⟩ := h
  exact congrArg (fun v => (⟨v, g.period, g.weight, g.settled⟩ : LowPass ℝ)) hvalue

theorem Alike.apply (h : f.Alike g) (a : Action ℝ) : (f.apply a).Alike (g.apply a) := by
  cases a with
  | update sample => exact ⟨h.period, h.weight, rfl⟩
  | retime timeConstant => exact ⟨h.period, congrArg (weightOf timeConstant) h.period, h.settled⟩
  | reset start settled => exact ⟨h.period, h.weight, rfl⟩

/-- An action leaves the share of the difference that a filter keeps of its value. -/
theorem Alike.sub_apply (h : f.Alike g) (a : Action ℝ) :
    (f.apply a).value - (g.apply a).value = f.shareOf a * (f.value - g.value) := by
  cases a with
  | update sample =>
    show (f.update sample).value - (g.update sample).value = _
    cases hsettled : f.settled with
    | true =>
      rw [value_update_of_settled hsettled, value_update_of_settled (h.settled ▸ hsettled),
        ← h.weight, shareOf, if_pos hsettled]
      ring
    | false =>
      rw [value_update_of_unsettled hsettled, value_update_of_unsettled (h.settled ▸ hsettled),
        shareOf, if_neg (Bool.eq_false_iff.mp hsettled), sub_self, zero_mul]
  | retime timeConstant => exact (one_mul _).symm
  | reset start settled =>
    show start - start = 0 * (f.value - g.value)
    rw [sub_self, zero_mul]

/-- **All that remains of a difference** is the share that a filter keeps of its value. -/
theorem Alike.sub_after (h : f.Alike g) (actions : List (Action ℝ)) :
    (f.after actions).value - (g.after actions).value = f.share actions * (f.value - g.value) := by
  induction actions generalizing f g with
  | nil => exact (one_mul _).symm
  | cons a later ih =>
    show ((f.apply a).after later).value - ((g.apply a).after later).value = _
    rw [ih (h.apply a), h.sub_apply a, share]
    ring

theorem Alike.after (h : f.Alike g) (actions : List (Action ℝ)) :
    (f.after actions).Alike (g.after actions) := by
  induction actions generalizing f g with
  | nil => exact h
  | cons a later ih => exact ih (h.apply a)

theorem Proper.shareOf_mem (hf : f.Proper) (a : Action ℝ) : f.shareOf a ∈ Set.Icc 0 1 := by
  cases a with
  | update sample =>
    rw [shareOf]
    split
    · exact ⟨sub_nonneg.mpr hf.weight_le_one, sub_le_self 1 hf.weight_pos.le⟩
    · exact ⟨le_rfl, zero_le_one⟩
  | retime timeConstant => exact ⟨zero_le_one, le_rfl⟩
  | reset start settled => exact ⟨le_rfl, zero_le_one⟩

theorem Proper.share_mem (hf : f.Proper) (hactions : ∀ a ∈ actions, a.Timely) :
    f.share actions ∈ Set.Icc 0 1 := by
  induction actions generalizing f with
  | nil => exact ⟨zero_le_one, le_rfl⟩
  | cons a later ih =>
    rw [List.forall_mem_cons] at hactions
    obtain ⟨hnonneg, hle⟩ := ih (hf.apply hactions.1) hactions.2
    have hstep := hf.shareOf_mem a
    exact ⟨mul_nonneg hstep.1 hnonneg, mul_le_one₀ hstep.2 hnonneg hle⟩

/-- An unsettled filter keeps nothing once an action has brought it a value. -/
theorem share_of_unsettled (hf : f.settled = false)
    (hvalue : actions.any Action.bringsValue = true) : f.share actions = 0 := by
  induction actions generalizing f with
  | nil => cases hvalue
  | cons a later ih =>
    rw [share]
    cases a with
    | update sample =>
      rw [shareOf, if_neg (Bool.eq_false_iff.mp hf)]
      exact zero_mul _
    | retime timeConstant =>
      have hlater : (f.retime timeConstant).share later = 0 := ih hf hvalue
      exact mul_eq_zero_of_right _ hlater
    | reset start settled => exact zero_mul _

/-- A settled filter keeps as much through each sample. -/
theorem share_update (hf : f.settled = true) (samples : List ℝ) :
    f.share (samples.map Action.update) = (1 - f.weight) ^ samples.length := by
  induction samples generalizing f with
  | nil => exact (pow_zero _).symm
  | cons sample later ih =>
    have hlater : (f.update sample).share (later.map Action.update)
        = (1 - f.weight) ^ later.length := ih rfl
    show f.shareOf (.update sample) * (f.update sample).share (later.map Action.update) = _
    rw [hlater, shareOf, if_pos hf, List.length_cons, pow_succ']

/-! ## Order -/

/-- Actions of one kind, the first of which brings a filter no more than the second. -/
inductive Action.Below : Action ℝ → Action ℝ → Prop where
  | update {sample other : ℝ} (h : sample ≤ other) : Below (.update sample) (.update other)
  | retime (timeConstant : ℝ) : Below (.retime timeConstant) (.retime timeConstant)
  | reset {start other : ℝ} (h : start ≤ other) (settled : Bool) :
    Below (.reset start settled) (.reset other settled)

/-- Filters that differ in their value only, the first of which has no more. -/
structure Below (f g : LowPass ℝ) : Prop extends Alike f g where
  value : f.value ≤ g.value

theorem Below.apply (h : f.Below g) (hf : f.Proper) (hab : a.Below b) :
    (f.apply a).Below (g.apply b) := by
  cases hab with
  | @update sample other hle =>
    refine ⟨⟨h.period, h.weight, rfl⟩, ?_⟩
    show (f.update sample).value ≤ (g.update other).value
    cases hsettled : f.settled with
    | true =>
      rw [value_update_of_settled hsettled, value_update_of_settled (h.settled ▸ hsettled),
        ← h.weight]
      have hkept := mul_le_mul_of_nonneg_left h.value (sub_nonneg.mpr hf.weight_le_one)
      exact add_le_add hkept (mul_le_mul_of_nonneg_left hle hf.weight_pos.le)
    | false =>
      rw [value_update_of_unsettled hsettled, value_update_of_unsettled (h.settled ▸ hsettled)]
      exact hle
  | retime timeConstant => exact ⟨h.toAlike.apply (.retime timeConstant), h.value⟩
  | reset hle settled => exact ⟨⟨h.period, h.weight, rfl⟩, hle⟩

theorem Below.after {others : List (Action ℝ)} (h : f.Below g) (hf : f.Proper)
    (hactions : ∀ a ∈ actions, a.Timely) (hbelow : List.Forall₂ Action.Below actions others) :
    (f.after actions).Below (g.after others) := by
  induction hbelow generalizing f g with
  | nil => exact h
  | cons hab hlater ih =>
    rw [List.forall_mem_cons] at hactions
    exact ih (h.apply hf hab) (hf.apply hactions.1) hactions.2

/-! ## The laws -/

/-- **A low-pass filter averages and forgets.**  After any actions, a filter is settled exactly if
it has something to go by: samples since the last reset (or the start), or the value of that reset if
it stands for the signal.  Its value is then in the convex hull of these.  Take another filter with
the same period, weight and flag.  Unsettled, the two become one as soon as an action brings them a
value.  In order, they stay in order under actions in order.  Under the same actions, exactly the
computed share of their difference remains, which is between zero and one; through `n` samples of a
settled filter it is the `n`-th power of what the weight leaves, which fades. -/
theorem averages_and_forgets (start : ℝ) {timeConstant period : ℝ} (hconstant : 0 ≤ timeConstant)
    (hperiod : 0 < period) (settled : Bool) {actions : List (Action ℝ)}
    (hactions : ∀ a ∈ actions, a.Timely) :
    let f := (create start timeConstant period settled).after actions
    let heard := known start settled actions
    (f.settled = true ↔ heard ≠ []) ∧
    (f.settled = true → f.value ∈ convexHull ℝ {v | v ∈ heard}) ∧
    (∀ g : LowPass ℝ, f.Alike g →
      (f.settled = false → ∀ further, further.any Action.bringsValue = true →
        f.after further = g.after further) ∧
      (f.value ≤ g.value → ∀ further others, (∀ a ∈ further, a.Timely) →
        List.Forall₂ Action.Below further others →
          (f.after further).value ≤ (g.after others).value) ∧
      (∀ further, (f.after further).value - (g.after further).value
        = f.share further * (f.value - g.value)) ∧
      (f.settled = true → ∀ samples : List ℝ,
        (f.after (samples.map Action.update)).value - (g.after (samples.map Action.update)).value
          = (1 - f.weight) ^ samples.length * (f.value - g.value))) ∧
    (∀ further, (∀ a ∈ further, a.Timely) → f.share further ∈ Set.Icc 0 1) ∧
    Filter.Tendsto (fun n => (1 - f.weight) ^ n) Filter.atTop (nhds 0) := by
  intro f heard
  obtain ⟨hf, haverages⟩ : f.Proper ∧ Averages heard f :=
    averages_after (proper_create start hconstant hperiod settled) hactions
  refine ⟨haverages.settled, haverages.value, fun g hg => ⟨?_, ?_, hg.sub_after, ?_⟩,
    fun further => hf.share_mem, ?_⟩
  · intro hunsettled further hvalue
    have hvalues := hg.sub_after further
    rw [share_of_unsettled hunsettled hvalue, zero_mul] at hvalues
    exact (hg.after further).eq_of_value (sub_eq_zero.mp hvalues)
  · intro hle further others hfurther hbelow
    exact (Below.after ⟨hg, hle⟩ hf hfurther hbelow).value
  · intro hsettled samples
    rw [hg.sub_after, share_update hsettled]
  · have hless : 1 - f.weight < 1 := sub_lt_self 1 hf.weight_pos
    exact tendsto_pow_atTop_nhds_zero_of_lt_one (sub_nonneg.mpr hf.weight_le_one) hless

/-- With a time constant of one period a sample counts half.  Restarted without a value, the filter
does not remember whether that was at 5 or at 8; the samples 2 and 4 then settle it between them,
below a filter at 7, and of that difference an eighth remains after three samples more. -/
theorem averages_and_forgets_after_restart :
    let restart : List (Action ℝ) := [.update 9, .retime 3, .reset 5 false, .retime 1]
    let samples : List (Action ℝ) := [.update 2, .update 4]
    let f := (create 0 1 1 true : LowPass ℝ).after restart
    let s := (create 0 1 1 true : LowPass ℝ).after (restart ++ samples)
    (0 : ℝ) ≤ 1 ∧ (0 : ℝ) < 1 ∧ (∀ a ∈ restart ++ samples, a.Timely) ∧
      f.settled = false ∧ f.Alike (f.reset 8 false) ∧ samples.any Action.bringsValue = true ∧
      f.after samples = (f.reset 8 false).after samples ∧
      s.settled = true ∧ s.value ∈ convexHull ℝ {v | v ∈ [(2 : ℝ), 4]} ∧
      s.Alike (s.reset 7 true) ∧ s.value ≤ 7 ∧
      List.Forall₂ Action.Below [.update 0, .retime 3] [.update 1, .retime 3] ∧
      (s.after [.update 0, .retime 3]).value
        ≤ ((s.reset 7 true).after [.update 1, .retime 3]).value ∧
      (s.after [.update 6, .update 0, .update 1]).value
        - ((s.reset 7 true).after [.update 6, .update 0, .update 1]).value = 1 / 8 * (3 - 7) := by
  intro restart samples f s
  have htimely : ∀ a ∈ restart ++ samples, a.Timely := by
    simp [restart, samples, Action.Timely]
  have hrestart : ∀ a ∈ restart, a.Timely := (List.forall_mem_append.mp htimely).1
  have hvalue : s.value = 3 := by
    norm_num [s, restart, samples, after, apply, create, update, retime, reset, weightOf]
  have hweight : s.weight = 1 / 2 := by
    norm_num [s, restart, samples, after, apply, create, update, retime, reset, weightOf]
  have hle : s.value ≤ 7 := by
    rw [hvalue]
    norm_num
  have hbelow : List.Forall₂ Action.Below [.update 0, .retime 3] [.update 1, .retime 3] :=
    .cons (.update zero_le_one) (.cons (.retime 3) .nil)
  obtain ⟨-, -, hunsettled, -, -⟩ :=
    averages_and_forgets 0 zero_le_one zero_lt_one true hrestart
  obtain ⟨-, hhull, hsettled, -, -⟩ :=
    averages_and_forgets 0 zero_le_one zero_lt_one true htimely
  obtain ⟨hforgets, -, -, -⟩ := hunsettled (f.reset 8 false) ⟨rfl, rfl, rfl⟩
  obtain ⟨-, horder, -, hfades⟩ := hsettled (s.reset 7 true) ⟨rfl, rfl, rfl⟩
  refine ⟨zero_le_one, zero_lt_one, htimely, rfl, ⟨rfl, rfl, rfl⟩, rfl, hforgets rfl samples rfl,
    rfl, hhull rfl, ⟨rfl, rfl, rfl⟩, hle, hbelow, ?_, ?_⟩
  · exact horder hle _ _ (by simp [Action.Timely]) hbelow
  · refine (hfades rfl [6, 0, 1]).trans ?_
    show (1 - s.weight) ^ 3 * (s.value - 7) = _
    rw [hvalue, hweight]
    norm_num

end LateralTorque.LowPass
