import LateralTorque.Proofs.Double
import LateralTorque.Proofs.Extended
import LateralTorque.Proofs.NestedNetwork

/-!
# NaN in a network

Arithmetic keeps NaN: a sum, a product or a quotient with NaN is NaN.  So each sum of a layer that
is shown NaN is NaN, and all but one of the activations keep it.  The rectifier does not: the larger
of NaN and zero is zero, and its outputs no longer depend on what the layer was shown.

The results hold of every number system that treats NaN in this way, which the two structures below
put into words.  The arithmetic of doubles does so by its logical model.  Exponential and hyperbolic
tangent of doubles have no such model, and that they keep NaN stays an assumption.

* `NaNArithmetic`, `NaNFunctions` — how a number system treats NaN, with `Double.nanArithmetic`,
  `Extended.nanArithmetic` and `Extended.nanFunctions`;
* `LayerDescription.outputs?_of_nan`, `LayerDescription.outputs?_of_rectified` — NaN in one layer;
* `foldlM_outputs?_of_nan`, `Network.output?_of_nan` — NaN through all layers: it comes out, or what
  comes out are the `unseenOutputs?`, which do not depend on the inputs.
-/

set_option autoImplicit false

namespace LateralTorque

/-! ## Number systems with NaN -/

/-- Whether a number is NaN, which does not even equal itself. -/
def Scalar.isNaN {α : Type} [Scalar α] (a : α) : Bool := !(a == a)

/-- The arithmetic of a number system keeps NaN. -/
structure NaNArithmetic (α : Type) [Scalar α] : Prop where
  add (a b : α) : Scalar.isNaN a = true ∨ Scalar.isNaN b = true → Scalar.isNaN (a + b) = true
  sub (a b : α) : Scalar.isNaN a = true → Scalar.isNaN (a - b) = true
  mul (a b : α) : Scalar.isNaN b = true → Scalar.isNaN (a * b) = true
  div (a b : α) : Scalar.isNaN a = true ∨ Scalar.isNaN b = true → Scalar.isNaN (a / b) = true
  neg (a : α) : Scalar.isNaN a = true → Scalar.isNaN (-a) = true
  not_lt (a b : α) : Scalar.isNaN a = true → ¬ a < b
  not_finite (a : α) : Scalar.isNaN a = true → Scalar.isFinite a = false

/-- The functions behind the activations keep NaN.  Those of `Float` have no logical model, so for
them this stays an assumption. -/
structure NaNFunctions (α : Type) [Scalar α] : Prop where
  exp (a : α) : Scalar.isNaN a = true → Scalar.isNaN (Scalar.exp a) = true
  tanh (a : α) : Scalar.isNaN a = true → Scalar.isNaN (Scalar.tanh a) = true

namespace Double

open Float.Model

theorem scalar_isNaN_iff {x : Float} : Scalar.isNaN x = true ↔ parts x = .notANumber := by
  have hself : (x == x) = true ↔ parts x ≠ .notANumber := by
    rw [beq_iff, compare_eq_iff]
    constructor
    · rintro (⟨hnumber, -⟩ | ⟨s, -, hzero, -⟩)
      · exact hnumber
      · simp [hzero]
    · exact fun hnumber => .inl ⟨hnumber, rfl⟩
  rw [Scalar.isNaN, Bool.not_eq_true', ← Bool.not_eq_true, hself, not_not]

/-- A result that is computed as NaN is packed as NaN. -/
theorem unpack_pack_notANumber {u : UnpackedFloat} (h : u = .notANumber) :
    UnpackedFloat.unpack .binary64 (UnpackedFloat.pack .binary64 u) = .notANumber := by
  rw [h]
  rfl

theorem nanArithmetic : NaNArithmetic Float where
  add x y h := by
    simp only [scalar_isNaN_iff] at h ⊢
    refine unpack_pack_notANumber (u := UnpackedFloat.add .binary64 (parts x) (parts y)) ?_
    rcases h with h | h <;> rw [h]
    · rfl
    · cases parts x <;> rfl
  sub x y h := by
    rw [scalar_isNaN_iff] at h ⊢
    refine unpack_pack_notANumber (u := UnpackedFloat.sub .binary64 (parts x) (parts y)) ?_
    rw [h]
    rfl
  mul x y h := by
    rw [scalar_isNaN_iff] at h ⊢
    refine unpack_pack_notANumber (u := UnpackedFloat.mul .binary64 (parts x) (parts y)) ?_
    rw [h]
    cases parts x <;> rfl
  div x y h := by
    simp only [scalar_isNaN_iff] at h ⊢
    refine unpack_pack_notANumber (u := UnpackedFloat.div .binary64 (parts x) (parts y)) ?_
    rcases h with h | h <;> rw [h]
    · rfl
    · cases parts x <;> rfl
  neg x h := by
    rw [scalar_isNaN_iff] at h ⊢
    rw [parts_neg, h]
    rfl
  not_lt x y h := by
    rw [scalar_isNaN_iff] at h
    rw [lt_iff, h]
    simp [UnpackedFloat.compare]
  not_finite x h := by
    rw [scalar_isNaN_iff] at h
    show x.isFinite = false
    rw [isFinite_eq, h]
    rfl

end Double

namespace Extended

theorem isNaN_iff {a : Extended} : Scalar.isNaN a = true ↔ a = nan := by
  have hself : (a == a) = true ↔ a ≠ nan := by
    show decide (a.value? ≠ none ∧ a.value? = a.value?) = true ↔ a ≠ nan
    cases a <;> simp [value?]
  rw [Scalar.isNaN, Bool.not_eq_true', ← Bool.not_eq_true, hself, not_not]

theorem nanArithmetic : NaNArithmetic Extended where
  add a b h := by
    simp only [isNaN_iff] at h ⊢
    rcases h with rfl | rfl
    · rfl
    · cases a <;> rfl
  sub a b h := by
    simp only [isNaN_iff] at h ⊢
    subst h
    rfl
  mul a b h := by
    simp only [isNaN_iff] at h ⊢
    subst h
    cases a <;> rfl
  div a b h := by
    simp only [isNaN_iff] at h ⊢
    rcases h with rfl | rfl
    · rfl
    · cases a <;> rfl
  neg a h := by
    simp only [isNaN_iff] at h ⊢
    subst h
    rfl
  not_lt a b h := by
    rw [isNaN_iff] at h
    rintro ⟨x, y, hx, -⟩
    rw [h] at hx
    cases hx
  not_finite a h := by
    rw [isNaN_iff] at h
    rw [h]
    rfl

theorem nanFunctions : NaNFunctions Extended where
  exp a h := by
    rw [isNaN_iff] at h ⊢
    rw [h]
    rfl
  tanh a h := by
    rw [isNaN_iff] at h ⊢
    rw [h]
    rfl

end Extended

variable {α : Type} [Scalar α]

/-! ## Sums and activations -/

namespace NaNArithmetic

variable (laws : NaNArithmetic α)
include laws

/-- The larger of NaN and a number is that number. -/
theorem maxNum_eq_right {a : α} (b : α) (h : Scalar.isNaN a = true) : Scalar.maxNum a b = b := by
  have hself : ¬ (a == a) = true := by
    simpa [Scalar.isNaN] using h
  rw [Scalar.maxNum, if_neg (laws.not_lt a b h), if_neg hself]

/-- Adding to NaN, or adding NaN, leaves NaN. -/
theorem isNaN_foldl_add {numbers : List α} {start : α}
    (h : Scalar.isNaN start = true ∨ ∃ a ∈ numbers, Scalar.isNaN a = true) :
    Scalar.isNaN (numbers.foldl (fun sum number => number + sum) start) = true := by
  induction numbers generalizing start with
  | nil => simpa using h
  | cons number rest ih =>
    rw [List.foldl_cons]
    apply ih
    rcases h with hstart | ⟨a, ha, hnan⟩
    · exact .inl (laws.add _ _ (.inr hstart))
    · rcases List.mem_cons.mp ha with rfl | hrest
      · exact .inl (laws.add _ _ (.inl hnan))
      · exact .inr ⟨a, hrest, hnan⟩

theorem isNaN_addedUp {numbers : List α} (h : ∃ a ∈ numbers, Scalar.isNaN a = true) :
    Scalar.isNaN (addedUp numbers) = true := by
  obtain ⟨a, ha, hnan⟩ := h
  cases numbers with
  | nil => cases ha
  | cons first rest =>
    apply laws.isNaN_foldl_add
    rcases List.mem_cons.mp ha with rfl | hrest
    · exact .inl hnan
    · exact .inr ⟨a, hrest, hnan⟩

end NaNArithmetic

/-- An activation makes NaN of NaN. -/
def Activation.KeepsNaN (α : Type) [Scalar α] (a : Activation) : Prop :=
  ∀ v : α, Scalar.isNaN v = true → Scalar.isNaN (a.apply v) = true

theorem Activation.keepsNaN_linear : Activation.linear.KeepsNaN α := fun _ h => h

/-- Only the rectifier does not keep NaN. -/
theorem Activation.keepsNaN_of_ne_relu (laws : NaNArithmetic α) (functions : NaNFunctions α)
    {a : Activation} (ha : a ≠ .relu) : a.KeepsNaN α := by
  intro v h
  cases a with
  | linear => exact keepsNaN_linear v h
  | relu => exact absurd rfl ha
  | sigmoid =>
    have hexp := functions.exp _ (laws.neg v h)
    exact laws.div _ _ (.inr (laws.add _ _ (.inr hexp)))
  | tanh => exact functions.tanh v h

/-! ## Layers -/

omit [Scalar α] in
/-- Each entry of a list is combined with one of a list that is not shorter. -/
theorem exists_mem_zipWith {β γ : Type} (f : β → α → γ) {xs : List β} {ys : List α}
    (h : ys.length ≤ xs.length) {y : α} (hy : y ∈ ys) :
    ∃ x, f x y ∈ xs.zipWith f ys := by
  induction xs generalizing ys with
  | nil =>
    cases ys with
    | nil => cases hy
    | cons _ _ => simp at h
  | cons x xs ih =>
    cases ys with
    | nil => cases hy
    | cons other ys =>
      rw [List.zipWith_cons_cons]
      rcases List.mem_cons.mp hy with rfl | hrest
      · exact ⟨x, List.mem_cons_self⟩
      · obtain ⟨x', hx'⟩ := ih (by simpa using h) hrest
        exact ⟨x', List.mem_cons_of_mem _ hx'⟩

namespace LayerDescription

variable {l : LayerDescription α} {x y : List α}

/-- What a layer makes of inputs with NaN: its activation of NaN, once for each row. -/
theorem outputs?_eq_some_of_nan (laws : NaNArithmetic α)
    (hnan : ∃ v ∈ x, Scalar.isNaN v = true) (h : l.outputs? x = some y) :
    y.length = l.weights.length ∧
      ∀ v ∈ y, ∃ sum, Scalar.isNaN sum = true ∧ v = l.activation.apply sum := by
  unfold outputs? at h
  split at h
  · rename_i hsizes
    cases h
    refine ⟨by simp [hsizes.1], fun v hv => ?_⟩
    obtain ⟨r, hr, rfl⟩ := List.mem_iff_getElem.mp hv
    rw [List.getElem_zipWith]
    refine ⟨_, laws.add _ _ (.inl (laws.isNaN_addedUp ?_)), rfl⟩
    obtain ⟨v, hv, hnan⟩ := hnan
    have hrow := hsizes.2 _ (List.getElem_mem (by simp at hr; omega : r < l.weights.length))
    obtain ⟨weight, hproduct⟩ := exists_mem_zipWith (· * ·) hrow.ge hv
    exact ⟨_, hproduct, laws.mul _ _ hnan⟩
  · cases h

/-- A layer with an activation that keeps NaN passes it on. -/
theorem outputs?_of_nan (laws : NaNArithmetic α) (hkept : l.activation.KeepsNaN α)
    (hnan : ∃ v ∈ x, Scalar.isNaN v = true) (hrows : l.weights ≠ [])
    (h : l.outputs? x = some y) : ∃ v ∈ y, Scalar.isNaN v = true := by
  obtain ⟨hlength, hall⟩ := outputs?_eq_some_of_nan laws hnan h
  cases y with
  | nil => exact absurd (List.length_eq_zero_iff.mp hlength.symm) hrows
  | cons v rest =>
    obtain ⟨sum, hsum, rfl⟩ := hall v List.mem_cons_self
    exact ⟨_, List.mem_cons_self, hkept sum hsum⟩

/-- A rectified layer turns NaN into zeros. -/
theorem outputs?_of_rectified (laws : NaNArithmetic α)
    (hnan : ∃ v ∈ x, Scalar.isNaN v = true) (hactivation : l.activation = .relu)
    (h : l.outputs? x = some y) : y = List.replicate l.weights.length 0 := by
  obtain ⟨hlength, hall⟩ := outputs?_eq_some_of_nan laws hnan h
  rw [List.eq_replicate_iff]
  refine ⟨hlength, fun v hv => ?_⟩
  obtain ⟨sum, hsum, rfl⟩ := hall v hv
  rw [hactivation]
  exact laws.maxNum_eq_right 0 hsum

end LayerDescription

/-- What comes out of layers if nothing but zeros comes out of the first rectified one; nothing if
no layer is rectified. -/
def unseenOutputs? : List (LayerDescription α) → Option (List α)
  | [] => none
  | l :: rest =>
    if l.activation = .relu then
      rest.foldlM (fun y l => l.outputs? y) (List.replicate l.weights.length 0)
    else unseenOutputs? rest

theorem unseenOutputs?_of_not_rectified {layers : List (LayerDescription α)}
    (h : ∀ l ∈ layers, l.activation ≠ .relu) : unseenOutputs? layers = none := by
  induction layers with
  | nil => rfl
  | cons l rest ih =>
    rw [List.forall_mem_cons] at h
    rw [unseenOutputs?, if_neg h.1]
    exact ih h.2

/-- **NaN through layers** comes out where no layer is rectified.  Where one is, what comes out does
not depend on what went in. -/
theorem foldlM_outputs?_of_nan (laws : NaNArithmetic α) {layers : List (LayerDescription α)}
    (hkept : ∀ l ∈ layers, l.activation ≠ .relu → l.activation.KeepsNaN α)
    (hrows : ∀ l ∈ layers, l.weights ≠ []) {x y : List α} (hnan : ∃ v ∈ x, Scalar.isNaN v = true)
    (h : layers.foldlM (fun y l => l.outputs? y) x = some y) :
    ((∀ l ∈ layers, l.activation ≠ .relu) ∧ ∃ v ∈ y, Scalar.isNaN v = true) ∨
      unseenOutputs? layers = some y := by
  induction layers generalizing x with
  | nil =>
    cases h
    exact .inl ⟨by simp, hnan⟩
  | cons l rest ih =>
    rw [List.forall_mem_cons] at hkept hrows
    rw [List.foldlM_cons, Option.bind_eq_bind, Option.bind_eq_some_iff] at h
    obtain ⟨z, hz, hrest⟩ := h
    by_cases hactivation : l.activation = .relu
    · right
      rw [unseenOutputs?, if_pos hactivation,
        ← LayerDescription.outputs?_of_rectified laws hnan hactivation hz]
      exact hrest
    · have hpassed :=
        LayerDescription.outputs?_of_nan laws (hkept.1 hactivation) hnan hrows.1 hz
      rw [unseenOutputs?, if_neg hactivation]
      rcases ih hkept.2 hrows.2 hpassed hrest with ⟨hothers, hout⟩ | hunseen
      · exact .inl ⟨List.forall_mem_cons.mpr ⟨hactivation, hothers⟩, hout⟩
      · exact .inr hunseen

/-! ## Networks -/

/-- Inputs with NaN have it when they are taken against their means. -/
theorem NetworkDescription.normalised?_of_nan (laws : NaNArithmetic α) {d : NetworkDescription α}
    {x normal : List α} (hnan : ∃ v ∈ x, Scalar.isNaN v = true)
    (h : d.normalised? x = some normal) : ∃ v ∈ normal, Scalar.isNaN v = true := by
  unfold normalised? at h
  split at h
  · rename_i hsizes
    cases h
    obtain ⟨v, hv, hnan⟩ := hnan
    obtain ⟨mean, hdifference⟩ := exists_mem_zipWith (fun mean v => v - mean) hsizes.1.ge hv
    rw [← List.zipWith_comm] at hdifference
    have hlength : (x.zipWith (· - ·) d.inputMean).length
        ≤ (d.inputDeviation.map usableDeviation).length := by
      simp [hsizes.1, hsizes.2]
    obtain ⟨deviation, hquotient⟩ :=
      exists_mem_zipWith (fun deviation v => v / deviation) hlength hdifference
    rw [← List.zipWith_comm] at hquotient
    exact ⟨_, hquotient, laws.div _ _ (.inl (laws.sub _ _ hnan))⟩
  · cases h

/-- The output for inputs with NaN is NaN where no layer is rectified, and otherwise does not depend
on the inputs. -/
theorem Network.output?_of_nan (laws : NaNArithmetic α) {d : NetworkDescription α} {n : Network α}
    (h : Network.ofDescription d = .ok n)
    (hkept : ∀ l ∈ d.layers, l.activation ≠ .relu → l.activation.KeepsNaN α) {x : List α}
    (hnan : ∃ v ∈ x, Scalar.isNaN v = true) {value : α} (hvalue : d.output? x = some value) :
    ((∀ l ∈ d.layers, l.activation ≠ .relu) ∧ Scalar.isNaN value = true) ∨
      unseenOutputs? d.layers = some [value] := by
  have hsized := exists_ofDescription_iff.mp ⟨n, h⟩
  have hlength : x.toArray.size = n.inputSize := by
    rw [inputSize_of_ofDescription h]
    exact length_of_output? hvalue
  obtain ⟨normal, hnormal, houtputs⟩ := outputs_of_ofDescription h ⟨x.toArray, hlength⟩
  have houtput := output?_of_ofDescription h ⟨x.toArray, hlength⟩
  obtain rfl : value = n.output ⟨x.toArray, hlength⟩ :=
    Option.some.inj (hvalue.symm.trans houtput)
  have hpassed := NetworkDescription.normalised?_of_nan laws hnan hnormal
  rcases foldlM_outputs?_of_nan laws hkept hsized.rows hpassed houtputs with
    ⟨hnone, hout⟩ | hunseen
  · left
    simpa using And.intro hnone hout
  · exact .inr hunseen

end LateralTorque
