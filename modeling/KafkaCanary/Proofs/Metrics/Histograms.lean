import KafkaCanary.Metrics.Instruments
import Mathlib.Data.List.Induction

/-!
# What histograms show

A histogram counts a value under the first bound that is not less than it, and adds these numbers up
when it is read. So the number shown at a bound is the number of values that are not greater, if the
bounds increase. That is where the order of floating-point numbers comes in: a value that is at most
one bound has to be at most all later ones. Bounds that pass the check are numbers, and of two
numbers one is at most the other.

## Main results

* `Magnitude.le_of_not_ge`: what is at most one number is at most every greater one;
* `Buckets.ascending_of_check`: bounds that pass the check ascend;
* `Histogram.cumulative_observeAll`: the number shown at each bound.
-/

namespace KafkaCanary

/-! ## The order of numbers -/

namespace Magnitude

open Float.Model

/-- Where a number lies: beyond, above, at, below or far below zero. -/
def region : UnpackedFloat → Int
  | .infinity .positive => 2
  | .finite .positive .. => 1
  | .finite .negative .. => -1
  | .infinity .negative => -2
  | .zero _ | .notANumber => 0

/-- The exponent of a number, turned around below zero. -/
def exponent : UnpackedFloat → Int
  | .finite .positive _ e _ => e
  | .finite .negative _ e _ => -e
  | _ => 0

/-- The mantissa of a number, turned around below zero. -/
def mantissa : UnpackedFloat → Int
  | .finite .positive m _ _ => m
  | .finite .negative m _ _ => -m
  | _ => 0

/-- Numbers in order: by region, then by exponent, then by mantissa. -/
def order : UnpackedFloat → UnpackedFloat → Ordering :=
  compareLex (compareOn region) (compareLex (compareOn exponent) (compareOn mantissa))

instance : Std.TransCmp order :=
  inferInstanceAs (Std.TransCmp (compareLex _ _))

theorem compare_neg_neg (a b : Int) : compare (-a) (-b) = (compare a b).swap := by
  rw [← Std.OrientedOrd.eq_swap]
  simp only [compare, compareOfLessAndEq]
  grind

theorem compare_natCast (a b : Nat) : compare (a : Int) b = compare a b := by
  simp only [compare, compareOfLessAndEq]
  grind

/-- Numbers compare by this order. -/
theorem compare_eq_order {a b : UnpackedFloat} (ha : a ≠ .notANumber) (hb : b ≠ .notANumber) :
    a.compare b = some (order a b) := by
  cases a with
  | notANumber => exact absurd rfl ha
  | infinity s =>
    cases b with
    | notANumber => exact absurd rfl hb
    | infinity t => cases s <;> cases t <;> rfl
    | zero t => cases s <;> rfl
    | finite t _ _ _ => cases s <;> cases t <;> rfl
  | zero s =>
    cases b with
    | notANumber => exact absurd rfl hb
    | infinity t => cases t <;> rfl
    | zero t => rfl
    | finite t _ _ _ => cases t <;> rfl
  | finite s m e _ =>
    cases b with
    | notANumber => exact absurd rfl hb
    | infinity t => cases s <;> cases t <;> rfl
    | zero t => cases s <;> rfl
    | finite t n d _ =>
      -- Two numbers of one sign are of one region, so exponents and mantissas decide.
      cases s <;> cases t
      · show some ((compare e d).then (compare m n)).swap =
          some ((compare (-e) (-d)).then (compare (-(m : Int)) (-(n : Int))))
        rw [compare_neg_neg, compare_neg_neg, compare_natCast, Ordering.swap_then]
      · rfl
      · rfl
      · show some ((compare e d).then (compare m n)) =
          some ((compare e d).then (compare (m : Int) (n : Int)))
        rw [compare_natCast]

theorem compare_eq_none {a b : UnpackedFloat} (h : a = .notANumber ∨ b = .notANumber) :
    a.compare b = none := by
  rcases h with rfl | rfl
  · rfl
  · cases a <;> rfl

/-- One number is at most another one if both are numbers and the order says so. -/
theorem le_iff {a b : Float} : a ≤ b ↔ a.toModel.unpack ≠ .notANumber ∧
    b.toModel.unpack ≠ .notANumber ∧ (order a.toModel.unpack b.toModel.unpack).isLE := by
  have hle : a ≤ b ↔ (a.toModel.unpack.compare b.toModel.unpack).any (·.isLE) :=
    show decide (a.toModel ≤ b.toModel) = true ↔ _ from decide_eq_true_iff
  rw [hle]
  by_cases h : a.toModel.unpack = .notANumber ∨ b.toModel.unpack = .notANumber
  · rw [compare_eq_none h]
    exact ⟨nofun, fun ⟨ha, hb, _⟩ => (h.elim ha hb).elim⟩
  · obtain ⟨ha, hb⟩ := not_or.1 h
    rw [compare_eq_order ha hb]
    exact ⟨fun hle => ⟨ha, hb, hle⟩, fun hle => hle.2.2⟩

theorem unpack_ne_of_isFinite {a : Float} (h : a.isFinite) : a.toModel.unpack ≠ .notANumber := by
  intro hnan
  rw [Float.isFinite, Float.Model.isFinite, hnan] at h
  cases h

/-- What is at most a number is at most every finite number that is not. -/
theorem le_of_not_ge {a b v : Float} (hb : b.isFinite) (h : ¬a ≥ b) (hv : v ≤ a) : v ≤ b := by
  obtain ⟨hnv, hna, hle⟩ := le_iff.1 hv
  have hnb := unpack_ne_of_isFinite hb
  have hnot : ¬(order b.toModel.unpack a.toModel.unpack).isLE := fun hba =>
    h (le_iff.2 ⟨hnb, hna, hba⟩)
  have hlt := Std.OrientedCmp.lt_of_not_isLE hnot
  exact le_iff.2 ⟨hnv, hnb, Std.TransCmp.isLE_trans hle (Ordering.isLE_of_eq_lt hlt)⟩

end Magnitude

/-! ## Ascending bounds -/

namespace Buckets

/-- What is at most one bound is at most all later ones. -/
def Ascending (bounds : List Float) : Prop :=
  bounds.Pairwise fun a b => ∀ v : Float, v ≤ a → v ≤ b

/-- Finite bounds without a descent ascend. -/
theorem ascending_of_firstDescent {bounds : List Float} (hfinite : ∀ b ∈ bounds, b.isFinite)
    (h : firstDescent bounds = none) : Ascending bounds := by
  induction bounds with
  | nil => exact .nil
  | cons a rest ih =>
    cases rest with
    | nil => exact List.pairwise_singleton _ _
    | cons b rest =>
      rw [firstDescent] at h
      split at h
      · cases h
      next hlt =>
        obtain ⟨-, hfinite⟩ := List.forall_mem_cons.1 hfinite
        have hrest : Ascending (b :: rest) := ih hfinite h
        have hab (v : Float) (hv : v ≤ a) : v ≤ b :=
          Magnitude.le_of_not_ge (hfinite b List.mem_cons_self) hlt hv
        -- What is at most the first bound is at most the second one, and so at most all later ones.
        refine List.pairwise_cons.2 ⟨List.forall_mem_cons.2 ⟨hab, fun c hc v hv => ?_⟩, hrest⟩
        exact (List.pairwise_cons.1 hrest).1 c hc v (hab v hv)

/-- Bounds that can be used ascend. -/
theorem ascending_of_check {bounds : List Float} (h : check bounds = .ok ()) :
    Ascending bounds := by
  rw [check] at h
  split at h
  · cases h
  split at h
  · cases h
  next hfinite =>
    split at h
    · cases h
    next hdescent =>
      refine ascending_of_firstDescent (fun b hb => ?_) hdescent
      simpa using List.find?_eq_none.1 hfinite b hb

end Buckets

/-! ## Counts -/

namespace Histogram

theorem runningSums_succ (total : Nat) (ns : List Nat) :
    runningSums (total + 1) ns = (runningSums total ns).map (· + 1) := by
  induction ns generalizing total with
  | nil => rfl
  | cons n ns ih =>
    rw [runningSums, runningSums, List.map_cons, Nat.add_right_comm, ih]

/-- Counting a value adds one to the sums at the bounds that it is at most. -/
theorem runningSums_countUnder {bounds : List Float} (h : Buckets.Ascending bounds) (v : Float)
    {total : Nat} {counts : List Nat} {g : Float → Nat}
    (hg : runningSums total counts = bounds.map g) :
    runningSums total (countUnder v bounds counts) =
      bounds.map fun b => g b + if v ≤ b then 1 else 0 := by
  induction bounds generalizing total counts with
  | nil => exact hg
  | cons b bounds ih =>
    obtain ⟨hb, hbounds⟩ := List.pairwise_cons.1 h
    cases counts with
    | nil => cases hg
    | cons n counts =>
      obtain ⟨hn, hrest⟩ := List.cons.inj hg
      rw [countUnder]
      by_cases hv : v ≤ b
      · -- The value is counted here and so adds one to this sum and all later ones. It is at most
        -- all later bounds.
        have hlater : bounds.map (fun b => g b + if v ≤ b then 1 else 0) =
            bounds.map fun b => g b + 1 :=
          List.map_congr_left fun c hc => by rw [if_pos (hb c hc v hv)]
        rw [if_pos hv, runningSums, ← Nat.add_assoc, runningSums_succ, hrest, hn, List.map_map,
          List.map_cons, if_pos hv, hlater]
        rfl
      · rw [if_neg hv, runningSums, ih hbounds hrest, hn, List.map_cons, if_neg hv]
        rfl

/-- A histogram of values. -/
def observeAll (bounds values : List Float) : Histogram :=
  values.foldl (fun h v => h.observe bounds v) (.init bounds)

theorem observeAll_concat (bounds values : List Float) (v : Float) :
    observeAll bounds (values ++ [v]) = (observeAll bounds values).observe bounds v :=
  List.foldl_append

theorem count_observeAll (bounds values : List Float) :
    (observeAll bounds values).count = values.length := by
  induction values using List.reverseRecOn with
  | nil => rfl
  | append_singleton values v ih =>
    rw [observeAll_concat, List.length_append, ← ih]
    rfl

/-- The number shown at each bound is the number of values that are not greater. -/
theorem cumulative_observeAll {bounds : List Float} (h : Buckets.Ascending bounds)
    (values : List Float) : (observeAll bounds values).cumulative =
      bounds.map fun b => values.countP (· ≤ b) := by
  induction values using List.reverseRecOn with
  | nil =>
    show runningSums 0 (bounds.map fun _ => 0) = bounds.map fun _ => 0
    clear h
    induction bounds with
    | nil => rfl
    | cons b bounds ih => exact congrArg (0 :: ·) ih
  | append_singleton values v ih =>
    rw [observeAll_concat]
    refine (runningSums_countUnder h v ih).trans (List.map_congr_left fun b _ => ?_)
    rw [List.countP_append, List.countP_singleton]
    simp only [decide_eq_true_eq]

/-- A value that is beyond all bounds is shown at none of them. -/
example : (observeAll [5, 50] [5, 70, 7, -3]).cumulative = [2, 3] := by
  decide +kernel

end Histogram

end KafkaCanary
