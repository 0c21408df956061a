import Mathlib.Data.List.TakeWhile

/-!
# Texts cut at separators

A text is cut at its first separator, or at all of them. In both cases the pieces are found again if
none of them has a separator in it.

## Main results

* `takeWhile_ne_append_cons`, `dropWhile_ne_append_cons`: what stands before the first separator,
  and what begins with it;
* `not_mem_of_mem_splitOn`: no separator is left in a piece;
* `splitOn_flatMap_concat`: pieces that are ended one by one are told apart by their ends.
-/

namespace KafkaCanary

variable {α : Type} [DecidableEq α] {a : α} {before : List α}

theorem forall_mem_ne_of_not_mem (h : a ∉ before) : ∀ b ∈ before, decide (b ≠ a) = true :=
  fun _ hb => decide_eq_true fun heq => h (heq ▸ hb)

theorem takeWhile_ne_of_not_mem (h : a ∉ before) : before.takeWhile (· ≠ a) = before :=
  List.takeWhile_eq_self_iff.2 (forall_mem_ne_of_not_mem h)

theorem dropWhile_ne_of_not_mem (h : a ∉ before) : before.dropWhile (· ≠ a) = [] :=
  List.dropWhile_eq_nil_iff.2 (forall_mem_ne_of_not_mem h)

theorem takeWhile_ne_append_cons (h : a ∉ before) (rest : List α) :
    (before ++ a :: rest).takeWhile (· ≠ a) = before := by
  rw [List.takeWhile_append_of_pos (forall_mem_ne_of_not_mem h),
    List.takeWhile_cons_of_neg (by simp), List.append_nil]

theorem dropWhile_ne_append_cons (h : a ∉ before) (rest : List α) :
    (before ++ a :: rest).dropWhile (· ≠ a) = a :: rest := by
  rw [List.dropWhile_append_of_pos (forall_mem_ne_of_not_mem h),
    List.dropWhile_cons_of_neg (by simp)]

/-- No separator is left in a piece. -/
theorem not_mem_of_mem_splitOn {as piece : List α} (h : piece ∈ as.splitOn a) : a ∉ piece := by
  induction as generalizing piece with
  | nil => simp_all
  | cons b as ih =>
    rw [List.splitOn_cons_eq_if_modifyHead] at h
    cases hpieces : as.splitOn a with
    | nil => exact absurd hpieces (List.splitOn_ne_nil _ _)
    | cons first pieces =>
      rw [hpieces] at h ih
      by_cases hb : b = a
      · simp only [hb, BEq.rfl, if_true, List.mem_cons] at h
        rcases h with rfl | h
        · simp
        · exact ih (List.mem_cons.2 h)
      · -- What is no separator is put in front of the first piece.
        simp only [beq_iff_eq, hb, if_false, List.modifyHead_cons, List.mem_cons] at h
        rcases h with rfl | h
        · simpa [Ne.symm hb] using ih List.mem_cons_self
        · exact ih (List.mem_cons_of_mem _ h)

/-- Pieces that are ended one by one are told apart by their ends, after the last of which nothing
follows. -/
theorem splitOn_flatMap_concat {pieces : List (List α)} (h : ∀ piece ∈ pieces, a ∉ piece) :
    (pieces.flatMap (· ++ [a])).splitOn a = pieces ++ [[]] := by
  induction pieces with
  | nil => simp
  | cons piece pieces ih =>
    rw [List.flatMap_cons, List.append_assoc, List.singleton_append,
      List.splitOn_append_cons_self_of_not_mem (h piece List.mem_cons_self),
      ih fun p hp => h p (List.mem_cons_of_mem _ hp), List.cons_append]

end KafkaCanary
