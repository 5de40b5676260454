/-!
# Bisection

The position of a number in an ascending array, found by halving an interval. The bound on the
interval is part of the search, so no read can leave the array.
-/

namespace DiagnosticRelay

/-- Bisection between positions `lo` and `hi` of an ascending array for the number of entries that
are at most `bound`. -/
def bisect (entries : Array Nat) (bound lo hi : Nat) (h : hi ≤ entries.size) : Nat :=
  if hlt : lo < hi then
    let mid := lo + (hi - lo) / 2
    have hmid : mid < entries.size := by omega
    if entries[mid] ≤ bound then bisect entries bound (mid + 1) hi h
    else bisect entries bound lo mid (Nat.le_of_lt hmid)
  else lo
termination_by hi - lo

theorem bisect_le (entries : Array Nat) (bound lo hi : Nat) (h : hi ≤ entries.size)
    (hle : lo ≤ hi) : bisect entries bound lo hi h ≤ hi := by
  fun_induction bisect entries bound lo hi h with
  | case1 lo hi h hlt mid hmid _ ih => exact ih (by omega)
  | case2 lo hi h hlt mid hmid _ ih => exact Nat.le_trans (ih (by omega)) (by omega)
  | case3 lo hi h hlt => exact hle

/-- The number of entries of an ascending array that are at most `bound`. -/
def countUpTo (entries : Array Nat) (bound : Nat) : Nat :=
  bisect entries bound 0 entries.size (Nat.le_refl _)

theorem countUpTo_le_size (entries : Array Nat) (bound : Nat) :
    countUpTo entries bound ≤ entries.size :=
  bisect_le entries bound 0 entries.size (Nat.le_refl _) (Nat.zero_le _)

end DiagnosticRelay
