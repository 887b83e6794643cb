import Mathlib.Logic.Function.Basic

set_option autoImplicit false

/- Loops whose rounds write one entry each, and each a different one. What a round
writes may depend on the entries written before it. -/
namespace Obs2Mf.Rounds

variable {κ β : Type} [DecidableEq κ]

/-- The entries after the first rounds. -/
def entries (target : Nat → κ) (value : Nat → (κ → β) → β) (start : κ → β) : Nat → κ → β
  | 0 => start
  | k + 1 =>
      let before := entries target value start k
      Function.update before (target k) (value k before)

variable (target : Nat → κ) (value : Nat → (κ → β) → β) (start : κ → β)

theorem entries_succ (k : Nat) :
    entries target value start (k + 1) =
      Function.update (entries target value start k) (target k)
        (value k (entries target value start k)) := rfl

/-- An entry that no round has written. -/
theorem entries_untouched (j : κ) (k : Nat) (apart : ∀ i, i < k → target i ≠ j) :
    entries target value start k j = start j := by
  induction k with
  | zero => rfl
  | succ k ih =>
      have other : j ≠ target k := (apart k (Nat.lt_succ_self k)).symm
      rw [entries_succ, Function.update_of_ne other]
      exact ih fun i below => apart i (by omega)

/-- An entry keeps what its round wrote. -/
theorem entries_settled (i k : Nat) (done : i < k)
    (distinct : ∀ l, i < l → l < k → target l ≠ target i) :
    entries target value start k (target i) = value i (entries target value start i) := by
  induction k with
  | zero => exact absurd done (Nat.not_lt_zero i)
  | succ k ih =>
      rw [entries_succ]
      by_cases last : i = k
      · rw [last, Function.update_self]
      · have other : target i ≠ target k := (distinct k (by omega) (Nat.lt_succ_self k)).symm
        rw [Function.update_of_ne other]
        exact ih (by omega) fun l after before => distinct l after (by omega)

end Obs2Mf.Rounds
