import Mathlib.Algebra.Group.Int.Defs
import Mathlib.Algebra.Group.Nat.Defs

set_option autoImplicit false

/- Signed 32-bit arithmetic. A result that does not fit wraps around, as it does on
the machine; in the language it has no meaning. -/
namespace Obs2Mf.Int32

def wrap (value : Int) : Int := value.bmod (2 ^ 32)

def add (a b : Int) : Int := wrap (a + b)

def mul (a b : Int) : Int := wrap (a * b)

def Fits (value : Int) : Prop := -2 ^ 31 ≤ value ∧ value < 2 ^ 31

instance (value : Int) : Decidable (Fits value) := inferInstanceAs (Decidable (_ ∧ _))

theorem wrap_of_fits {value : Int} (fits : Fits value) : wrap value = value := by
  unfold Fits at fits
  unfold wrap
  rw [Int.bmod_def]
  split
  · omega
  · omega

theorem mul_of_fits {a b : Int} (fits : Fits (a * b)) : mul a b = a * b := wrap_of_fits fits

theorem add_of_fits {a b : Int} (fits : Fits (a + b)) : add a b = a + b := wrap_of_fits fits

end Obs2Mf.Int32
