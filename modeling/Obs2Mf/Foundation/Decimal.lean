import Mathlib.Algebra.Ring.Nat
import Mathlib.Order.Defs.LinearOrder

set_option autoImplicit false

/- Numbers in decimal with zeros in front, which are ordered as text the way they are
ordered as numbers. -/
namespace Obs2Mf.Decimal

/-- Of two texts whose beginnings are of one length, the beginnings decide first. -/
theorem append_lt_append {α : Type} [LT α] {front front' : List α}
    (same : front.length = front'.length) (back back' : List α) :
    front ++ back < front' ++ back' ↔ front < front' ∨ front = front' ∧ back < back' := by
  induction front generalizing front' with
  | nil =>
      have none : front' = [] := List.eq_nil_of_length_eq_zero same.symm
      subst none
      simp
  | cons a front ih =>
      cases front' with
      | nil => cases same
      | cons b front' =>
          have rest := ih (Nat.succ.inj same)
          simp only [List.cons_append, List.cons_lt_cons_iff, rest, List.cons.injEq, and_or_left,
            or_assoc, and_assoc]

/-- The digits of a number, as character codes. -/
def digits (n : Nat) : List Nat := (Nat.toDigits 10 n).map Char.toNat

/-- With at least `width` characters, as by `%04u` for four. -/
def padded (width n : Nat) : List Nat := (digits n).leftpad width 48

theorem digits_small {n : Nat} (small : n < 10) : digits n = [48 + n] := by
  rw [digits, Nat.toDigits_of_lt_base small, List.map_singleton,
    Nat.toNat_digitChar_of_lt_ten small]

theorem digits_large {n : Nat} (large : 10 ≤ n) :
    digits n = digits (n / 10) ++ [48 + n % 10] := by
  have last : n % 10 < 10 := Nat.mod_lt n (by decide)
  rw [digits, Nat.toDigits_of_base_le (by decide) large, List.map_append, List.map_singleton,
    Nat.toNat_digitChar_of_lt_ten last]
  rfl

theorem mem_digits {n c : Nat} (member : c ∈ digits n) : 48 ≤ c ∧ c ≤ 57 := by
  obtain ⟨digit, listed, rfl⟩ := List.mem_map.mp member
  have decimal := Nat.isDigit_of_mem_toDigits (by decide) (by decide) listed
  simp only [Char.isDigit, Bool.and_eq_true, decide_eq_true_eq] at decimal
  exact decimal

theorem mem_padded {width n c : Nat} (member : c ∈ padded width n) : 48 ≤ c ∧ c ≤ 57 := by
  rcases List.mem_append.mp member with zero | digit
  · rw [(List.mem_replicate.mp zero).2]
    decide
  · exact mem_digits digit

theorem digits_length_le {n width : Nat} (some_width : 0 < width) :
    (digits n).length ≤ width ↔ n < 10 ^ width := by
  rw [digits, List.length_map, Nat.length_toDigits_le_iff (by decide) some_width]

theorem padded_length {width n : Nat} (some_width : 0 < width) (fits : n < 10 ^ width) :
    (padded width n).length = width := by
  have short := (digits_length_le some_width).mpr fits
  rw [padded, List.length_leftpad]
  omega

theorem padded_length_le {width digits n : Nat} (some_digits : 0 < digits)
    (fits : n < 10 ^ digits) : (padded width n).length ≤ max width digits := by
  have short := (digits_length_le some_digits).mpr fits
  rw [padded, List.length_leftpad]
  omega

/-- All but the last digit are those of a tenth of the number. -/
theorem padded_succ {width : Nat} (n : Nat) (some_width : 0 < width) :
    padded (width + 1) n = padded width (n / 10) ++ [48 + n % 10] := by
  by_cases small : n < 10
  · have tenth : n / 10 = 0 := by omega
    have itself : n % 10 = n := by omega
    obtain ⟨width, rfl⟩ := Nat.exists_eq_succ_of_ne_zero (Nat.ne_of_gt some_width)
    rw [padded, padded, tenth, itself, digits_small small, digits_small (by decide)]
    change List.replicate (width + 1) 48 ++ [48 + n] = (List.replicate width 48 ++ [48]) ++ [48 + n]
    rw [List.replicate_succ']
  · rw [padded, padded, digits_large (by omega), List.leftpad, List.leftpad, List.length_append,
      List.length_singleton, Nat.add_sub_add_right, List.append_assoc]

theorem padded_one {n : Nat} (small : n < 10) : padded 1 n = [48 + n] := by
  rw [padded, digits_small small]
  rfl

/-- Texts that are ordered as numbers are do not hide a difference between these. -/
theorem eq_of_texts {text : Nat → List Nat} {n m : Nat} (forth : text n < text m ↔ n < m)
    (back : text m < text n ↔ m < n) : text n = text m ↔ n = m := by
  constructor
  · intro texts
    rw [texts, iff_false_left (List.lt_irrefl _)] at forth back
    omega
  · exact congrArg text

/-- Numbers that fit are ordered as their texts are. -/
theorem padded_lt {width n m : Nat} (some_width : 0 < width) (left : n < 10 ^ width)
    (right : m < 10 ^ width) : padded width n < padded width m ↔ n < m := by
  induction width, some_width using Nat.le_induction generalizing n m with
  | base =>
      have first : n < 10 := left
      have second : m < 10 := right
      rw [Nat.succ_eq_add_one, Nat.zero_add, padded_one first, padded_one second]
      simp only [List.cons_lt_cons_iff, List.lt_irrefl, and_false, or_false]
      omega
  | succ width some_width ih =>
      rw [Nat.pow_succ] at left right
      have left : n / 10 < 10 ^ width := by omega
      have right : m / 10 < 10 ^ width := by omega
      have same : (padded width (n / 10)).length = (padded width (m / 10)).length := by
        rw [padded_length some_width left, padded_length some_width right]
      rw [padded_succ n some_width, padded_succ m some_width, append_lt_append same, ih left right,
        eq_of_texts (ih left right) (ih right left)]
      simp only [List.cons_lt_cons_iff, List.lt_irrefl, and_false, or_false]
      omega

/-- A number that fits decides before what follows it. -/
theorem padded_append_lt {width n m : Nat} (some_width : 0 < width) (left : n < 10 ^ width)
    (right : m < 10 ^ width) (back back' : List Nat) :
    padded width n ++ back < padded width m ++ back' ↔ n < m ∨ n = m ∧ back < back' := by
  have same : (padded width n).length = (padded width m).length := by
    rw [padded_length some_width left, padded_length some_width right]
  have forth := padded_lt some_width left right
  rw [append_lt_append same, forth, eq_of_texts forth (padded_lt some_width right left)]

/-- The numbers in a text, in order; the first goes on from what has been read of it. -/
def numbersFrom : Option Nat → List Nat → List Nat
  | current, [] => current.toList
  | current, c :: rest =>
      if 48 ≤ c ∧ c ≤ 57 then numbersFrom (some (10 * current.getD 0 + (c - 48))) rest
      else current.toList ++ numbersFrom none rest

def numbers (text : List Nat) : List Nat := numbersFrom none text

/-- What digits amount to behind those already read. -/
def valueFrom (n : Nat) (text : List Nat) : Nat := text.foldl (fun n c => 10 * n + (c - 48)) n

theorem valueFrom_digits (n : Nat) : valueFrom 0 (digits n) = n := by
  induction n using Nat.strongRecOn with
  | ind n ih =>
      by_cases small : n < 10
      · rw [digits_small small]
        show 10 * 0 + (48 + n - 48) = n
        omega
      · have tenth := ih (n / 10) (by omega)
        unfold valueFrom at tenth ⊢
        rw [digits_large (by omega), List.foldl_append, tenth]
        show 10 * (n / 10) + (48 + n % 10 - 48) = n
        omega

theorem valueFrom_zeros (zeros : Nat) : valueFrom 0 (List.replicate zeros 48) = 0 := by
  induction zeros with
  | zero => rfl
  | succ zeros ih => exact ih

theorem valueFrom_padded (width n : Nat) : valueFrom 0 (padded width n) = n := by
  have zeros := valueFrom_zeros (width - (digits n).length)
  have value := valueFrom_digits n
  unfold valueFrom at zeros value ⊢
  rw [padded, List.leftpad, List.foldl_append, zeros, value]

theorem numbersFrom_digits {text : List Nat} (all : ∀ c ∈ text, 48 ≤ c ∧ c ≤ 57) (n : Nat)
    (rest : List Nat) :
    numbersFrom (some n) (text ++ rest) = numbersFrom (some (valueFrom n text)) rest := by
  induction text generalizing n with
  | nil => rfl
  | cons c text ih =>
      rw [List.cons_append, numbersFrom, if_pos (all c List.mem_cons_self)]
      exact ih (fun d member => all d (List.mem_cons_of_mem c member)) _

theorem padded_ne_nil (width n : Nat) : padded width n ≠ [] := by
  intro none
  have digits := (List.append_eq_nil_iff.mp none).2
  rw [Decimal.digits, List.map_eq_nil_iff] at digits
  exact Nat.toDigits_ne_nil digits

/-- A number is read back, up to what follows it. -/
theorem numbersFrom_padded (width n : Nat) (rest : List Nat) :
    numbersFrom none (padded width n ++ rest) = numbersFrom (some n) rest := by
  have first : numbersFrom none (padded width n ++ rest) =
      numbersFrom (some 0) (padded width n ++ rest) := by
    cases text : padded width n with
    | nil => exact absurd text (padded_ne_nil width n)
    | cons c more =>
        have digit : 48 ≤ c ∧ c ≤ 57 := mem_padded (by rw [text]; exact List.mem_cons_self)
        simp only [List.cons_append, numbersFrom, if_pos digit, Option.getD_none, Option.getD_some]
  rw [first, numbersFrom_digits fun c member => mem_padded member, valueFrom_padded]

/-- Between two numbers stands something else. -/
theorem numbersFrom_apart {c : Nat} (apart : ¬ (48 ≤ c ∧ c ≤ 57)) (current : Option Nat)
    (rest : List Nat) :
    numbersFrom current (c :: rest) = current.toList ++ numbersFrom none rest := by
  rw [numbersFrom, if_neg apart]

end Obs2Mf.Decimal
