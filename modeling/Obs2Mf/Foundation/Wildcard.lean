import Mathlib.Data.List.Infix

set_option autoImplicit false

/- Names and patterns with wildcards. -/
namespace Obs2Mf.Wildcard

variable {α : Type} [DecidableEq α]

/-- Whether a name has the form of a pattern, in which `star` stands for any text and
`question` for any one character. -/
def wild (star question : α) : List α → List α → Bool
  | [], name => name.isEmpty
  | p :: pattern, name =>
      if p = star then name.tails.any (wild star question pattern)
      else name.head?.any (fun c => p = question || p = c) && wild star question pattern name.tail

variable {star question : α}

theorem wild_nil {name : List α} : wild star question [] name = true ↔ name = [] := by
  rw [wild, List.isEmpty_iff]

theorem wild_star {pattern name : List α} :
    wild star question (star :: pattern) name = true ↔
      ∃ front back, name = front ++ back ∧ wild star question pattern back = true := by
  rw [wild, if_pos rfl, List.any_eq_true]
  constructor
  · rintro ⟨back, suffix, matched⟩
    obtain ⟨front, same⟩ := (List.mem_tails _ _).mp suffix
    exact ⟨front, back, same.symm, matched⟩
  · rintro ⟨front, back, same, matched⟩
    exact ⟨back, (List.mem_tails _ _).mpr ⟨front, same.symm⟩, matched⟩

theorem wild_cons {p : α} (plain : p ≠ star) {pattern name : List α} :
    wild star question (p :: pattern) name = true ↔
      ∃ c rest, name = c :: rest ∧ (p = question ∨ p = c) ∧
        wild star question pattern rest = true := by
  rw [wild, if_neg plain]
  cases name with
  | nil => simp
  | cons c rest => simp [and_assoc]

/-- Patterns match piece by piece. -/
theorem wild_append {first second front back : List α}
    (left : wild star question first front = true)
    (right : wild star question second back = true) :
    wild star question (first ++ second) (front ++ back) = true := by
  induction first generalizing front with
  | nil =>
      rw [wild_nil.mp left]
      exact right
  | cons p first ih =>
      by_cases any : p = star
      · subst any
        obtain ⟨skipped, rest, rfl, matched⟩ := wild_star.mp left
        exact wild_star.mpr ⟨skipped, rest ++ back, List.append_assoc _ _ _, ih matched⟩
      · obtain ⟨c, rest, rfl, same, matched⟩ := (wild_cons any).mp left
        exact (wild_cons any).mpr ⟨c, rest ++ back, rfl, same, ih matched⟩

/-- A pattern has its own form: a wildcard stands for itself too. -/
theorem wild_self (pattern : List α) : wild star question pattern pattern = true := by
  induction pattern with
  | nil => exact wild_nil.mpr rfl
  | cons p pattern ih =>
      by_cases any : p = star
      · subst any
        exact wild_star.mpr ⟨[p], pattern, rfl, ih⟩
      · exact (wild_cons any).mpr ⟨p, pattern, rfl, Or.inr rfl, ih⟩

theorem wild_any (name : List α) : wild star question [star] name = true :=
  wild_star.mpr ⟨name, [], (List.append_nil name).symm, wild_nil.mpr rfl⟩

/-- What a pattern that ends in a plain character matches ends in it as well. -/
theorem wild_last {c : α} (plain : c ≠ star ∧ c ≠ question) {pattern name : List α}
    (matched : wild star question (pattern ++ [c]) name = true) : ∃ front, name = front ++ [c] := by
  induction pattern generalizing name with
  | nil =>
      obtain ⟨d, rest, rfl, same, none⟩ := (wild_cons plain.1).mp matched
      rw [wild_nil.mp none, ← same.resolve_left plain.2]
      exact ⟨[], rfl⟩
  | cons p pattern ih =>
      rw [List.cons_append] at matched
      by_cases any : p = star
      · subst any
        obtain ⟨skipped, rest, rfl, later⟩ := wild_star.mp matched
        obtain ⟨front, rfl⟩ := ih later
        exact ⟨skipped ++ front, (List.append_assoc _ _ _).symm⟩
      · obtain ⟨d, rest, rfl, _, later⟩ := (wild_cons any).mp matched
        obtain ⟨front, rfl⟩ := ih later
        exact ⟨d :: front, rfl⟩

end Obs2Mf.Wildcard
