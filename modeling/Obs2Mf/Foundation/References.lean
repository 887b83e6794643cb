import Obs2Mf.Foundation.Method

set_option autoImplicit false

/- References that a component is given by calls into other code and has to give back: a
call through a pointer needs one that is held, a release gives one up, and what is left in
the ledger at the end has leaked. -/
namespace Obs2Mf.References

open Method

/-- A reference, numbered in the order of its issue: no two of them are the same. -/
abbrev Ref := Nat

structure Ledger where
  issued : Nat
  held : List Ref
  deriving DecidableEq, Repr

def Ledger.empty : Ledger := ⟨0, []⟩

/-- A component with what it holds of others. -/
structure Owner (σ : Type) where
  ledger : Ledger
  own : σ

section Calls

variable {ε σ : Type}

/-- A call that hands out a reference if it succeeds, and a null pointer if it does not. -/
def obtain (ok : Bool) : Method ε (Owner σ) (Option Ref) := fun w =>
  if ok then
    .next (some w.ledger.issued)
      { w with ledger := ⟨w.ledger.issued + 1, w.ledger.issued :: w.ledger.held⟩ }
  else .next none w

/-- A call through a pointer. -/
def use (pointer : Option Ref) : Method ε (Owner σ) Unit := fun w =>
  match pointer with
  | some r => if r ∈ w.ledger.held then .next () w else .crashed
  | none => .crashed

/-- A call through a pointer that gives the reference up. -/
def release (pointer : Option Ref) : Method ε (Owner σ) Unit := fun w =>
  match pointer with
  | some r =>
      if r ∈ w.ledger.held then
        .next () { w with ledger := { w.ledger with held := w.ledger.held.erase r } }
      else .crashed
  | none => .crashed

/-- The component's own state. -/
def own : Method ε (Owner σ) σ := fun w => .next w.own w

def assign (f : σ → σ) : Method ε (Owner σ) Unit := modify fun w => { w with own := f w.own }

/-- `if (condition) { .. }` -/
def onlyIf (condition : Bool) (m : Method ε σ Unit) : Method ε σ Unit :=
  if condition then m else pure ()

/-- `if (pointer) { pointer->Release(); pointer = nullptr; }`, with what is called before. -/
def drop (pointer : σ → Option Ref) (before clear : σ → σ) : Method ε (Owner σ) Unit := do
  let s ← own
  onlyIf (pointer s).isSome do
    use (pointer s)
    assign before
    release (pointer s)
    assign clear

end Calls

/-- The ledger holds these references, each of them once, and nothing else. -/
structure Owns (refs : List Ref) (l : Ledger) : Prop where
  held : ∀ r, l.held.count r = refs.count r
  distinct : ∀ r, refs.count r ≤ 1
  issued : ∀ r ∈ refs, r < l.issued

theorem owns_empty : Owns [] Ledger.empty := ⟨fun _ => rfl, by simp, by simp⟩

section Rules

variable {ε σ : Type} {refs others : List Ref} {l : Ledger} {r : Ref}

/-- The order in which they are listed does not matter. -/
theorem Owns.reorder (owns : Owns refs l) (same : ∀ r, others.count r = refs.count r) :
    Owns others l where
  held := fun r => (owns.held r).trans (same r).symm
  distinct := fun r => (same r).symm ▸ owns.distinct r
  issued := by
    intro r member
    apply owns.issued r
    rw [← List.count_pos_iff, ← same r]
    exact List.count_pos_iff.mpr member

theorem Owns.mem (owns : Owns refs l) (member : r ∈ refs) : r ∈ l.held := by
  rw [← List.count_pos_iff, owns.held r]
  exact List.count_pos_iff.mpr member

theorem Owns.nothing (owns : Owns [] l) : l.held = [] := by
  apply List.eq_nil_iff_forall_not_mem.mpr
  intro r member
  have counted := List.count_pos_iff.mpr member
  rw [owns.held r] at counted
  cases counted

theorem Owns.issue (owns : Owns refs l) :
    Owns (l.issued :: refs) ⟨l.issued + 1, l.issued :: l.held⟩ where
  held := by
    intro r
    simp only [List.count_cons, owns.held r]
  distinct := by
    intro r
    by_cases same : l.issued = r
    · subst same
      have fresh : refs.count l.issued = 0 := by
        apply List.count_eq_zero.mpr
        intro member
        exact Nat.lt_irrefl _ (owns.issued _ member)
      simp only [List.count_cons_self, fresh, Nat.zero_add, Nat.le_refl]
    · rw [List.count_cons_of_ne same]
      exact owns.distinct r
  issued := by
    intro r member
    rcases List.mem_cons.mp member with rfl | old
    · exact Nat.lt_succ_self _
    · exact Nat.lt_succ_of_lt (owns.issued r old)

theorem Owns.giveUp (owns : Owns (r :: refs) l) :
    Owns refs { l with held := l.held.erase r } where
  held := by
    intro q
    have before := owns.held q
    by_cases same : r = q
    · subst same
      rw [List.count_cons_self] at before
      rw [List.count_erase_self]
      omega
    · rw [List.count_cons_of_ne same] at before
      rw [List.count_erase_of_ne (Ne.symm same)]
      exact before
  distinct := by
    intro q
    have before := owns.distinct q
    rw [List.count_cons] at before
    omega
  issued := fun q member => owns.issued q (List.mem_cons_of_mem r member)

variable {s : σ} {next : Unit → Owner σ → Prop} {returned : ε → Owner σ → Prop}

theorem ends_own {next : σ → Owner σ → Prop} :
    (own : Method ε (Owner σ) σ).Ends ⟨l, s⟩ next returned ↔ next s ⟨l, s⟩ := Iff.rfl

theorem ends_assign (f : σ → σ) :
    (assign f : Method ε (Owner σ) Unit).Ends ⟨l, s⟩ next returned ↔ next () ⟨l, f s⟩ := Iff.rfl

theorem ends_onlyIf {s : σ} {condition : Bool} {m : Method ε σ Unit} {next : Unit → σ → Prop}
    {returned : ε → σ → Prop} :
    (onlyIf condition m).Ends s next returned ↔
      (condition = true → m.Ends s next returned) ∧ (condition = false → next () s) := by
  cases condition
  · simp only [onlyIf, Bool.false_eq_true, ↓reduceIte, false_imp_iff, true_and, forall_const]
    rfl
  · simp only [onlyIf, ↓reduceIte, forall_const, Bool.true_eq_false, false_imp_iff, and_true]

/-- A call that hands out a reference adds it to what is held. -/
theorem ends_obtain {ok : Bool} {next : Option Ref → Owner σ → Prop} (owns : Owns refs l)
    (given : ∀ pointer l, pointer.isSome = ok → Owns (pointer.toList ++ refs) l →
      next pointer ⟨l, s⟩) :
    (obtain ok : Method ε (Owner σ) (Option Ref)).Ends ⟨l, s⟩ next returned := by
  cases ok with
  | false => exact given none l rfl owns
  | true => exact given _ _ rfl owns.issue

theorem ends_use {pointer : Option Ref} (owns : Owns refs l) (live : pointer.isSome = true)
    (member : ∀ r ∈ pointer, r ∈ refs) :
    (use pointer : Method ε (Owner σ) Unit).Ends ⟨l, s⟩ next returned ↔ next () ⟨l, s⟩ := by
  cases pointer with
  | none => cases live
  | some r =>
      have held := owns.mem (member r rfl)
      simp only [Ends, run, use, if_pos held]

theorem ends_release {pointer : Option Ref} (owns : Owns (pointer.toList ++ refs) l)
    (live : pointer.isSome = true) (given : ∀ l, Owns refs l → next () ⟨l, s⟩) :
    (release pointer : Method ε (Owner σ) Unit).Ends ⟨l, s⟩ next returned := by
  cases pointer with
  | none => cases live
  | some r =>
      have held := owns.mem (List.mem_cons_self)
      simp only [Ends, run, release, if_pos held]
      exact given _ owns.giveUp

/-- A local that is released if it is not null. -/
theorem ends_releaseIf {pointer : Option Ref} (owns : Owns (pointer.toList ++ refs) l)
    (given : ∀ l, Owns refs l → next () ⟨l, s⟩) :
    (onlyIf pointer.isSome (release pointer) : Method ε (Owner σ) Unit).Ends ⟨l, s⟩ next
      returned := by
  rw [ends_onlyIf]
  constructor
  · intro live
    exact ends_release owns live given
  · intro null
    rw [Option.isSome_eq_false_iff, Option.isNone_iff_eq_none] at null
    rw [null] at owns
    exact given l owns

theorem held_first {pointer : Option Ref} : ∀ r ∈ pointer, r ∈ pointer.toList ++ refs := by
  intro r here
  exact List.mem_append_left _ (Option.mem_toList.mpr here)

/-- The guarded release of a member: afterwards it is null, and what was held for it is
given up. -/
theorem ends_drop {pointer : σ → Option Ref} {before clear : σ → σ}
    (owns : Owns ((pointer s).toList ++ refs) l)
    (idle : pointer s = none → clear (before s) = s)
    (given : ∀ l, Owns refs l → next () ⟨l, clear (before s)⟩) :
    (drop pointer before clear : Method ε (Owner σ) Unit).Ends ⟨l, s⟩ next returned := by
  rw [drop, ends_bind, ends_own, ends_onlyIf]
  constructor
  · intro live
    rw [ends_bind, ends_use owns live held_first, ends_bind, ends_assign, ends_bind]
    refine ends_release owns live fun l rest => ?_
    rw [ends_assign]
    exact given l rest
  · intro null
    rw [Option.isSome_eq_false_iff, Option.isNone_iff_eq_none] at null
    rw [null] at owns
    have same := given l owns
    rw [idle null] at same
    exact same

end Rules

end Obs2Mf.References
