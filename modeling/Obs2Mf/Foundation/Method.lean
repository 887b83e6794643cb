set_option autoImplicit false

/- Methods over a state that may return early with a status and may dereference a
null pointer, and the rules for what holds of their outcomes. -/
namespace Obs2Mf

/-- How far a method gets: to its next statement, out of an early return, or nowhere. -/
inductive Outcome (ε σ α : Type) where
  | next (value : α) (state : σ)
  | returned (status : ε) (state : σ)
  | crashed

def Method (ε σ α : Type) := σ → Outcome ε σ α

namespace Method

variable {ε σ α β : Type}

def run (m : Method ε σ α) (s : σ) : Outcome ε σ α := m s

instance : Monad (Method ε σ) where
  pure value := fun s => .next value s
  bind m f := fun s =>
    match m s with
    | .next value t => f value t
    | .returned status t => .returned status t
    | .crashed => .crashed

def read : Method ε σ σ := fun s => .next s s

def modify (f : σ → σ) : Method ε σ Unit := fun s => .next () (f s)

def exitIf (condition : Bool) (status : ε) : Method ε σ Unit := fun s =>
  if condition then .returned status s else .next () s

/-- Goes through a pointer. -/
def deref (pointer : Option β) : Method ε σ β := fun s =>
  match pointer with
  | some target => .next target s
  | none => .crashed

/-- `for (i = 0; i < count; i++)`, as its first `count - 1` rounds and the last one. -/
def forRange : Nat → (Nat → Method ε σ Unit) → Method ε σ Unit
  | 0, _ => pure ()
  | count + 1, body => do
      forRange count body
      body count

theorem forRange_one (body : Nat → Method ε σ Unit) : forRange 1 body = body 0 := rfl

/-- The method on one part of a larger state. -/
def zoom {τ : Type} (get : τ → σ) (set : σ → τ → τ) (m : Method ε σ α) : Method ε τ α := fun t =>
  match m (get t) with
  | .next value s => .next value (set s t)
  | .returned status s => .returned status (set s t)
  | .crashed => .crashed

/-- The method does not crash, and its outcome is as described. -/
def Ends (m : Method ε σ α) (s : σ) (next : α → σ → Prop) (returned : ε → σ → Prop) : Prop :=
  match m.run s with
  | .next value t => next value t
  | .returned status t => returned status t
  | .crashed => False

section Rules

variable {s : σ} {next : α → σ → Prop} {later : β → σ → Prop} {returned : ε → σ → Prop}

theorem run_bind (m : Method ε σ α) (f : α → Method ε σ β) (s : σ) :
    (m >>= f).run s =
      match m.run s with
      | .next value t => (f value).run t
      | .returned status t => .returned status t
      | .crashed => .crashed := rfl

theorem run_read (s : σ) : (read : Method ε σ σ).run s = .next s s := rfl

theorem run_deref (pointer : Option β) (s : σ) :
    (deref pointer : Method ε σ β).run s =
      match pointer with
      | some target => .next target s
      | none => .crashed := rfl

theorem run_exitIf (condition : Bool) (status : ε) (s : σ) :
    (exitIf condition status : Method ε σ Unit).run s =
      if condition then .returned status s else .next () s := rfl

theorem ends_bind (m : Method ε σ α) (f : α → Method ε σ β) :
    (m >>= f).Ends s later returned ↔
      m.Ends s (fun value t => (f value).Ends t later returned) returned := by
  simp only [Ends, run_bind]
  cases m.run s <;> rfl

theorem run_bind_crashed {m : Method ε σ α} {f : α → Method ε σ β} (first : m.run s = .crashed) :
    (m >>= f).run s = .crashed := by
  rw [run_bind, first]

/-- A method that goes on to its next statement, and crashes there. -/
theorem run_bind_of_ends {m : Method ε σ α} {f : α → Method ε σ β}
    (first : m.Ends s (fun value t => (f value).run t = .crashed) fun _ _ => False) :
    (m >>= f).run s = .crashed := by
  unfold Ends at first
  rw [run_bind]
  cases outcome : m.run s with
  | next value t =>
      rw [outcome] at first
      exact first
  | returned status t =>
      rw [outcome] at first
      exact first.elim
  | crashed => rfl

theorem ends_pure (value : α) : (pure value : Method ε σ α).Ends s next returned ↔ next value s :=
  Iff.rfl

theorem ends_read {next : σ → σ → Prop} :
    (read : Method ε σ σ).Ends s next returned ↔ next s s := Iff.rfl

theorem ends_modify (f : σ → σ) {next : Unit → σ → Prop} :
    (modify f : Method ε σ Unit).Ends s next returned ↔ next () (f s) := Iff.rfl

theorem ends_exitIf (condition : Bool) (status : ε) {next : Unit → σ → Prop} :
    (exitIf condition status : Method ε σ Unit).Ends s next returned ↔
      (condition = true → returned status s) ∧ (condition = false → next () s) := by
  cases condition
  · simp only [Ends, run, exitIf, Bool.false_eq_true, ↓reduceIte, false_imp_iff, true_and,
      forall_const]
  · simp only [Ends, run, exitIf, ↓reduceIte, forall_const, Bool.true_eq_false, false_imp_iff,
      and_true]

theorem ends_deref (pointer : Option β) :
    (deref pointer : Method ε σ β).Ends s later returned ↔
      ∃ target, pointer = some target ∧ later target s := by
  cases pointer with
  | none => exact ⟨False.elim, fun ⟨_, impossible, _⟩ => nomatch impossible⟩
  | some target =>
      constructor
      · intro ends
        exact ⟨target, rfl, ends⟩
      · intro ⟨_, same, ends⟩
        cases same
        exact ends

theorem ends_deref_some (target : β) :
    (deref (some target) : Method ε σ β).Ends s later returned ↔ later target s := Iff.rfl

theorem ends_ite (condition : Prop) [Decidable condition] (first second : Method ε σ α) :
    (if condition then first else second).Ends s next returned ↔
      (condition → first.Ends s next returned) ∧ (¬ condition → second.Ends s next returned) := by
  by_cases holds : condition
  · simp only [holds, ↓reduceIte, forall_const, not_true_eq_false, false_imp_iff, and_true]
  · simp only [holds, ↓reduceIte, false_imp_iff, not_false_eq_true, forall_const, true_and]

theorem run_zoom {τ : Type} (get : τ → σ) (set : σ → τ → τ) (m : Method ε σ α) (t : τ) :
    (m.zoom get set).run t = match m.run (get t) with
      | .next value s => .next value (set s t)
      | .returned status s => .returned status (set s t)
      | .crashed => .crashed := rfl

theorem ends_zoom {τ : Type} (get : τ → σ) (set : σ → τ → τ) (m : Method ε σ α) (t : τ)
    {next : α → τ → Prop} {returned : ε → τ → Prop} :
    (m.zoom get set).Ends t next returned ↔
      m.Ends (get t) (fun value s => next value (set s t))
        (fun status s => returned status (set s t)) := by
  rw [Ends, Ends, run_zoom]
  cases m.run (get t) <;> rfl

theorem Ends.and {m : Method ε σ α} {next' : α → σ → Prop} {returned' : ε → σ → Prop}
    (first : m.Ends s next returned) (second : m.Ends s next' returned') :
    m.Ends s (fun value t => next value t ∧ next' value t)
      (fun status t => returned status t ∧ returned' status t) := by
  unfold Ends at first second ⊢
  cases outcome : m.run s with
  | next value t =>
      rw [outcome] at first second
      exact ⟨first, second⟩
  | returned status t =>
      rw [outcome] at first second
      exact ⟨first, second⟩
  | crashed =>
      rw [outcome] at first
      exact first

theorem Ends.mono {m : Method ε σ α} {stronger : α → σ → Prop} {exits : ε → σ → Prop}
    (ends : m.Ends s stronger exits) (go : ∀ value t, stronger value t → next value t)
    (exit : ∀ status t, exits status t → returned status t) : m.Ends s next returned := by
  unfold Ends at ends ⊢
  cases outcome : m.run s with
  | next value t =>
      rw [outcome] at ends
      exact go value t ends
  | returned status t =>
      rw [outcome] at ends
      exact exit status t ends
  | crashed =>
      rw [outcome] at ends
      exact ends

/-- The state a method leaves, whichever way it goes out. -/
def final (m : Method ε σ α) (s : σ) : Option σ :=
  match m.run s with
  | .next _ t => some t
  | .returned _ t => some t
  | .crashed => none

theorem Ends.cases {m : Method ε σ α} {t : σ} (ends : m.Ends s next returned)
    (left : m.final s = some t) :
    (∃ value, m.run s = .next value t ∧ next value t) ∨
      ∃ status, m.run s = .returned status t ∧ returned status t := by
  unfold Ends at ends
  unfold Method.final at left
  cases outcome : m.run s with
  | next value u =>
      rw [outcome] at ends left
      cases left
      exact Or.inl ⟨value, rfl, ends⟩
  | returned status u =>
      rw [outcome] at ends left
      cases left
      exact Or.inr ⟨status, rfl, ends⟩
  | crashed =>
      rw [outcome] at ends
      exact ends.elim

theorem Ends.some_final {m : Method ε σ α} (ends : m.Ends s next returned) :
    ∃ t, m.final s = some t := by
  unfold Ends at ends
  unfold Method.final
  cases outcome : m.run s with
  | next value t => exact ⟨t, rfl⟩
  | returned status t => exact ⟨t, rfl⟩
  | crashed =>
      rw [outcome] at ends
      exact ends.elim

theorem Ends.final {m : Method ε σ α} {t : σ} {holds : σ → Prop}
    (ends : m.Ends s (fun _ t => holds t) (fun _ t => holds t)) (left : m.final s = some t) :
    holds t := by
  rcases ends.cases left with ⟨_, _, held⟩ | ⟨_, _, held⟩
  · exact held
  · exact held

/-- The loop rule: what each round leads to holds after the last, and an early return
is one of some round's. -/
theorem ends_forRange (inv : Nat → σ → Prop) (returned : ε → σ → Prop) (count : Nat)
    (body : Nat → Method ε σ Unit) (start : inv 0 s)
    (each : ∀ i, i < count → ∀ t, inv i t → (body i).Ends t (fun _ u => inv (i + 1) u) returned) :
    (forRange count body).Ends s (fun _ t => inv count t) returned := by
  induction count with
  | zero => exact start
  | succ count ih =>
      rw [forRange, ends_bind]
      apply (ih fun i below => each i (by omega)).mono
      · intro _ t held
        exact each count (by omega) t held
      · intro _ _ left
        exact left

end Rules

/-- What methods guarantee of their callers' state: an invariant, and how the state may
have moved since the call. -/
structure Guarantee (σ : Type) where
  inv : σ → Prop
  moves : σ → σ → Prop
  refl : ∀ s, moves s s
  trans : ∀ s t u, moves s t → moves t u → moves s u

namespace Guarantee

/-- From every state of the invariant the method does not crash, and it keeps the
guarantee on every way out. -/
def Keeps (g : Guarantee σ) (m : Method ε σ α) : Prop :=
  ∀ s, g.inv s → m.Ends s (fun _ t => g.inv t ∧ g.moves s t) (fun _ t => g.inv t ∧ g.moves s t)

variable {g : Guarantee σ}

theorem Keeps.bind {m : Method ε σ α} {f : α → Method ε σ β} (first : g.Keeps m)
    (second : ∀ value, g.Keeps (f value)) : g.Keeps (m >>= f) := by
  intro s held
  rw [ends_bind]
  apply (first s held).mono
  · intro value t before
    apply (second value t before.1).mono
    · intro _ u later
      exact ⟨later.1, g.trans s t u before.2 later.2⟩
    · intro _ u later
      exact ⟨later.1, g.trans s t u before.2 later.2⟩
  · intro _ t before
    exact before

theorem Keeps.read {f : σ → Method ε σ α} (rest : ∀ s, g.inv s → g.Keeps (f s)) :
    g.Keeps (Method.read >>= f) := by
  intro s held
  rw [ends_bind, ends_read]
  exact rest s held s held

theorem Keeps.pure (value : α) : g.Keeps (Pure.pure value : Method ε σ α) := by
  intro s held
  rw [ends_pure]
  exact ⟨held, g.refl s⟩

theorem Keeps.exitIf (condition : Bool) (status : ε) :
    g.Keeps (Method.exitIf condition status : Method ε σ Unit) := by
  intro s held
  rw [ends_exitIf]
  exact ⟨fun _ => ⟨held, g.refl s⟩, fun _ => ⟨held, g.refl s⟩⟩

theorem Keeps.deref {pointer : Option β} {target : β} (live : pointer = some target) :
    g.Keeps (Method.deref pointer : Method ε σ β) := by
  intro s held
  rw [ends_deref]
  exact ⟨target, live, held, g.refl s⟩

theorem Keeps.modify {f : σ → σ} (kept : ∀ s, g.inv s → g.inv (f s) ∧ g.moves s (f s)) :
    g.Keeps (Method.modify f : Method ε σ Unit) := by
  intro s held
  rw [ends_modify]
  exact kept s held

theorem Keeps.ite {condition : Prop} [Decidable condition] {first second : Method ε σ α}
    (yes : condition → g.Keeps first) (no : ¬ condition → g.Keeps second) :
    g.Keeps (if condition then first else second) := by
  intro s held
  rw [ends_ite]
  exact ⟨fun holds => yes holds s held, fun fails => no fails s held⟩

theorem Keeps.forRange (count : Nat) {body : Nat → Method ε σ Unit}
    (each : ∀ i, i < count → g.Keeps (body i)) : g.Keeps (Method.forRange count body) := by
  intro s held
  apply ends_forRange (fun _ t => g.inv t ∧ g.moves s t) _ count body ⟨held, g.refl s⟩
  intro i below t before
  apply (each i below t before.1).mono
  · intro _ u later
    exact ⟨later.1, g.trans s t u before.2 later.2⟩
  · intro _ u later
    exact ⟨later.1, g.trans s t u before.2 later.2⟩

end Guarantee

end Method

end Obs2Mf
