import Obs2Mf.Foundation.Progress

set_option autoImplicit false

/- Systems made of parts. A part moves at most one step of its own for each step of the
whole, so that its runs, and what holds of all of them, are inherited. -/
namespace Obs2Mf.Run

variable {σ τ α β : Type} {step : σ → α → Option σ} {part : τ → β → Option τ} {view : σ → τ}
  {ok : σ → α → Prop} {partOk : τ → β → Prop}

/-- What a step of the whole is to one of its parts. -/
def Moves (part : τ → β → Option τ) (partOk : τ → β → Prop) (before after : τ) : Prop :=
  after = before ∨ ∃ b, partOk before b ∧ part before b = some after

/-- Every step of the whole that meets `ok` moves the part by a step that meets `partOk`. -/
def Projects (step : σ → α → Option σ) (part : τ → β → Option τ) (view : σ → τ)
    (ok : σ → α → Prop) (partOk : τ → β → Prop) : Prop :=
  ∀ s a t, ok s a → step s a = some t → Moves part partOk (view s) (view t)

theorem Moves.still {t : τ} : Moves part partOk t t := Or.inl rfl

theorem Moves.by {before after : τ} (b : β) (meets : partOk before b)
    (taken : part before b = some after) : Moves part partOk before after :=
  Or.inr ⟨b, meets, taken⟩

/-- An invariant of the part's steps survives a step of the whole. -/
theorem Moves.invariant {inv : τ → Prop} {before after : τ}
    (keep : ∀ s b t, inv s → partOk s b → part s b = some t → inv t)
    (moves : Moves part partOk before after) (held : inv before) : inv after := by
  rcases moves with same | ⟨b, meets, taken⟩
  · rw [same]
    exact held
  · exact keep before b after held meets taken

/-- A run of the whole is a run of the part. -/
theorem Projects.run (projects : Projects step part view ok partOk) (actions : List α) (s t : σ)
    (along : Along step ok s actions) (ends : run step s actions = some t) :
    ∃ own, Along part partOk (view s) own ∧ run part (view s) own = some (view t) := by
  induction actions generalizing s with
  | nil =>
      cases ends
      exact ⟨[], trivial, rfl⟩
  | cons a rest ih =>
      obtain ⟨u, first, later⟩ := Option.bind_eq_some_iff.mp ends
      obtain ⟨own, met, ended⟩ := ih u (along.2 u first) later
      rcases projects s a u along.1 first with same | ⟨b, meets, taken⟩
      · rw [← same]
        exact ⟨own, met, ended⟩
      · refine ⟨b :: own, ⟨meets, ?_⟩, ?_⟩
        · intro after stepped
          rw [taken] at stepped
          cases stepped
          exact met
        · simp only [run_cons, taken, Option.bind_some, ended]

/-- What a part can reach the whole can reach, if it has a step for each that the part may
take there. -/
theorem Leads.lift (view : σ → τ) {inv : σ → Prop} {done : τ → Prop} {bound : Nat}
    (lifts : ∀ s b after, inv s → partOk (view s) b → part (view s) b = some after →
      ∃ a t, ok s a ∧ step s a = some t ∧ view t = after ∧ inv t)
    (s : σ) (held : inv s) (lead : Leads part partOk done bound (view s)) :
    Leads step ok (fun t => inv t ∧ done (view t)) bound s := by
  obtain ⟨actions, after, short, along, ends, finished⟩ := lead
  induction actions generalizing s bound with
  | nil =>
      cases ends
      exact .here ⟨held, finished⟩ bound
  | cons b rest ih =>
      obtain ⟨mid, first, later⟩ := Option.bind_eq_some_iff.mp ends
      obtain ⟨a, t, meets, taken, viewed, kept⟩ := lifts s b mid held along.1 first
      have remains := along.2 mid first
      subst viewed
      cases bound with
      | zero => cases short
      | succ bound =>
          rw [List.length_cons] at short
          exact .next meets taken (ih t kept (by omega) remains later)

/-- Two levels of one design: what is one step of the coarse one is a run of the fine one. -/
def Simulates (coarse : σ → α → Option σ) (fine : τ → β → Option τ) (rel : σ → τ → Prop)
    (ok : σ → α → Prop) (fineOk : τ → β → Prop) : Prop :=
  ∀ s a t u, rel s u → ok s a → coarse s a = some t →
    ∃ own v, Along fine fineOk u own ∧ Run.run fine u own = some v ∧ rel t v

theorem Simulates.run {fine : τ → β → Option τ} {rel : σ → τ → Prop} {fineOk : τ → β → Prop}
    (simulates : Simulates step fine rel ok fineOk) (actions : List α) {s t : σ} {u : τ}
    (related : rel s u) (along : Along step ok s actions) (ends : run step s actions = some t) :
    ∃ own v, Along fine fineOk u own ∧ Run.run fine u own = some v ∧ rel t v := by
  induction actions generalizing s u with
  | nil =>
      cases ends
      exact ⟨[], u, trivial, rfl, related⟩
  | cons a rest ih =>
      obtain ⟨mid, first, later⟩ := Option.bind_eq_some_iff.mp ends
      obtain ⟨own, v, met, ran, held⟩ := simulates s a mid u related along.1 first
      obtain ⟨more, w, meets, goes, last⟩ := ih held (along.2 mid first) later
      refine ⟨own ++ more, w, met.append ran meets, ?_, last⟩
      rw [run_append, ran]
      exact goes

end Obs2Mf.Run
