import Obs2Mf.Foundation.Run

set_option autoImplicit false

/- What a guarded transition system can still reach: a run of its own choosing that ends
where it should, of a length that is bounded beforehand. -/
namespace Obs2Mf.Run

variable {σ α : Type} {step : σ → α → Option σ} {inv done : σ → Prop} {ok : σ → α → Prop}

/-- From every state that keeps the invariant, `done` can be reached by actions that meet
`ok`, in at most `bound` of them. -/
def Leads (step : σ → α → Option σ) (ok : σ → α → Prop) (done : σ → Prop) (bound : Nat)
    (s : σ) : Prop :=
  ∃ actions t, actions.length ≤ bound ∧ Along step ok s actions ∧
    run step s actions = some t ∧ done t

theorem Leads.here {s : σ} (finished : done s) (bound : Nat) : Leads step ok done bound s :=
  ⟨[], s, Nat.zero_le _, trivial, rfl, finished⟩

theorem Leads.next {bound : Nat} {s t : σ} {a : α} (meets : ok s a) (taken : step s a = some t)
    (later : Leads step ok done bound t) : Leads step ok done (bound + 1) s := by
  obtain ⟨actions, u, short, along, ends, finished⟩ := later
  refine ⟨a :: actions, u, ?_, ?_, ?_, finished⟩
  · simp only [List.length_cons]
    omega
  · refine ⟨meets, ?_⟩
    intro t' taken'
    rw [taken] at taken'
    cases taken'
    exact along
  · simp only [run_cons, taken, Option.bind_some, ends]

/-- The ranking rule: as long as every state that is not done has a step that meets the
condition, keeps the invariant and lowers the rank, the rank bounds how far away the end is. -/
theorem leads_of_rank (rank : σ → Nat)
    (advance : ∀ s, inv s → ¬ done s →
      ∃ a t, ok s a ∧ step s a = some t ∧ inv t ∧ rank t < rank s)
    (bound : Nat) (s : σ) (held : inv s) (within : rank s ≤ bound) :
    Leads step ok (fun t => inv t ∧ done t) bound s := by
  induction bound generalizing s with
  | zero =>
      by_cases finished : done s
      · exact .here ⟨held, finished⟩ 0
      · obtain ⟨_, t, _, _, _, lower⟩ := advance s held finished
        omega
  | succ bound ih =>
      by_cases finished : done s
      · exact .here ⟨held, finished⟩ _
      · obtain ⟨a, t, meets, taken, kept, lower⟩ := advance s held finished
        exact .next meets taken (ih t kept (by omega))

end Obs2Mf.Run
