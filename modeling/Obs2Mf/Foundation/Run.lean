set_option autoImplicit false

/- Guarded transition systems. A step function answers `none` where an action
is not enabled, so a run is a list of actions that were all enabled in turn. -/
namespace Obs2Mf.Run

variable {σ α : Type}

/-- The state after a list of actions, if each one was enabled when its turn came. -/
def run (step : σ → α → Option σ) : σ → List α → Option σ
  | s, [] => some s
  | s, a :: rest => (step s a).bind fun t => run step t rest

@[simp] theorem run_nil (step : σ → α → Option σ) (s : σ) : run step s [] = some s := rfl

@[simp] theorem run_cons (step : σ → α → Option σ) (s : σ) (a : α) (rest : List α) :
    run step s (a :: rest) = (step s a).bind fun t => run step t rest := rfl

theorem run_append (step : σ → α → Option σ) (s : σ) (first second : List α) :
    run step s (first ++ second) = (run step s first).bind fun t => run step t second := by
  induction first generalizing s with
  | nil => rfl
  | cons a rest ih =>
      simp only [List.cons_append, run_cons]
      cases step s a with
      | none => rfl
      | some t => exact ih t

/-- Every state that some run from an initial state reaches. -/
def Reachable (init : σ → Prop) (step : σ → α → Option σ) (t : σ) : Prop :=
  ∃ s actions, init s ∧ run step s actions = some t

/-- Every step of a run meets a condition on the state before it and its action. -/
def Along (step : σ → α → Option σ) (ok : σ → α → Prop) : σ → List α → Prop
  | _, [] => True
  | s, a :: rest => ok s a ∧ ∀ t, step s a = some t → Along step ok t rest

instance decidableAlong (step : σ → α → Option σ) (ok : σ → α → Prop)
    [∀ s a, Decidable (ok s a)] : ∀ s actions, Decidable (Along step ok s actions)
  | _, [] => isTrue trivial
  | s, a :: rest =>
      have later : Decidable (∀ t, step s a = some t → Along step ok t rest) :=
        match step s a with
        | none => isTrue fun _ taken => by cases taken
        | some t =>
            have := decidableAlong step ok t rest
            decidable_of_iff (Along step ok t rest)
              ⟨fun along _ taken => Option.some.inj taken ▸ along, fun all => all t rfl⟩
      inferInstanceAs (Decidable (ok s a ∧ ∀ t, step s a = some t → Along step ok t rest))

/-- A property of the steps themselves: what held before, the action, what held after. -/
def Throughout (step : σ → α → Option σ) (good : σ → α → σ → Prop) : σ → List α → Prop
  | _, [] => True
  | s, a :: rest => ∀ t, step s a = some t → good s a t ∧ Throughout step good t rest

variable {step : σ → α → Option σ} {inv : σ → Prop} {ok : σ → α → Prop}

/-- What a good run says about its last step. -/
theorem Throughout.last {good : σ → α → σ → Prop} {actions : List α} {s t : σ}
    (all : Throughout step good s actions) (nonempty : actions ≠ [])
    (ends : run step s actions = some t) : ∃ u a, good u a t := by
  induction actions generalizing s with
  | nil => exact absurd rfl nonempty
  | cons a rest ih =>
      obtain ⟨u, first, later⟩ := Option.bind_eq_some_iff.mp ends
      obtain ⟨met, all⟩ := all u first
      cases rest with
      | nil =>
          cases later
          exact ⟨s, a, met⟩
      | cons b rest => exact ih all (by simp) later

/-- The invariant rule for runs whose steps all meet a condition. -/
theorem invariant_along (keep : ∀ s a t, inv s → ok s a → step s a = some t → inv t)
    (actions : List α) (s t : σ) (start : inv s) (along : Along step ok s actions)
    (ends : run step s actions = some t) : inv t := by
  induction actions generalizing s with
  | nil =>
      have same : s = t := Option.some.inj ends
      exact same ▸ start
  | cons a rest ih =>
      obtain ⟨u, first, later⟩ := Option.bind_eq_some_iff.mp ends
      exact ih u (keep s a u start along.1 first) (along.2 u first) later

theorem along_of_forall (actions : List α) (s : σ) (all : ∀ a ∈ actions, ∀ s, ok s a) :
    Along step ok s actions := by
  induction actions generalizing s with
  | nil => trivial
  | cons a rest ih =>
      have later : ∀ b ∈ rest, ∀ s, ok s b := fun b member => all b (List.mem_cons_of_mem a member)
      exact ⟨all a List.mem_cons_self s, fun t _ => ih t later⟩

theorem run_through {before after : List α} {a : α} {s mid next t : σ}
    (first : run step s before = some mid) (taken : step mid a = some next)
    (later : run step next after = some t) : run step s (before ++ a :: after) = some t := by
  rw [run_append, first, Option.bind_some, run_cons, taken, Option.bind_some, later]

/-- A run that goes on with steps that meet the condition too. -/
theorem Along.append {first more : List α} {s t : σ} (along : Along step ok s first)
    (ends : run step s first = some t) (later : Along step ok t more) :
    Along step ok s (first ++ more) := by
  induction first generalizing s with
  | nil =>
      cases ends
      exact later
  | cons a rest ih =>
      obtain ⟨u, taken, rest_ends⟩ := Option.bind_eq_some_iff.mp ends
      refine ⟨along.1, ?_⟩
      intro v taken'
      rw [taken] at taken'
      cases taken'
      exact ih (along.2 u taken) rest_ends

theorem Along.imp {also : σ → α → Prop} {actions : List α} {s : σ}
    (weaker : ∀ s a, ok s a → also s a) (along : Along step ok s actions) :
    Along step also s actions := by
  induction actions generalizing s with
  | nil => trivial
  | cons a rest ih => exact ⟨weaker s a along.1, fun t taken => ih (along.2 t taken)⟩

theorem Along.and {also : σ → α → Prop} {actions : List α} {s : σ} (first : Along step ok s actions)
    (second : Along step also s actions) :
    Along step (fun s a => ok s a ∧ also s a) s actions := by
  induction actions generalizing s with
  | nil => trivial
  | cons a rest ih =>
      exact ⟨⟨first.1, second.1⟩, fun t taken => ih (first.2 t taken) (second.2 t taken)⟩

/-- A condition that all steps meet under some premise. -/
theorem Along.given {premise : Prop} {actions : List α} {s : σ}
    (all : premise → Along step ok s actions) :
    Along step (fun s a => premise → ok s a) s actions := by
  induction actions generalizing s with
  | nil => trivial
  | cons a rest ih =>
      exact ⟨fun given => (all given).1, fun t taken => ih fun given => (all given).2 t taken⟩

/-- The invariant rule for all runs. -/
theorem invariant_run (keep : ∀ s a t, inv s → step s a = some t → inv t)
    (actions : List α) (s t : σ) (start : inv s)
    (ends : run step s actions = some t) : inv t := by
  apply invariant_along (fun s a t held _ => keep s a t held) actions s t start
  · exact along_of_forall actions s fun _ _ _ => trivial
  · exact ends

theorem invariant_reachable {init : σ → Prop} (start : ∀ s, init s → inv s)
    (keep : ∀ s a t, inv s → step s a = some t → inv t) {t : σ}
    (reached : Reachable init step t) : inv t := by
  obtain ⟨s, actions, initial, ends⟩ := reached
  exact invariant_run keep actions s t (start s initial) ends

theorem Reachable.next {init : σ → Prop} {s t : σ} {a : α}
    (reached : Reachable init step s) (taken : step s a = some t) :
    Reachable init step t := by
  obtain ⟨s₀, actions, initial, ends⟩ := reached
  refine ⟨s₀, actions ++ [a], initial, ?_⟩
  simp only [run_append, ends, Option.bind_some, run_cons, taken, run_nil]

/-- Under the invariant, steps that meet the condition are good, and so are runs of them. -/
theorem throughout_along {good : σ → α → σ → Prop}
    (keep : ∀ s a t, inv s → ok s a → step s a = some t → inv t ∧ good s a t)
    (actions : List α) (s : σ) (start : inv s) (along : Along step ok s actions) :
    Throughout step good s actions := by
  induction actions generalizing s with
  | nil => trivial
  | cons a rest ih =>
      intro t taken
      obtain ⟨held, met⟩ := keep s a t start along.1 taken
      exact ⟨met, ih t held (along.2 t taken)⟩

/-- Where an invariant makes a step good exactly when it meets the condition,
and good steps keep the invariant, a whole run is good exactly when all of its
steps meet the condition: the first step that fails one fails the other. All of this
may rest on something that is known of every step. -/
theorem throughout_iff_along_within {within : σ → α → Prop} {good : σ → α → σ → Prop}
    (keep : ∀ s a t, inv s → within s a → ok s a → step s a = some t → inv t)
    (exact : ∀ s a t, inv s → within s a → step s a = some t → (good s a t ↔ ok s a))
    (actions : List α) (s : σ) (start : inv s) (known : Along step within s actions)
    (enabled : (run step s actions).isSome) :
    Throughout step good s actions ↔ Along step ok s actions := by
  induction actions generalizing s with
  | nil => exact Iff.rfl
  | cons a rest ih =>
      cases taken : step s a with
      | none => simp only [run_cons, taken, Option.bind_none, Option.isSome_none,
          Bool.false_eq_true] at enabled
      | some t =>
          simp only [run_cons, taken, Option.bind_some] at enabled
          simp only [Throughout, Along, taken, Option.some.injEq, forall_eq']
          rw [exact s a t start known.1 taken]
          have later (meets : ok s a) :=
            ih t (keep s a t start known.1 meets taken) (known.2 t taken) enabled
          constructor
          · rintro ⟨meets, good⟩
            exact ⟨meets, (later meets).mp good⟩
          · rintro ⟨meets, along⟩
            exact ⟨meets, (later meets).mpr along⟩

theorem throughout_iff_along {good : σ → α → σ → Prop}
    (keep : ∀ s a t, inv s → ok s a → step s a = some t → inv t)
    (exact : ∀ s a t, inv s → step s a = some t → (good s a t ↔ ok s a))
    (actions : List α) (s : σ) (start : inv s) (enabled : (run step s actions).isSome) :
    Throughout step good s actions ↔ Along step ok s actions := by
  have known : Along step (fun _ _ => True) s actions :=
    along_of_forall actions s fun _ _ _ => trivial
  exact throughout_iff_along_within (fun s a t held _ => keep s a t held)
    (fun s a t held _ => exact s a t held) actions s start known enabled

section Records

variable {η : Type}

/-- The system with a record beside its state, which each step is noted in. -/
def recording (step : σ → α → Option σ) (note : σ → α → σ → η → η) :
    σ × η → α → Option (σ × η)
  | (s, record), a => (step s a).map fun t => (t, note s a t record)

theorem recording_some {note : σ → α → σ → η → η} {s t : σ} {before after : η} {a : α}
    (taken : recording step note (s, before) a = some (t, after)) :
    step s a = some t ∧ after = note s a t before := by
  obtain ⟨u, stepped, same⟩ := Option.map_eq_some_iff.mp taken
  cases same
  exact ⟨stepped, rfl⟩

theorem recording_of_step {note : σ → α → σ → η → η} {s t : σ} {a : α}
    (stepped : step s a = some t) (record : η) :
    recording step note (s, record) a = some (t, note s a t record) := by
  rw [recording, stepped]
  rfl

/-- Recording a run neither prevents nor changes it. -/
theorem run_recording (step : σ → α → Option σ) (note : σ → α → σ → η → η) (actions : List α)
    (s : σ) (record : η) :
    (run (recording step note) (s, record) actions).map Prod.fst = run step s actions := by
  induction actions generalizing s record with
  | nil => rfl
  | cons a rest ih =>
      rw [run_cons, run_cons, recording]
      cases step s a with
      | none => rfl
      | some t => exact ih t (note s a t record)

end Records

section Past

variable {past : List α} {a : α} {starts : List α → α → Prop} {stays : α → Prop}

/-- Something that starts it has happened, and nothing since that ends it. -/
def Since (starts : List α → α → Prop) (stays : α → Prop) (past : List α) : Prop :=
  ∃ before a later, past = before ++ a :: later ∧ starts before a ∧ ∀ b ∈ later, stays b

theorem since_nil : ¬Since starts stays [] := by
  rintro ⟨before, a, later, split, _, _⟩
  exact List.append_ne_nil_of_right_ne_nil before (List.cons_ne_nil a later) split.symm

theorem since_append : Since starts stays (past ++ [a]) ↔
    starts past a ∨ stays a ∧ Since starts stays past := by
  constructor
  · rintro ⟨before, first, later, split, started, stayed⟩
    rcases List.eq_nil_or_concat later with rfl | ⟨rest, last, rfl⟩
    · obtain ⟨rfl, same⟩ := List.append_inj' split rfl
      cases same
      exact .inl started
    · rw [List.concat_eq_append, ← List.cons_append, ← List.append_assoc] at split
      obtain ⟨rfl, same⟩ := List.append_inj' split rfl
      cases same
      refine .inr ⟨stayed a (by simp), before, first, rest, rfl, started, ?_⟩
      intro b member
      exact stayed b (by simp [member])
  · rintro (started | ⟨stay, before, first, rest, rfl, started, stayed⟩)
    · refine ⟨past, a, [], rfl, started, ?_⟩
      intro b member
      cases member
    · refine ⟨before, first, rest ++ [a], ?_, started, ?_⟩
      · rw [List.append_assoc, List.cons_append]
      · intro b member
        rcases List.mem_append.mp member with old | new
        · exact stayed b old
        · rw [List.mem_singleton.mp new]
          exact stay

end Past

end Obs2Mf.Run
