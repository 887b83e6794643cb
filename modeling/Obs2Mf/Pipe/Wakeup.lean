import Obs2Mf.Pipe.System

set_option autoImplicit false

/- Whether the wake-up attempt `Stop` makes reaches the accept loop it waits for. -/
namespace Obs2Mf.Pipe

open Run

variable {P C : Type}

/-- The accept loop blocks in `ConnectNamedPipe` on an instance nobody has opened. -/
def State.Blocked (s : State P C) : Prop :=
  ∃ i, s.accept = .connect i ∧ (s.conns i).stage = .listening

/-- `Stop` has made its wake-up attempt and waits for a thread that will not wake. -/
def State.Stuck (s : State P C) : Prop := s.owner = .join ∧ s.Blocked

/-- The accept loop has seen the running flag set and is not yet past its wait. -/
def State.Committed (s : State P C) : Prop := s.accept = .create ∨ s.Blocked

/-- The wake-up attempt does not fail while the accept loop is bound to wait. -/
def PokeHeard (s : State P C) (a : Action P C) : Prop :=
  a = .owner (.poke none) → ¬ s.Committed

/-- Why a wake-up attempt that was heard stays heard: at most one instance listens,
it is the accept loop's, and none is created once the flag is clear. -/
structure Wakes (s : State P C) : Prop where
  cleared : s.owner ≠ .idle → s.running = false
  rested : s.owner = .idle → s.running = false → s.accept = .absent
  listening : ∀ j, (s.conns j).stage = .listening →
    s.accept = .connect j ∨ s.accept = .recheck j false
  heard : s.owner ≠ .idle → s.owner ≠ .poke → ¬ s.Committed

theorem wakes_initial : Wakes (State.initial P C) where
  cleared := fun impossible => (impossible rfl).elim
  rested := fun _ _ => rfl
  listening := fun _ impossible => nomatch impossible
  heard := fun impossible => (impossible rfl).elim

section Waking

variable {s t : State P C}

theorem Wakes.apart (held : Wakes s) (kept : Apart s t) : Wakes t := by
  refine ⟨?_, ?_, ?_, ?_⟩
  · rw [kept.owner, kept.running]
    exact held.cleared
  · rw [kept.owner, kept.running, kept.accept]
    exact held.rested
  · intro j listening
    rw [kept.accept]
    exact held.listening j (kept.listening j listening)
  · intro busy tried committed
    rw [kept.owner] at busy tried
    apply held.heard busy tried
    rcases committed with create | ⟨i, connect, listening⟩
    · exact Or.inl (kept.accept ▸ create)
    · exact Or.inr ⟨i, kept.accept ▸ connect, kept.listening i listening⟩

theorem Wakes.owner (held : Wakes s) {a : OwnerAction}
    (heard : a = .poke none → ¬ s.Committed) (taken : ownerStep s a = some t) : Wakes t := by
  cases ownerStep_steps taken with
  | again | twice => exact held
  | start idle stopped =>
      refine ⟨fun busy => (busy idle).elim, by simp, ?_, fun busy => (busy idle).elim⟩
      intro j listening
      have quiet := held.rested idle stopped
      rcases held.listening j listening with connect | recheck
      · rw [quiet] at connect
        cases connect
      · rw [quiet] at recheck
        cases recheck
  | stop => exact ⟨fun _ => rfl, by simp, held.listening, fun _ poke => (poke rfl).elim⟩
  | missed poke =>
      have cleared := held.cleared (by simp [poke])
      exact ⟨fun _ => cleared, by simp, held.listening, fun _ _ => heard rfl⟩
  | poked i poke listening =>
      have single := held.listening i listening
      have cleared := held.cleared (by simp [poke])
      have others (j : Nat)
          (listening : ((s.setConn i ((s.conns i).opened .poke)).conns j).stage = .listening) :
          j ≠ i ∧ (s.conns j).stage = .listening := by
        by_cases same : j = i
        · rw [same, setConn_same] at listening
          cases listening
        · rw [setConn_other _ _ _ _ same] at listening
          exact ⟨same, listening⟩
      refine ⟨fun _ => cleared, by simp, ?_, ?_⟩
      · intro j listening
        exact held.listening j (others j listening).2
      · intro _ _ committed
        rcases committed with create | ⟨j, connect, listening⟩
        · change s.accept = .create at create
          rw [create] at single
          rcases single with impossible | impossible <;> cases impossible
        · change s.accept = .connect j at connect
          rw [connect] at single
          rcases single with same | impossible
          · cases same
            exact (others i listening).1 rfl
          · cases impossible
  | hangUp i hangUp =>
      have busy : s.owner ≠ .idle := by simp [hangUp]
      have stage (j : Nat) :
          ((s.setConn i (s.conns i).hungUp).conns j).stage = (s.conns j).stage := by
        by_cases same : j = i
        · rw [same, setConn_same]
          rfl
        · rw [setConn_other _ _ _ _ same]
      refine ⟨fun _ => held.cleared busy, by simp, ?_, ?_⟩
      · intro j listening
        exact held.listening j (stage j ▸ listening)
      · intro _ _ committed
        apply held.heard busy (by simp [hangUp])
        rcases committed with create | ⟨j, connect, listening⟩
        · exact Or.inl create
        · exact Or.inr ⟨j, connect, stage j ▸ listening⟩
  | join _ exited =>
      refine ⟨fun impossible => (impossible rfl).elim, fun _ _ => rfl, ?_,
        fun impossible => (impossible rfl).elim⟩
      intro j listening
      have waiting := held.listening j listening
      rw [exited] at waiting
      rcases waiting with impossible | impossible <;> cases impossible

theorem Wakes.accept (held : Wakes s) {a : AcceptAction} (taken : acceptStep s a = some t) :
    Wakes t := by
  have awake {pc : AcceptPc} (here : s.accept = pc) (busy : pc ≠ .absent) (idle : s.owner = .idle)
      (stopped : s.running = false) : False := by
    exact busy (here.symm.trans (held.rested idle stopped))
  have none {pc : AcceptPc} (here : s.accept = pc) (free : pc.instance = none) (j : Nat) :
      (s.conns j).stage ≠ .listening := by
    intro listening
    rw [← here] at free
    rcases held.listening j listening with mine | mine
    · rw [mine] at free
      cases free
    · rw [mine] at free
      cases free
  cases acceptStep_steps taken with
  | test test =>
      refine ⟨held.cleared, fun idle stopped => (awake test (by simp) idle stopped).elim,
        fun j listening => (none test rfl j listening).elim, ?_⟩
      intro busy _ committed
      have stopped := held.cleared busy
      rcases committed with create | ⟨j, _, listening⟩
      · change (if s.running then AcceptPc.create else .exited) = .create at create
        rw [stopped] at create
        cases create
      · exact none test rfl j listening
  | created create =>
      have trying (busy : s.owner ≠ .idle) (tried : s.owner ≠ .poke) : False :=
        held.heard busy tried (Or.inl create)
      refine ⟨held.cleared, fun idle stopped => (awake create (by simp) idle stopped).elim, ?_,
        fun busy tried => (trying busy tried).elim⟩
      intro j listening
      by_cases same : j = s.created
      · exact Or.inl (by rw [same])
      · have before : (s.conns j).stage = .listening := by
          simpa only [setConn_other _ _ _ _ same] using listening
        exact (none create rfl j before).elim
  | refused create =>
      have trying (busy : s.owner ≠ .idle) (tried : s.owner ≠ .poke) : False :=
        held.heard busy tried (Or.inl create)
      exact ⟨held.cleared, fun idle stopped => (awake create (by simp) idle stopped).elim,
        fun j listening => (none create rfl j listening).elim,
        fun busy tried => (trying busy tried).elim⟩
  | wake sleep =>
      refine ⟨held.cleared, fun idle stopped => (awake sleep (by simp) idle stopped).elim,
        fun j listening => (none sleep rfl j listening).elim, ?_⟩
      rintro _ _ (impossible | ⟨_, impossible, _⟩) <;> cases impossible
  | connected i ok connect answer =>
      refine ⟨held.cleared, fun idle stopped => (awake connect (by simp) idle stopped).elim,
        ?_, ?_⟩
      · intro j listening
        have waiting := held.listening j listening
        rw [connect] at waiting
        rcases waiting with same | impossible
        · cases same
          rcases answer with failed | served
          · exact Or.inr (by rw [failed])
          · change (s.conns i).stage = .listening at listening
            rw [served] at listening
            cases listening
        · cases impossible
      · rintro _ _ (impossible | ⟨_, impossible, _⟩) <;> cases impossible
  | exit i ok recheck | failed i recheck =>
      have shut (j : Nat) : ((s.setConn i (s.conns i).shut).conns j).stage ≠ .listening := by
        by_cases same : j = i
        · rw [same, setConn_same]
          simp [Conn.shut]
        · rw [setConn_other _ _ _ _ same]
          intro listening
          have waiting := held.listening j listening
          rw [recheck] at waiting
          rcases waiting with impossible | mine
          · cases impossible
          · cases mine
            exact same rfl
      refine ⟨held.cleared, fun idle stopped => (awake recheck (by simp) idle stopped).elim,
        fun j listening => (shut j listening).elim, ?_⟩
      rintro _ _ (impossible | ⟨_, impossible, _⟩) <;> cases impossible
  | served i recheck =>
      have none (j : Nat) : (s.conns j).stage ≠ .listening := by
        intro listening
        have waiting := held.listening j listening
        rw [recheck] at waiting
        rcases waiting with impossible | impossible <;> cases impossible
      refine ⟨held.cleared, fun idle stopped => (awake recheck (by simp) idle stopped).elim,
        ?_, ?_⟩
      · intro j listening
        by_cases same : j = i
        · rw [same] at listening
          have before : (s.conns i).stage = .listening := by
            simpa only [setConn_same] using listening
          exact (none i before).elim
        · have before : (s.conns j).stage = .listening := by
            simpa only [setConn_other _ _ _ _ same] using listening
          exact (none j before).elim
      · rintro _ _ (impossible | ⟨_, impossible, _⟩) <;> cases impossible

theorem Wakes.serve (held : Wakes s) {i : Nat} {a : ServeAction}
    (taken : serveStep s i a = some t) : Wakes t := by
  obtain ⟨conn, stepped, _, rfl⟩ := serveStep_some taken
  have before (j : Nat)
      (listening : (((serveShared s i a).setConn i conn).conns j).stage = .listening) :
      (s.conns j).stage = .listening := by
    by_cases same : j = i
    · rw [same, setConn_same] at listening
      rw [same]
      rcases Conn.step_stage stepped with kept | closed
      · rw [← kept, listening]
      · rw [closed] at listening
        cases listening
    · rw [setConn_other _ _ _ _ same, serveShared_conns] at listening
      exact listening
  refine ⟨?_, ?_, ?_, ?_⟩
  · simpa using held.cleared
  · simpa using held.rested
  · intro j listening
    simpa using held.listening j (before j listening)
  · intro busy tried committed
    apply held.heard (by simpa using busy) (by simpa using tried)
    rcases committed with create | ⟨j, connect, listening⟩
    · exact Or.inl (by simpa using create)
    · exact Or.inr ⟨j, by simpa using connect, before j listening⟩

theorem Wakes.not_stuck (held : Wakes s) : ¬ s.Stuck := by
  intro stuck
  apply held.heard
  · rw [stuck.1]
    exact nofun
  · rw [stuck.1]
    exact nofun
  · exact Or.inr stuck.2

end Waking

section Runs

variable [DecidableEq P] [DecidableEq C]

theorem wakes_step (s : State P C) (a : Action P C) (t : State P C) (held : Wakes s)
    (heard : PokeHeard s a) (taken : step s a = some t) : Wakes t := by
  cases a with
  | owner a => exact held.owner (fun poke => heard (by rw [poke])) taken
  | accept a => exact held.accept taken
  | serve i a => exact held.serve taken
  | publish p a => exact held.apart (publishStep_apart taken)
  | fetch c a => exact held.apart (fetchStep_apart taken)
  | outside a => exact held.apart (outsideStep_apart taken)

/-- Once a wake-up attempt fails on a committed accept loop, nothing but an outside
client keeps `Stop` from waiting forever: at most one more step leads there. -/
theorem stuck_after_lost_poke {s t : State P C} (taken : step s (.owner (.poke none)) = some t)
    (committed : s.Committed) : ∃ more u, run step t more = some u ∧ u.Stuck := by
  change ownerStep s (.poke none) = some t at taken
  cases ownerStep_steps taken with
  | missed =>
      rcases committed with create | blocked
      · refine ⟨[.accept (.create true)],
          { s.setConn s.created .listening with
            owner := .join, accept := .connect s.created, created := s.created + 1 }, ?_, ?_⟩
        · simp only [run_cons, run_nil, step, acceptStep, create, ↓reduceIte, Option.bind_some]
          rfl
        · refine ⟨rfl, s.created, rfl, ?_⟩
          exact congrArg Conn.stage (setConn_same _ _ _)
      · exact ⟨[], _, rfl, rfl, blocked⟩

/-- `Stop` never gets stuck as long as no wake-up attempt fails while the accept loop
is bound to wait, and wherever one does, a run that gets stuck goes on from there. -/
theorem stop_not_stuck_iff_poke_heard :
    (∀ (actions : List (Action P C)) (t : State P C),
      Along step PokeHeard (State.initial P C) actions →
      run step (State.initial P C) actions = some t → ¬ t.Stuck) ∧
    ∀ (s t : State P C) (a : Action P C), step s a = some t → ¬ PokeHeard s a →
      ∃ more u, run step t more = some u ∧ u.Stuck := by
  constructor
  · intro actions t along ends
    exact (invariant_along wakes_step actions _ t wakes_initial along ends).not_stuck
  · intro s t a taken lost
    have poke : a = .owner (.poke none) := Classical.byContradiction fun other =>
      lost fun same => (other same).elim
    subst poke
    apply stuck_after_lost_poke taken
    apply Classical.byContradiction
    intro free
    exact lost fun _ => free

end Runs

/-- The accept loop reads the flag, `Stop` clears it and pokes before an instance
exists, and only then is the instance created. -/
theorem stop_stuck_before_first_instance :
    ∃ u, run step (State.initial Unit Unit)
      [.owner .start, .accept .test, .owner .stop, .owner (.poke none), .accept (.create true)] =
        some u ∧ u.Stuck := by
  refine ⟨_, rfl, rfl, 0, rfl, ?_⟩
  rfl

end Obs2Mf.Pipe
