import Mathlib.Data.Nat.Count
import Obs2Mf.Pipe.Instances

set_option autoImplicit false

/- Which of the server's threads are left when `Stop` returns: it joins the accept
thread, while the serving threads run detached. -/
namespace Obs2Mf.Pipe

open Run

variable {P C : Type}

/-- Between its increment of the client counter and its decrement. -/
def ServePc.counted : ServePc → Bool
  | .absent | .start | .finished => false
  | _ => true

/-- How many serving threads the client counter should show. -/
def State.census (s : State P C) : Nat :=
  Nat.count (fun j => (s.conns j).serve.counted = true) s.created

/-- `Stop` has returned, or `Start` has not been called. -/
def State.Returned (s : State P C) : Prop := s.owner = .idle ∧ s.running = false

/-- No thread of the server is left, so none can touch its slot, mutex or counter. -/
structure State.Quiet (s : State P C) : Prop where
  accept : s.accept = .absent
  serve : ∀ i, (s.conns i).serve.live = false
  accepts : ∀ a, acceptStep s a = none
  serves : ∀ i a, serveStep s i a = none
  clientCount : s.clientCount = 0

/-- When the accept thread is joined, every serving thread has already finished. -/
def Drained (s : State P C) (a : Action P C) : Prop :=
  a = .owner .join → ∀ i, (s.conns i).serve.live = false

structure Roster (s : State P C) : Prop where
  census : s.clientCount = s.census
  cleared : s.owner ≠ .idle → s.running = false
  rested : s.Returned → s.accept = .absent ∧ ∀ i, (s.conns i).serve.live = false

theorem count_change (p q : Nat → Prop) [DecidablePred p] [DecidablePred q] (n i : Nat)
    (inside : i < n) (same : ∀ j, j ≠ i → (q j ↔ p j)) :
    Nat.count q n + (if p i then 1 else 0) = Nat.count p n + (if q i then 1 else 0) := by
  have below (m : Nat) (bound : m ≤ i) : Nat.count q m = Nat.count p m := by
    induction m with
    | zero => rfl
    | succ m ih =>
        rw [Nat.count_succ, Nat.count_succ, ih (by omega)]
        simp only [same m (by omega)]
  induction n with
  | zero => omega
  | succ n ih =>
      rw [Nat.count_succ, Nat.count_succ]
      by_cases last : i = n
      · subst last
        rw [below i (Nat.le_refl i)]
        omega
      · have earlier := ih (by omega)
        simp only [same n (Ne.symm last)]
        omega

theorem ServePc.counted_live {pc : ServePc} (idle : pc.live = false) : pc.counted = false := by
  cases pc <;> first | rfl | cases idle

/-- What each step of a serving thread does to the client counter. -/
def ServeAction.tally : ServeAction → Int
  | .enter => 1
  | .leave => -1
  | _ => 0

theorem afterRequest_counted (got : List Byte) : (afterRequest got).counted = true := by
  unfold afterRequest
  split
  · rfl
  · split <;> rfl

theorem afterHeader_counted (rest data : List Byte) : (afterHeader rest data).counted = true := by
  unfold afterHeader
  split
  · rfl
  · split <;> rfl

theorem afterPayload_counted (rest : List Byte) : (afterPayload rest).counted = true := by
  unfold afterPayload
  split <;> rfl

theorem Conn.step_counted {hdr : FrameHeader} {payload : List Byte} {conn conn' : Conn C}
    {a : ServeAction} (taken : conn.step hdr payload a = some conn') :
    (if conn'.serve.counted then 1 else 0 : Int) =
      (if conn.serve.counted then 1 else 0) + a.tally := by
  cases Conn.step_steps taken <;>
    grind [ServePc.counted, ServeAction.tally, afterRequest_counted, afterHeader_counted,
      afterPayload_counted, Conn.shut]

theorem serveShared_clientCount (s : State P C) (i : Nat) (a : ServeAction) :
    (serveShared s i a).clientCount = s.clientCount + a.tally := by
  cases a <;> simp [serveShared, ServeAction.tally, Int.sub_eq_add_neg]

section Roster

variable {s t : State P C}

theorem roster_initial : Roster (State.initial P C) where
  census := rfl
  cleared := fun busy => (busy rfl).elim
  rested := fun _ => ⟨rfl, fun _ => rfl⟩

theorem census_congr (created : t.created = s.created)
    (serve : ∀ j, j < s.created → (t.conns j).serve.counted = (s.conns j).serve.counted) :
    t.census = s.census := by
  rw [State.census, State.census, created]
  apply Nat.le_antisymm
  · exact Nat.count_mono_left fun j inside counted => by rw [← serve j inside, counted]
  · exact Nat.count_mono_left fun j inside counted => by rw [serve j inside, counted]

theorem Roster.apart (held : Roster s) (kept : Apart s t) : Roster t := by
  refine ⟨?_, ?_, ?_⟩
  · rw [kept.clientCount, held.census, census_congr kept.created]
    intro j _
    rw [kept.serve]
  · rw [kept.owner, kept.running]
    exact held.cleared
  · rintro ⟨idle, stopped⟩
    simp only [kept.accept, kept.serve]
    exact held.rested ⟨kept.owner ▸ idle, kept.running ▸ stopped⟩

theorem Roster.owner (held : Roster s) {a : OwnerAction}
    (drained : a = .join → ∀ i, (s.conns i).serve.live = false)
    (taken : ownerStep s a = some t) : Roster t := by
  cases ownerStep_steps taken with
  | again | twice => exact held
  | start idle => exact ⟨held.census, fun busy => (busy idle).elim, by simp [State.Returned]⟩
  | stop => exact ⟨held.census, fun _ => rfl, by simp [State.Returned]⟩
  | missed poke =>
      have cleared := held.cleared (by simp [poke])
      exact ⟨held.census, fun _ => cleared, by simp [State.Returned]⟩
  | poked i poke =>
      have opened : Roster (s.setConn i ((s.conns i).opened .poke)) :=
        held.apart (apart_setConn rfl (by simp [Conn.opened]))
      have cleared := held.cleared (by simp [poke])
      exact ⟨opened.census, fun _ => cleared, by simp [State.Returned]⟩
  | hangUp i hangUp =>
      have hungUp : Roster (s.setConn i (s.conns i).hungUp) := held.apart (apart_setConn rfl id)
      have cleared := held.cleared (by simp [hangUp])
      exact ⟨hungUp.census, fun _ => cleared, by simp [State.Returned]⟩
  | join => exact ⟨held.census, fun busy => (busy rfl).elim, fun _ => ⟨rfl, drained rfl⟩⟩

theorem Roster.accept (held : Roster s) (known : Instances s) {a : AcceptAction}
    (taken : acceptStep s a = some t) : Roster t := by
  have awake {pc : AcceptPc} (here : s.accept = pc) (busy : pc ≠ .absent) : ¬ s.Returned := by
    intro returned
    exact busy (here.symm.trans (held.rested returned).1)
  cases acceptStep_steps taken with
  | test here | refused here | wake here | connected i ok here =>
      exact ⟨held.census, held.cleared, fun returned => (awake here (by simp) returned).elim⟩
  | created create =>
      have unused := known.fresh s.created (Nat.le_refl _)
      have serve (j : Nat) :
          ((s.setConn s.created .listening).conns j).serve = (s.conns j).serve := by
        by_cases same : j = s.created
        · rw [same, setConn_same, unused]
          rfl
        · rw [setConn_other _ _ _ _ same]
      refine ⟨?_, held.cleared, fun returned => (awake create (by simp) returned).elim⟩
      change s.clientCount = _
      simp only [State.census, Nat.count_succ, serve, unused, held.census]
      rfl
  | exit i _ recheck | failed i recheck =>
      have shut : Roster (s.setConn i (s.conns i).shut) :=
        held.apart (apart_setConn rfl (by simp [Conn.shut]))
      exact ⟨shut.census, held.cleared, fun returned => (awake recheck (by simp) returned).elim⟩
  | served i recheck =>
      have waiting := known.waiting i (by rw [recheck]; rfl)
      refine ⟨?_, held.cleared, fun returned => (awake recheck (by simp) returned).elim⟩
      change s.clientCount = _
      rw [held.census]
      apply congrArg
      symm
      refine census_congr ?_ ?_
      · rfl
      · intro j _
        by_cases same : j = i
        · simp only [same, setConn_same, waiting.2]
          rfl
        · simp only [setConn_other _ _ _ _ same]

theorem Roster.serve (held : Roster s) (known : Instances s) {i : Nat} {a : ServeAction}
    (taken : serveStep s i a = some t) : Roster t := by
  obtain ⟨conn, stepped, _, rfl⟩ := serveStep_some taken
  have live := Conn.step_live stepped
  have inside : i < s.created := by
    apply known.inside
    intro absent
    rw [absent] at live
    cases live
  refine ⟨?_, ?_, ?_⟩
  · have change := count_change (fun j => (s.conns j).serve.counted = true)
      (fun j => (((serveShared s i a).setConn i conn).conns j).serve.counted = true)
      s.created i inside (by
        intro j other
        rw [setConn_other _ _ _ _ other, serveShared_conns])
    have counted := Conn.step_counted stepped
    have before := held.census
    simp only [setConn_same] at change
    rw [setConn_clientCount, serveShared_clientCount, before]
    simp only [State.census, setConn_created, serveShared_created]
    split at change <;> split at change
    all_goals simp_all <;> omega
  · simpa using held.cleared
  · intro returned
    have rested := held.rested (by simpa [State.Returned] using returned)
    rw [rested.2 i] at live
    cases live

/-- Without a live thread, no step of the server's is left and the counter is back at 0. -/
theorem Roster.quiet (held : Roster s) (returned : s.Returned) : s.Quiet := by
  obtain ⟨absent, drained⟩ := held.rested returned
  refine ⟨absent, drained, ?_, ?_, ?_⟩
  · intro a
    cases a <;> simp only [acceptStep, absent, reduceCtorEq, ↓reduceIte]
  · intro i a
    cases taken : serveStep s i a with
    | none => rfl
    | some t =>
        obtain ⟨conn, stepped, _⟩ := serveStep_some taken
        have live := Conn.step_live stepped
        rw [drained i] at live
        cases live
  · rw [held.census, State.census, Nat.count_iff_forall_not.mpr]
    · rfl
    · intro j _
      rw [ServePc.counted_live (drained j)]
      exact Bool.false_ne_true

end Roster

section Runs

variable [DecidableEq P] [DecidableEq C]

theorem roster_step (s : State P C) (a : Action P C) (t : State P C)
    (held : Instances s ∧ Roster s) (drained : Drained s a) (taken : step s a = some t) :
    Instances t ∧ Roster t := by
  refine ⟨instances_step s a t held.1 taken, ?_⟩
  cases a with
  | owner a => exact held.2.owner (fun join => drained (by rw [join])) taken
  | accept a => exact held.2.accept held.1 taken
  | serve i a => exact held.2.serve held.1 taken
  | publish p a => exact held.2.apart (publishStep_apart taken)
  | fetch c a => exact held.2.apart (fetchStep_apart taken)
  | outside a => exact held.2.apart (outsideStep_apart taken)

theorem quiet_step_iff (s : State P C) (a : Action P C) (t : State P C)
    (held : Instances s ∧ Roster s) (taken : step s a = some t) :
    (t.Returned → t.Quiet) ↔ Drained s a := by
  constructor
  · intro quiet join i
    subst join
    change ownerStep s .join = some t at taken
    cases ownerStep_steps taken with
    | join joining =>
        have stopped := held.2.cleared (by simp [joining])
        exact (quiet ⟨rfl, stopped⟩).serve i
  · intro drained
    exact (roster_step s a t held drained taken).2.quiet

/-- After every `Stop` of a run the server is quiet exactly when each join found
the serving threads finished. Nothing in the server waits for them. -/
theorem stop_leaves_no_thread_iff_drained (actions : List (Action P C))
    (enabled : (run step (State.initial P C) actions).isSome) :
    Throughout step (fun _ _ t => t.Returned → t.Quiet) (State.initial P C) actions ↔
      Along step Drained (State.initial P C) actions :=
  throughout_iff_along roster_step quiet_step_iff actions _
    ⟨instances_initial, roster_initial⟩ enabled

end Runs

/-- A client connects and leaves again, and its thread has come to the end of `Serve` when
`Stop` is called. -/
def partedSession : List (Action Unit Unit) :=
  [.owner .start, .accept .test, .accept (.create true), .fetch () (.dial (some 0)),
    .accept (.connected true), .accept .recheck, .serve 0 .enter, .accept .test,
    .accept (.create true), .fetch () (.write .failed), .serve 0 (.read .failed),
    .serve 0 .flush, .serve 0 .disconnect, .serve 0 .close, .serve 0 .leave, .owner .stop,
    .owner (.poke (some 1)), .accept (.connected true), .owner .hangUp, .accept .recheck]

theorem partedSession_quiet :
    ∃ s : State Unit Unit,
      run step (State.initial Unit Unit) (partedSession ++ [.owner .join]) = some s ∧
        s.created = 2 ∧ s.Returned ∧ s.Quiet := by
  have before : run step (State.initial Unit Unit) partedSession = some _ := rfl
  have unjoined : Along step Drained (State.initial Unit Unit) partedSession := by
    apply along_of_forall
    intro a member _ join
    subst join
    simp [partedSession] at member
  have ends : run step (State.initial Unit Unit) (partedSession ++ [.owner .join]) = some _ := rfl
  have drained :
      Along step Drained (State.initial Unit Unit) (partedSession ++ [.owner .join]) := by
    apply unjoined.append before
    refine ⟨?_, fun _ _ => trivial⟩
    intro _ i
    rcases i with _ | _ | i <;> rfl
  have quiet :=
    (stop_leaves_no_thread_iff_drained (partedSession ++ [.owner .join]) rfl).mpr drained
  obtain ⟨_, _, last⟩ := quiet.last (by simp) ends
  exact ⟨_, ends, rfl, ⟨rfl, rfl⟩, last ⟨rfl, rfl⟩⟩

/-- A client is connected when `Stop` is called, and stays so. -/
def usedSession : List (Action Unit Unit) :=
  [.owner .start, .accept .test, .accept (.create true), .fetch () (.dial (some 0)),
    .accept (.connected true), .accept .recheck, .serve 0 .enter, .accept .test,
    .accept (.create true), .owner .stop, .owner (.poke (some 1)), .accept (.connected true),
    .owner .hangUp, .accept .recheck, .owner .join]

/-- `Stop` has returned while a serving thread waits for the next request. -/
theorem usedSession_leaves_thread :
    ∃ u, run step (State.initial Unit Unit) usedSession = some u ∧ u.Returned ∧
      (u.conns 0).serve = .request [] ∧ u.clientCount = 1 ∧ ¬ u.Quiet := by
  refine ⟨_, rfl, ⟨rfl, rfl⟩, rfl, rfl, ?_⟩
  intro quiet
  exact absurd quiet.clientCount (by decide)

end Obs2Mf.Pipe
