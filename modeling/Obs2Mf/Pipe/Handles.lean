import Obs2Mf.Pipe.Threads

set_option autoImplicit false

/- The server's handles: every instance that is open has one owner, who is still to
close it, and the client counter shows how many there are. -/
namespace Obs2Mf.Pipe

open Run

variable {P C : Type}

/-- The server's end has neither been disconnected nor closed. -/
def Stage.inUse : Stage → Bool
  | .listening | .connected => true
  | .absent | .closed => false

/-- The thread has been given its instance and has not yet disconnected it. -/
def ServePc.attached : ServePc → Bool
  | .absent | .close | .leave | .finished => false
  | _ => true

/-- The thread has been given its instance and has not yet closed the handle. -/
def ServePc.holding : ServePc → Bool
  | .absent | .leave | .finished => false
  | _ => true

/-- The server has not called `CloseHandle` on the instance; `DisconnectNamedPipe` alone
does not give the handle back. -/
def Conn.handleOpen (conn : Conn C) : Bool := conn.stage.inUse || conn.serve == .close

def State.openHandles (s : State P C) : Nat :=
  Nat.count (fun i => (s.conns i).handleOpen = true) s.created

/-- The threads that are started and not yet counted as clients. -/
def State.entering (s : State P C) : Nat :=
  Nat.count (fun i => (s.conns i).serve = .start) s.created

/-- The threads that have closed their handle and are still counted as clients. -/
def State.leaving (s : State P C) : Nat :=
  Nat.count (fun i => (s.conns i).serve = .leave) s.created

/-- Whether the accept loop has an instance in its hands. -/
def State.accepting (s : State P C) : Nat := if s.accept.instance.isSome then 1 else 0

/-- An instance is in use as long as the accept loop or a thread is still to close it. -/
def Attached (s : State P C) : Prop :=
  ∀ i, (s.conns i).stage.inUse = true ↔
    (s.accept.instance = some i ∨ (s.conns i).serve.attached = true)

/-- Whose the handles are, and what the client counter shows. -/
structure Ledger (s : State P C) : Prop where
  cleared : s.owner ≠ .idle → s.running = false
  rested : s.Returned → s.accept = .absent
  attached : Attached s
  census : s.clientCount = s.census

theorem ledger_initial : Ledger (State.initial P C) where
  cleared := fun busy => (busy rfl).elim
  rested := fun _ => rfl
  attached := by
    intro i
    simp [State.initial, Conn.absent, Stage.inUse, AcceptPc.instance, ServePc.attached]
  census := rfl

section Counting

theorem count_beyond (p : Nat → Prop) [DecidablePred p] (n m : Nat)
    (none : ∀ i, n ≤ i → ¬ p i) : Nat.count p (n + m) = Nat.count p n := by
  induction m with
  | zero => rfl
  | succ m ih =>
      have last := none (n + m) (by omega)
      rw [← Nat.add_assoc, Nat.count_succ, ih, if_neg last, Nat.add_zero]

theorem count_single (n k : Nat) (inside : k < n) : Nat.count (fun i => k = i) n = 1 := by
  induction n with
  | zero => omega
  | succ n ih =>
      rw [Nat.count_succ]
      by_cases last : k = n
      · subst last
        have earlier : Nat.count (fun i => k = i) k = 0 := by
          rw [Nat.count_iff_forall_not]
          omega
        simp only [earlier, ↓reduceIte]
      · simp only [ih (by omega), if_neg last]

/-- An account that balances at every index balances in total. -/
theorem count_balance (a b c d e : Nat → Prop) [DecidablePred a] [DecidablePred b]
    [DecidablePred c] [DecidablePred d] [DecidablePred e] (n : Nat)
    (each : ∀ i, i < n → (if a i then 1 else 0) + (if b i then 1 else 0) =
      (if c i then 1 else 0) + (if d i then 1 else 0) + (if e i then 1 else 0)) :
    Nat.count a n + Nat.count b n = Nat.count c n + Nat.count d n + Nat.count e n := by
  induction n with
  | zero => rfl
  | succ n ih =>
      have earlier := ih fun i inside => each i (by omega)
      have last := each n (by omega)
      simp only [Nat.count_succ]
      omega

end Counting

section Steps

variable {s t : State P C}

/-- No instance is created, started or closed between two states. -/
structure Aside (s t : State P C) : Prop where
  created : t.created = s.created
  stage : ∀ j, (t.conns j).stage.inUse = (s.conns j).stage.inUse
  serve : ∀ j, (t.conns j).serve = (s.conns j).serve

theorem Aside.same (created : t.created = s.created) (conns : t.conns = s.conns) :
    Aside s t := by
  refine ⟨created, ?_, ?_⟩ <;> simp only [conns, implies_true]

theorem aside_setConn {i : Nat} {conn : Conn C}
    (stage : conn.stage.inUse = (s.conns i).stage.inUse) (serve : conn.serve = (s.conns i).serve) :
    Aside s (s.setConn i conn) := by
  refine ⟨setConn_created s i conn, ?_, ?_⟩
  · intro j
    by_cases same : j = i
    · rw [same, setConn_same, stage]
    · rw [setConn_other _ _ _ _ same]
  · intro j
    by_cases same : j = i
    · rw [same, setConn_same, serve]
    · rw [setConn_other _ _ _ _ same]

theorem aside_opened {i : Nat} (peer : Peer C) (listening : (s.conns i).stage = .listening) :
    Aside s (s.setConn i ((s.conns i).opened peer)) := by
  apply aside_setConn
  · simp only [Conn.opened, listening, Stage.inUse]
  · simp only [Conn.opened]

theorem Attached.aside (held : Attached s) (kept : Aside s t)
    (accept : t.accept.instance = s.accept.instance) : Attached t := by
  intro j
  rw [kept.stage, kept.serve, accept]
  exact held j

/-- Instances that are created meanwhile have no thread yet. -/
theorem census_kept (known : Instances s) (created : s.created ≤ t.created)
    (serve : ∀ j, (t.conns j).serve.counted = (s.conns j).serve.counted) :
    t.census = s.census := by
  obtain ⟨more, same⟩ := Nat.exists_eq_add_of_le created
  have fresh (j : Nat) (late : s.created ≤ j) : ¬ (s.conns j).serve.counted = true := by
    rw [known.fresh j late]
    simp [Conn.absent, ServePc.counted]
  simp only [State.census, serve, same]
  exact count_beyond _ _ _ fresh

theorem Aside.census (kept : Aside s t) : t.census = s.census :=
  census_congr kept.created fun j _ => by rw [kept.serve]

theorem ownerStep_aside {a : OwnerAction} (taken : ownerStep s a = some t) : Aside s t := by
  cases ownerStep_steps taken with
  | poked i _ listening =>
      have opened := aside_opened (s := s) .poke listening
      exact ⟨opened.created, opened.stage, opened.serve⟩
  | hangUp i =>
      have hungUp : Aside s (s.setConn i (s.conns i).hungUp) :=
        aside_setConn (by simp only [Conn.hungUp]) (by simp only [Conn.hungUp])
      exact ⟨hungUp.created, hungUp.stage, hungUp.serve⟩
  | _ => exact .same rfl rfl

theorem fetchStep_aside [DecidableEq C] {c : C} {a : FetchAction}
    (taken : fetchStep s c a = some t) : Aside s t := by
  rcases fetchStep_some taken with rfl | ⟨i, _, _, _, listening, rfl⟩ | ⟨i, next, _, stepped, rfl⟩
  · exact .same rfl rfl
  · have opened := aside_opened (s := s) (.client c) listening
    exact ⟨opened.created, opened.stage, opened.serve⟩
  · have same := Client.step_conn stepped
    have moved : Aside s (s.setConn i next.2) := aside_setConn (by rw [same.1]) same.2.1
    exact ⟨moved.created, moved.stage, moved.serve⟩

theorem outsideStep_aside [DecidableEq C] {a : OutsideAction}
    (taken : outsideStep s a = some t) : Aside s t := by
  obtain ⟨i, conn, rfl, serve, _, stage⟩ := outsideStep_some taken
  apply aside_setConn ?_ serve
  rcases stage with ⟨listening, connected⟩ | ⟨_, same⟩
  · simp only [listening, connected, Stage.inUse]
  · rw [same]

/-- The accept loop's own step: an instance it takes up is new, and one it gives up is
closed or has become a thread's. -/
theorem Attached.accept (held : Attached s) (known : Instances s) {a : AcceptAction}
    (taken : acceptStep s a = some t) : Attached t := by
  have free {pc : AcceptPc} (here : s.accept = pc) (none : pc.instance = none) (i : Nat) :
      s.accept.instance ≠ some i := by
    rw [here, none]
    simp
  cases acceptStep_steps taken with
  | test here | refused here | wake here =>
      refine held.aside (.same rfl rfl) ?_
      rw [here]
      try split
      all_goals rfl
  | connected i ok here =>
      refine held.aside (.same rfl rfl) ?_
      rw [here]
      rfl
  | created here =>
      intro j
      by_cases same : j = s.created
      · simp [same, Conn.listening, Stage.inUse, AcceptPc.instance]
      · have before := held j
        simp only [here, AcceptPc.instance, reduceCtorEq, false_or] at before
        simp only [setConn_other _ _ _ _ same, AcceptPc.instance, Option.some.injEq]
        rw [before]
        simp [Ne.symm same]
  | exit i ok here | failed i here =>
      have mine : s.accept.instance = some i := by rw [here]; rfl
      have waiting := (known.waiting i mine).2
      intro j
      by_cases same : j = i
      · simp [same, Conn.shut, Stage.inUse, AcceptPc.instance, waiting, ServePc.attached]
      · have before := held j
        simp only [mine, Option.some.injEq, Ne.symm same, false_or] at before
        simp only [setConn_other _ _ _ _ same, before, AcceptPc.instance, reduceCtorEq, false_or]
  | served i here =>
      have mine : s.accept.instance = some i := by rw [here]; rfl
      have inUse := (held i).mpr (Or.inl mine)
      intro j
      by_cases same : j = i
      · simp [same, inUse, ServePc.attached]
      · have before := held j
        simp only [mine, Option.some.injEq, Ne.symm same, false_or] at before
        simp only [setConn_other _ _ _ _ same, before, AcceptPc.instance, reduceCtorEq, false_or]

/-- A thread lets go of its instance in one step, `DisconnectNamedPipe`. -/
theorem Conn.step_attached {hdr : FrameHeader} {payload : List Byte} {conn conn' : Conn C}
    {a : ServeAction} (held : conn.stage.inUse = conn.serve.attached)
    (taken : conn.step hdr payload a = some conn') :
    conn'.stage.inUse = conn'.serve.attached := by
  have request (got : List Byte) : (afterRequest got).attached = true := by
    unfold afterRequest
    grind [ServePc.attached]
  have header (rest data : List Byte) : (afterHeader rest data).attached = true := by
    unfold afterHeader
    grind [ServePc.attached]
  have payload (rest : List Byte) : (afterPayload rest).attached = true := by
    unfold afterPayload
    grind [ServePc.attached]
  cases Conn.step_steps taken <;> grind [ServePc.attached, Conn.shut, Stage.inUse]

theorem Attached.serve (held : Attached s) (known : Instances s) {i : Nat} {a : ServeAction}
    (taken : serveStep s i a = some t) : Attached t := by
  obtain ⟨conn, stepped, _, rfl⟩ := serveStep_some taken
  have live := Conn.step_live stepped
  have other : s.accept.instance ≠ some i := by
    intro mine
    rw [(known.waiting i mine).2] at live
    cases live
  intro j
  rw [setConn_accept, serveShared_accept]
  by_cases same : j = i
  · have before := held i
    simp only [other, false_or] at before
    have after := Conn.step_attached (Bool.eq_iff_iff.mpr before) stepped
    simp only [same, setConn_same, other, false_or, after]
  · rw [setConn_other _ _ _ _ same, serveShared_conns]
    exact held j

/-- A thread is counted from its first step to its last. -/
theorem serveStep_census (known : Instances s) (before : s.clientCount = s.census) {i : Nat}
    {a : ServeAction} (taken : serveStep s i a = some t) : t.clientCount = t.census := by
  obtain ⟨conn, stepped, _, rfl⟩ := serveStep_some taken
  have live := Conn.step_live stepped
  have inside : i < s.created := by
    apply known.inside
    intro absent
    rw [absent] at live
    cases live
  have counted := Conn.step_counted stepped
  have change := count_change (fun j => (s.conns j).serve.counted = true)
    (fun j => (((serveShared s i a).setConn i conn).conns j).serve.counted = true)
    s.created i inside (by
      intro j other
      rw [setConn_other _ _ _ _ other, serveShared_conns])
  simp only [setConn_same] at change
  rw [setConn_clientCount, serveShared_clientCount, before]
  simp only [State.census, setConn_created, serveShared_created]
  cases after : conn.serve.counted <;> cases earlier : (s.conns i).serve.counted <;>
    simp only [after, earlier, Bool.false_eq_true, ↓reduceIte] at counted change <;> omega

theorem acceptStep_census (known : Instances s) (before : s.clientCount = s.census)
    {a : AcceptAction} (taken : acceptStep s a = some t) : t.clientCount = t.census := by
  have grown : s.created ≤ t.created := by
    cases acceptStep_steps taken with
    | created => exact Nat.le_succ _
    | _ => exact Nat.le_refl _
  obtain ⟨accept, created, conns, rfl, changed⟩ := acceptStep_some taken
  refine before.trans (congrArg Nat.cast (census_kept known grown ?_).symm)
  intro j
  rcases changed j with kept | ⟨rfl, listening⟩ | ⟨mine, shut | started⟩
  · simp only [kept]
  · simp only [listening, Conn.listening, known.fresh s.created (Nat.le_refl _)]
  · simp only [shut, Conn.shut]
  · simp only [started, (known.waiting j mine).2, ServePc.counted]

theorem Ledger.aside (held : Ledger s) (kept : Aside s t) (owner : t.owner = s.owner)
    (running : t.running = s.running) (accept : t.accept = s.accept)
    (clientCount : t.clientCount = s.clientCount) : Ledger t where
  cleared := by
    rw [owner, running]
    exact held.cleared
  rested := by
    rintro ⟨idle, stopped⟩
    rw [accept]
    exact held.rested ⟨owner ▸ idle, running ▸ stopped⟩
  attached := held.attached.aside kept (by rw [accept])
  census := by rw [clientCount, held.census, kept.census]

theorem Ledger.owner (held : Ledger s) {a : OwnerAction} (taken : ownerStep s a = some t) :
    Ledger t := by
  have aside := ownerStep_aside taken
  have census : t.clientCount = t.census := by
    obtain ⟨_, _, _, _, rfl, _⟩ := ownerStep_some taken
    rw [aside.census]
    exact held.census
  cases ownerStep_steps taken with
  | again | twice => exact held
  | start idle stopped =>
      have absent := held.rested ⟨idle, stopped⟩
      refine ⟨fun busy => (busy idle).elim, by simp [State.Returned], ?_, census⟩
      exact held.attached.aside aside (by rw [absent]; rfl)
  | stop => exact ⟨fun _ => rfl, by simp [State.Returned], held.attached, census⟩
  | missed poke | poked i poke | hangUp i poke =>
      have cleared := held.cleared (by simp [poke])
      exact ⟨fun _ => cleared, by simp [State.Returned], held.attached.aside aside rfl, census⟩
  | join join exited =>
      refine ⟨fun busy => (busy rfl).elim, fun _ => rfl, ?_, census⟩
      exact held.attached.aside aside (by rw [exited]; rfl)

theorem Ledger.accept (held : Ledger s) (known : Instances s) {a : AcceptAction}
    (taken : acceptStep s a = some t) : Ledger t := by
  have attached := held.attached.accept known taken
  have census := acceptStep_census known held.census taken
  have awake : ¬ s.Returned := by
    intro returned
    have absent := held.rested returned
    cases acceptStep_steps taken <;> simp_all
  obtain ⟨_, _, _, rfl, _⟩ := acceptStep_some taken
  exact ⟨held.cleared, fun returned => (awake returned).elim, attached, census⟩

theorem Ledger.serve (held : Ledger s) (known : Instances s) {i : Nat} {a : ServeAction}
    (taken : serveStep s i a = some t) : Ledger t := by
  have attached := held.attached.serve known taken
  have census := serveStep_census known held.census taken
  obtain ⟨conn, _, _, rfl⟩ := serveStep_some taken
  refine ⟨?_, ?_, attached, census⟩
  · simpa using held.cleared
  · simpa [State.Returned] using held.rested

end Steps

section Runs

variable [DecidableEq P] [DecidableEq C]

theorem ledger_step (s : State P C) (a : Action P C) (t : State P C)
    (held : Instances s ∧ Ledger s) (taken : step s a = some t) :
    Instances t ∧ Ledger t := by
  refine ⟨instances_step s a t held.1 taken, ?_⟩
  cases a with
  | owner a => exact held.2.owner taken
  | accept a => exact held.2.accept held.1 taken
  | serve i a => exact held.2.serve held.1 taken
  | publish p a =>
      obtain ⟨_, _, _, _, _, _, rfl⟩ := publishStep_some taken
      exact held.2.aside (.same rfl rfl) rfl rfl rfl rfl
  | fetch c a =>
      have apart := fetchStep_apart taken
      exact held.2.aside (fetchStep_aside taken) apart.owner apart.running apart.accept
        apart.clientCount
  | outside a =>
      have apart := outsideStep_apart taken
      exact held.2.aside (outsideStep_aside taken) apart.owner apart.running apart.accept
        apart.clientCount

theorem ledger_reachable {s : State P C} (reached : Reachable s) : Instances s ∧ Ledger s := by
  apply invariant_reachable ?_ ledger_step reached
  rintro s rfl
  exact ⟨instances_initial, ledger_initial⟩

end Runs

section Balance

variable {s : State P C}

theorem Ledger.handleOpen_iff (held : Ledger s) (i : Nat) :
    (s.conns i).handleOpen = true ↔
      (s.accept.instance = some i ∨ (s.conns i).serve.holding = true) := by
  have inUse := held.attached i
  rw [Conn.handleOpen, Bool.or_eq_true, inUse, beq_iff_eq]
  cases (s.conns i).serve <;> simp [ServePc.attached, ServePc.holding]

theorem accepting_eq (known : Instances s) :
    Nat.count (fun i => s.accept.instance = some i) s.created = s.accepting := by
  rw [State.accepting]
  cases mine : s.accept.instance with
  | none => simp
  | some k =>
      have single := count_single s.created k (known.waiting k mine).1
      simpa using single

end Balance

end Obs2Mf.Pipe
