import Obs2Mf.Pipe.System

set_option autoImplicit false

/- Who may touch which instance of the pipe. -/
namespace Obs2Mf.Pipe

variable {P C : Type}

structure Instances (s : State P C) : Prop where
  fresh : ∀ j, s.created ≤ j → s.conns j = .absent
  waiting : ∀ i, s.accept.instance = some i → i < s.created ∧ (s.conns i).serve = .absent
  answered : ∀ i, s.accept = .recheck i true → (s.conns i).stage ≠ .listening
  listening : ∀ j, (s.conns j).stage = .listening → s.conns j = .listening
  poked : ∀ i, s.owner = .hangUp i → (s.conns i).peer = some .poke
  dialled : ∀ c i, (s.clients c).pipe = some i → (s.conns i).peer = some (.client c)

theorem instances_initial : Instances (State.initial P C) where
  fresh := fun _ _ => rfl
  waiting := nofun
  answered := nofun
  listening := nofun
  poked := nofun
  dialled := nofun

section Steps

variable {s t : State P C}

theorem Instances.inside (held : Instances s) {i : Nat} (used : s.conns i ≠ .absent) :
    i < s.created := by
  apply Classical.byContradiction
  intro late
  exact used (held.fresh i (Nat.le_of_not_lt late))

theorem Instances.not_listening (held : Instances s) {i : Nat} {peer : Peer C}
    (opened : (s.conns i).peer = some peer) : (s.conns i).stage ≠ .listening := by
  intro listening
  rw [held.listening i listening] at opened
  cases opened

theorem Instances.inside_of_listening (held : Instances s) {i : Nat}
    (listening : (s.conns i).stage = .listening) : i < s.created := by
  apply held.inside
  intro absent
  rw [absent] at listening
  cases listening

theorem Instances.inside_of_peer (held : Instances s) {i : Nat} {peer : Peer C}
    (opened : (s.conns i).peer = some peer) : i < s.created := by
  apply held.inside
  intro absent
  rw [absent] at opened
  cases opened

/-- An instance may change hands only while nobody has opened it. -/
theorem Instances.setConn (held : Instances s) {i : Nat} {conn : Conn C} (inside : i < s.created)
    (serve : s.accept.instance = some i → conn.serve = .absent)
    (opened : conn.stage ≠ .listening)
    (peer : conn.peer = (s.conns i).peer ∨ (s.conns i).peer = none) :
    Instances (s.setConn i conn) := by
  have kept (j : Nat) (peer' : Peer C) (opened : (s.conns j).peer = some peer') :
      ((s.setConn i conn).conns j).peer = some peer' := by
    by_cases same : j = i
    · subst same
      rw [setConn_same]
      rcases peer with unchanged | none
      · rw [unchanged, opened]
      · rw [none] at opened
        cases opened
    · rw [setConn_other _ _ _ _ same, opened]
  refine ⟨?_, ?_, ?_, ?_, ?_, ?_⟩
  · intro j late
    have other : j ≠ i := fun same => Nat.not_lt.mpr late (same ▸ inside)
    rw [setConn_other _ _ _ _ other]
    exact held.fresh j late
  · intro j waiting
    refine ⟨(held.waiting j waiting).1, ?_⟩
    by_cases same : j = i
    · subst same
      rw [setConn_same, serve waiting]
    · rw [setConn_other _ _ _ _ same]
      exact (held.waiting j waiting).2
  · intro j recheck
    by_cases same : j = i
    · subst same
      rw [setConn_same]
      exact opened
    · rw [setConn_other _ _ _ _ same]
      exact held.answered j recheck
  · intro j
    by_cases same : j = i
    · subst same
      rw [setConn_same]
      exact fun listening => (opened listening).elim
    · rw [setConn_other _ _ _ _ same]
      exact held.listening j
  · intro j hangUp
    exact kept j _ (held.poked j hangUp)
  · intro c j pipe
    exact kept j _ (held.dialled c j pipe)

theorem Instances.opened (held : Instances s) {i : Nat} (peer : Peer C)
    (listening : (s.conns i).stage = .listening) :
    Instances (s.setConn i ((s.conns i).opened peer)) := by
  apply held.setConn (held.inside_of_listening listening)
  · intro waiting
    exact (held.waiting i waiting).2
  · exact nofun
  · right
    rw [held.listening i listening]
    rfl

theorem Instances.hungUp (held : Instances s) {i : Nat} {peer : Peer C}
    (opened : (s.conns i).peer = some peer) : Instances (s.setConn i (s.conns i).hungUp) := by
  apply held.setConn (held.inside_of_peer opened)
  · intro waiting
    exact (held.waiting i waiting).2
  · exact held.not_listening opened
  · exact Or.inl rfl

/-- A step that opens, closes and hands over nothing. -/
theorem Instances.same (held : Instances s) (created : t.created = s.created)
    (conns : t.conns = s.conns) (clients : t.clients = s.clients)
    (accept : t.accept = s.accept ∨ t.accept.instance = none)
    (owner : t.owner = s.owner ∨ ∀ i, t.owner ≠ .hangUp i) : Instances t := by
  refine ⟨?_, ?_, ?_, ?_, ?_, ?_⟩
  · rw [created, conns]
    exact held.fresh
  · rw [created, conns]
    rcases accept with same | free
    · rw [same]
      exact held.waiting
    · intro i waiting
      cases free.symm.trans waiting
  · rw [conns]
    rcases accept with same | free
    · rw [same]
      exact held.answered
    · intro i recheck
      rw [recheck] at free
      cases free
  · rw [conns]
    exact held.listening
  · rw [conns]
    rcases owner with same | other
    · rw [same]
      exact held.poked
    · intro i hangUp
      exact (other i hangUp).elim
  · rw [conns, clients]
    exact held.dialled

theorem Instances.owner (held : Instances s) {a : OwnerAction} (taken : ownerStep s a = some t) :
    Instances t := by
  cases ownerStep_steps taken with
  | again | twice => exact held
  | start => exact held.same rfl rfl rfl (Or.inr rfl) (Or.inl rfl)
  | stop | missed => exact held.same rfl rfl rfl (Or.inl rfl) (Or.inr (by simp))
  | poked i _ listening =>
      have after := held.opened .poke listening
      refine ⟨after.fresh, after.waiting, after.answered, after.listening, ?_, after.dialled⟩
      intro j hangUp
      cases hangUp
      exact congrArg Conn.peer (setConn_same _ _ _)
  | hangUp i hangUp =>
      have after := held.hungUp (held.poked i hangUp)
      exact after.same rfl rfl rfl (Or.inl rfl) (Or.inr (by simp))
  | join => exact held.same rfl rfl rfl (Or.inr rfl) (Or.inr (by simp))

/-- The accept loop gives up the instance it was waiting on. -/
theorem Instances.shut (held : Instances s) {i : Nat} (mine : s.accept.instance = some i) :
    Instances (s.setConn i (s.conns i).shut) := by
  have waiting := held.waiting i mine
  exact held.setConn waiting.1 (fun _ => waiting.2) Stage.noConfusion (Or.inl rfl)

theorem Instances.accept (held : Instances s) {a : AcceptAction}
    (taken : acceptStep s a = some t) : Instances t := by
  cases acceptStep_steps taken with
  | test =>
      have free : (if s.running = true then AcceptPc.create else .exited).instance = none := by
        split
        · rfl
        · rfl
      exact held.same rfl rfl rfl (Or.inr free) (Or.inl rfl)
  | created =>
      have kept (j : Nat) (peer : Peer C) (opened : (s.conns j).peer = some peer) :
          ((s.setConn s.created .listening).conns j).peer = some peer := by
        have other : j ≠ s.created := Nat.ne_of_lt (held.inside_of_peer opened)
        rw [setConn_other _ _ _ _ other, opened]
      refine ⟨?_, ?_, by simp, ?_, ?_, ?_⟩
      · intro j late
        have other : j ≠ s.created := Nat.ne_of_gt late
        exact (setConn_other _ _ _ _ other).trans (held.fresh j (Nat.le_of_succ_le late))
      · intro i same
        cases same
        exact ⟨Nat.lt_succ_self _, congrArg Conn.serve (setConn_same _ _ _)⟩
      · intro j listening
        by_cases same : j = s.created
        · subst same
          exact setConn_same _ _ _
        · simp only [setConn_other _ _ _ _ same] at listening ⊢
          exact held.listening j listening
      · intro i hangUp
        exact kept i _ (held.poked i hangUp)
      · intro c i pipe
        exact kept i _ (held.dialled c i pipe)
  | refused | wake => exact held.same rfl rfl rfl (Or.inr rfl) (Or.inl rfl)
  | connected i ok connect answer =>
      refine ⟨held.fresh, ?_, ?_, held.listening, held.poked, held.dialled⟩
      · intro j same
        apply held.waiting j
        rw [connect]
        exact same
      · intro j same
        cases same
        rcases answer with impossible | connected
        · cases impossible
        · rw [connected]
          simp
  | exit i _ recheck | failed i recheck =>
      have shut := held.shut (by rw [recheck]; rfl)
      exact shut.same rfl rfl rfl (Or.inr rfl) (Or.inl rfl)
  | served i recheck =>
      have waiting := held.waiting i (by rw [recheck]; rfl)
      have answered := held.answered i recheck
      have free : Instances { s with accept := .test } :=
        held.same rfl rfl rfl (Or.inr rfl) (Or.inl rfl)
      have served := @Instances.setConn _ _ _ free i { s.conns i with serve := .start }
        waiting.1 (fun impossible => by cases impossible) answered (Or.inl rfl)
      exact served.same rfl rfl rfl (Or.inl rfl) (Or.inl rfl)

theorem Instances.serve (held : Instances s) {i : Nat} {a : ServeAction}
    (taken : serveStep s i a = some t) : Instances t := by
  obtain ⟨conn, stepped, _, rfl⟩ := serveStep_some taken
  have live := Conn.step_live stepped
  have present : (s.conns i).serve ≠ .absent := by
    intro absent
    rw [absent] at live
    cases live
  have shared : Instances (serveShared s i a) := by
    refine ⟨?_, ?_, ?_, ?_, ?_, ?_⟩
    · simpa using held.fresh
    · simpa using held.waiting
    · simpa using held.answered
    · simpa using held.listening
    · simpa using held.poked
    · simpa using held.dialled
  apply shared.setConn
  · rw [serveShared_created]
    apply held.inside
    intro absent
    exact present (by rw [absent]; rfl)
  · intro waiting
    rw [serveShared_accept] at waiting
    exact (present (held.waiting i waiting).2).elim
  · intro listening
    rcases Conn.step_stage stepped with kept | closed
    · rw [kept] at listening
      exact present (by rw [held.listening i listening]; rfl)
    · rw [closed] at listening
      cases listening
  · rw [serveShared_conns]
    exact Or.inl (Conn.step_peer stepped)

theorem Instances.publish [DecidableEq P] (held : Instances s) {p : P} {a : PublishAction}
    (taken : publishStep s p a = some t) : Instances t := by
  obtain ⟨_, _, _, _, _, _, rfl⟩ := publishStep_some taken
  exact ⟨held.fresh, held.waiting, held.answered, held.listening, held.poked, held.dialled⟩

theorem Instances.fetch [DecidableEq C] (held : Instances s) {c : C} {a : FetchAction}
    (taken : fetchStep s c a = some t) : Instances t := by
  rcases fetchStep_some taken with
    rfl | ⟨i, _, _, _, listening, rfl⟩ | ⟨i, next, pipe, stepped, rfl⟩
  · exact held
  · have after := held.opened (.client c) listening
    refine ⟨after.fresh, after.waiting, after.answered, after.listening, after.poked, ?_⟩
    intro d j connected
    by_cases same : d = c
    · subst same
      simp only [State.setClient, Function.update_self, Option.some.injEq] at connected
      subst connected
      exact congrArg Conn.peer (setConn_same _ _ _)
    · simp only [State.setClient, Function.update_of_ne same] at connected
      exact after.dialled d j connected
  · have kept := Client.step_conn stepped
    have peer := held.dialled c i pipe
    have after : Instances (s.setConn i next.2) := by
      apply held.setConn (held.inside_of_peer peer)
      · intro waiting
        rw [kept.2.1]
        exact (held.waiting i waiting).2
      · rw [kept.1]
        exact held.not_listening peer
      · exact Or.inl kept.2.2
    refine ⟨after.fresh, after.waiting, after.answered, after.listening, after.poked, ?_⟩
    intro d j connected
    by_cases same : d = c
    · subst same
      simp only [State.setClient, Function.update_self] at connected
      have here : j = i := by
        have pipes := Client.step_pipe stepped
        rcases pipes with unchanged | closed
        · rw [unchanged, pipe] at connected
          exact (Option.some.inj connected).symm
        · rw [closed] at connected
          cases connected
      subst here
      exact after.dialled d j pipe
    · simp only [State.setClient, Function.update_of_ne same] at connected
      exact after.dialled d j connected

theorem Instances.outside [DecidableEq C] (held : Instances s) {a : OutsideAction}
    (taken : outsideStep s a = some t) : Instances t := by
  obtain ⟨i, conn, rfl, serve, peer, stage⟩ := outsideStep_some taken
  have inside : i < s.created := by
    rcases stage with ⟨listening, _⟩ | ⟨mine, _⟩
    · exact held.inside_of_listening listening
    · exact held.inside_of_peer mine
  apply held.setConn inside
  · intro waiting
    rw [serve]
    exact (held.waiting i waiting).2
  · intro listening
    rcases stage with ⟨_, connected⟩ | ⟨mine, same⟩
    · rw [connected] at listening
      cases listening
    · rw [same] at listening
      exact held.not_listening mine listening
  · rcases stage with ⟨listening, _⟩ | ⟨mine, _⟩
    · right
      rw [held.listening i listening]
      rfl
    · exact Or.inl (peer.trans mine.symm)

end Steps

theorem instances_step [DecidableEq P] [DecidableEq C] (s : State P C) (a : Action P C)
    (t : State P C) (held : Instances s) (taken : step s a = some t) : Instances t := by
  cases a with
  | owner a => exact held.owner taken
  | accept a => exact held.accept taken
  | serve i a => exact held.serve taken
  | publish p a => exact held.publish taken
  | fetch c a => exact held.fetch taken
  | outside a => exact held.outside taken

end Obs2Mf.Pipe
