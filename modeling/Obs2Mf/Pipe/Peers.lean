import Obs2Mf.Pipe.Instances

set_option autoImplicit false

/- What everyone but its serving thread can do to a connection: send more to the
server, read what was written, and close the far end. -/
namespace Obs2Mf.Pipe

variable {P C : Type}

/-- A client that has a handle has not closed it. -/
def Linked (s : State P C) : Prop :=
  ∀ c i, (s.clients c).pipe = some i → (s.conns i).peerOpen = true

theorem linked_initial : Linked (State.initial P C) := by
  intro c i pipe
  cases pipe

/-- A connection as its thread finds it after a step of somebody else. -/
structure Conn.Meanwhile (conn conn' : Conn C) : Prop where
  arrived : conn.toServer <+: conn'.toServer
  gone : conn.peerOpen = false → conn'.toServer = conn.toServer
  thread : conn'.serve = conn.serve ∧ conn'.stage = conn.stage ∧
      (conn'.peerOpen = true → conn.peerOpen = true) ∨
    conn.serve = .absent ∧ (conn'.serve = .absent ∨ conn'.serve = .start)

namespace Conn.Meanwhile

variable {conn conn' : Conn C}

theorem same (kept : conn' = conn) : conn.Meanwhile conn' := by
  subst kept
  exact ⟨List.prefix_rfl, fun _ => rfl, Or.inl ⟨rfl, rfl, id⟩⟩

/-- The connection has no thread yet, and nothing is sent. -/
theorem unserved (absent : conn.serve = .absent)
    (serve : conn'.serve = .absent ∨ conn'.serve = .start)
    (toServer : conn'.toServer = conn.toServer) : conn.Meanwhile conn' := by
  refine ⟨?_, fun _ => toServer, Or.inr ⟨absent, serve⟩⟩
  simp only [toServer, List.prefix_rfl]

theorem hungUp : conn.Meanwhile conn.hungUp := by
  refine ⟨List.prefix_rfl, fun _ => rfl, Or.inl ⟨rfl, rfl, ?_⟩⟩
  intro impossible
  cases impossible

end Conn.Meanwhile

theorem Conn.step_peerOpen {hdr : FrameHeader} {payload : List Byte} {conn conn' : Conn C}
    {a : ServeAction} (taken : conn.step hdr payload a = some conn') :
    conn'.peerOpen = conn.peerOpen := by
  cases Conn.step_steps taken <;> rfl

/-- A client's own step keeps its end open or gives up the handle, and sends only
through an open handle. -/
theorem Client.step_sends {completed : Nat} {client : Client} {conn : Conn C} {a : FetchAction}
    {next : Client × Conn C} (taken : client.step completed conn a = some next) :
    (next.1.pipe = none ∧ next.2.peerOpen = false ∨ next.2.peerOpen = conn.peerOpen) ∧
      conn.toServer <+: next.2.toServer := by
  cases Client.step_steps taken with
  | begin => exact ⟨Or.inr rfl, List.prefix_refl _⟩
  | unwritten | unread | hangUp => exact ⟨Or.inl ⟨rfl, rfl⟩, List.prefix_refl _⟩
  | write => split <;> exact ⟨Or.inr rfl, List.prefix_append _ _⟩
  | head _ got count =>
      rcases afterHead_cases client { conn with toPeer := conn.toPeer.drop count }
        (got ++ conn.toPeer.take count) with gone | ⟨kept, _⟩
      · rw [gone]
        exact ⟨Or.inl ⟨rfl, rfl⟩, List.prefix_refl _⟩
      · rw [kept]
        exact ⟨Or.inr rfl, List.prefix_refl _⟩
  | body =>
      rw [(afterBody_kept _ _ _ _).1]
      exact ⟨Or.inr rfl, List.prefix_refl _⟩

section Steps

variable {s t : State P C}

theorem Linked.owner (held : Linked s) (known : Instances s) {a : OwnerAction}
    (taken : ownerStep s a = some t) : Linked t := by
  obtain ⟨_, _, _, conns, rfl, changed⟩ := ownerStep_some taken
  intro c i pipe
  rcases changed i with kept | ⟨_, opened⟩ | ⟨hangUp, _⟩
  · exact (congrArg Conn.peerOpen kept).trans (held c i pipe)
  · exact congrArg Conn.peerOpen opened
  · have poked := known.poked i hangUp
    rw [known.dialled c i pipe] at poked
    cases poked

theorem Linked.accept (held : Linked s) (known : Instances s) {a : AcceptAction}
    (taken : acceptStep s a = some t) : Linked t := by
  obtain ⟨_, _, conns, rfl, changed⟩ := acceptStep_some taken
  intro c i pipe
  have peerOpen := held c i pipe
  rcases changed i with kept | ⟨rfl, _⟩ | ⟨_, shut | started⟩
  · exact (congrArg Conn.peerOpen kept).trans peerOpen
  · rw [known.fresh _ (Nat.le_refl _)] at peerOpen
    cases peerOpen
  · exact (congrArg Conn.peerOpen shut).trans peerOpen
  · exact (congrArg Conn.peerOpen started).trans peerOpen

theorem Linked.serve (held : Linked s) {i : Nat} {a : ServeAction}
    (taken : serveStep s i a = some t) : Linked t := by
  obtain ⟨conn, stepped, _, rfl⟩ := serveStep_some taken
  intro c j pipe
  rw [setConn_clients, serveShared_clients] at pipe
  have peerOpen := held c j pipe
  rcases setConn_conns_cases (serveShared s i a) i conn j with kept | ⟨rfl, changed⟩
  · rw [kept, serveShared_conns, peerOpen]
  · rw [changed, Conn.step_peerOpen stepped, peerOpen]

theorem Linked.fetch [DecidableEq C] (held : Linked s) (known : Instances s) {c : C}
    {a : FetchAction} (taken : fetchStep s c a = some t) : Linked t := by
  rcases fetchStep_some taken with
    rfl | ⟨i, _, _, _, _, rfl⟩ | ⟨i, next, mine, stepped, rfl⟩
  · exact held
  · intro d j pipe
    change ((s.setConn i _).conns j).peerOpen = true
    rcases setConn_conns_cases s i ((s.conns i).opened (.client c)) j with kept | ⟨_, opened⟩
    · rw [kept]
      by_cases same : d = c
      · subst same
        simp only [State.setClient, Function.update_self, Option.some.injEq] at pipe
        rw [← pipe, setConn_same] at kept
        rw [← pipe, ← kept]
        rfl
      · simp only [State.setClient, Function.update_of_ne same] at pipe
        exact held d j pipe
    · rw [opened]
      rfl
  · intro d j pipe
    change ((s.setConn i next.2).conns j).peerOpen = true
    by_cases same : d = c
    · subst same
      simp only [State.setClient, Function.update_self] at pipe
      rcases Client.step_pipe stepped with unchanged | gone
      · rw [unchanged, mine, Option.some.injEq] at pipe
        subst pipe
        rw [setConn_same]
        rcases (Client.step_sends stepped).1 with ⟨gone, _⟩ | kept
        · rw [unchanged, mine] at gone
          cases gone
        · rw [kept, held d i mine]
      · rw [gone] at pipe
        cases pipe
    · simp only [State.setClient, Function.update_of_ne same] at pipe
      have other : j ≠ i := by
        intro here
        subst here
        have dialled := known.dialled d j pipe
        rw [known.dialled c j mine, Option.some.injEq, Peer.client.injEq] at dialled
        exact same dialled.symm
      rw [setConn_other _ _ _ _ other, held d j pipe]

theorem Linked.outside [DecidableEq C] (held : Linked s) (known : Instances s)
    {a : OutsideAction} (taken : outsideStep s a = some t) : Linked t := by
  have changes (i : Nat) (conn : Conn C)
      (peerOpen : (s.conns i).peer ≠ some .other →
        conn.peerOpen = true ∨ conn.peerOpen = (s.conns i).peerOpen) :
      Linked (s.setConn i conn) := by
    intro c j pipe
    rw [setConn_clients] at pipe
    rcases setConn_conns_cases s i conn j with kept | ⟨rfl, changed⟩
    · rw [kept, held c j pipe]
    · rw [changed]
      have dialled := known.dialled c j pipe
      rcases peerOpen (by rw [dialled]; simp) with opened | kept
      · exact opened
      · rw [kept, held c j pipe]
  cases outsideStep_steps taken with
  | dial i => exact changes i _ fun _ => Or.inl rfl
  | send i | receive i => exact changes i _ fun _ => Or.inr rfl
  | hangUp i mine => exact changes i _ fun another => (another mine).elim

theorem linked_step [DecidableEq P] [DecidableEq C] (s : State P C) (a : Action P C)
    (t : State P C) (held : Instances s ∧ Linked s) (taken : step s a = some t) : Linked t := by
  cases a with
  | owner a => exact held.2.owner held.1 taken
  | accept a => exact held.2.accept held.1 taken
  | serve i a => exact held.2.serve taken
  | publish p a =>
      obtain ⟨_, _, _, _, _, _, rfl⟩ := publishStep_some taken
      exact held.2
  | fetch c a => exact held.2.fetch held.1 taken
  | outside a => exact held.2.outside held.1 taken

theorem Instances.unserved_of_listening (known : Instances s) {i : Nat}
    (listening : (s.conns i).stage = .listening) : (s.conns i).serve = .absent := by
  rw [known.listening i listening]
  rfl

theorem ownerStep_meanwhile (known : Instances s) {a : OwnerAction}
    (taken : ownerStep s a = some t) (i : Nat) : (s.conns i).Meanwhile (t.conns i) := by
  obtain ⟨_, _, _, conns, rfl, changed⟩ := ownerStep_some taken
  dsimp only
  rcases changed i with kept | ⟨listening, opened⟩ | ⟨_, hungUp⟩
  · exact .same kept
  · have absent := known.unserved_of_listening listening
    rw [opened]
    exact .unserved absent (Or.inl absent) rfl
  · rw [hungUp]
    exact .hungUp

theorem acceptStep_meanwhile (known : Instances s) {a : AcceptAction}
    (taken : acceptStep s a = some t) (i : Nat) : (s.conns i).Meanwhile (t.conns i) := by
  obtain ⟨_, _, conns, rfl, changed⟩ := acceptStep_some taken
  dsimp only
  rcases changed i with kept | ⟨rfl, created⟩ | ⟨mine, shut | started⟩
  · exact .same kept
  · have fresh := known.fresh _ (Nat.le_refl _)
    rw [created, fresh]
    exact .unserved rfl (Or.inl rfl) rfl
  · have absent := (known.waiting i mine).2
    rw [shut]
    exact .unserved absent (Or.inl absent) rfl
  · rw [started]
    exact .unserved (known.waiting i mine).2 (Or.inr rfl) rfl

theorem fetchStep_meanwhile [DecidableEq C] (known : Instances s) (linked : Linked s) {c : C}
    {a : FetchAction} (taken : fetchStep s c a = some t) (i : Nat) :
    (s.conns i).Meanwhile (t.conns i) := by
  rcases fetchStep_some taken with
    rfl | ⟨j, _, _, _, listening, rfl⟩ | ⟨j, next, mine, stepped, rfl⟩
  · exact .same rfl
  · change (s.conns i).Meanwhile ((s.setConn j _).conns i)
    rcases setConn_conns_cases s j ((s.conns j).opened (.client c)) i with kept | ⟨rfl, opened⟩
    · exact .same kept
    · have absent := known.unserved_of_listening listening
      rw [opened]
      exact .unserved absent (Or.inl absent) rfl
  · change (s.conns i).Meanwhile ((s.setConn j next.2).conns i)
    rcases setConn_conns_cases s j next.2 i with kept | ⟨rfl, changed⟩
    · exact .same kept
    · have open_ := linked c i mine
      have ends := Client.step_conn stepped
      rw [changed]
      refine ⟨(Client.step_sends stepped).2, ?_, Or.inl ⟨ends.2.1, ends.1, fun _ => open_⟩⟩
      intro gone
      rw [open_] at gone
      cases gone

theorem outsideStep_meanwhile [DecidableEq C] (known : Instances s) {a : OutsideAction}
    (taken : outsideStep s a = some t) (i : Nat) : (s.conns i).Meanwhile (t.conns i) := by
  have changes (j : Nat) (conn : Conn C) (meanwhile : (s.conns j).Meanwhile conn) :
      (s.conns i).Meanwhile ((s.setConn j conn).conns i) := by
    rcases setConn_conns_cases s j conn i with kept | ⟨rfl, changed⟩
    · exact .same kept
    · rw [changed]
      exact meanwhile
  cases outsideStep_steps taken with
  | dial j listening =>
      have absent := known.unserved_of_listening listening
      exact changes j _ (.unserved absent (Or.inl absent) rfl)
  | send j bytes _ peerOpen =>
      refine changes j _ ⟨List.prefix_append _ _, ?_, Or.inl ⟨rfl, rfl, id⟩⟩
      intro gone
      rw [peerOpen] at gone
      cases gone
  | receive j => exact changes j _ ⟨List.prefix_rfl, fun _ => rfl, Or.inl ⟨rfl, rfl, id⟩⟩
  | hangUp j => exact changes j _ .hungUp

/-- The step of the thread that serves `i`, if that is what the action is. -/
def Action.servedBy (i : Nat) : Action P C → Option ServeAction
  | .serve j a => if j = i then some a else none
  | _ => none

@[simp] theorem servedBy_serve (i : Nat) (a : ServeAction) :
    (Action.serve i a : Action P C).servedBy i = some a :=
  if_pos rfl

theorem servedBy_some {a : Action P C} {i : Nat} {b : ServeAction}
    (mine : a.servedBy i = some b) : a = .serve i b := by
  cases a with
  | serve j a =>
      simp only [Action.servedBy] at mine
      split at mine
      · rename_i same
        subst same
        cases mine
        rfl
      · cases mine
  | _ => cases mine

/-- A step that is not its thread's leaves a connection as its thread expects. -/
theorem step_meanwhile [DecidableEq P] [DecidableEq C] (known : Instances s) (linked : Linked s)
    {a : Action P C} (taken : step s a = some t) {i : Nat} (foreign : a.servedBy i = none) :
    (s.conns i).Meanwhile (t.conns i) := by
  cases a with
  | owner a => exact ownerStep_meanwhile known taken i
  | accept a => exact acceptStep_meanwhile known taken i
  | serve j a =>
      obtain ⟨conn, _, _, rfl⟩ := serveStep_some taken
      rcases setConn_conns_cases (serveShared s j a) j conn i with kept | ⟨rfl, _⟩
      · exact .same (kept.trans (congrFun (serveShared_conns s j a) i))
      · rw [servedBy_serve] at foreign
        cases foreign
  | publish p a =>
      obtain ⟨_, _, _, _, _, _, rfl⟩ := publishStep_some taken
      exact .same rfl
  | fetch c a => exact fetchStep_meanwhile known linked taken i
  | outside a => exact outsideStep_meanwhile known taken i

end Steps

end Obs2Mf.Pipe
