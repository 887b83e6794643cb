import Obs2Mf.Foundation.Progress
import Obs2Mf.Pipe.Framing
import Obs2Mf.Pipe.Handles
import Obs2Mf.Pipe.Peers

set_option autoImplicit false

/- What the transport can always still do: whoever holds the mutex gives it back by
itself, and a fetch on an instance that is being served can be brought to its end. -/
namespace Obs2Mf.Pipe

open Run Transfer

variable {P C : Type}

/-- How many steps a publisher still holds the mutex for. -/
def PublishPc.left : PublishPc → Nat
  | .copyHdr _ => 5
  | .stampMagic _ => 4
  | .stampVersion _ => 3
  | .assign _ => 2
  | .unlock => 1
  | .idle | .lock _ => 0

/-- How many steps a serving thread still holds the mutex for. -/
def ServePc.left : ServePc → Nat
  | .copyHdr => 3
  | .copyPayload _ => 2
  | .unlock _ _ => 1
  | _ => 0

def State.left (s : State P C) : Nat :=
  match s.mtx with
  | none => 0
  | some (.publisher p) => (s.publishers p).left
  | some (.server i) => (s.conns i).serve.left

/-- A step of the thread that holds the mutex, none of which is a call on the pipe. -/
inductive Frees (s : State P C) : Action P C → Prop
  | publisher (p : P) (a : PublishAction) (holds : s.mtx = some (.publisher p)) :
      Frees s (.publish p a)
  | server (i : Nat) (a : ServeAction) (holds : s.mtx = some (.server i))
      (copying : a = .copyHdr ∨ a = .copyPayload ∨ a = .unlock) : Frees s (.serve i a)

/-- What a step of the thread that holds the mutex leaves as it is. -/
structure Beside (s t : State P C) : Prop where
  running : t.running = s.running
  accept : t.accept = s.accept
  clients : t.clients = s.clients
  published : t.published = s.published
  conns : ∀ i, (s.conns i).serve.critical = false → t.conns i = s.conns i
  publishers : ∀ p, (s.publishers p).critical = false → t.publishers p = s.publishers p

section Mutex

variable {s : State P C}

theorem PublishPc.left_le (pc : PublishPc) : pc.left ≤ 5 := by
  cases pc <;> simp only [left] <;> omega

theorem ServePc.left_le (pc : ServePc) : pc.left ≤ 3 := by
  cases pc <;> simp only [left] <;> omega

theorem State.left_le (s : State P C) : s.left ≤ 5 := by
  unfold State.left
  split
  · omega
  · exact PublishPc.left_le _
  · have bound := ServePc.left_le (s.conns ‹_›).serve
    omega

variable [DecidableEq P] [DecidableEq C]

/-- The statement that a publisher which holds the mutex executes next. -/
def PublishPc.next : PublishPc → PublishAction
  | .idle | .lock _ | .unlock => .unlock
  | .copyHdr _ => .copyHdr
  | .stampMagic _ => .stampMagic
  | .stampVersion _ => .stampVersion
  | .assign _ => .assign

def ServePc.next : ServePc → ServeAction
  | .copyHdr => .copyHdr
  | .copyPayload _ => .copyPayload
  | _ => .unlock

theorem publisher_frees {p : P} (holds : s.mtx = some (.publisher p))
    (critical : (s.publishers p).critical = true) :
    ∃ t, step s (.publish p (s.publishers p).next) = some t ∧ Beside s t ∧ t.left < s.left := by
  have others (pc : PublishPc) (q : P) (outside : (s.publishers q).critical = false) :
      Function.update s.publishers p pc q = s.publishers q := by
    apply Function.update_of_ne
    rintro rfl
    rw [outside] at critical
    cases critical
  cases here : s.publishers p with
  | idle | lock f =>
      rw [here] at critical
      cases critical
  | copyHdr f | stampMagic f | stampVersion f | assign f | unlock =>
      refine ⟨_, by simp only [step, publishStep, here, PublishPc.next]; rfl, ?_, ?_⟩
      · exact ⟨rfl, rfl, rfl, rfl, fun _ _ => rfl, others _⟩
      · simp [State.left, holds, here, PublishPc.left]

theorem server_frees {i : Nat} (holds : s.mtx = some (.server i))
    (critical : (s.conns i).serve.critical = true) :
    ∃ t, step s (.serve i (s.conns i).serve.next) = some t ∧ Beside s t ∧ t.left < s.left := by
  have others (conn : Conn C) (j : Nat) (outside : (s.conns j).serve.critical = false) :
      (s.setConn i conn).conns j = s.conns j := by
    apply setConn_other
    rintro rfl
    rw [outside] at critical
    cases critical
  cases here : (s.conns i).serve with
  | copyHdr | copyPayload copy | unlock copy data =>
      refine ⟨_, by simp only [step, serveStep, Conn.step, here, ServePc.next]; rfl, ?_, ?_⟩
      · exact ⟨rfl, rfl, rfl, rfl, others _, fun _ _ => rfl⟩
      · simp [State.left, serveShared, holds, here, ServePc.left]
  | _ =>
      rw [here] at critical
      cases critical

/-- Whoever holds the mutex can take its next step towards `unlock`, whatever the others
do: on the way it makes no call that could block. -/
theorem Slot.frees (held : Slot s) (taken : s.mtx ≠ none) :
    ∃ a t, Frees s a ∧ step s a = some t ∧ Beside s t ∧ t.left < s.left := by
  have guarded := held.guarded
  cases holds : s.mtx with
  | none => exact (taken holds).elim
  | some holder =>
      rw [holds] at guarded
      cases holder with
      | publisher p =>
          obtain ⟨_, f, _, _, writing⟩ := guarded
          have critical : (s.publishers p).critical = true := by
            cases pc : s.publishers p <;> first | rfl | (rw [pc] at writing; exact writing.elim)
          obtain ⟨t, stepped, beside, fewer⟩ := publisher_frees holds critical
          exact ⟨_, t, .publisher p _ holds, stepped, beside, fewer⟩
      | server i =>
          have critical := guarded.2.2.critical
          obtain ⟨t, stepped, beside, fewer⟩ := server_frees holds critical
          refine ⟨_, t, .server i _ holds ?_, stepped, beside, fewer⟩
          cases (s.conns i).serve <;> simp [ServePc.next]

/-- The mutex is free, and each of the threads that were waiting for it in `s` can have it. -/
structure Admits (s t : State P C) : Prop where
  free : t.mtx = none
  publish : ∀ p f, s.publishers p = .lock f → (step t (.publish p .lock)).isSome = true
  serve : ∀ i, (s.conns i).serve = .lock → (step t (.serve i .lock)).isSome = true

/-- The threads outside the mutex stand where they stood. -/
structure Awaited (s t : State P C) : Prop where
  slot : Instances t ∧ Slot t
  publishers : ∀ p, (s.publishers p).critical = false → t.publishers p = s.publishers p
  conns : ∀ i, (s.conns i).serve.critical = false → t.conns i = s.conns i

theorem Awaited.admits {t : State P C} (held : Awaited s t) (free : t.mtx = none) :
    Admits s t where
  free := free
  publish := by
    intro p f waits
    have same := held.publishers p (by rw [waits]; rfl)
    simp only [step, publishStep, same, waits, free, ↓reduceIte, Option.isSome_some]
  serve := by
    intro i waits
    have same := held.conns i (by rw [waits]; rfl)
    simp only [step, serveStep, Conn.step, same, waits, free, Option.isSome_none,
      Bool.false_eq_true, and_false, ↓reduceIte, Option.map_some, Option.isSome_some]

/-- From any moment of any run the mutex is free again after at most five steps of the one
thread that holds it, none of them a call on the pipe. So neither `Publish` nor `Serve` ever
waits there for a client, however slow. -/
theorem mutex_comes_free (s : State P C) (reached : Reachable s) :
    Leads step Frees (Admits s) 5 s := by
  have slot : Instances s ∧ Slot s := by
    apply invariant_reachable ?_ slot_step reached
    rintro s rfl
    exact ⟨instances_initial, slot_initial⟩
  have advance : ∀ u, Awaited s u → ¬ u.mtx = none →
      ∃ a t, Frees u a ∧ step u a = some t ∧ Awaited s t ∧ t.left < u.left := by
    intro u held taken
    obtain ⟨a, t, frees, stepped, beside, fewer⟩ := held.slot.2.frees taken
    refine ⟨a, t, frees, stepped, ⟨slot_step u a t held.slot stepped, ?_, ?_⟩, fewer⟩
    · intro p outside
      have same := held.publishers p outside
      rw [beside.publishers p (by rw [same, outside]), same]
    · intro i outside
      have same := held.conns i outside
      rw [beside.conns i (by rw [same, outside]), same]
  have start : Awaited s s := ⟨slot, fun _ _ => rfl, fun _ _ => rfl⟩
  obtain ⟨actions, t, short, along, ends, held, free⟩ :=
    leads_of_rank State.left advance 5 s start s.left_le
  exact ⟨actions, t, short, along, ends, held.admits free⟩

end Mutex

/-- The instance has a thread that still answers, or the accept loop is about to start it. -/
def Attended (s : State P C) (i : Nat) : Prop :=
  (s.conns i).serve ≠ .absent ∧ (s.conns i).serve.ending = false ∨
    (s.conns i).serve = .absent ∧ s.running = true ∧
      (s.accept = .connect i ∨ s.accept = .recheck i true)

/-- The steps that bring a client's fetch on an instance to its end: its own, those of the
thread of the instance, the accept loop's where it still has the instance, and those of
whoever holds the mutex. No call fails in them. -/
inductive Helps (c : C) (i : Nat) (s : State P C) : Action P C → Prop
  | client (a : FetchAction) (kept : ¬ a.gaveUp) : Helps c i s (.fetch c a)
  | thread (a : ServeAction) (kept : a ≠ .read .failed ∧ a ≠ .write .failed) :
      Helps c i s (.serve i a)
  | accept (a : AcceptAction) (mine : s.accept.instance = some i) (kept : a ≠ .connected false) :
      Helps c i s (.accept a)
  | holder (a : Action P C) (frees : Frees s a) : Helps c i s a

def FetchPc.ahead : FetchPc → Nat
  | .idle => 0
  | .request _ => 3
  | .header _ => 2
  | .payload _ _ => 1

/-- How many steps the server's side of an exchange still needs at most. -/
def Conn.ahead (accept : AcceptPc) (left : Nat) (conn : Conn C) : Nat :=
  match conn.serve with
  | .absent => match accept with
    | .connect _ => 15
    | _ => 14
  | .start => 13
  -- The same stage before the request is read and after the reply is written.
  | .request _ => if conn.toPeer.isEmpty then 12 else 0
  | .lock => 6 + left
  | .copyHdr => 5
  | .copyPayload _ => 4
  | .unlock _ _ => 3
  | .header _ _ => 2
  | .payload _ => 1
  | _ => 0

def State.ahead (s : State P C) (c : C) (i : Nat) : Nat :=
  match (s.clients c).pc with
  | .idle => 0
  | pc => pc.ahead + (s.conns i).ahead s.accept s.left

/-- A fetch that ended well: the client holds on to its connection, and has one more frame
in hand if the frame is flagged as valid. -/
def Client.Fetched (published : List Frame) (before after : Client) : Prop :=
  ∃ f ∈ published, ∃ since : Nat, after.log =
    if f.hdr.stamped.valid then before.log ++ [⟨f.hdr.stamped, f.payload, since⟩] else before.log

/-- The reply on its way to a client was formed before the first `Publish`: what there is of
it makes up the header of an empty slot, which has no magic. -/
def Early (s : State P C) (c : C) (i : Nat) : Prop :=
  ∃ got pending, (s.clients c).pc = .header got ∧ (s.conns i).serve.Pending pending ∧
    got ++ (s.conns i).toPeer ++ pending = FrameHeader.zero.encode

/-- How a fetch on instance `i` that is under way in `s` has ended. A client that gets an early
reply hangs up on it. -/
structure Finished (c : C) (i : Nat) (s t : State P C) : Prop where
  idle : (t.clients c).pc = .idle
  kept : ¬ Early s c i →
    (t.clients c).pipe = some i ∧ (s.clients c).Fetched t.published (t.clients c)
  dropped : Early s c i →
    (t.clients c).pipe = none ∧ (t.clients c).log = (s.clients c).log

/-- One step nearer to the end of a fetch. -/
structure Nearer (c : C) (i : Nat) (s t : State P C) : Prop where
  published : t.published = s.published
  pipe : (t.clients c).pipe = some i
  ends : (t.clients c).pc ≠ .idle ∧ (t.clients c).log = (s.clients c).log ∧ Attended t i ∧
      t.ahead c i < s.ahead c i ∨
    (t.clients c).pc = .idle ∧ (s.clients c).Fetched t.published (t.clients c)

section Fetching

variable {s : State P C} {c : C} {i : Nat}

theorem ahead_of_busy {pc : FetchPc} (here : (s.clients c).pc = pc) (busy : pc ≠ .idle) :
    s.ahead c i = pc.ahead + (s.conns i).ahead s.accept s.left := by
  cases pc with
  | idle => exact (busy rfl).elim
  | _ => simp only [State.ahead, here]

/-- While the client waits, only the server's side counts. -/
theorem ahead_lt {t : State P C} (busy : (s.clients c).pc ≠ .idle)
    (client : (t.clients c).pc = (s.clients c).pc)
    (less : (t.conns i).ahead t.accept t.left < (s.conns i).ahead s.accept s.left) :
    t.ahead c i < s.ahead c i := by
  rw [ahead_of_busy rfl busy, ahead_of_busy client busy]
  omega

theorem Conn.ahead_mono (conn : Conn C) (accept : AcceptPc) {left more : Nat}
    (le : left ≤ more) : conn.ahead accept left ≤ conn.ahead accept more := by
  cases here : conn.serve with
  | lock =>
      simp only [Conn.ahead, here]
      omega
  | _ => simp only [Conn.ahead, here, Nat.le_refl]

/-- What is known of a state in which a fetch is to be brought to its end. -/
structure Fetching (c : C) (i : Nat) (s : State P C) : Prop where
  instances : Instances s
  slot : Slot s
  served : Served False s c
  linked : Linked s
  ledger : Ledger s
  published : s.published ≠ []
  pipe : (s.clients c).pipe = some i

theorem Fetching.connected (held : Fetching c i s) (attended : Attended s i) :
    (s.conns i).stage = .connected := by
  have peer := held.instances.dialled c i held.pipe
  have opened := held.instances.not_listening peer
  have inUse : (s.conns i).stage.inUse = true := by
    apply (held.ledger.attached i).mpr
    rcases attended with ⟨present, busy⟩ | ⟨_, _, connect | recheck⟩
    · right
      cases serve : (s.conns i).serve <;> simp_all [ServePc.attached, ServePc.ending]
    · left
      rw [connect]
      rfl
    · left
      rw [recheck]
      rfl
  cases stage : (s.conns i).stage <;> simp_all [Stage.inUse]

/-- A header that is complete and good ends the fetch or announces a payload. -/
theorem afterHead_whole (client : Client) (conn : Conn C) (hdr : FrameHeader)
    (magic : hdr.magic = kFrameMagic) :
    afterHead client conn hdr.encode =
      if hdr.byteLength ≠ 0#32 then ({ client with pc := .payload hdr [] }, conn)
      else (client.returned hdr [], conn) := by
  simp only [afterHead, FrameHeader.encode_length, Nat.lt_irrefl, ↓reduceIte,
    FrameHeader.decode_encode, magic, ne_eq, not_true_eq_false]

theorem afterBody_whole (client : Client) (conn : Conn C) (hdr : FrameHeader) (data : List Byte)
    (sized : hdr.byteLength.toNat = data.length) :
    afterBody client conn hdr data = (client.returned hdr data, conn) := by
  simp only [afterBody, sized, Nat.lt_irrefl, ↓reduceIte]

variable [DecidableEq P] [DecidableEq C]

/-- A step of the serving thread that brings it nearer to the end of its reply. -/
theorem thread_nearer {a : ServeAction} {conn : Conn C} (pipe : (s.clients c).pipe = some i)
    (busy : (s.clients c).pc ≠ .idle) (kept : a ≠ .read .failed ∧ a ≠ .write .failed)
    (free : a = .lock → s.mtx = none)
    (stepped : (s.conns i).step s.hdr s.payload a = some conn)
    (attended : conn.serve ≠ .absent ∧ conn.serve.ending = false)
    (less : ∀ left, (conn.serve = .lock → left ≤ 5) →
      conn.ahead s.accept left < (s.conns i).ahead s.accept s.left) :
    ∃ a t, Helps c i s a ∧ step s a = some t ∧ Nearer c i s t := by
  have enabled : ¬ (a = .lock ∧ s.mtx.isSome = true) := by
    rintro ⟨lock, taken⟩
    rw [free lock] at taken
    cases taken
  have taken : step s (.serve i a) = some ((serveShared s i a).setConn i conn) := by
    simp only [step, serveStep, if_neg enabled, stepped, Option.map_some]
  refine ⟨.serve i a, _, .thread a kept, taken, ?_, ?_, Or.inl ⟨?_, ?_, Or.inl ?_, ?_⟩⟩
  · simp only [setConn_published, serveShared_published]
  · simpa only [setConn_clients, serveShared_clients] using pipe
  · simpa only [setConn_clients, serveShared_clients] using busy
  · simp only [setConn_clients, serveShared_clients]
  · simpa only [setConn_same] using attended
  · apply ahead_lt busy
    · simp only [setConn_clients, serveShared_clients]
    · simp only [setConn_same, setConn_accept, serveShared_accept]
      exact less _ fun _ => State.left_le _

/-- A step of the client that brings it nearer to the end of its fetch. -/
theorem client_nearer {a : FetchAction} {next : Client × Conn C}
    (pipe : (s.clients c).pipe = some i) (busy : (s.clients c).pc ≠ .idle) (kept : ¬ a.gaveUp)
    (dial : ∀ opened, a ≠ .dial opened)
    (stepped : (s.clients c).step s.completed (s.conns i) a = some next)
    (still : next.1.pipe = some i)
    (ends : next.1.pc ≠ .idle ∧ next.1.log = (s.clients c).log ∧
        next.2.serve = (s.conns i).serve ∧ Attended s i ∧
        (next.1.pc.ahead + next.2.ahead s.accept s.left <
          (s.clients c).pc.ahead + (s.conns i).ahead s.accept s.left) ∨
      next.1.pc = .idle ∧ (s.clients c).Fetched s.published next.1) :
    ∃ a t, Helps c i s a ∧ step s a = some t ∧ Nearer c i s t := by
  have taken : step s (.fetch c a) = some ((s.setConn i next.2).setClient c next.1) := by
    cases a with
    | dial opened => exact (dial opened rfl).elim
    | _ => simp only [step, fetchStep, pipe, stepped, Option.map_some]
  have client : ((s.setConn i next.2).setClient c next.1).clients c = next.1 := by
    simp only [State.setClient, Function.update_self]
  have conn : ((s.setConn i next.2).setClient c next.1).conns i = next.2 := setConn_same _ _ _
  refine ⟨.fetch c a, _, .client a kept, taken, rfl, by rw [client, still], ?_⟩
  rw [client]
  rcases ends with ⟨waits, log, serve, attended, less⟩ | ended
  · refine Or.inl ⟨waits, log, ?_, ?_⟩
    · rw [Attended, conn, serve]
      exact attended
    · have holds : ((s.setConn i next.2).setClient c next.1).left ≤ s.left := by
        simp only [State.left, State.setClient, setConn_mtx, setConn_publishers]
        split
        · exact Nat.le_refl _
        · exact Nat.le_refl _
        · rename_i j _
          rcases setConn_conns_cases s i next.2 j with same | ⟨rfl, changed⟩
          · rw [same]
          · rw [changed, serve]
      have now := ahead_of_busy (i := i) (congrArg Client.pc client) waits
      rw [ahead_of_busy rfl busy, now, conn]
      have same := Conn.ahead_mono next.2 s.accept holds
      exact Nat.lt_of_le_of_lt (Nat.add_le_add_left same _) less
  · exact Or.inr ended

/-- The request goes out in one piece. -/
theorem Fetching.sends (held : Fetching c i s) (attended : Attended s i) {rest : List Byte}
    (request : (s.clients c).pc = .request rest) (more : rest ≠ []) :
    ∃ a t, Helps c i s a ∧ step s a = some t ∧ Nearer c i s t := by
  have length := List.length_pos_iff.mpr more
  have amount : Call.amount rest.length rest.length (.moved rest.length) = rest.length := by
    simp only [Call.amount, Nat.min_self]
  have stepped : (s.clients c).step s.completed (s.conns i) (.write (.moved rest.length)) =
      some ({ s.clients c with pc := .header [], since := s.completed },
        { s.conns i with toServer := (s.conns i).toServer ++ rest }) := by
    have whole : ¬ (rest.length = 0 ∨ (s.conns i).stage ≠ .connected) := by
      rw [held.connected attended]
      simp only [ne_eq, not_true_eq_false, or_false]
      omega
    simp only [Client.step, request, reduceCtorEq, ↓reduceIte, amount, if_neg whole,
      List.drop_length, List.take_length, ne_eq, not_true_eq_false]
  refine client_nearer held.pipe ?_ ?_ ?_ stepped held.pipe (Or.inl ⟨?_, rfl, rfl, attended, ?_⟩)
  · simp only [request, ne_eq, reduceCtorEq, not_false_eq_true]
  · simp only [FetchAction.gaveUp, reduceCtorEq, FetchAction.write.injEq, or_self,
      not_false_eq_true]
  · simp only [ne_eq, reduceCtorEq, not_false_eq_true, implies_true]
  · simp only [ne_eq, reduceCtorEq, not_false_eq_true]
  · simp only [request, FetchPc.ahead, Conn.ahead]
    omega

/-- The accept loop takes note of the client and starts the thread. -/
theorem Fetching.started (held : Fetching c i s) (attended : Attended s i)
    (header : (s.clients c).pc = .header []) (absent : (s.conns i).serve = .absent) :
    ∃ a t, Helps c i s a ∧ step s a = some t ∧ Nearer c i s t := by
  have busy : (s.clients c).pc ≠ .idle := by rw [header]; simp
  have connected := held.connected attended
  rcases attended with ⟨present, _⟩ | ⟨_, running, connect | recheck⟩
  · exact (present absent).elim
  · have taken : step s (.accept (.connected true)) =
        some { s with accept := .recheck i true } := by
      simp only [step, acceptStep, connect, connected, or_true, ↓reduceIte]
    refine ⟨_, _, .accept _ (by rw [connect]; rfl) (by simp), taken, rfl, held.pipe,
      Or.inl ⟨busy, rfl, Or.inr ⟨absent, running, Or.inr rfl⟩, ?_⟩⟩
    refine ahead_lt busy ?_ ?_
    · rfl
    · simp only [Conn.ahead, absent, connect]
      omega
  · have taken : step s (.accept .recheck) =
        some { s.setConn i { s.conns i with serve := .start } with accept := .test } := by
      simp only [step, acceptStep, recheck, running, Bool.true_eq_false, ↓reduceIte]
    refine ⟨_, _, .accept _ (by rw [recheck]; rfl) (by simp), taken, rfl, held.pipe,
      Or.inl ⟨busy, rfl, Or.inl ?_, ?_⟩⟩
    · rw [setConn_same]
      exact ⟨by simp, rfl⟩
    · refine ahead_lt busy ?_ ?_
      · rfl
      · simp only [setConn_same, Conn.ahead, absent, recheck]
        omega

/-- The thread is started, if it is not yet, and reads the request in one piece. -/
theorem Fetching.requested (held : Fetching c i s) (attended : Attended s i)
    (header : (s.clients c).pc = .header []) {got : List Byte}
    (reading : (s.conns i).serve.Reading got) (request : got ++ (s.conns i).toServer = requestBytes)
    (toPeer : (s.conns i).toPeer = []) :
    ∃ a t, Helps c i s a ∧ step s a = some t ∧ Nearer c i s t := by
  have busy : (s.clients c).pc ≠ .idle := by rw [header]; simp
  generalize serve : (s.conns i).serve = pc at reading
  cases reading with
  | absent => exact held.started attended header serve
  | start =>
      have stepped : (s.conns i).step s.hdr s.payload .enter =
          some { s.conns i with serve := .request [] } := by
        simp only [Conn.step, serve, ↓reduceIte]
      refine thread_nearer held.pipe busy (by simp) (by simp) stepped ⟨by simp, rfl⟩ ?_
      intro left _
      simp only [Conn.ahead, serve, toPeer, List.isEmpty_nil, ↓reduceIte]
      omega
  | request _ short =>
      have length := congrArg List.length request
      simp only [List.length_append, requestBytes_length] at length
      have amount : Call.amount (4 - got.length) (s.conns i).toServer.length
          (.moved (4 - got.length)) = (s.conns i).toServer.length := by
        simp only [Call.amount]
        omega
      have stepped : (s.conns i).step s.hdr s.payload (.read (.moved (4 - got.length))) =
          some { s.conns i with toServer := [], serve := .lock } := by
        have moved : ¬ (s.conns i).toServer.length = 0 := by omega
        simp only [Conn.step, serve, reduceCtorEq, ↓reduceIte, amount, if_neg moved,
          List.drop_length, List.take_length, request]
        rfl
      refine thread_nearer held.pipe busy (by simp) (by simp) stepped ⟨by simp, rfl⟩ ?_
      intro left bound
      have within := bound rfl
      simp only [Conn.ahead, serve, toPeer, List.isEmpty_nil, ↓reduceIte]
      omega

/-- The thread waits for the mutex, or copies the slot and leaves it. -/
theorem Fetching.copies (held : Fetching c i s) (busy : (s.clients c).pc ≠ .idle)
    (forming : (s.conns i).serve.forming = true) :
    ∃ a t, Helps c i s a ∧ step s a = some t ∧ Nearer c i s t := by
  cases serve : (s.conns i).serve with
  | lock =>
      by_cases free : s.mtx = none
      · have stepped : (s.conns i).step s.hdr s.payload .lock =
            some { s.conns i with serve := .copyHdr } := by
          simp only [Conn.step, serve, ↓reduceIte]
        refine thread_nearer held.pipe busy (by simp) (fun _ => free) stepped ⟨by simp, rfl⟩ ?_
        intro left _
        simp only [Conn.ahead, serve]
        omega
      · obtain ⟨a, t, frees, taken, beside, fewer⟩ := held.slot.frees free
        have same := beside.conns i (by rw [serve]; rfl)
        have pipe : (t.clients c).pipe = some i := by rw [beside.clients, held.pipe]
        refine ⟨a, t, .holder a frees, taken, beside.published, pipe, Or.inl ⟨?_, ?_, ?_, ?_⟩⟩
        · rw [beside.clients]
          exact busy
        · rw [beside.clients]
        · left
          rw [same, serve]
          exact ⟨by simp, rfl⟩
        · apply ahead_lt busy (by rw [beside.clients])
          simp only [same, Conn.ahead, serve]
          omega
  | copyHdr =>
      have stepped : (s.conns i).step s.hdr s.payload .copyHdr =
          some { s.conns i with serve := .copyPayload s.hdr } := by
        simp only [Conn.step, serve, ↓reduceIte]
      refine thread_nearer held.pipe busy (by simp) (by simp) stepped ⟨by simp, rfl⟩ ?_
      intro left _
      simp only [Conn.ahead, serve]
      omega
  | copyPayload copy =>
      have stepped : (s.conns i).step s.hdr s.payload .copyPayload =
          some { s.conns i with serve := .unlock copy s.payload } := by
        simp only [Conn.step, serve]
      refine thread_nearer held.pipe busy (by simp) (by simp) stepped ⟨by simp, rfl⟩ ?_
      intro left _
      simp only [Conn.ahead, serve]
      omega
  | unlock copy data =>
      have stepped : (s.conns i).step s.hdr s.payload .unlock = some { s.conns i with
          serve := .header
            ({ copy with byteLength := .ofNat 32 data.length } : FrameHeader).encode data } := by
        simp only [Conn.step, serve]
      refine thread_nearer held.pipe busy (by simp) (by simp) stepped ⟨by simp, rfl⟩ ?_
      intro left _
      simp only [Conn.ahead, serve]
      omega
  | _ =>
      rw [serve] at forming
      cases forming

theorem afterHeader_whole (data : List Byte) :
    afterHeader [] data = if data ≠ [] then .payload data else .request [] := by
  simp only [afterHeader, ne_eq, not_true_eq_false, ↓reduceIte]

omit [DecidableEq C] in
/-- The rest of the header goes out in one piece, and then the payload. -/
theorem Conn.writes (conn : Conn C) (hdr : FrameHeader) (payload : List Byte) (accept : AcceptPc)
    (left : Nat) {pending : List Byte} (writing : conn.serve.Pending pending) (more : pending ≠ [])
    (peerOpen : conn.peerOpen = true) :
    ∃ rest later next, pending = rest ++ later ∧ next.Pending later ∧
      conn.step hdr payload (.write (.moved rest.length)) =
        some { conn with toPeer := conn.toPeer ++ rest, serve := next } ∧
      ∀ left', ({ conn with toPeer := conn.toPeer ++ rest, serve := next } : Conn C).ahead accept
        left' < conn.ahead accept left := by
  have whole (rest : List Byte) : Call.amount rest.length rest.length (.moved rest.length) =
      rest.length := by simp only [Call.amount, Nat.min_self]
  have goes (rest : List Byte) (some : rest ≠ []) :
      ¬ (rest.length = 0 ∨ conn.peerOpen = false) := by
    have length := List.length_pos_iff.mpr some
    rw [peerOpen]
    simp only [Bool.true_eq_false, or_false]
    omega
  have arrived (rest : List Byte) (some : rest ≠ []) : (conn.toPeer ++ rest).isEmpty = false := by
    rw [List.isEmpty_eq_false_iff]
    exact List.append_ne_nil_of_right_ne_nil _ some
  generalize serve : conn.serve = pc at writing
  cases writing with
  | header rest data some =>
      refine ⟨rest, data, afterHeader [] data, rfl, ?_, ?_, ?_⟩
      · exact afterHeader_pending [] data
      · simp only [Conn.step, serve, reduceCtorEq, ↓reduceIte, whole, if_neg (goes rest some),
          List.drop_length, List.take_length]
      · intro left'
        simp only [Conn.ahead, serve, afterHeader_whole, arrived rest some]
        split <;> rename_i here <;> split at here <;> simp_all
  | payload =>
      refine ⟨pending, [], afterPayload [], (List.append_nil _).symm, ?_, ?_, ?_⟩
      · exact afterPayload_pending []
      · simp only [Conn.step, serve, reduceCtorEq, ↓reduceIte, whole, if_neg (goes pending more),
          List.drop_length, List.take_length]
      · intro left'
        have after : afterPayload [] = .request [] := by
          simp only [afterPayload, ne_eq, not_true_eq_false, ↓reduceIte]
        simp only [Conn.ahead, serve, after, arrived pending more, Bool.false_eq_true, ↓reduceIte]
        omega
  | request => exact (more rfl).elim

theorem Fetching.replies (held : Fetching c i s) (busy : (s.clients c).pc ≠ .idle)
    {pending : List Byte} (writing : (s.conns i).serve.Pending pending) (more : pending ≠ []) :
    ∃ a t, Helps c i s a ∧ step s a = some t ∧ Nearer c i s t := by
  obtain ⟨rest, later, next, _, writes, stepped, less⟩ := (s.conns i).writes s.hdr s.payload
    s.accept s.left writing more (held.linked c i held.pipe)
  refine thread_nearer held.pipe busy (by simp) (by simp) stepped ⟨?_, writes.not_ending⟩
    fun left _ => less left
  intro absent
  change next = .absent at absent
  rw [absent] at writes
  cases writes

theorem Client.Fetched.of_formed {published : List Frame} {completed since : Nat}
    {hdr : FrameHeader} {data : List Byte} {client : Client}
    (formed : Formed False published completed since hdr data) :
    client.Fetched published (client.returned hdr data) := by
  rcases formed.origin with ⟨impossible, _⟩ | ⟨index, f, there, header, payload, _⟩
  · exact impossible.elim
  · refine ⟨f, List.mem_of_getElem? there, client.since, ?_⟩
    rw [Client.returned, header, payload]

/-- The reply has been written whole: the client reads what it lacks of the header in one
piece. -/
theorem Fetching.readsHead (held : Fetching c i s) (attended : Attended s i) {got : List Byte}
    {hdr : FrameHeader} {data : List Byte} (header : (s.clients c).pc = .header got)
    (short : got.length < FrameHeader.size)
    (reply : got ++ (s.conns i).toPeer = hdr.encode ++ data)
    (waits : (s.conns i).serve = .request [])
    (known : Formed False s.published s.completed (s.clients c).since hdr data) :
    ∃ a t, Helps c i s a ∧ step s a = some t ∧ Nearer c i s t := by
  have length := congrArg List.length reply
  simp only [List.length_append, FrameHeader.encode_length] at length
  have busy : (s.clients c).pc ≠ .idle := by rw [header]; simp
  have amount : Call.amount (FrameHeader.size - got.length) (s.conns i).toPeer.length
      (.moved FrameHeader.size) = FrameHeader.size - got.length := by
    simp only [Call.amount]
    omega
  have whole : (got ++ (s.conns i).toPeer.take (FrameHeader.size - got.length)) ++
      (s.conns i).toPeer.drop (FrameHeader.size - got.length) = hdr.encode ++ data := by
    rw [List.append_assoc, List.take_append_drop, reply]
  obtain ⟨front, back⟩ := List.append_inj whole (by
    rw [List.length_append, List.length_take, FrameHeader.encode_length]
    omega)
  have stepped : (s.clients c).step s.completed (s.conns i) (.read (.moved FrameHeader.size)) =
      some (if hdr.byteLength ≠ 0#32 then
          ({ s.clients c with pc := .payload hdr [] }, { s.conns i with toPeer := data })
        else ((s.clients c).returned hdr [], { s.conns i with toPeer := data })) := by
    have moves : ¬ FrameHeader.size - got.length = 0 := by omega
    simp only [Client.step, header, reduceCtorEq, ↓reduceIte, amount, if_neg moves, front, back,
      afterHead_whole _ _ hdr known.magic]
  by_cases present : hdr.byteLength ≠ 0#32
  · rw [if_pos present] at stepped
    have some : data ≠ [] := by
      rintro rfl
      exact present (BitVec.eq_of_toNat_eq known.sized)
    refine client_nearer held.pipe busy (by simp [FetchAction.gaveUp]) (by simp) stepped held.pipe
      (Or.inl ⟨by simp, rfl, rfl, attended, ?_⟩)
    have full : data.isEmpty = false := List.isEmpty_eq_false_iff.mpr some
    simp only [header, FetchPc.ahead, Conn.ahead, waits, full, Bool.false_eq_true, ↓reduceIte]
    omega
  · rw [if_neg present] at stepped
    have none : data = [] := by
      apply List.eq_nil_of_length_eq_zero
      rw [← known.sized, Decidable.not_not.mp present]
      rfl
    rw [none] at known
    exact client_nearer held.pipe busy (by simp [FetchAction.gaveUp]) (by simp) stepped held.pipe
      (Or.inr ⟨rfl, .of_formed known⟩)

theorem Fetching.readsBody (held : Fetching c i s) {hdr : FrameHeader} {got data : List Byte}
    (payload : (s.clients c).pc = .payload hdr got) (short : got.length < hdr.byteLength.toNat)
    (rest : got ++ (s.conns i).toPeer = data)
    (known : Formed False s.published s.completed (s.clients c).since hdr data) :
    ∃ a t, Helps c i s a ∧ step s a = some t ∧ Nearer c i s t := by
  have length := congrArg List.length rest
  rw [List.length_append, ← known.sized] at length
  have busy : (s.clients c).pc ≠ .idle := by rw [payload]; simp
  have amount : Call.amount (hdr.byteLength.toNat - got.length) (s.conns i).toPeer.length
      (.moved hdr.byteLength.toNat) = (s.conns i).toPeer.length := by
    simp only [Call.amount]
    omega
  have stepped : (s.clients c).step s.completed (s.conns i)
      (.read (.moved hdr.byteLength.toNat)) =
      some ((s.clients c).returned hdr data, { s.conns i with toPeer := [] }) := by
    have moves : ¬ (s.conns i).toPeer.length = 0 := by omega
    simp only [Client.step, payload, reduceCtorEq, ↓reduceIte, amount, if_neg moves,
      List.take_length, List.drop_length, rest, afterBody_whole _ _ hdr data known.sized]
  exact client_nearer held.pipe busy (by simp [FetchAction.gaveUp]) (by simp) stepped held.pipe
    (Or.inr ⟨rfl, .of_formed known⟩)

/-- As long as a fetch is under way on an instance that is attended, somebody can take a
step that brings it nearer to its end. -/
theorem Fetching.nearer (held : Fetching c i s) (attended : Attended s i)
    (busy : (s.clients c).pc ≠ .idle) :
    ∃ a t, Helps c i s a ∧ step s a = some t ∧ Nearer c i s t := by
  have live : (s.conns i).serve.ending = false := by
    rcases attended with ⟨_, live⟩ | ⟨absent, _⟩
    · exact live
    · rw [absent]
      rfl
  have exchange := held.served.exchange i held.pipe
  generalize here : (s.clients c).pc = pc at exchange
  cases exchange with
  | waiting => exact (busy here).elim
  | asking got rest _ reading unsent request toPeer =>
      cases unsent with
      | request _ more => exact held.sends attended here more
      | header =>
          rw [List.append_nil] at request
          exact held.requested attended here reading request toPeer
  | forming copying => exact held.copies busy copying
  | replying taken pending hdr data _ owes read reply known =>
      rcases owes with ⟨writing, _⟩ | ending
      · by_cases more : pending = []
        · subst more
          rw [List.append_nil] at reply
          have waits := writing.empty
          cases read with
          | header _ short => exact held.readsHead attended here short reply waits known
          | payload sent got _ short =>
              rw [replyBytes, List.append_assoc] at reply
              obtain ⟨head, rest⟩ := List.append_inj reply (by
                rw [FrameHeader.encode_length, FrameHeader.encode_length])
              have same := congrArg FrameHeader.decode head
              rw [FrameHeader.decode_encode, FrameHeader.decode_encode] at same
              subst same
              exact held.readsBody here short rest known
        · exact held.replies busy writing more
      · rw [live] at ending
        cases ending
  | deaf _ ending =>
      rw [live] at ending
      cases ending

omit [DecidableEq P] [DecidableEq C] in
theorem State.ahead_le (s : State P C) (c : C) (i : Nat) : s.ahead c i ≤ 18 := by
  have server : (s.conns i).ahead s.accept s.left ≤ 15 := by
    have left := s.left_le
    unfold Conn.ahead
    split <;> try split
    all_goals omega
  have client : (s.clients c).pc.ahead ≤ 3 := by
    cases (s.clients c).pc <;> simp only [FetchPc.ahead] <;> omega
  unfold State.ahead
  split
  · omega
  · omega

theorem Fetching.step (held : Fetching c i s) {a : Action P C} {t : State P C}
    (taken : step s a = some t) (nearer : Nearer c i s t) : Fetching c i t where
  instances := instances_step s a t held.instances taken
  slot := (slot_step s a t ⟨held.instances, held.slot⟩ taken).2
  served := served_step held.served held.instances held.slot
    (fun _ _ none => held.published none) taken
  linked := linked_step s a t ⟨held.instances, held.linked⟩ taken
  ledger := (ledger_step s a t ⟨held.instances, held.ledger⟩ taken).2
  published := by
    rw [nearer.published]
    exact held.published
  pipe := nearer.pipe

/-- A fetch on its way: nothing has come of it yet, or it is over and has come out well. -/
structure Underway (before : Client) (c : C) (i : Nat) (s : State P C) : Prop where
  fetching : Fetching c i s
  stands : (s.clients c).pc ≠ .idle ∧ (s.clients c).log = before.log ∧ Attended s i ∨
    (s.clients c).pc = .idle ∧ before.Fetched s.published (s.clients c)

theorem Underway.advance {before : Client} (held : Underway before c i s)
    (busy : ¬ (s.clients c).pc = .idle) :
    ∃ a t, Helps c i s a ∧ step s a = some t ∧ Underway before c i t ∧
      t.ahead c i < s.ahead c i := by
  rcases held.stands with ⟨_, log, attended⟩ | ⟨idle, _⟩
  · obtain ⟨a, t, helps, taken, nearer⟩ := held.fetching.nearer attended busy
    have fetching := held.fetching.step taken nearer
    rcases nearer.ends with ⟨waits, same, still, less⟩ | ⟨idle, fetched⟩
    · exact ⟨a, t, helps, taken, ⟨fetching, Or.inl ⟨waits, same.trans log, still⟩⟩, less⟩
    · refine ⟨a, t, helps, taken, ⟨fetching, Or.inr ⟨idle, ?_⟩⟩, ?_⟩
      · simpa only [Client.Fetched, log] using fetched
      · have positive : 0 < (s.clients c).pc.ahead := by
          cases here : (s.clients c).pc <;> simp_all [FetchPc.ahead]
        rw [ahead_of_busy rfl busy]
        simp only [State.ahead, idle]
        omega
  · exact (busy idle).elim

/-- A fetch on its way can be brought to its end. -/
theorem Fetching.completes (held : Fetching c i s) (busy : (s.clients c).pc ≠ .idle)
    (attended : Attended s i) :
    Leads Pipe.step (Helps c i) (fun t => (t.clients c).pipe = some i ∧ (t.clients c).pc = .idle ∧
      (s.clients c).Fetched t.published (t.clients c)) 18 s := by
  have start : Underway (s.clients c) c i s := ⟨held, Or.inl ⟨busy, rfl, attended⟩⟩
  have lead := leads_of_rank (fun t : State P C => t.ahead c i)
    (fun u (held : Underway (s.clients c) c i u) busy => held.advance busy) 18 s start
    (s.ahead_le c i)
  obtain ⟨more, t, short, along, ended, held, idle⟩ := lead
  refine ⟨more, t, short, along, ended, held.fetching.pipe, idle, ?_⟩
  rcases held.stands with ⟨waits, _⟩ | ⟨_, fetched⟩
  · exact (waits idle).elim
  · exact fetched

/-- A client that is being answered with the header of an empty slot. -/
structure Unstamped (before : Client) (c : C) (i : Nat) (got pending : List Byte)
    (s : State P C) : Prop where
  client : s.clients c = before
  pipe : before.pipe = some i
  header : before.pc = .header got
  short : got.length < FrameHeader.size
  peerOpen : (s.conns i).peerOpen = true
  writing : (s.conns i).serve.Pending pending
  reply : got ++ (s.conns i).toPeer ++ pending = FrameHeader.zero.encode

omit [DecidableEq P] [DecidableEq C] in
theorem Unstamped.busy {before : Client} {got pending : List Byte}
    (held : Unstamped before c i got pending s) : (s.clients c).pc ≠ .idle := by
  rw [held.client, held.header]
  simp

theorem Unstamped.writes {before : Client} {got pending : List Byte}
    (held : Unstamped before c i got pending s) (more : pending ≠ []) :
    ∃ a t later, Helps c i s a ∧ step s a = some t ∧ Unstamped before c i got later t ∧
      t.ahead c i < s.ahead c i := by
  obtain ⟨rest, later, next, same, writes, stepped, less⟩ := (s.conns i).writes s.hdr s.payload
    s.accept s.left held.writing more held.peerOpen
  have taken : step s (.serve i (.write (.moved rest.length))) = some (s.setConn i
      { s.conns i with toPeer := (s.conns i).toPeer ++ rest, serve := next }) := by
    simp only [step, serveStep, reduceCtorEq, false_and, ↓reduceIte, stepped, Option.map_some,
      serveShared]
  refine ⟨_, _, later, .thread _ (by simp), taken, ?_, ahead_lt held.busy rfl ?_⟩
  · refine ⟨held.client, held.pipe, held.header, held.short, ?_, ?_, ?_⟩
    · rw [setConn_same]
      exact held.peerOpen
    · rw [setConn_same]
      exact writes
    · rw [setConn_same, ← held.reply, same]
      simp only [List.append_assoc]
  · rw [setConn_same]
    exact less _

/-- The client reads the whole header, finds no magic in it and hangs up. -/
theorem Unstamped.reads {before : Client} {got : List Byte}
    (held : Unstamped before c i got [] s) :
    ∃ a t, Helps c i s a ∧ step s a = some t ∧ (t.clients c).pc = .idle ∧
      (t.clients c).pipe = none ∧ (t.clients c).log = before.log := by
  have reply := held.reply
  rw [List.append_nil] at reply
  have length := congrArg List.length reply
  rw [List.length_append, FrameHeader.encode_length] at length
  have short := held.short
  have amount : Call.amount (FrameHeader.size - got.length) (s.conns i).toPeer.length
      (.moved FrameHeader.size) = (s.conns i).toPeer.length := by
    simp only [Call.amount]
    omega
  have moves : ¬ (s.conns i).toPeer.length = 0 := by omega
  have refused (conn : Conn C) : afterHead before conn FrameHeader.zero.encode =
      closed before conn := by
    simp only [afterHead, FrameHeader.encode_length, Nat.lt_irrefl, ↓reduceIte,
      FrameHeader.decode_encode]
    rfl
  have stepped : (s.clients c).step s.completed (s.conns i) (.read (.moved FrameHeader.size)) =
      some (closed before { s.conns i with toPeer := [] }) := by
    simp only [Client.step, held.client, held.header, reduceCtorEq, ↓reduceIte, amount,
      if_neg moves, List.take_length, List.drop_length, reply, refused]
  have pipe : (s.clients c).pipe = some i := by rw [held.client, held.pipe]
  have taken : step s (.fetch c (.read (.moved FrameHeader.size))) =
      some ((s.setConn i (closed before { s.conns i with toPeer := [] }).2).setClient c
        (closed before { s.conns i with toPeer := [] }).1) := by
    simp only [step, fetchStep, pipe, stepped, Option.map_some]
  refine ⟨_, _, .client _ (by simp [FetchAction.gaveUp]), taken, ?_⟩
  simp only [State.setClient, Function.update_self]
  exact ⟨rfl, rfl, rfl⟩

/-- A client that gets an early reply: it is still reading, or has hung up empty-handed. -/
inductive Refused (before : Client) (c : C) (i : Nat) (s : State P C) : Prop
  | reading (got pending : List Byte) (held : Unstamped before c i got pending s)
  | dropped (idle : (s.clients c).pc = .idle) (pipe : (s.clients c).pipe = none)
      (log : (s.clients c).log = before.log)

theorem Refused.advance {before : Client} (held : Refused before c i s)
    (busy : ¬ (s.clients c).pc = .idle) :
    ∃ a t, Helps c i s a ∧ step s a = some t ∧ Refused before c i t ∧
      t.ahead c i < s.ahead c i := by
  cases held with
  | dropped idle => exact (busy idle).elim
  | reading got pending held =>
      by_cases more : pending = []
      · subst more
        obtain ⟨a, t, helps, taken, idle, pipe, log⟩ := held.reads
        refine ⟨a, t, helps, taken, .dropped idle pipe log, ?_⟩
        have positive : 0 < (s.clients c).pc.ahead := by
          rw [held.client, held.header]
          exact Nat.zero_lt_two
        rw [ahead_of_busy rfl busy]
        simp only [State.ahead, idle]
        omega
      · obtain ⟨a, t, later, helps, taken, held, less⟩ := held.writes more
        exact ⟨a, t, helps, taken, .reading got later held, less⟩

theorem Unstamped.drops {before : Client} {got pending : List Byte}
    (held : Unstamped before c i got pending s) :
    Leads Pipe.step (Helps c i) (fun t => (t.clients c).pc = .idle ∧ (t.clients c).pipe = none ∧
      (t.clients c).log = before.log) 18 s := by
  have lead := leads_of_rank (fun t : State P C => t.ahead c i)
    (fun u (held : Refused before c i u) busy => held.advance busy) 18 s
    (.reading got pending held) (s.ahead_le c i)
  obtain ⟨more, t, short, along, ended, held, idle⟩ := lead
  cases held with
  | reading _ _ held => exact (held.busy idle).elim
  | dropped _ pipe log => exact ⟨more, t, short, along, ended, idle, pipe, log⟩

omit [DecidableEq P] [DecidableEq C] in
/-- What is known of a client whose own reply is not an early one. -/
theorem Served.late (held : Served True s c) (pipe : (s.clients c).pipe = some i)
    (live : (s.conns i).serve.ending = false) (own : ¬ Early s c i) : Served False s c := by
  refine ⟨?_, held.resting, held.since, held.explained⟩
  intro j there
  rw [pipe] at there
  cases there
  have exchange := held.exchange i pipe
  generalize here : (s.clients c).pc = pc at exchange
  cases exchange with
  | waiting reading toServer toPeer => exact .waiting reading toServer toPeer
  | asking got rest _ reading unsent request toPeer =>
      exact .asking got rest _ reading unsent request toPeer
  | forming copying toServer toPeer => exact .forming copying toServer toPeer
  | deaf _ ending unread toPeer => exact .deaf _ ending unread toPeer
  | replying taken pending hdr data _ owes read reply known =>
      refine .replying taken pending hdr data _ owes read reply ⟨known.sized, ?_⟩
      rcases known.origin with ⟨_, rfl, rfl⟩ | published
      · rcases owes with ⟨writing, _⟩ | ending
        · rw [replyBytes, List.append_nil] at reply
          cases read with
          | header got short => exact (own ⟨taken, pending, here, writing, reply⟩).elim
          | payload sent got magic =>
              rw [List.append_assoc, List.append_assoc, ← List.append_nil FrameHeader.zero.encode]
                at reply
              have head := (List.append_inj reply (by
                rw [FrameHeader.encode_length, FrameHeader.encode_length])).1
              have same := congrArg FrameHeader.decode head
              rw [FrameHeader.decode_encode, FrameHeader.decode_encode] at same
              rw [same] at magic
              cases magic
        · rw [live] at ending
          cases ending
      · exact Or.inr published

omit [DecidableEq P] [DecidableEq C] in
theorem Early.unstamped (early : Early s c i) (held : Served True s c) (linked : Linked s)
    (pipe : (s.clients c).pipe = some i) :
    ∃ got pending, Unstamped (s.clients c) c i got pending s := by
  obtain ⟨got, pending, header, writing, reply⟩ := early
  refine ⟨got, pending, rfl, pipe, header, ?_, linked c i pipe, writing, reply⟩
  have exchange := held.exchange i pipe
  rw [header] at exchange
  cases exchange with
  | asking read rest _ reading unsent =>
      cases unsent
      exact Nat.zero_lt_succ _
  | forming => exact Nat.zero_lt_succ _
  | replying taken pending hdr data _ owes read =>
      cases read with
      | header _ short => exact short
  | deaf _ ending =>
      rw [writing.not_ending] at ending
      cases ending

/-- What is known of every state of the transport. -/
structure Kept (s : State P C) : Prop where
  delivering : Delivering True s
  linked : Linked s
  ledger : Ledger s

omit [DecidableEq P] [DecidableEq C] in
theorem kept_initial : Kept (State.initial P C) :=
  ⟨delivering_initial True, linked_initial, ledger_initial⟩

theorem kept_step (s : State P C) (a : Action P C) (t : State P C) (held : Kept s)
    (taken : step s a = some t) : Kept t where
  delivering := delivering_step s a t held.delivering (fun _ _ _ => trivial) taken
  linked := linked_step s a t ⟨held.delivering.instances, held.linked⟩ taken
  ledger := (ledger_step s a t ⟨held.delivering.instances, held.ledger⟩ taken).2

theorem kept_reachable (reached : Reachable s) : Kept s :=
  invariant_reachable (fun _ initial => initial ▸ kept_initial) kept_step reached

omit [DecidableEq P] [DecidableEq C] in
theorem Attended.live (attended : Attended s i) : (s.conns i).serve.ending = false := by
  rcases attended with ⟨_, live⟩ | ⟨absent, _⟩
  · exact live
  · rw [absent]
    rfl

theorem Kept.finishes (held : Kept s) (published : s.published ≠ [])
    (pipe : (s.clients c).pipe = some i) (busy : (s.clients c).pc ≠ .idle)
    (attended : Attended s i) : Leads step (Helps c i) (Finished c i s) 18 s := by
  have served := held.delivering.served c
  by_cases early : Early s c i
  · obtain ⟨got, pending, unstamped⟩ := early.unstamped served held.linked pipe
    obtain ⟨more, t, short, along, ended, idle, dropped⟩ := unstamped.drops
    exact ⟨more, t, short, along, ended, idle, fun own => (own early).elim, fun _ => dropped⟩
  · have fetching : Fetching c i s := ⟨held.delivering.instances, held.delivering.slot,
      served.late pipe attended.live early, held.linked, held.ledger, published, pipe⟩
    obtain ⟨more, t, short, along, ended, pipe, idle, fetched⟩ := fetching.completes busy attended
    exact ⟨more, t, short, along, ended, idle, fun _ => ⟨pipe, fetched⟩,
      fun own => (early own).elim⟩

/-- Once a frame is published, every `Fetch` that is under way on an instance with a live
thread, or one the accept loop has yet to start, can be brought to its end in at most 18
steps, whatever state the rest of the system is in and whatever went before. Only the two
sides of the connection and the thread in the mutex take part in them, and no call fails.
The connection survives and `Fetch` hands over a published frame if its `flag_valid` is set,
unless the reply on its way was formed before the first `Publish`: on that one it hangs up. -/
theorem fetch_completes (s : State P C) (reached : Reachable s) (c : C) (i : Nat)
    (published : s.published ≠ []) (pipe : (s.clients c).pipe = some i)
    (busy : (s.clients c).pc ≠ .idle) (attended : Attended s i) :
    Leads step (Helps c i) (Finished c i s) 18 s :=
  (kept_reachable reached).finishes published pipe busy attended

end Fetching

/-- The client has sent its request and the thread waits for a publisher in the mutex. -/
def contendedSession : List (Action Unit Unit) :=
  pixelSession ++ [.fetch () .begin, .publish () (.call pixelFrame), .publish () .lock,
    .publish () .copyHdr, .fetch () (.write (.moved 4)), .serve 0 (.read (.moved 4))]

theorem contendedSession_frees : ∃ s : State Unit Unit, (s.conns 0).serve = .lock ∧
    s.mtx = some (.publisher ()) ∧ Leads step Frees (Admits s) 5 s :=
  ⟨_, rfl, rfl, mutex_comes_free _ ⟨_, contendedSession, rfl, rfl⟩⟩

/-- A client that asked too early has its reply in the pipe when the first frame comes. -/
def lateSession : List (Action Unit Unit) :=
  earlySession ++ [.publish () (.call pixelFrame), .publish () .lock, .publish () .copyHdr,
    .publish () .stampMagic, .publish () .stampVersion, .publish () .assign, .publish () .unlock]

theorem contendedSession_completes :
    (∃ s : State Unit Unit, (s.conns 0).serve = .lock ∧ ¬ Early s () 0 ∧
      Leads step (Helps () 0) (Finished () 0 s) 18 s) ∧
    ∃ s : State Unit Unit, s.published = [pixelFrame] ∧ Early s () 0 ∧
      Leads step (Helps () 0) (Finished () 0 s) 18 s := by
  constructor
  · refine ⟨_, rfl, ?_, fetch_completes _ ⟨_, contendedSession, rfl, rfl⟩ () 0 ?_ rfl ?_ ?_⟩
    · rintro ⟨got, pending, _, writing, _⟩
      cases writing
    · exact List.cons_ne_nil _ _
    · decide
    · exact Or.inl ⟨by decide, rfl⟩
  · refine ⟨_, rfl, ⟨[], [], rfl, .request, rfl⟩,
      fetch_completes _ ⟨_, lateSession, rfl, rfl⟩ () 0 ?_ rfl ?_ ?_⟩
    · exact List.cons_ne_nil _ _
    · decide
    · exact Or.inl ⟨by decide, rfl⟩

end Obs2Mf.Pipe
