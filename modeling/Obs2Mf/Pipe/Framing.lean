import Obs2Mf.Pipe.Delivery

set_option autoImplicit false

/- Whether the server's replies are ones its own client accepts. The slot's header is
stamped by `Publish` only, so a reply formed before the first of them is not. -/
namespace Obs2Mf.Pipe

open Run
open Transfer

variable {P C : Type}

/-- The connection stands between two messages: nothing of a reply is left on it,
and the server waits for the next request or has hung up. -/
def Conn.Aligned (conn : Conn C) : Prop :=
  conn.toPeer = [] ∧ (conn.serve.Reading [] ∧ conn.toServer = [] ∨ conn.serve.ending = true)

/-- What the protocol promises of one step: a reply that is formed passes `Fetch`'s
magic check, with `flag_valid` clear as long as nothing is published, and a read that
moves bytes never drops the connection and ends a `Fetch` only between two messages. -/
structure Framed (s : State P C) (a : Action P C) (t : State P C) : Prop where
  reply : ∀ i, a = .serve i .unlock → ∃ (hdr : FrameHeader) (data : List Byte),
    (t.conns i).serve = .header hdr.encode data ∧ hdr.magic = kFrameMagic ∧
      (s.published = [] → hdr.valid = false)
  kept : ∀ c call, a = .fetch c (.read call) → call ≠ .failed →
    (t.clients c).pipe = (s.clients c).pipe
  aligned : ∀ c call i, a = .fetch c (.read call) → (t.clients c).pc = .idle →
    (t.clients c).pipe = some i → (t.conns i).Aligned
  nothing : ∀ c call, a = .fetch c (.read call) → s.published = [] →
    (t.clients c).log = (s.clients c).log

/-- No serving thread forms a reply before something is published. -/
def AfterPublish (s : State P C) (a : Action P C) : Prop :=
  ∀ i, a = .serve i .unlock → s.published ≠ []

theorem Exchange.aligned {good : FrameHeader → List Byte → Prop} {conn : Conn C}
    (held : Exchange good conn .idle) : conn.Aligned := by
  cases held with
  | waiting reading toServer toPeer => exact ⟨toPeer, Or.inl ⟨reading, toServer⟩⟩
  | asking _ _ _ _ unsent => cases unsent
  | replying _ _ _ _ _ _ read => cases read
  | deaf _ ending _ toPeer => exact ⟨toPeer, Or.inr ending⟩

theorem Formed.magic {published : List Frame} {completed since : Nat} {hdr : FrameHeader}
    {data : List Byte} (formed : Formed False published completed since hdr data) :
    hdr.magic = kFrameMagic := by
  rcases formed.origin with ⟨impossible, _⟩ | ⟨_, f, _, same, _⟩
  · exact impossible.elim
  · rw [same]
    rfl

theorem Formed.published {published : List Frame} {completed since : Nat} {hdr : FrameHeader}
    {data : List Byte} (formed : Formed False published completed since hdr data) :
    published ≠ [] := by
  rcases formed.origin with ⟨impossible, _⟩ | ⟨_, f, there, _⟩
  · exact impossible.elim
  · intro none
    rw [none] at there
    cases there

/-- The reply that a serving thread forms when it leaves the mutex. -/
theorem unlock_some {s t : State P C} {i : Nat} (taken : serveStep s i .unlock = some t) :
    ∃ copy data, (s.conns i).serve = .unlock copy data ∧
      (t.conns i).serve =
        .header ({ copy with byteLength := .ofNat 32 data.length } : FrameHeader).encode data := by
  obtain ⟨conn, stepped, _, rfl⟩ := serveStep_some taken
  cases Conn.step_steps stepped with
  | unlock copy data unlock =>
      refine ⟨copy, data, unlock, ?_⟩
      rw [setConn_same]

section Steps

variable {s t : State P C}

/-- A read of a client that keeps to the protocol, once replies are stamped. -/
theorem framed_read [DecidableEq C] (held : Delivering False s) {c : C} {call : Call}
    (taken : fetchStep s c (.read call) = some t) :
    (call ≠ .failed → (t.clients c).pipe = (s.clients c).pipe) ∧
      (∀ i, (t.clients c).pc = .idle → (t.clients c).pipe = some i → (t.conns i).Aligned) ∧
      (s.published = [] → (t.clients c).log = (s.clients c).log) := by
  rcases fetchStep_some taken with rfl | ⟨_, impossible, _⟩ | ⟨i, next, pipe, stepped, rfl⟩
  · refine ⟨fun _ => rfl, ?_, fun _ => rfl⟩
    intro i idle pipe
    have exchange := (held.served c).exchange i pipe
    rw [idle] at exchange
    exact exchange.aligned
  · cases impossible
  · have client : ((s.setConn i next.2).setClient c next.1).clients c = next.1 :=
      Function.update_self _ _ _
    have conn : ((s.setConn i next.2).setClient c next.1).conns i = next.2 := setConn_same _ _ _
    rw [client]
    cases (held.served c).outcome pipe stepped with
    | closed none idle log since why =>
        refine ⟨?_, ?_, fun _ => log⟩
        · intro moved
          rcases why with (impossible | impossible | failed) | ⟨hdr, data, known, magic⟩
          · cases impossible
          · cases impossible
          · cases failed
            exact (moved rfl).elim
          · exact (magic known.magic).elim
        · intro j _ some
          rw [none] at some
          cases some
    | moved kept log since exchange =>
        refine ⟨fun _ => kept, ?_, fun _ => log⟩
        intro j idle some
        rw [kept, pipe] at some
        cases some
        rw [conn]
        rw [idle] at exchange
        exact exchange.aligned
    | returned hdr data asked known magic same exchange =>
        have kept : next.1.pipe = (s.clients c).pipe := by
          rw [same]
          rfl
        refine ⟨fun _ => kept, ?_, fun none => (known.published none).elim⟩
        intro j _ some
        rw [kept, pipe] at some
        cases some
        rw [conn]
        exact exchange.aligned

theorem framed_step_iff [DecidableEq P] [DecidableEq C] (s : State P C) (a : Action P C)
    (t : State P C) (held : Delivering False s) (taken : step s a = some t) :
    Framed s a t ↔ AfterPublish s a := by
  constructor
  · intro framed i unlock none
    subst unlock
    obtain ⟨hdr, data, replied, magic, _⟩ := framed.reply i rfl
    obtain ⟨copy, payload, here, formed⟩ := unlock_some taken
    rw [replied] at formed
    have same := congrArg FrameHeader.decode (ServePc.header.inj formed).1
    rw [FrameHeader.decode_encode, FrameHeader.decode_encode] at same
    have known := held.slot.formed here (Nat.zero_le _) id
    rw [← same] at known
    rcases known.origin with ⟨_, zero, _⟩ | ⟨_, _, there, _⟩
    · rw [zero] at magic
      cases magic
    · rw [none] at there
      cases there
  · intro later
    refine ⟨?_, ?_, ?_, ?_⟩
    · intro i unlock
      subst unlock
      obtain ⟨copy, payload, here, formed⟩ := unlock_some taken
      have known := held.slot.formed here (Nat.zero_le _) (later i rfl)
      exact ⟨_, payload, formed, known.magic, fun none => (later i rfl none).elim⟩
    · intro c call read
      subst read
      exact (framed_read held taken).1
    · intro c call i read
      subst read
      exact (framed_read held taken).2.1 i
    · intro c call read
      subst read
      exact (framed_read held taken).2.2

/-- Every step of a run keeps the protocol's promise exactly when no reply is formed
before the first `Publish` has stamped the slot. -/
theorem replies_framed_iff_published [DecidableEq P] [DecidableEq C] (actions : List (Action P C))
    (enabled : (run step (State.initial P C) actions).isSome) :
    Throughout step Framed (State.initial P C) actions ↔
      Along step AfterPublish (State.initial P C) actions :=
  throughout_iff_along
    (fun s a t held later taken => delivering_step s a t held later taken) framed_step_iff actions _
    (delivering_initial False) enabled

end Steps

theorem pixelSession_framed :
    (run step (State.initial Unit Unit) pixelSession).isSome ∧
      (Throughout step Framed (State.initial Unit Unit) pixelSession ↔
        Along step AfterPublish (State.initial Unit Unit) pixelSession) :=
  ⟨rfl, replies_framed_iff_published pixelSession rfl⟩

/-- A client that asks before anything is published. -/
def earlySession : List (Action Unit Unit) :=
  [.owner .start, .accept .test, .accept (.create true), .fetch () (.dial (some 0)),
    .accept (.connected true), .accept .recheck, .serve 0 .enter,
    .fetch () (.write (.moved 4)), .serve 0 (.read (.moved 4)), .serve 0 .lock, .serve 0 .copyHdr,
    .serve 0 .copyPayload, .serve 0 .unlock, .serve 0 (.write (.moved 48))]

/-- The client reads the whole reply and hangs up on it. -/
theorem earlySession_drops_connection :
    ∃ s t : State Unit Unit, run step (State.initial Unit Unit) earlySession = some s ∧
      step s (.fetch () (.read (.moved 48))) = some t ∧ s.published = [] ∧
      (s.clients ()).pipe = some 0 ∧ (t.clients ()).pipe = none ∧
      ¬ Framed s (.fetch () (.read (.moved 48))) t := by
  refine ⟨_, _, rfl, rfl, rfl, rfl, rfl, ?_⟩
  intro framed
  have kept := framed.kept () (.moved 48) rfl nofun
  cases kept

end Obs2Mf.Pipe
