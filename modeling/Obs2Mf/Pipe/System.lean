import Obs2Mf.Foundation.Run
import Obs2Mf.Pipe.Steps

set_option autoImplicit false

/- The whole transport: one frame server, its publishers, any number of
`FramePipeClient`s and whatever other processes open the pipe. -/
namespace Obs2Mf.Pipe

open Transfer

variable {P C : Type}

/-- The steps of one client's `Fetch` calls. Only the outcome of a call that moved
something, or failed, is an action: a call that moves nothing ends `ReadExact` and
`WriteExact` as a failure does. -/
inductive FetchAction where
  | dial (opened : Option Nat)
  | begin
  | write (call : Call)
  | read (call : Call)
  | hangUp
  deriving DecidableEq, Repr

/-- `Close`, at both ends: what was not read is gone. -/
def closed (client : Client) (conn : Conn C) : Client × Conn C :=
  ({ client with pipe := none, pc := .idle }, conn.hungUp)

/-- `return (hdr.flags & flag_valid) != 0;` -/
def Client.returned (client : Client) (hdr : FrameHeader) (payload : List Byte) : Client :=
  { client with
    pc := .idle
    log := if hdr.valid then client.log ++ [⟨hdr, payload, client.since⟩] else client.log }

def afterHead (client : Client) (conn : Conn C) (got : List Byte) : Client × Conn C :=
  if got.length < FrameHeader.size then ({ client with pc := .header got }, conn)
  else
    let hdr := FrameHeader.decode got
    if hdr.magic ≠ kFrameMagic then closed client conn
    else if hdr.byteLength ≠ 0#32 then ({ client with pc := .payload hdr [] }, conn)
    else (client.returned hdr [], conn)

def afterBody (client : Client) (conn : Conn C) (hdr : FrameHeader) (got : List Byte) :
    Client × Conn C :=
  if got.length < hdr.byteLength.toNat then ({ client with pc := .payload hdr got }, conn)
  else (client.returned hdr got, conn)

/-- A client's step on its own connection. -/
def Client.step (completed : Nat) (client : Client) (conn : Conn C) :
    FetchAction → Option (Client × Conn C)
  | .dial _ => none
  | .begin =>
      if client.pc = .idle then some ({ client with pc := .request requestBytes }, conn) else none
  | .write call =>
      match client.pc with
      | .request rest =>
          if call = .failed then some (closed client conn)
          else
            let count := call.amount rest.length rest.length
            if count = 0 ∨ conn.stage ≠ .connected then none
            else
              let conn := { conn with toServer := conn.toServer ++ rest.take count }
              if rest.drop count ≠ [] then
                some ({ client with pc := .request (rest.drop count) }, conn)
              else some ({ client with pc := .header [], since := completed }, conn)
      | _ => none
  | .read call =>
      match client.pc with
      | .header got =>
          if call = .failed then some (closed client conn)
          else
            let count := call.amount (FrameHeader.size - got.length) conn.toPeer.length
            if count = 0 then none
            else some (afterHead client { conn with toPeer := conn.toPeer.drop count }
              (got ++ conn.toPeer.take count))
      | .payload hdr got =>
          if call = .failed then some (closed client conn)
          else
            let count := call.amount (hdr.byteLength.toNat - got.length) conn.toPeer.length
            if count = 0 then none
            else some (afterBody client { conn with toPeer := conn.toPeer.drop count } hdr
              (got ++ conn.toPeer.take count))
      | _ => none
  | .hangUp => if client.pc = .idle then some (closed client conn) else none

def State.setClient [DecidableEq C] (s : State P C) (c : C) (client : Client) : State P C :=
  { s with clients := Function.update s.clients c client }

def fetchStep [DecidableEq C] (s : State P C) (c : C) : FetchAction → Option (State P C)
  | .dial opened =>
      if (s.clients c).pipe = none ∧ (s.clients c).pc = .idle then
        match opened with
        | none => some s
        | some i =>
            if (s.conns i).stage = .listening then
              some ((s.setConn i ((s.conns i).opened (.client c))).setClient c
                { s.clients c with pipe := some i, pc := .request requestBytes })
            else none
      else none
  | a =>
      match (s.clients c).pipe with
      | none => none
      | some i =>
          ((s.clients c).step s.completed (s.conns i) a).map fun next =>
            (s.setConn i next.2).setClient c next.1

/-- What any other process can do to an instance of the pipe. -/
inductive OutsideAction where
  | dial (i : Nat)
  | send (i : Nat) (bytes : List Byte)
  | receive (i count : Nat)
  | hangUp (i : Nat)
  deriving DecidableEq, Repr

def outsideStep [DecidableEq C] (s : State P C) : OutsideAction → Option (State P C)
  | .dial i =>
      if (s.conns i).stage = .listening then
        some (s.setConn i ((s.conns i).opened .other))
      else none
  | .send i bytes =>
      if (s.conns i).peer = some .other ∧ (s.conns i).peerOpen then
        some (s.setConn i { s.conns i with toServer := (s.conns i).toServer ++ bytes })
      else none
  | .receive i count =>
      if (s.conns i).peer = some .other ∧ (s.conns i).peerOpen then
        some (s.setConn i { s.conns i with toPeer := (s.conns i).toPeer.drop count })
      else none
  | .hangUp i =>
      if (s.conns i).peer = some .other then
        some (s.setConn i (s.conns i).hungUp)
      else none

inductive Action (P C : Type) where
  | owner (a : OwnerAction)
  | accept (a : AcceptAction)
  | serve (i : Nat) (a : ServeAction)
  | publish (p : P) (a : PublishAction)
  | fetch (c : C) (a : FetchAction)
  | outside (a : OutsideAction)

def step [DecidableEq P] [DecidableEq C] (s : State P C) : Action P C → Option (State P C)
  | .owner a => ownerStep s a
  | .accept a => acceptStep s a
  | .serve i a => serveStep s i a
  | .publish p a => publishStep s p a
  | .fetch c a => fetchStep s c a
  | .outside a => outsideStep s a

abbrev Reachable [DecidableEq P] [DecidableEq C] : State P C → Prop :=
  Run.Reachable (fun s => s = State.initial P C) step

/-- What a client can do in one step on its connection: the guard and the effect of each. -/
inductive Client.Steps (completed : Nat) (client : Client) (conn : Conn C) :
    FetchAction → Client × Conn C → Prop
  | begin (idle : client.pc = .idle) : Steps completed client conn .begin
      ({ client with pc := .request requestBytes }, conn)
  | unwritten (rest : List Byte) (request : client.pc = .request rest) :
      Steps completed client conn (.write .failed) (closed client conn)
  | write (call : Call) (piece left : List Byte) (request : client.pc = .request (piece ++ left)) :
      Steps completed client conn (.write call)
        (if left ≠ [] then
          ({ client with pc := .request left }, { conn with toServer := conn.toServer ++ piece })
        else ({ client with pc := .header [], since := completed },
          { conn with toServer := conn.toServer ++ piece }))
  | unread (got : List Byte)
      (reading : client.pc = .header got ∨ ∃ hdr, client.pc = .payload hdr got) :
      Steps completed client conn (.read .failed) (closed client conn)
  | head (call : Call) (got : List Byte) (count : Nat) (header : client.pc = .header got)
      (want : count ≤ FrameHeader.size - got.length) (arrived : conn.toPeer ≠ []) :
      Steps completed client conn (.read call)
        (afterHead client { conn with toPeer := conn.toPeer.drop count }
          (got ++ conn.toPeer.take count))
  | body (call : Call) (hdr : FrameHeader) (got : List Byte) (count : Nat)
      (payload : client.pc = .payload hdr got) (want : count ≤ hdr.byteLength.toNat - got.length)
      (arrived : conn.toPeer ≠ []) :
      Steps completed client conn (.read call)
        (afterBody client { conn with toPeer := conn.toPeer.drop count } hdr
          (got ++ conn.toPeer.take count))
  | hangUp (idle : client.pc = .idle) :
      Steps completed client conn .hangUp (closed client conn)

theorem Client.step_steps {completed : Nat} {client : Client} {conn : Conn C} {a : FetchAction}
    {next : Client × Conn C} (taken : client.step completed conn a = some next) :
    client.Steps completed conn a next := by
  have arrived (call : Call) (want : Nat) (moved : ¬ call.amount want conn.toPeer.length = 0) :
      conn.toPeer ≠ [] := by
    intro drained
    apply moved
    rw [drained]
    exact Nat.le_zero.mp (call.amount_le_available _ _)
  cases a with
  | dial opened => cases taken
  | begin =>
      simp only [Client.step] at taken
      split at taken
      · rename_i idle
        cases taken
        exact .begin idle
      · cases taken
  | write call =>
      simp only [Client.step] at taken
      split at taken
      · rename_i rest request
        split at taken
        · rename_i failed
          cases failed
          cases taken
          exact .unwritten rest request
        · split at taken
          · cases taken
          · rw [← List.take_append_drop (call.amount rest.length rest.length) rest] at request
            have wrote : client.Steps completed conn (.write call) _ := .write call _ _ request
            split at taken
            · rename_i more
              cases taken
              rwa [if_pos more] at wrote
            · rename_i last
              cases taken
              rwa [if_neg last] at wrote
      · cases taken
  | read call =>
      simp only [Client.step] at taken
      split at taken
      · rename_i got header
        split at taken
        · rename_i failed
          cases failed
          cases taken
          exact .unread got (Or.inl header)
        · split at taken
          · cases taken
          · rename_i moved
            cases taken
            exact .head call got _ header (call.amount_le_want _ _) (arrived call _ moved)
      · rename_i hdr got payload
        split at taken
        · rename_i failed
          cases failed
          cases taken
          exact .unread got (Or.inr ⟨hdr, payload⟩)
        · split at taken
          · cases taken
          · rename_i moved
            cases taken
            exact .body call hdr got _ payload (call.amount_le_want _ _) (arrived call _ moved)
      · cases taken
  | hangUp =>
      simp only [Client.step] at taken
      split at taken
      · rename_i idle
        cases taken
        exact .hangUp idle
      · cases taken

/-- A header that is complete changes the connection only where it is given up. -/
theorem afterHead_cases (client : Client) (conn : Conn C) (got : List Byte) :
    afterHead client conn got = closed client conn ∨
      (afterHead client conn got).2 = conn ∧ (afterHead client conn got).1.pipe = client.pipe := by
  unfold afterHead
  grind [Client.returned]

theorem afterBody_kept (client : Client) (conn : Conn C) (hdr : FrameHeader) (got : List Byte) :
    (afterBody client conn hdr got).2 = conn ∧
      (afterBody client conn hdr got).1.pipe = client.pipe := by
  unfold afterBody
  grind [Client.returned]

/-- A client's step leaves the server's end of the connection alone. -/
theorem Client.step_conn {completed : Nat} {client : Client} {conn : Conn C} {a : FetchAction}
    {next : Client × Conn C} (taken : client.step completed conn a = some next) :
    next.2.stage = conn.stage ∧ next.2.serve = conn.serve ∧ next.2.peer = conn.peer := by
  cases Client.step_steps taken with
  | begin | unwritten | unread | hangUp => exact ⟨rfl, rfl, rfl⟩
  | write => split <;> exact ⟨rfl, rfl, rfl⟩
  | head _ got count =>
      rcases afterHead_cases client { conn with toPeer := conn.toPeer.drop count }
        (got ++ conn.toPeer.take count) with gone | ⟨kept, _⟩
      · rw [gone]
        exact ⟨rfl, rfl, rfl⟩
      · rw [kept]
        exact ⟨rfl, rfl, rfl⟩
  | body =>
      rw [(afterBody_kept _ _ _ _).1]
      exact ⟨rfl, rfl, rfl⟩

theorem Client.step_pipe {completed : Nat} {client : Client} {conn : Conn C} {a : FetchAction}
    {next : Client × Conn C} (taken : client.step completed conn a = some next) :
    next.1.pipe = client.pipe ∨ next.1.pipe = none := by
  cases Client.step_steps taken with
  | begin => exact Or.inl rfl
  | unwritten | unread | hangUp => exact Or.inr rfl
  | write => split <;> exact Or.inl rfl
  | head _ got count =>
      rcases afterHead_cases client { conn with toPeer := conn.toPeer.drop count }
        (got ++ conn.toPeer.take count) with gone | ⟨_, kept⟩
      · rw [gone]
        exact Or.inr rfl
      · exact Or.inl kept
  | body => exact Or.inl (afterBody_kept _ _ _ _).2

section Inversion

variable {s t : State P C}

theorem fetchStep_some [DecidableEq C] {c : C} {a : FetchAction}
    (taken : fetchStep s c a = some t) :
    t = s ∨
    (∃ i, a = .dial (some i) ∧ (s.clients c).pipe = none ∧ (s.clients c).pc = .idle ∧
      (s.conns i).stage = .listening ∧
      t = (s.setConn i ((s.conns i).opened (.client c))).setClient c
        { s.clients c with pipe := some i, pc := .request requestBytes }) ∨
    (∃ i next, (s.clients c).pipe = some i ∧
      (s.clients c).step s.completed (s.conns i) a = some next ∧
      t = (s.setConn i next.2).setClient c next.1) := by
  have onPipe (a : FetchAction) (taken : (match (s.clients c).pipe with
      | none => none
      | some i => ((s.clients c).step s.completed (s.conns i) a).map fun next =>
          (s.setConn i next.2).setClient c next.1) = some t) :
      ∃ i next, (s.clients c).pipe = some i ∧
        (s.clients c).step s.completed (s.conns i) a = some next ∧
        t = (s.setConn i next.2).setClient c next.1 := by
    cases pipe : (s.clients c).pipe with
    | none => rw [pipe] at taken; cases taken
    | some i =>
        rw [pipe] at taken
        obtain ⟨next, stepped, same⟩ := Option.map_eq_some_iff.mp taken
        exact ⟨i, next, rfl, stepped, same.symm⟩
  cases a with
  | dial opened =>
      simp only [fetchStep] at taken
      split at taken
      · rename_i fresh
        cases opened with
        | none => exact Or.inl (Option.some.inj taken).symm
        | some i =>
            dsimp only at taken
            split at taken
            · rename_i listening
              exact Or.inr (Or.inl ⟨i, rfl, fresh.1, fresh.2, listening,
                (Option.some.inj taken).symm⟩)
            · cases taken
      · cases taken
  | begin => exact Or.inr (Or.inr (onPipe _ taken))
  | write call => exact Or.inr (Or.inr (onPipe _ taken))
  | read call => exact Or.inr (Or.inr (onPipe _ taken))
  | hangUp => exact Or.inr (Or.inr (onPipe _ taken))

/-- What another process can do in one step: the guard and the effect of each. -/
inductive OutsideSteps (s : State P C) : OutsideAction → State P C → Prop
  | dial (i : Nat) (listening : (s.conns i).stage = .listening) :
      OutsideSteps s (.dial i) (s.setConn i ((s.conns i).opened .other))
  | send (i : Nat) (bytes : List Byte) (mine : (s.conns i).peer = some .other)
      (peerOpen : (s.conns i).peerOpen = true) :
      OutsideSteps s (.send i bytes)
        (s.setConn i { s.conns i with toServer := (s.conns i).toServer ++ bytes })
  | receive (i count : Nat) (mine : (s.conns i).peer = some .other) :
      OutsideSteps s (.receive i count)
        (s.setConn i { s.conns i with toPeer := (s.conns i).toPeer.drop count })
  | hangUp (i : Nat) (mine : (s.conns i).peer = some .other) :
      OutsideSteps s (.hangUp i) (s.setConn i (s.conns i).hungUp)

theorem outsideStep_steps [DecidableEq C] {a : OutsideAction}
    (taken : outsideStep s a = some t) : OutsideSteps s a t := by
  cases a with
  | dial i =>
      simp only [outsideStep] at taken
      split at taken
      · rename_i listening
        cases taken
        exact .dial i listening
      · cases taken
  | send i bytes =>
      simp only [outsideStep] at taken
      split at taken
      · rename_i mine
        cases taken
        exact .send i bytes mine.1 mine.2
      · cases taken
  | receive i count =>
      simp only [outsideStep] at taken
      split at taken
      · rename_i mine
        cases taken
        exact .receive i count mine.1
      · cases taken
  | hangUp i =>
      simp only [outsideStep] at taken
      split at taken
      · rename_i mine
        cases taken
        exact .hangUp i mine
      · cases taken

/-- Another process only reaches an instance that listens or that it opened itself. -/
theorem outsideStep_some [DecidableEq C] {a : OutsideAction} (taken : outsideStep s a = some t) :
    ∃ i conn, t = s.setConn i conn ∧ conn.serve = (s.conns i).serve ∧ conn.peer = some .other ∧
      ((s.conns i).stage = .listening ∧ conn.stage = .connected ∨
        (s.conns i).peer = some .other ∧ conn.stage = (s.conns i).stage) := by
  cases outsideStep_steps taken with
  | dial i listening => exact ⟨i, _, rfl, rfl, rfl, Or.inl ⟨listening, rfl⟩⟩
  | send i _ mine | receive i _ mine | hangUp i mine =>
      exact ⟨i, _, rfl, rfl, mine, Or.inr ⟨mine, rfl⟩⟩

/-- What the publishers, the clients and other processes leave alone. They open
instances that listen, and no step of theirs makes one listen. -/
structure Apart (s t : State P C) : Prop where
  running : t.running = s.running
  owner : t.owner = s.owner
  accept : t.accept = s.accept
  clientCount : t.clientCount = s.clientCount
  created : t.created = s.created
  serve : ∀ j, (t.conns j).serve = (s.conns j).serve
  listening : ∀ j, (t.conns j).stage = .listening → (s.conns j).stage = .listening

theorem apart_setConn {i : Nat} {conn : Conn C} (serve : conn.serve = (s.conns i).serve)
    (stage : conn.stage = .listening → (s.conns i).stage = .listening) :
    Apart s (s.setConn i conn) := by
  refine ⟨rfl, rfl, rfl, rfl, rfl, ?_, ?_⟩
  · intro j
    by_cases same : j = i
    · rw [same, setConn_same, serve]
    · rw [setConn_other _ _ _ _ same]
  · intro j
    by_cases same : j = i
    · rw [same, setConn_same]
      exact stage
    · rw [setConn_other _ _ _ _ same]
      exact id

theorem publishStep_apart [DecidableEq P] {p : P} {a : PublishAction}
    (taken : publishStep s p a = some t) : Apart s t := by
  obtain ⟨_, _, _, _, _, _, rfl⟩ := publishStep_some taken
  exact ⟨rfl, rfl, rfl, rfl, rfl, fun _ => rfl, fun _ => id⟩

theorem fetchStep_apart [DecidableEq C] {c : C} {a : FetchAction}
    (taken : fetchStep s c a = some t) : Apart s t := by
  rcases fetchStep_some taken with rfl | ⟨i, _, _, _, _, rfl⟩ | ⟨i, next, _, stepped, rfl⟩
  · exact ⟨rfl, rfl, rfl, rfl, rfl, fun _ => rfl, fun _ => id⟩
  · have kept : Apart s (s.setConn i ((s.conns i).opened (.client c))) :=
      apart_setConn rfl (fun impossible => nomatch impossible)
    exact ⟨rfl, rfl, rfl, rfl, rfl, kept.serve, kept.listening⟩
  · have same := Client.step_conn stepped
    have kept : Apart s (s.setConn i next.2) := by
      apply apart_setConn same.2.1
      intro listening
      rw [← same.1, listening]
    exact ⟨rfl, rfl, rfl, rfl, rfl, kept.serve, kept.listening⟩

theorem outsideStep_apart [DecidableEq C] {a : OutsideAction}
    (taken : outsideStep s a = some t) : Apart s t := by
  obtain ⟨i, conn, rfl, serve, _, stage⟩ := outsideStep_some taken
  apply apart_setConn serve
  intro listening
  rcases stage with ⟨before, _⟩ | ⟨_, same⟩
  · exact before
  · rw [← same, listening]

end Inversion

end Obs2Mf.Pipe
