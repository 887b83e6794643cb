import Obs2Mf.Pipe.Server

set_option autoImplicit false

/- What the server's threads can do in one step: the guards and the effect of each. -/
namespace Obs2Mf.Pipe

open Transfer

variable {P C : Type}

/-- The instance the accept loop has created and not yet handed on. -/
def AcceptPc.instance : AcceptPc → Option Nat
  | .connect i | .recheck i _ => some i
  | _ => none

/-- The thread has been started and is not yet done with the server. -/
def ServePc.live : ServePc → Bool
  | .absent | .finished => false
  | _ => true

inductive OwnerSteps (s : State P C) : OwnerAction → State P C → Prop
  | again (idle : s.owner = .idle) (running : s.running = true) : OwnerSteps s .start s
  | start (idle : s.owner = .idle) (stopped : s.running = false) :
      OwnerSteps s .start { s with running := true, accept := .test }
  | twice (idle : s.owner = .idle) (stopped : s.running = false) : OwnerSteps s .stop s
  | stop (idle : s.owner = .idle) (running : s.running = true) :
      OwnerSteps s .stop { s with running := false, owner := .poke }
  | missed (poke : s.owner = .poke) : OwnerSteps s (.poke none) { s with owner := .join }
  | poked (i : Nat) (poke : s.owner = .poke) (listening : (s.conns i).stage = .listening) :
      OwnerSteps s (.poke (some i))
        { s.setConn i ((s.conns i).opened .poke) with owner := .hangUp i }
  | hangUp (i : Nat) (hangUp : s.owner = .hangUp i) :
      OwnerSteps s .hangUp { s.setConn i (s.conns i).hungUp with owner := .join }
  | join (join : s.owner = .join) (exited : s.accept = .exited) :
      OwnerSteps s .join { s with owner := .idle, accept := .absent }

inductive AcceptSteps (s : State P C) : AcceptAction → State P C → Prop
  | test (test : s.accept = .test) :
      AcceptSteps s .test { s with accept := if s.running then .create else .exited }
  | created (create : s.accept = .create) :
      AcceptSteps s (.create true) { s.setConn s.created .listening
        with created := s.created + 1, accept := .connect s.created }
  | refused (create : s.accept = .create) :
      AcceptSteps s (.create false) { s with accept := .sleep }
  | wake (sleep : s.accept = .sleep) : AcceptSteps s .wake { s with accept := .test }
  | connected (i : Nat) (ok : Bool) (connect : s.accept = .connect i)
      (answer : ok = false ∨ (s.conns i).stage = .connected) :
      AcceptSteps s (.connected ok) { s with accept := .recheck i ok }
  | exit (i : Nat) (ok : Bool) (recheck : s.accept = .recheck i ok)
      (stopped : s.running = false) :
      AcceptSteps s .recheck { s.setConn i (s.conns i).shut with accept := .exited }
  | failed (i : Nat) (recheck : s.accept = .recheck i false) (running : s.running = true) :
      AcceptSteps s .recheck { s.setConn i (s.conns i).shut with accept := .test }
  | served (i : Nat) (recheck : s.accept = .recheck i true) (running : s.running = true) :
      AcceptSteps s .recheck
        { s.setConn i { s.conns i with serve := .start } with accept := .test }

inductive Conn.Steps (hdr : FrameHeader) (payload : List Byte) (conn : Conn C) :
    ServeAction → Conn C → Prop
  | enter (start : conn.serve = .start) :
      Steps hdr payload conn .enter { conn with serve := .request [] }
  | unread (got : List Byte) (request : conn.serve = .request got) :
      Steps hdr payload conn (.read .failed) { conn with serve := .flush }
  | read (call : Call) (got : List Byte) (count : Nat) (request : conn.serve = .request got)
      (arrived : conn.toServer ≠ []) :
      Steps hdr payload conn (.read call) { conn with
        toServer := conn.toServer.drop count
        serve := afterRequest (got ++ conn.toServer.take count) }
  | lock (lock : conn.serve = .lock) :
      Steps hdr payload conn .lock { conn with serve := .copyHdr }
  | copyHdr (copyHdr : conn.serve = .copyHdr) :
      Steps hdr payload conn .copyHdr { conn with serve := .copyPayload hdr }
  | copyPayload (copy : FrameHeader) (copyPayload : conn.serve = .copyPayload copy) :
      Steps hdr payload conn .copyPayload { conn with serve := .unlock copy payload }
  | unlock (copy : FrameHeader) (data : List Byte) (unlock : conn.serve = .unlock copy data) :
      Steps hdr payload conn .unlock { conn with
        serve := .header
          ({ copy with byteLength := .ofNat 32 data.length } : FrameHeader).encode data }
  | unwritten (rest data : List Byte)
      (writing : conn.serve = .header rest data ∨ conn.serve = .payload rest) :
      Steps hdr payload conn (.write .failed) { conn with serve := .flush }
  | header (call : Call) (rest data : List Byte) (count : Nat)
      (header : conn.serve = .header rest data) (peerOpen : conn.peerOpen = true) :
      Steps hdr payload conn (.write call) { conn with
        toPeer := conn.toPeer ++ rest.take count
        serve := afterHeader (rest.drop count) data }
  | payload (call : Call) (rest : List Byte) (count : Nat) (sending : conn.serve = .payload rest)
      (peerOpen : conn.peerOpen = true) :
      Steps hdr payload conn (.write call) { conn with
        toPeer := conn.toPeer ++ rest.take count
        serve := afterPayload (rest.drop count) }
  | flush (flush : conn.serve = .flush) (heard : conn.toPeer = [] ∨ conn.peerOpen = false) :
      Steps hdr payload conn .flush { conn with serve := .disconnect }
  | disconnect (disconnect : conn.serve = .disconnect) :
      Steps hdr payload conn .disconnect { conn.shut with serve := .close }
  | close (close : conn.serve = .close) :
      Steps hdr payload conn .close { conn with serve := .leave }
  | leave (leave : conn.serve = .leave) :
      Steps hdr payload conn .leave { conn with serve := .finished }

inductive PublishSteps [DecidableEq P] (s : State P C) (p : P) : PublishAction → State P C → Prop
  | call (f : Frame) (idle : s.publishers p = .idle) : PublishSteps s p (.call f)
      { s with publishers := Function.update s.publishers p (.lock f) }
  | lock (f : Frame) (lock : s.publishers p = .lock f) (free : s.mtx = none) :
      PublishSteps s p .lock { s with
        mtx := some (.publisher p)
        publishers := Function.update s.publishers p (.copyHdr f)
        published := s.published ++ [f] }
  | copyHdr (f : Frame) (copyHdr : s.publishers p = .copyHdr f) :
      PublishSteps s p .copyHdr { s with
        hdr := f.hdr
        publishers := Function.update s.publishers p (.stampMagic f) }
  | stampMagic (f : Frame) (stampMagic : s.publishers p = .stampMagic f) :
      PublishSteps s p .stampMagic { s with
        hdr := { s.hdr with magic := kFrameMagic }
        publishers := Function.update s.publishers p (.stampVersion f) }
  | stampVersion (f : Frame) (stampVersion : s.publishers p = .stampVersion f) :
      PublishSteps s p .stampVersion { s with
        hdr := { s.hdr with version := kProtoVersion }
        publishers := Function.update s.publishers p (.assign f) }
  | assign (f : Frame) (assign : s.publishers p = .assign f) :
      PublishSteps s p .assign { s with
        payload := f.payload
        publishers := Function.update s.publishers p .unlock }
  | unlock (unlock : s.publishers p = .unlock) :
      PublishSteps s p .unlock { s with
        mtx := none
        publishers := Function.update s.publishers p .idle
        completed := s.completed + 1 }

section Inversion

variable {s t : State P C}

theorem ownerStep_steps {a : OwnerAction} (taken : ownerStep s a = some t) : OwnerSteps s a t := by
  cases a with
  | start =>
      simp only [ownerStep] at taken
      split at taken
      · rename_i idle
        split at taken
        · rename_i running
          cases taken
          exact .again idle running
        · rename_i stopped
          cases taken
          exact .start idle (Bool.eq_false_iff.mpr stopped)
      · cases taken
  | stop =>
      simp only [ownerStep] at taken
      split at taken
      · rename_i idle
        split at taken
        · rename_i running
          cases taken
          exact .stop idle running
        · rename_i stopped
          cases taken
          exact .twice idle (Bool.eq_false_iff.mpr stopped)
      · cases taken
  | poke opened =>
      cases opened with
      | none =>
          simp only [ownerStep] at taken
          split at taken
          · rename_i poke
            cases taken
            exact .missed poke
          · cases taken
      | some i =>
          simp only [ownerStep] at taken
          split at taken
          · rename_i poke
            cases taken
            exact .poked i poke.1 poke.2
          · cases taken
  | hangUp =>
      simp only [ownerStep] at taken
      split at taken
      · rename_i i hangUp
        cases taken
        exact .hangUp i hangUp
      · cases taken
  | join =>
      simp only [ownerStep] at taken
      split at taken
      · rename_i joined
        cases taken
        exact .join joined.1 joined.2
      · cases taken

theorem acceptStep_steps {a : AcceptAction} (taken : acceptStep s a = some t) :
    AcceptSteps s a t := by
  cases a with
  | test =>
      simp only [acceptStep] at taken
      split at taken
      · rename_i test
        cases taken
        exact .test test
      · cases taken
  | create ok =>
      simp only [acceptStep] at taken
      split at taken
      · rename_i create
        cases ok with
        | true =>
            cases taken
            exact .created create
        | false =>
            cases taken
            exact .refused create
      · cases taken
  | wake =>
      simp only [acceptStep] at taken
      split at taken
      · rename_i sleep
        cases taken
        exact .wake sleep
      · cases taken
  | connected ok =>
      simp only [acceptStep] at taken
      split at taken
      · rename_i i connect
        split at taken
        · rename_i answer
          cases taken
          exact .connected i ok connect answer
        · cases taken
      · cases taken
  | recheck =>
      simp only [acceptStep] at taken
      split at taken
      · rename_i i ok recheck
        by_cases stopped : s.running = false
        · rw [if_pos stopped] at taken
          cases taken
          exact .exit i ok recheck stopped
        · rw [if_neg stopped] at taken
          have running := Bool.of_not_eq_false stopped
          cases ok with
          | false =>
              cases taken
              exact .failed i recheck running
          | true =>
              cases taken
              exact .served i recheck running
      · cases taken

theorem Conn.step_steps {hdr : FrameHeader} {payload : List Byte} {conn conn' : Conn C}
    {a : ServeAction} (taken : conn.step hdr payload a = some conn') :
    conn.Steps hdr payload a conn' := by
  cases a with
  | enter =>
      simp only [Conn.step] at taken
      split at taken
      · rename_i start
        cases taken
        exact .enter start
      · cases taken
  | read call =>
      simp only [Conn.step] at taken
      split at taken
      · rename_i got request
        split at taken
        · rename_i failed
          cases failed
          cases taken
          exact .unread got request
        · split at taken
          · cases taken
          · rename_i moved
            cases taken
            apply Steps.read call got _ request
            intro drained
            apply moved
            rw [drained]
            exact Nat.le_zero.mp (call.amount_le_available _ _)
      · cases taken
  | lock =>
      simp only [Conn.step] at taken
      split at taken
      · rename_i lock
        cases taken
        exact .lock lock
      · cases taken
  | copyHdr =>
      simp only [Conn.step] at taken
      split at taken
      · rename_i copyHdr
        cases taken
        exact .copyHdr copyHdr
      · cases taken
  | copyPayload =>
      simp only [Conn.step] at taken
      split at taken
      · rename_i copy copyPayload
        cases taken
        exact .copyPayload copy copyPayload
      · cases taken
  | unlock =>
      simp only [Conn.step] at taken
      split at taken
      · rename_i copy data unlock
        cases taken
        exact .unlock copy data unlock
      · cases taken
  | write call =>
      simp only [Conn.step] at taken
      split at taken
      · rename_i rest data header
        split at taken
        · rename_i failed
          cases failed
          cases taken
          exact .unwritten rest data (Or.inl header)
        · split at taken
          · cases taken
          · rename_i moved
            cases taken
            have peerOpen := Bool.of_not_eq_false (not_or.mp moved).2
            exact .header call rest data _ header peerOpen
      · rename_i rest sending
        split at taken
        · rename_i failed
          cases failed
          cases taken
          exact .unwritten rest [] (Or.inr sending)
        · split at taken
          · cases taken
          · rename_i moved
            cases taken
            have peerOpen := Bool.of_not_eq_false (not_or.mp moved).2
            exact .payload call rest _ sending peerOpen
      · cases taken
  | flush =>
      simp only [Conn.step] at taken
      split at taken
      · rename_i flushed
        cases taken
        exact .flush flushed.1 flushed.2
      · cases taken
  | disconnect =>
      simp only [Conn.step] at taken
      split at taken
      · rename_i disconnect
        cases taken
        exact .disconnect disconnect
      · cases taken
  | close =>
      simp only [Conn.step] at taken
      split at taken
      · rename_i close
        cases taken
        exact .close close
      · cases taken
  | leave =>
      simp only [Conn.step] at taken
      split at taken
      · rename_i leave
        cases taken
        exact .leave leave
      · cases taken

theorem publishStep_steps [DecidableEq P] {p : P} {a : PublishAction}
    (taken : publishStep s p a = some t) : PublishSteps s p a t := by
  cases a with
  | call f =>
      simp only [publishStep] at taken
      split at taken
      · rename_i idle
        cases taken
        exact .call f idle
      · cases taken
  | lock =>
      simp only [publishStep] at taken
      split at taken
      · rename_i f lock
        split at taken
        · rename_i free
          cases taken
          exact .lock f lock free
        · cases taken
      · cases taken
  | copyHdr =>
      simp only [publishStep] at taken
      split at taken
      · rename_i f copyHdr
        cases taken
        exact .copyHdr f copyHdr
      · cases taken
  | stampMagic =>
      simp only [publishStep] at taken
      split at taken
      · rename_i f stampMagic
        cases taken
        exact .stampMagic f stampMagic
      · cases taken
  | stampVersion =>
      simp only [publishStep] at taken
      split at taken
      · rename_i f stampVersion
        cases taken
        exact .stampVersion f stampVersion
      · cases taken
  | assign =>
      simp only [publishStep] at taken
      split at taken
      · rename_i f assign
        cases taken
        exact .assign f assign
      · cases taken
  | unlock =>
      simp only [publishStep] at taken
      split at taken
      · rename_i unlock
        cases taken
        exact .unlock unlock
      · cases taken

theorem Conn.step_stage {hdr : FrameHeader} {payload : List Byte} {conn conn' : Conn C}
    {a : ServeAction} (taken : conn.step hdr payload a = some conn') :
    conn'.stage = conn.stage ∨ conn'.stage = .closed := by
  cases Conn.step_steps taken with
  | disconnect => exact Or.inr rfl
  | _ => exact Or.inl rfl

theorem Conn.step_peer {hdr : FrameHeader} {payload : List Byte} {conn conn' : Conn C}
    {a : ServeAction} (taken : conn.step hdr payload a = some conn') :
    conn'.peer = conn.peer := by
  cases Conn.step_steps taken <;> rfl

theorem Conn.step_live {hdr : FrameHeader} {payload : List Byte} {conn conn' : Conn C}
    {a : ServeAction} (taken : conn.step hdr payload a = some conn') :
    conn.serve.live = true := by
  cases Conn.step_steps taken with
  | unwritten rest data writing =>
      rcases writing with writing | writing
      · rw [writing]
        rfl
      · rw [writing]
        rfl
  | enter at_ | unread _ at_ | read _ _ _ at_ | lock at_ | copyHdr at_ | copyPayload _ at_
  | unlock _ _ at_ | header _ _ _ _ at_ | payload _ _ _ at_ | flush at_ | disconnect at_
  | close at_ | leave at_ =>
      rw [at_]
      rfl

theorem setConn_conns_cases (s : State P C) (i : Nat) (conn : Conn C) (j : Nat) :
    (s.setConn i conn).conns j = s.conns j ∨ j = i ∧ (s.setConn i conn).conns j = conn := by
  by_cases same : j = i
  · subst same
    exact Or.inr ⟨rfl, setConn_same s j conn⟩
  · exact Or.inl (setConn_other s i j conn same)

theorem ownerStep_some {a : OwnerAction} (taken : ownerStep s a = some t) :
    ∃ running owner accept conns, t = { s with running, owner, accept, conns } ∧
      ∀ j, conns j = s.conns j ∨
        (s.conns j).stage = .listening ∧ conns j = (s.conns j).opened .poke ∨
        s.owner = .hangUp j ∧ conns j = (s.conns j).hungUp := by
  cases ownerStep_steps taken with
  | poked i _ listening =>
      refine ⟨_, _, _, _, rfl, ?_⟩
      intro j
      rcases setConn_conns_cases s i _ j with kept | ⟨rfl, changed⟩
      · exact Or.inl kept
      · exact Or.inr (Or.inl ⟨listening, changed⟩)
  | hangUp i hangUp =>
      refine ⟨_, _, _, _, rfl, ?_⟩
      intro j
      rcases setConn_conns_cases s i _ j with kept | ⟨rfl, changed⟩
      · exact Or.inl kept
      · exact Or.inr (Or.inr ⟨hangUp, changed⟩)
  | _ => exact ⟨_, _, _, _, rfl, fun _ => Or.inl rfl⟩

theorem acceptStep_some {a : AcceptAction} (taken : acceptStep s a = some t) :
    ∃ accept created conns, t = { s with accept, created, conns } ∧
      ∀ j, conns j = s.conns j ∨
        j = s.created ∧ conns j = .listening ∨
        s.accept.instance = some j ∧
          (conns j = (s.conns j).shut ∨ conns j = { s.conns j with serve := .start }) := by
  have handed {i : Nat} {ok : Bool} (recheck : s.accept = .recheck i ok) (conn : Conn C) (j : Nat) :
      (s.setConn i conn).conns j = s.conns j ∨
        s.accept.instance = some j ∧ j = i ∧ (s.setConn i conn).conns j = conn := by
    rcases setConn_conns_cases s i conn j with kept | ⟨same, changed⟩
    · exact Or.inl kept
    · refine Or.inr ⟨?_, same, changed⟩
      rw [recheck, same]
      rfl
  cases acceptStep_steps taken with
  | created =>
      refine ⟨_, _, _, rfl, ?_⟩
      intro j
      rcases setConn_conns_cases s s.created _ j with kept | created
      · exact Or.inl kept
      · exact Or.inr (Or.inl created)
  | exit i _ recheck | failed i recheck =>
      refine ⟨_, _, _, rfl, ?_⟩
      intro j
      rcases handed recheck (s.conns i).shut j with kept | ⟨mine, rfl, changed⟩
      · exact Or.inl kept
      · exact Or.inr (Or.inr ⟨mine, Or.inl changed⟩)
  | served i recheck =>
      refine ⟨_, _, _, rfl, ?_⟩
      intro j
      rcases handed recheck { s.conns i with serve := .start } j with kept | ⟨mine, rfl, changed⟩
      · exact Or.inl kept
      · exact Or.inr (Or.inr ⟨mine, Or.inr changed⟩)
  | _ => exact ⟨_, _, _, rfl, fun _ => Or.inl rfl⟩

theorem serveStep_some {i : Nat} {a : ServeAction} (taken : serveStep s i a = some t) :
    ∃ conn, (s.conns i).step s.hdr s.payload a = some conn ∧ (a = .lock → s.mtx = none) ∧
      t = (serveShared s i a).setConn i conn := by
  unfold serveStep at taken
  split at taken
  · cases taken
  · rename_i free
    obtain ⟨conn, stepped, same⟩ := Option.map_eq_some_iff.mp taken
    refine ⟨conn, stepped, ?_, same.symm⟩
    intro lock
    cases held : s.mtx with
    | none => rfl
    | some holder => exact (free ⟨lock, by rw [held]; rfl⟩).elim

/-- A `Publish` call touches the slot, its mutex and the history, and nothing else. -/
theorem publishStep_some [DecidableEq P] {p : P} {a : PublishAction}
    (taken : publishStep s p a = some t) :
    ∃ mtx hdr payload publishers published completed,
      t = { s with mtx, hdr, payload, publishers, published, completed } := by
  cases publishStep_steps taken <;> exact ⟨_, _, _, _, _, _, rfl⟩

end Inversion

end Obs2Mf.Pipe
