import Obs2Mf.Pipe.System

set_option autoImplicit false

/- One connection between a client and its serving thread: where a request and its
reply can stand, as bytes written, in flight and read. -/
namespace Obs2Mf.Pipe

open Transfer

variable {C : Type}

/-- What the server has read of the next request. -/
inductive ServePc.Reading : ServePc → List Byte → Prop
  | absent : Reading .absent []
  | start : Reading .start []
  | request (got : List Byte) (short : got.length < 4) : Reading (.request got) got

/-- What the server has still to write of its reply. -/
inductive ServePc.Pending : ServePc → List Byte → Prop
  | header (rest data : List Byte) (some : rest ≠ []) : Pending (.header rest data) (rest ++ data)
  | payload (rest : List Byte) (some : rest ≠ []) : Pending (.payload rest) rest
  | request : Pending (.request []) []

/-- The request has been read and its reply not yet formed. -/
def ServePc.forming : ServePc → Bool
  | .lock | .copyHdr | .copyPayload _ | .unlock _ _ => true
  | _ => false

/-- The server serves no further request on this connection. -/
def ServePc.ending : ServePc → Bool
  | .flush | .disconnect | .close | .leave | .finished => true
  | _ => false

/-- What a client has still to write of its request. -/
inductive FetchPc.Unsent : FetchPc → List Byte → Prop
  | request (rest : List Byte) (some : rest ≠ []) : Unsent (.request rest) rest
  | header : Unsent (.header []) []

/-- What a client has read of the reply. -/
inductive FetchPc.Taken : FetchPc → List Byte → Prop
  | header (got : List Byte) (short : got.length < FrameHeader.size) : Taken (.header got) got
  | payload (hdr : FrameHeader) (got : List Byte) (magic : hdr.magic = kFrameMagic)
      (short : got.length < hdr.byteLength.toNat) : Taken (.payload hdr got) (hdr.encode ++ got)

/-- What is still to come of a reply: the rest of it, unless the server breaks off. -/
def Conn.Owes (conn : Conn C) (pending : List Byte) : Prop :=
  conn.serve.Pending pending ∧ conn.toServer = [] ∨ conn.serve.ending = true

/-- A request goes out whole before its reply is formed, and a reply is read whole
before the next request; `good` is what is known of the header and payload in it. -/
inductive Exchange (good : FrameHeader → List Byte → Prop) (conn : Conn C) : FetchPc → Prop
  | waiting (reading : conn.serve.Reading []) (toServer : conn.toServer = [])
      (toPeer : conn.toPeer = []) : Exchange good conn .idle
  | asking (got rest : List Byte) (pc : FetchPc) (reading : conn.serve.Reading got)
      (unsent : pc.Unsent rest) (request : got ++ conn.toServer ++ rest = requestBytes)
      (toPeer : conn.toPeer = []) : Exchange good conn pc
  | forming (copying : conn.serve.forming = true) (toServer : conn.toServer = [])
      (toPeer : conn.toPeer = []) : Exchange good conn (.header [])
  | replying (taken pending : List Byte) (hdr : FrameHeader) (data : List Byte) (pc : FetchPc)
      (owes : conn.Owes pending) (read : pc.Taken taken)
      (reply : taken ++ conn.toPeer ++ pending = replyBytes hdr data) (known : good hdr data) :
      Exchange good conn pc
  | deaf (pc : FetchPc) (ending : conn.serve.ending = true)
      (unread : pc = .idle ∨ ∃ rest, pc.Unsent rest) (toPeer : conn.toPeer = []) :
      Exchange good conn pc

section Stages

variable {pc : ServePc} {bytes : List Byte}

theorem ServePc.Reading.not_forming (reading : pc.Reading bytes) : pc.forming = false := by
  cases reading <;> rfl

theorem ServePc.Reading.not_ending (reading : pc.Reading bytes) : pc.ending = false := by
  cases reading <;> rfl

theorem ServePc.Pending.not_forming (pending : pc.Pending bytes) : pc.forming = false := by
  cases pending <;> rfl

theorem ServePc.Pending.not_ending (pending : pc.Pending bytes) : pc.ending = false := by
  cases pending <;> rfl

theorem ServePc.Pending.empty (pending : pc.Pending []) : pc = .request [] := by
  generalize none : ([] : List Byte) = bytes at pending
  cases pending with
  | header rest data some => exact (some (List.append_eq_nil_iff.mp none.symm).1).elim
  | payload rest some => exact (some none.symm).elim
  | request => rfl

theorem ServePc.forming_not_ending (forming : pc.forming = true) : pc.ending = false := by
  cases pc <;> first | rfl | cases forming

theorem afterHeader_pending (rest data : List Byte) :
    (afterHeader rest data).Pending (rest ++ data) := by
  unfold afterHeader
  split
  · rename_i some
    exact .header rest data some
  · rename_i none
    rw [Decidable.not_not.mp none, List.nil_append]
    split
    · rename_i some
      exact .payload data some
    · rename_i none
      rw [Decidable.not_not.mp none]
      exact .request

theorem afterPayload_pending (rest : List Byte) : (afterPayload rest).Pending rest := by
  unfold afterPayload
  split
  · rename_i some
    exact .payload rest some
  · rename_i none
    rw [Decidable.not_not.mp none]
    exact .request

end Stages

variable {good : FrameHeader → List Byte → Prop} {conn conn' : Conn C} {pc : FetchPc}

theorem Exchange.mono {better : FrameHeader → List Byte → Prop}
    (weaker : ∀ hdr data, good hdr data → better hdr data) (held : Exchange good conn pc) :
    Exchange better conn pc := by
  cases held with
  | waiting reading toServer toPeer => exact .waiting reading toServer toPeer
  | asking got rest _ reading unsent request toPeer =>
      exact .asking got rest _ reading unsent request toPeer
  | forming copying toServer toPeer => exact .forming copying toServer toPeer
  | replying taken pending hdr data _ owes read reply known =>
      exact .replying taken pending hdr data _ owes read reply (weaker hdr data known)
  | deaf _ ending unread toPeer => exact .deaf _ ending unread toPeer

/-- A server that gives up leaves the client with at most a front part of its reply. -/
theorem Exchange.givenUp (held : Exchange good conn pc) (forming : conn.serve.forming = false)
    (toPeer : conn'.toPeer = conn.toPeer) (ending : conn'.serve.ending = true) :
    Exchange good conn' pc := by
  cases held with
  | waiting reading _ empty => exact .deaf _ ending (Or.inl rfl) (toPeer.trans empty)
  | asking got rest _ reading unsent _ empty =>
      exact .deaf _ ending (Or.inr ⟨rest, unsent⟩) (toPeer.trans empty)
  | forming copying =>
      rw [forming] at copying
      cases copying
  | replying taken pending hdr data _ _ read reply known =>
      exact .replying taken pending hdr data _ (Or.inr ending) read (by rw [toPeer, reply]) known
  | deaf _ _ unread empty => exact .deaf _ ending unread (toPeer.trans empty)

/-- Bytes that are lost when the server's end is closed count as never written. -/
theorem Exchange.shut (held : Exchange good conn pc)
    (serve : conn.serve.ending = true ∨ conn.serve = .absent) : Exchange good conn.shut pc := by
  cases held with
  | waiting reading toServer _ => exact .waiting reading toServer rfl
  | asking got rest _ reading unsent request _ =>
      exact .asking got rest _ reading unsent request rfl
  | forming copying toServer _ => exact .forming copying toServer rfl
  | replying taken pending hdr data _ owes read reply known =>
      have ending : conn.serve.ending = true := by
        rcases owes with ⟨writing, _⟩ | ending
        · rcases serve with ending | absent
          · exact ending
          · rw [absent] at writing
            cases writing
        · exact ending
      refine .replying taken (conn.toPeer ++ pending) hdr data _ (Or.inr ending) read ?_ known
      rw [← reply]
      simp only [Conn.shut, List.append_nil, List.append_assoc]
  | deaf _ ending unread _ => exact .deaf _ ending unread rfl

theorem Exchange.started (held : Exchange good conn pc) (absent : conn.serve = .absent) :
    Exchange good { conn with serve := .start } pc := by
  cases held with
  | waiting _ toServer toPeer => exact .waiting .start toServer toPeer
  | asking got rest _ reading unsent request toPeer =>
      rw [absent] at reading
      cases reading
      exact .asking [] rest _ .start unsent request toPeer
  | forming copying =>
      rw [absent] at copying
      cases copying
  | replying _ _ _ _ _ owes =>
      rcases owes with ⟨writing, _⟩ | ending
      · rw [absent] at writing
        cases writing
      · rw [absent] at ending
        cases ending
  | deaf _ ending =>
      rw [absent] at ending
      cases ending

/-- Only the serving stage changed, and it stays among those that form a reply. -/
theorem Exchange.forms (held : Exchange good conn pc) (forming : conn.serve.forming = true)
    (still : conn'.serve.forming = true) (toServer : conn'.toServer = conn.toServer)
    (toPeer : conn'.toPeer = conn.toPeer) : Exchange good conn' pc := by
  cases held with
  | waiting reading =>
      rw [reading.not_forming] at forming
      cases forming
  | asking _ _ _ reading =>
      rw [reading.not_forming] at forming
      cases forming
  | forming _ drained empty => exact .forming still (toServer.trans drained) (toPeer.trans empty)
  | replying _ _ _ _ _ owes =>
      rcases owes with ⟨writing, _⟩ | ending
      · rw [writing.not_forming] at forming
        cases forming
      · rw [ServePc.forming_not_ending forming] at ending
        cases ending
  | deaf _ ending =>
      rw [ServePc.forming_not_ending forming] at ending
      cases ending

/-- The server reads a piece of a request. -/
theorem Exchange.reads (held : Exchange good conn pc) (got : List Byte) (count : Nat)
    (request : conn.serve = .request got) (arrived : conn.toServer ≠ []) :
    Exchange good { conn with
      toServer := conn.toServer.drop count
      serve := afterRequest (got ++ conn.toServer.take count) } pc := by
  cases held with
  | waiting _ drained => exact (arrived drained).elim
  | asking got' rest _ reading unsent word toPeer =>
      rw [request] at reading
      cases reading
      have split : (got ++ conn.toServer.take count) ++ conn.toServer.drop count ++ rest =
          requestBytes := by
        rw [List.append_assoc got, List.take_append_drop, word]
      by_cases short : (got ++ conn.toServer.take count).length < 4
      · refine .asking (got ++ conn.toServer.take count) rest pc ?_ unsent split toPeer
        rw [afterRequest, if_pos short]
        exact .request _ short
      · have lengths := congrArg List.length split
        simp only [List.length_append, requestBytes_length] at lengths short
        have drained : conn.toServer.drop count = [] := List.eq_nil_of_length_eq_zero (by omega)
        have nothing : rest = [] := List.eq_nil_of_length_eq_zero (by omega)
        rw [drained, nothing, List.append_nil, List.append_nil] at split
        rw [nothing] at unsent
        rw [split, drained]
        generalize none : ([] : List Byte) = unsentBytes at unsent
        cases unsent with
        | request _ some => exact (some none.symm).elim
        | header => exact .forming rfl rfl toPeer
  | forming copying =>
      rw [request] at copying
      cases copying
  | replying _ pending _ _ _ owes =>
      rcases owes with ⟨_, drained⟩ | ending
      · exact (arrived drained).elim
      · rw [request] at ending
        cases ending
  | deaf _ ending =>
      rw [request] at ending
      cases ending

/-- The server writes a piece of its reply. -/
theorem Exchange.writes (held : Exchange good conn pc) (piece pending : List Byte)
    (writing : ∀ bytes, conn.serve.Pending bytes → bytes = piece ++ pending)
    (owes : conn'.serve.Pending pending) (busy : conn.serve.forming = false)
    (unread : ∀ got, ¬ conn.serve.Reading got) (live : conn.serve.ending = false)
    (toServer : conn'.toServer = conn.toServer)
    (toPeer : conn'.toPeer = conn.toPeer ++ piece) : Exchange good conn' pc := by
  cases held with
  | waiting reading => exact (unread _ reading).elim
  | asking _ _ _ reading => exact (unread _ reading).elim
  | forming copying =>
      rw [busy] at copying
      cases copying
  | replying taken whole hdr data _ before read reply known =>
      rcases before with ⟨before, drained⟩ | ending
      · refine .replying taken pending hdr data _ (Or.inl ⟨owes, toServer.trans drained⟩) read
          ?_ known
        rw [← reply, writing whole before, toPeer]
        simp only [List.append_assoc]
      · rw [live] at ending
        cases ending
  | deaf _ ending =>
      rw [live] at ending
      cases ending

theorem Exchange.entered (held : Exchange good conn pc) (start : conn.serve = .start) :
    Exchange good { conn with serve := .request [] } pc := by
  cases held with
  | waiting _ toServer toPeer => exact .waiting (.request [] (by decide)) toServer toPeer
  | asking got rest _ reading unsent word toPeer =>
      rw [start] at reading
      cases reading
      exact .asking [] rest _ (.request [] (by decide)) unsent word toPeer
  | forming copying =>
      rw [start] at copying
      cases copying
  | replying _ _ _ _ _ owes =>
      rcases owes with ⟨writing, _⟩ | ending
      · rw [start] at writing
        cases writing
      · rw [start] at ending
        cases ending
  | deaf _ ending =>
      rw [start] at ending
      cases ending

/-- The reply is formed: all of it is still to be written. -/
theorem Exchange.replies {copy : FrameHeader} {data : List Byte} (held : Exchange good conn pc)
    (unlock : conn.serve = .unlock copy data)
    (known : good { copy with byteLength := .ofNat 32 data.length } data) :
    Exchange good { conn with
      serve := .header
        ({ copy with byteLength := .ofNat 32 data.length } : FrameHeader).encode data } pc := by
  cases held with
  | waiting reading =>
      rw [unlock] at reading
      cases reading
  | asking _ _ _ reading =>
      rw [unlock] at reading
      cases reading
  | forming _ drained empty =>
      refine .replying [] _ _ data _ (Or.inl ⟨.header _ data ?_, drained⟩)
        (.header [] (by decide)) ?_ known
      · intro none
        have sized := FrameHeader.encode_length { copy with byteLength := .ofNat 32 data.length }
        rw [none] at sized
        cases sized
      · rw [empty]
        rfl
  | replying _ _ _ _ _ owes =>
      rcases owes with ⟨writing, _⟩ | ending
      · rw [unlock] at writing
        cases writing
      · rw [unlock] at ending
        cases ending
  | deaf _ ending =>
      rw [unlock] at ending
      cases ending

/-- Every step of the serving thread keeps to the exchange, as long as the reply it
forms is one that is known to be good. -/
theorem Exchange.serve {hdr : FrameHeader} {payload : List Byte} {a : ServeAction}
    (held : Exchange good conn pc) (taken : conn.step hdr payload a = some conn')
    (formed : a = .unlock → ∀ copy data, conn.serve = .unlock copy data →
      good { copy with byteLength := .ofNat 32 data.length } data) : Exchange good conn' pc := by
  cases Conn.step_steps taken with
  | enter start => exact held.entered start
  | unread got request => exact held.givenUp (by rw [request]; rfl) rfl rfl
  | read call got count request arrived => exact held.reads got count request arrived
  | lock lock => exact held.forms (by rw [lock]; rfl) rfl rfl rfl
  | copyHdr copyHdr => exact held.forms (by rw [copyHdr]; rfl) rfl rfl rfl
  | copyPayload copy copyPayload => exact held.forms (by rw [copyPayload]; rfl) rfl rfl rfl
  | unlock copy data unlock => exact held.replies unlock (formed rfl copy data unlock)
  | unwritten rest data writing =>
      rcases writing with header | payload
      · exact held.givenUp (by rw [header]; rfl) rfl rfl
      · exact held.givenUp (by rw [payload]; rfl) rfl rfl
  | header call rest data count header =>
      apply held.writes (rest.take count) (rest.drop count ++ data)
      · intro bytes writing
        rw [header] at writing
        cases writing
        rw [← List.append_assoc, List.take_append_drop]
      · exact afterHeader_pending _ data
      · rw [header]
        rfl
      · intro got reading
        rw [header] at reading
        cases reading
      · rw [header]
        rfl
      · rfl
      · rfl
  | payload call rest count sending =>
      apply held.writes (rest.take count) (rest.drop count)
      · intro bytes writing
        rw [sending] at writing
        cases writing
        rw [List.take_append_drop]
      · exact afterPayload_pending _
      · rw [sending]
        rfl
      · intro got reading
        rw [sending] at reading
        cases reading
      · rw [sending]
        rfl
      · rfl
      · rfl
  | flush flush => exact held.givenUp (by rw [flush]; rfl) rfl rfl
  | disconnect disconnect =>
      have shut := held.shut (Or.inl (by rw [disconnect]; rfl))
      exact shut.givenUp (by rw [Conn.shut, disconnect]; rfl) rfl rfl
  | close close => exact held.givenUp (by rw [close]; rfl) rfl rfl
  | leave leave => exact held.givenUp (by rw [leave]; rfl) rfl rfl

/-- The request has been written whole and its reply not yet been read whole. -/
def FetchPc.asked : FetchPc → Bool
  | .header _ | .payload _ _ => true
  | _ => false

/-- The client gives up on its connection by itself. -/
def FetchAction.gaveUp (a : FetchAction) : Prop :=
  a = .hangUp ∨ a = .write .failed ∨ a = .read .failed

/-- What a client's step comes to, given what is known of the replies. -/
inductive Client.Outcome (good : Nat → FrameHeader → List Byte → Prop) (completed : Nat)
    (a : FetchAction) (client : Client) (next : Client × Conn C) : Prop
  | closed (pipe : next.1.pipe = none) (pc : next.1.pc = .idle) (log : next.1.log = client.log)
      (since : next.1.since = client.since)
      (why : a.gaveUp ∨ ∃ hdr data, good client.since hdr data ∧ hdr.magic ≠ kFrameMagic)
  | moved (pipe : next.1.pipe = client.pipe) (log : next.1.log = client.log)
      (since : next.1.since = client.since ∧ (next.1.pc.asked = true → client.pc.asked = true) ∨
        next.1.since = completed)
      (exchange : Exchange (good next.1.since) next.2 next.1.pc)
  | returned (hdr : FrameHeader) (data : List Byte) (asked : client.pc.asked = true)
      (known : good client.since hdr data) (magic : hdr.magic = kFrameMagic)
      (same : next.1 = client.returned hdr data)
      (exchange : Exchange (good client.since) next.2 .idle)

theorem Exchange.settled (owes : conn.Owes []) (read : conn.toPeer = []) :
    Exchange good conn .idle := by
  rcases owes with ⟨writing, drained⟩ | ending
  · refine .waiting ?_ drained read
    rw [writing.empty]
    exact .request [] (by decide)
  · exact .deaf _ ending (Or.inl rfl) read

section Reading

variable {good : Nat → FrameHeader → List Byte → Prop} {client : Client} {completed : Nat}
  {a : FetchAction} {hdr : FrameHeader} {data pending : List Byte}

theorem Client.Outcome.head (asked : client.pc.asked = true) (got chunk : List Byte)
    (room : (got ++ chunk).length ≤ FrameHeader.size) (owes : conn.Owes pending)
    (reply : (got ++ chunk) ++ (conn.toPeer ++ pending) = replyBytes hdr data)
    (known : good client.since hdr data) (sized : hdr.byteLength.toNat = data.length) :
    Outcome good completed a client (afterHead client conn (got ++ chunk)) := by
  unfold afterHead
  split
  · rename_i short
    refine .moved rfl rfl (Or.inl ⟨rfl, fun _ => asked⟩) ?_
    exact .replying _ pending hdr data _ owes (.header _ short)
      ((List.append_assoc _ _ _).trans reply) known
  · rename_i full
    have cut := List.append_inj reply (by rw [FrameHeader.encode_length]; omega)
    rw [cut.1, FrameHeader.decode_encode]
    dsimp only
    split
    · rename_i magic
      exact .closed rfl rfl rfl rfl (Or.inr ⟨hdr, data, known, magic⟩)
    · rename_i magic
      have framed := Decidable.not_not.mp magic
      split
      · rename_i present
        refine .moved rfl rfl (Or.inl ⟨rfl, fun _ => asked⟩) ?_
        have positive : 0 < hdr.byteLength.toNat := by
          apply Nat.pos_of_ne_zero
          intro zero
          exact present (BitVec.eq_of_toNat_eq zero)
        refine .replying _ pending hdr data _ owes (.payload hdr [] framed positive) ?_ known
        rw [List.append_nil, List.append_assoc, cut.2]
        rfl
      · rename_i absent
        have zero := Decidable.not_not.mp absent
        rw [zero] at sized
        have none : data = [] := List.eq_nil_of_length_eq_zero sized.symm
        have nothing := cut.2
        rw [none] at nothing known
        have both := List.append_eq_nil_iff.mp nothing
        refine .returned hdr [] asked known framed rfl ?_
        rw [both.2] at owes
        exact Exchange.settled owes both.1

theorem Client.Outcome.body (asked : client.pc.asked = true) (got chunk : List Byte)
    (room : (got ++ chunk).length ≤ hdr.byteLength.toNat) (owes : conn.Owes pending)
    (rest : (got ++ chunk) ++ (conn.toPeer ++ pending) = data)
    (known : good client.since hdr data) (magic : hdr.magic = kFrameMagic)
    (sized : hdr.byteLength.toNat = data.length) :
    Outcome good completed a client (afterBody client conn hdr (got ++ chunk)) := by
  unfold afterBody
  split
  · rename_i short
    refine .moved rfl rfl (Or.inl ⟨rfl, fun _ => asked⟩) ?_
    refine .replying _ pending hdr data _ owes (.payload hdr _ magic short) ?_ known
    rw [replyBytes, ← rest]
    simp only [List.append_assoc]
  · rename_i full
    have lengths := congrArg List.length rest
    rw [List.length_append] at lengths
    have nothing : conn.toPeer ++ pending = [] := List.eq_nil_of_length_eq_zero (by omega)
    have both := List.append_eq_nil_iff.mp nothing
    rw [nothing, List.append_nil] at rest
    rw [both.2] at owes
    rw [rest]
    exact .returned hdr data asked known magic rfl (Exchange.settled owes both.1)

/-- The client writes a piece of its request. -/
theorem Client.Outcome.writes (held : Exchange (good client.since) conn client.pc)
    (piece left : List Byte) (request : client.pc = .request (piece ++ left)) :
    Outcome good completed a client
      (if left ≠ [] then
        ({ client with pc := .request left }, { conn with toServer := conn.toServer ++ piece })
      else ({ client with pc := .header [], since := completed },
        { conn with toServer := conn.toServer ++ piece })) := by
  rw [request] at held
  have sent : ∀ (pc : FetchPc) (since : Nat), pc.Unsent left →
      Exchange (good since) { conn with toServer := conn.toServer ++ piece } pc := by
    intro pc since unsent
    cases held with
    | asking got rest _ reading before word toPeer =>
        cases before with
        | request _ some =>
            refine .asking got left pc reading unsent ?_ toPeer
            rw [← word]
            simp only [List.append_assoc]
    | replying _ _ _ _ _ _ read => cases read
    | deaf _ ending _ toPeer => exact .deaf pc ending (Or.inr ⟨left, unsent⟩) toPeer
  by_cases more : left ≠ []
  · rw [if_pos more]
    exact .moved rfl rfl (Or.inl ⟨rfl, nofun⟩) (sent _ _ (.request left more))
  · rw [if_neg more]
    refine .moved rfl rfl (Or.inr rfl) (sent _ _ ?_)
    rw [Decidable.not_not.mp more]
    exact .header

/-- Reading the header: whatever is in flight is a reply from its start. -/
theorem Client.Outcome.readsHead (held : Exchange (good client.since) conn client.pc)
    (sized : ∀ n hdr data, good n hdr data → hdr.byteLength.toNat = data.length)
    (got : List Byte) (header : client.pc = .header got) (count : Nat)
    (want : count ≤ FrameHeader.size - got.length) (arrived : conn.toPeer ≠ []) :
    Outcome good completed a client (afterHead client { conn with toPeer := conn.toPeer.drop count }
      (got ++ conn.toPeer.take count)) := by
  have asked : client.pc.asked = true := by rw [header]; rfl
  rw [header] at held
  cases held with
  | asking _ _ _ _ _ _ toPeer => exact (arrived toPeer).elim
  | forming _ _ toPeer => exact (arrived toPeer).elim
  | deaf _ _ _ toPeer => exact (arrived toPeer).elim
  | replying taken pending hdr data _ owes read reply known =>
      cases read with
      | header _ short =>
          have later : Conn.Owes { conn with toPeer := conn.toPeer.drop count } pending := owes
          apply Outcome.head asked got _ ?_ later ?_ known (sized _ _ _ known)
          · rw [List.length_append, List.length_take]
            omega
          · rw [← reply]
            change (got ++ conn.toPeer.take count) ++ (conn.toPeer.drop count ++ pending) = _
            rw [List.append_assoc, ← List.append_assoc (conn.toPeer.take count),
              List.take_append_drop, List.append_assoc]

/-- Reading the payload: the rest of the reply that the header came from. -/
theorem Client.Outcome.readsBody (held : Exchange (good client.since) conn client.pc)
    (sized : ∀ n hdr data, good n hdr data → hdr.byteLength.toNat = data.length)
    (hdr : FrameHeader) (got : List Byte) (payload : client.pc = .payload hdr got) (count : Nat)
    (want : count ≤ hdr.byteLength.toNat - got.length) (arrived : conn.toPeer ≠ []) :
    Outcome good completed a client
      (afterBody client { conn with toPeer := conn.toPeer.drop count } hdr
        (got ++ conn.toPeer.take count)) := by
  have asked : client.pc.asked = true := by rw [payload]; rfl
  rw [payload] at held
  cases held with
  | asking _ _ _ _ _ _ toPeer => exact (arrived toPeer).elim
  | deaf _ _ _ toPeer => exact (arrived toPeer).elim
  | replying taken pending sent data _ owes read reply known =>
      cases read with
      | payload _ _ magic short =>
          rw [replyBytes, List.append_assoc, List.append_assoc] at reply
          have cut := List.append_inj reply (by
            rw [FrameHeader.encode_length, FrameHeader.encode_length])
          have same := congrArg FrameHeader.decode cut.1
          rw [FrameHeader.decode_encode, FrameHeader.decode_encode] at same
          subst same
          have later : Conn.Owes { conn with toPeer := conn.toPeer.drop count } pending := owes
          apply Outcome.body asked got _ ?_ later ?_ known magic (sized _ _ _ known)
          · rw [List.length_append, List.length_take]
            omega
          · rw [← cut.2]
            change (got ++ conn.toPeer.take count) ++ (conn.toPeer.drop count ++ pending) = _
            rw [List.append_assoc, ← List.append_assoc (conn.toPeer.take count),
              List.take_append_drop]

/-- Every step of the client keeps to the exchange or drops the connection. -/
theorem Exchange.fetch (held : Exchange (good client.since) conn client.pc)
    (sized : ∀ n hdr data, good n hdr data → hdr.byteLength.toNat = data.length)
    {next : Client × Conn C} (taken : client.step completed conn a = some next) :
    client.Outcome good completed a next := by
  cases Client.step_steps taken with
  | begin idle =>
      rw [idle] at held
      refine .moved rfl rfl (Or.inl ⟨rfl, fun asked => by cases asked⟩) ?_
      have some : requestBytes ≠ [] := by
        intro none
        have sized := requestBytes_length
        rw [none] at sized
        cases sized
      cases held with
      | waiting reading toServer toPeer =>
          refine .asking [] requestBytes _ reading (.request _ some) ?_ toPeer
          rw [toServer]
          rfl
      | asking _ _ _ _ unsent => cases unsent
      | replying _ _ _ _ _ _ read => cases read
      | deaf _ ending _ toPeer => exact .deaf _ ending (Or.inr ⟨_, .request _ some⟩) toPeer
  | unwritten => exact .closed rfl rfl rfl rfl (Or.inl (Or.inr (Or.inl rfl)))
  | write call _ _ request => exact Client.Outcome.writes held _ _ request
  | unread => exact .closed rfl rfl rfl rfl (Or.inl (Or.inr (Or.inr rfl)))
  | head call got _ header want arrived =>
      exact Client.Outcome.readsHead held sized got header _ want arrived
  | body call hdr got _ payload want arrived =>
      exact Client.Outcome.readsBody held sized hdr got payload _ want arrived
  | hangUp => exact .closed rfl rfl rfl rfl (Or.inl (Or.inl rfl))

end Reading

end Obs2Mf.Pipe
