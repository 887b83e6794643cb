import Obs2Mf.Pipe.Exchange
import Obs2Mf.Pipe.Peers
import Obs2Mf.Pipe.Slot
import Obs2Mf.Pipe.Threads

set_option autoImplicit false

/- A serving thread against a client that may send anything: it answers the request
words the client's bytes begin with, each with the slot of one moment, and no more. -/
namespace Obs2Mf.Pipe

open Transfer Bytes Run

variable {P C : Type}

/-- How many complete request words the bytes begin with. -/
def leadingRequests : List Byte → Nat
  | a :: b :: c :: d :: rest =>
      if [a, b, c, d] = requestBytes then leadingRequests rest + 1 else 0
  | _ => 0

/-- The bytes of `k` requests. -/
def requests (k : Nat) : List Byte := (List.replicate k requestBytes).flatten

theorem requests_succ (k : Nat) : requests (k + 1) = requests k ++ requestBytes := by
  simp only [requests, List.replicate_succ', List.flatten_append, List.flatten_singleton]

@[simp] theorem requests_length (k : Nat) : (requests k).length = 4 * k := by
  induction k with
  | zero => rfl
  | succ k ih =>
      rw [requests_succ, List.length_append, ih, requestBytes_length]
      omega

theorem leadingRequests_word (word rest : List Byte) (whole : word.length = 4) :
    leadingRequests (word ++ rest) =
      if word = requestBytes then leadingRequests rest + 1 else 0 := by
  match word, whole with
  | [a, b, c, d], _ => rfl

theorem leadingRequests_short (bytes : List Byte) (short : bytes.length < 4) :
    leadingRequests bytes = 0 := by
  match bytes, short with
  | [], _ | [_], _ | [_, _], _ | [_, _, _], _ => rfl

theorem leadingRequests_requests (k : Nat) (rest : List Byte) :
    leadingRequests (requests k ++ rest) = k + leadingRequests rest := by
  induction k with
  | zero => exact (Nat.zero_add _).symm
  | succ k ih =>
      have first : requests (k + 1) ++ rest = requestBytes ++ (requests k ++ rest) := by
        simp only [requests, List.replicate_succ, List.flatten_cons, List.append_assoc]
      rw [first, leadingRequests_word _ _ requestBytes_length, if_pos rfl, ih]
      omega

/-- The word read is compared as a number, which is comparing its bytes. -/
theorem requestWord_eq_iff (word : List Byte) (whole : word.length = 4) :
    requestWord word = kRequestMagic ↔ word = requestBytes := by
  constructor
  · intro magic
    have small := leValue_lt word
    have value := congrArg BitVec.toNat magic
    rw [whole] at small
    rw [requestWord, BitVec.toNat_ofNat, Nat.mod_eq_of_lt (by omega)] at value
    rw [← leBytes_leValue word, whole, value, requestBytes]
  · rintro rfl
    exact requestWord_requestBytes

/-- What a serving thread found in the slot at one moment. `published` are the frames
published until then, `received` is how much of the client's bytes it had read. -/
structure Snapshot where
  hdr : FrameHeader
  payload : List Byte
  published : List Frame
  received : Nat

/-- The reply from this moment: the slot's header with `byteLength` set, and the payload. -/
def Snapshot.reply (slot : Snapshot) : List Byte :=
  replyBytes { slot.hdr with byteLength := .ofNat 32 slot.payload.length } slot.payload

def replies (slots : List Snapshot) : List Byte := slots.flatMap Snapshot.reply

theorem replies_snoc (slots : List Snapshot) (slot : Snapshot) :
    replies (slots ++ [slot]) = replies slots ++ slot.reply := by
  simp only [replies, List.flatMap_append, List.flatMap_singleton]

/-- What has happened on one connection: the bytes its peer sent, those its thread has
read and written, the slot at each copy, and each change of the client counter by it. -/
structure History where
  sent : List Byte
  received : List Byte
  written : List Byte
  slots : List Snapshot
  counts : List Int

def History.empty : History := ⟨[], [], [], [], []⟩

/-- The thread's own step: what went missing from the one stream it has read, what was
added to the other it has written. -/
def History.advance (slot : Snapshot) (conn conn' : Conn C) (change : Int) (a : ServeAction)
    (h : History) : History where
  sent := h.sent
  received := h.received ++
    conn.toServer.take (conn.toServer.length - conn'.toServer.length)
  written := h.written ++ conn'.toPeer.drop conn.toPeer.length
  slots := if a = .copyPayload then h.slots ++ [slot] else h.slots
  counts := if change = 0 then h.counts else h.counts ++ [change]

/-- What a step of the system adds to the history of connection `i`. -/
def History.note (i : Nat) (s : State P C) (a : Action P C) (t : State P C) (h : History) :
    History :=
  match a.servedBy i with
  | some b =>
      h.advance ⟨s.hdr, s.payload, s.published, h.received.length⟩ (s.conns i) (t.conns i)
        (t.clientCount - s.clientCount) b
  | none => { h with sent := h.sent ++ (t.conns i).toServer.drop (s.conns i).toServer.length }

/-- The system with the history of connection `i`. -/
def observed [DecidableEq P] [DecidableEq C] (i : Nat) :
    State P C × History → Action P C → Option (State P C × History) :=
  recording step (History.note i)

/-- No write on the connection fails. -/
def Unfailing (i : Nat) (_ : State P C × History) (a : Action P C) : Prop :=
  a.servedBy i ≠ some (.write .failed)

/-- A read on the connection fails only once the peer is gone and all it sent is read, as
`ReadFile` does on a byte pipe whose client writes no empty piece. -/
def ReadsOut (i : Nat) (p : State P C × History) (a : Action P C) : Prop :=
  a.servedBy i = some (.read .failed) →
    (p.1.conns i).toServer = [] ∧ (p.1.conns i).peerOpen = false

instance (i : Nat) (p : State P C × History) (a : Action P C) : Decidable (Unfailing i p a) :=
  inferInstanceAs (Decidable (_ ≠ _))

instance (i : Nat) (p : State P C × History) (a : Action P C) : Decidable (ReadsOut i p a) :=
  inferInstanceAs (Decidable (_ → _ ∧ _))

/-- The thread has read all requests it will: the last word is not one or is cut off.
`out` says that reads only fail at the end of the client's bytes. -/
inductive Conn.Over (conn : Conn C) (out : Prop) (word : List Byte) : Prop
  | wrong (whole : word.length = 4) (wrong : word ≠ requestBytes)
  | cut (short : word.length < 4)
      (drained : out → conn.toServer = [] ∧ conn.peerOpen = false)

/-- The thread has closed the connection. -/
def ServePc.shut : ServePc → Bool
  | .close | .leave | .finished => true
  | _ => false

/-- The next request has been read, its reply not yet begun. -/
structure History.Asked (h : History) : Prop where
  received : h.received = requests (h.slots.length + 1)
  written : h.written = replies h.slots
  counts : h.counts = [1]

/-- What the thread has read and written, by where it stands. -/
inductive Serving (out : Prop) (conn : Conn C) (h : History) : ServePc → Prop
  | absent (sent : List Byte) (none : h = { History.empty with sent }) : Serving out conn h .absent
  | start (sent : List Byte) (none : h = { History.empty with sent }) : Serving out conn h .start
  | reading (got : List Byte) (short : got.length < 4)
      (received : h.received = requests h.slots.length ++ got)
      (written : h.written = replies h.slots) (counts : h.counts = [1]) :
      Serving out conn h (.request got)
  | lock (asked : h.Asked) : Serving out conn h .lock
  | copyHdr (asked : h.Asked) : Serving out conn h .copyHdr
  | copyPayload (copy : FrameHeader) (asked : h.Asked) : Serving out conn h (.copyPayload copy)
  | unlock (earlier : List Snapshot) (slot : Snapshot) (slots : h.slots = earlier ++ [slot])
      (received : h.received = requests h.slots.length) (written : h.written = replies earlier)
      (counts : h.counts = [1]) : Serving out conn h (.unlock slot.hdr slot.payload)
  | writing (pending : List Byte) (pc : ServePc) (writing : pc.Pending pending)
      (some : pending ≠ []) (received : h.received = requests h.slots.length)
      (written : h.written ++ pending = replies h.slots) (counts : h.counts = [1]) :
      Serving out conn h pc
  | ended (word : List Byte) (pc : ServePc) (ending : pc.ending = true)
      (through : conn.Over out word)
      (received : h.received = requests h.slots.length ++ word)
      (written : h.written = replies h.slots)
      (closed : pc.shut = true → conn.stage = .closed)
      (counts : h.counts = if pc = .finished then [1, -1] else [1]) : Serving out conn h pc

/-- What a step that copies nothing adds to the history. -/
theorem advance_moved {conn conn' : Conn C} {chunk piece : List Byte} (slot : Snapshot)
    {a : ServeAction} (h : History) (copies : a ≠ .copyPayload)
    (read : conn.toServer.take (conn.toServer.length - conn'.toServer.length) = chunk)
    (wrote : conn'.toPeer.drop conn.toPeer.length = piece) :
    h.advance slot conn conn' a.tally a =
      { h with
        received := h.received ++ chunk
        written := h.written ++ piece
        counts := if a.tally = 0 then h.counts else h.counts ++ [a.tally] } := by
  simp only [History.advance, read, wrote, if_neg copies]

/-- A step that moves no byte either is at most a change of the counter. -/
theorem advance_still {conn conn' : Conn C} (slot : Snapshot) {a : ServeAction} (h : History)
    (copies : a ≠ .copyPayload) (toServer : conn'.toServer = conn.toServer)
    (toPeer : conn'.toPeer.length ≤ conn.toPeer.length) :
    h.advance slot conn conn' a.tally a =
      { h with counts := if a.tally = 0 then h.counts else h.counts ++ [a.tally] } := by
  have read : conn.toServer.take (conn.toServer.length - conn'.toServer.length) = [] := by
    rw [toServer, Nat.sub_self, List.take_zero]
  rw [advance_moved slot h copies read (List.drop_eq_nil_of_le toPeer), List.append_nil,
    List.append_nil]

section Serving

variable {out : Prop} {conn conn' : Conn C} {h : History} {pc : ServePc}

theorem Conn.Over.kept {word : List Byte} (through : conn.Over out word)
    (still : conn.toServer = [] ∧ conn.peerOpen = false →
      conn'.toServer = [] ∧ conn'.peerOpen = false) : conn'.Over out word := by
  cases through with
  | wrong whole wrong => exact .wrong whole wrong
  | cut short drained => exact .cut short fun known => still (drained known)

theorem Serving.meanwhile (held : Serving out conn h conn.serve) (moved : conn.Meanwhile conn')
    (sent : List Byte) : Serving out conn' { h with sent } conn'.serve := by
  have same (busy : conn.serve ≠ .absent) : conn'.serve = conn.serve ∧
      conn'.stage = conn.stage ∧ (conn'.peerOpen = true → conn.peerOpen = true) := by
    rcases moved.thread with kept | ⟨absent, _⟩
    · exact kept
    · exact (busy absent).elim
  generalize before : conn.serve = pc at held
  cases held with
  | absent _ empty =>
      subst empty
      rcases moved.thread with ⟨kept, _⟩ | ⟨_, absent | start⟩
      · rw [kept, before]
        exact .absent sent rfl
      · rw [absent]
        exact .absent sent rfl
      · rw [start]
        exact .start sent rfl
  | start _ empty =>
      subst empty
      rw [(same (by rw [before]; simp)).1, before]
      exact .start sent rfl
  | reading got short received written counts =>
      rw [(same (by rw [before]; simp)).1, before]
      exact .reading got short received written counts
  | lock asked =>
      rw [(same (by rw [before]; simp)).1, before]
      exact .lock ⟨asked.received, asked.written, asked.counts⟩
  | copyHdr asked =>
      rw [(same (by rw [before]; simp)).1, before]
      exact .copyHdr ⟨asked.received, asked.written, asked.counts⟩
  | copyPayload copy asked =>
      rw [(same (by rw [before]; simp)).1, before]
      exact .copyPayload copy ⟨asked.received, asked.written, asked.counts⟩
  | unlock earlier slot slots received written counts =>
      rw [(same (by rw [before]; simp)).1, before]
      exact .unlock earlier slot slots received written counts
  | writing pending _ writing some received written counts =>
      have busy : conn.serve ≠ .absent := by
        rintro absent
        rw [before] at absent
        subst absent
        cases writing
      rw [(same busy).1, before]
      exact .writing pending _ writing some received written counts
  | ended word _ ending through received written closed counts =>
      have busy : conn.serve ≠ .absent := by
        rintro absent
        rw [before] at absent
        subst absent
        cases ending
      obtain ⟨serve, stage, peerOpen⟩ := same busy
      rw [serve, before]
      refine .ended word _ ending ?_ received written (fun shut => stage.trans (closed shut)) counts
      apply through.kept
      rintro ⟨drained, gone⟩
      rw [gone] at peerOpen
      constructor
      · rw [moved.gone gone, drained]
      · exact Bool.eq_false_iff.mpr fun still => Bool.false_ne_true (peerOpen still)

theorem Serving.of_pending {pending : List Byte} (writing : pc.Pending pending)
    (received : h.received = requests h.slots.length)
    (written : h.written ++ pending = replies h.slots) (counts : h.counts = [1]) :
    Serving out conn h pc := by
  by_cases done : pending = []
  · subst done
    rw [writing.empty]
    rw [List.append_nil] at written
    refine .reading [] (by decide) ?_ written counts
    rw [received, List.append_nil]
  · exact .writing pending pc writing done received written counts

/-- A thread that reads a request has answered all requests before it. -/
theorem Serving.request {got : List Byte} (held : Serving out conn h (.request got)) :
    got.length < 4 ∧ h.received = requests h.slots.length ++ got ∧
      h.written = replies h.slots ∧ h.counts = [1] := by
  cases held with
  | reading _ short received written counts => exact ⟨short, received, written, counts⟩
  | writing _ _ writing some =>
      cases writing
      exact (some rfl).elim
  | ended _ _ ending => cases ending

/-- From the request to the copy of the payload nothing is written. -/
theorem Serving.asked (held : Serving out conn h pc)
    (forming : pc = .lock ∨ pc = .copyHdr ∨ ∃ copy, pc = .copyPayload copy) : h.Asked := by
  cases held with
  | lock asked | copyHdr asked | copyPayload _ asked => exact asked
  | writing _ _ writing => cases writing <;> simp at forming
  | ended _ _ ending => rcases forming with rfl | rfl | ⟨copy, rfl⟩ <;> cases ending
  | _ => simp at forming

/-- What a read comes to: the end of the thread's loop, or at most what is missing of
the request. -/
theorem Conn.step_read {hdr : FrameHeader} {payload : List Byte} {call : Call}
    (taken : conn.step hdr payload (.read call) = some conn') :
    ∃ got, conn.serve = .request got ∧
      (call = .failed ∧ conn' = { conn with serve := .flush } ∨
        ∃ count, count ≤ 4 - got.length ∧ count ≤ conn.toServer.length ∧
          conn' = { conn with
            toServer := conn.toServer.drop count
            serve := afterRequest (got ++ conn.toServer.take count) }) := by
  simp only [Conn.step] at taken
  split at taken
  · rename_i got request
    refine ⟨got, request, ?_⟩
    split at taken
    · rename_i failed
      cases taken
      exact Or.inl ⟨failed, rfl⟩
    · split at taken
      · cases taken
      · cases taken
        exact Or.inr ⟨_, call.amount_le_want _ _, call.amount_le_available _ _, rfl⟩
  · cases taken

/-- A whole request is answered, anything else ends the loop. -/
theorem Serving.afterRequest {got chunk : List Byte}
    (room : (got ++ chunk).length ≤ 4)
    (received : h.received = requests h.slots.length ++ (got ++ chunk))
    (written : h.written = replies h.slots) (counts : h.counts = [1]) :
    Serving out conn h (Pipe.afterRequest (got ++ chunk)) := by
  unfold Pipe.afterRequest
  split
  · rename_i short
    exact .reading _ short received written counts
  · rename_i full
    have whole : (got ++ chunk).length = 4 := by omega
    simp only [requestWord_eq_iff _ whole]
    split
    · rename_i request
      rw [request] at received
      exact .lock ⟨by rw [received, requests_succ], written, counts⟩
    · rename_i wrong
      have open_ : ServePc.flush.shut = true → conn.stage = .closed := by
        intro impossible
        cases impossible
      exact .ended _ _ rfl (.wrong whole wrong) received written open_ counts

theorem Serving.reads (held : Serving out conn h conn.serve) (slot : Snapshot) (call : Call)
    {got : List Byte} {count : Nat} (request : conn.serve = .request got)
    (room : count ≤ 4 - got.length) (there : count ≤ conn.toServer.length)
    (toServer : conn'.toServer = conn.toServer.drop count) (toPeer : conn'.toPeer = conn.toPeer) :
    Serving out conn' (h.advance slot conn conn' (ServeAction.read call).tally (.read call))
      (Pipe.afterRequest (got ++ conn.toServer.take count)) := by
  rw [request] at held
  obtain ⟨short, received, written, counts⟩ := held.request
  have read : conn.toServer.take (conn.toServer.length - conn'.toServer.length) =
      conn.toServer.take count := by
    rw [toServer, List.length_drop, Nat.sub_sub_self there]
  have wrote : conn'.toPeer.drop conn.toPeer.length = [] := by
    rw [toPeer, List.drop_length]
  rw [advance_moved slot h (by simp) read wrote, List.append_nil]
  refine Serving.afterRequest ?_ ?_ written counts
  · rw [List.length_append, List.length_take]
    omega
  · dsimp only
    rw [received, List.append_assoc]

/-- What is still to be written completes the replies. -/
theorem Serving.pending {bytes : List Byte} (held : Serving out conn h pc)
    (writing : pc.Pending bytes) (some : bytes ≠ []) :
    h.received = requests h.slots.length ∧ h.written ++ bytes = replies h.slots ∧
      h.counts = [1] := by
  cases held with
  | writing pending _ known _ received written counts =>
      have same : pending = bytes := by
        cases writing <;> cases known <;> rfl
      rw [← same]
      exact ⟨received, written, counts⟩
  | ended _ _ ending =>
      rw [writing.not_ending] at ending
      cases ending
  | reading =>
      cases writing
      exact (some rfl).elim
  | _ => cases writing

theorem Serving.unwritten {rest : List Byte} (held : Serving out conn h pc)
    (writing : (∃ data, pc = .header rest data) ∨ pc = .payload rest) : rest ≠ [] := by
  rcases writing with ⟨data, rfl⟩ | rfl
  · cases held with
    | writing _ _ writing =>
        cases writing
        assumption
    | ended _ _ ending => cases ending
  · cases held with
    | writing _ _ writing =>
        cases writing
        assumption
    | ended _ _ ending => cases ending

theorem Serving.writes (held : Serving out conn h conn.serve) (slot : Snapshot) (call : Call)
    {piece rest : List Byte} (before : conn.serve.Pending (piece ++ rest))
    (some : piece ++ rest ≠ []) (after : pc.Pending rest)
    (toServer : conn'.toServer = conn.toServer) (toPeer : conn'.toPeer = conn.toPeer ++ piece) :
    Serving out conn' (h.advance slot conn conn' (ServeAction.write call).tally (.write call))
      pc := by
  obtain ⟨received, written, counts⟩ := held.pending before some
  have read : conn.toServer.take (conn.toServer.length - conn'.toServer.length) = [] := by
    rw [toServer, Nat.sub_self, List.take_zero]
  have wrote : conn'.toPeer.drop conn.toPeer.length = piece := by
    rw [toPeer, List.drop_left]
  rw [advance_moved slot h (by simp) read wrote, List.append_nil]
  refine Serving.of_pending after received ?_ counts
  dsimp only
  rw [← written, List.append_assoc]

/-- The steps after the loop. -/
theorem Serving.ends (held : Serving out conn h conn.serve) (slot : Snapshot) {a : ServeAction}
    (copies : a ≠ .copyPayload) (ending : conn.serve.ending = true)
    (still : conn'.serve.ending = true) (live : conn.serve ≠ .finished)
    (tally : a.tally = if conn'.serve = .finished then -1 else 0)
    (toServer : conn'.toServer = conn.toServer) (peerOpen : conn'.peerOpen = conn.peerOpen)
    (toPeer : conn'.toPeer.length ≤ conn.toPeer.length)
    (closed : conn'.serve.shut = true → conn'.stage = .closed ∨
      conn.serve.shut = true ∧ conn'.stage = conn.stage) :
    Serving out conn' (h.advance slot conn conn' a.tally a) conn'.serve := by
  rw [advance_still slot h copies toServer toPeer]
  generalize before : conn.serve = pc at held ending live closed
  cases held with
  | ended word _ _ through received written shut counts =>
      refine .ended word _ still ?_ received written ?_ ?_
      · apply through.kept
        rintro ⟨drained, gone⟩
        exact ⟨toServer.trans drained, peerOpen.trans gone⟩
      · intro later
        rcases closed later with done | ⟨earlier, same⟩
        · exact done
        · rw [same, shut earlier]
      · rw [if_neg live] at counts
        dsimp only
        rw [counts, tally]
        split <;> rfl
  | writing _ _ writing =>
      rw [writing.not_ending] at ending
      cases ending
  | _ => cases ending

theorem Serving.read (held : Serving out conn h conn.serve) (slot : Snapshot) {call : Call}
    (taken : conn.step slot.hdr slot.payload (.read call) = some conn')
    (readsOut : out → call = .failed → conn.toServer = [] ∧ conn.peerOpen = false) :
    Serving out conn' (h.advance slot conn conn' (ServeAction.read call).tally (.read call))
      conn'.serve := by
  obtain ⟨got, request, outcome⟩ := Conn.step_read taken
  have still (toServer : conn'.toServer = conn.toServer) (toPeer : conn'.toPeer = conn.toPeer) :
      h.advance slot conn conn' (ServeAction.read call).tally (.read call) = h :=
    advance_still slot h (by simp) toServer (by rw [toPeer])
  rcases outcome with ⟨failed, rfl⟩ | ⟨count, room, there, rfl⟩
  · rw [request] at held
    obtain ⟨short, received, written, counts⟩ := held.request
    have open_ : ServePc.flush.shut = true → conn.stage = .closed := by
      intro impossible
      cases impossible
    have drained : Conn.Over { conn with serve := .flush } out got :=
      .cut short fun known => readsOut known failed
    rw [still rfl rfl]
    exact .ended got _ rfl drained received written open_ counts
  · exact held.reads slot call request room there rfl rfl

/-- Every step of the thread keeps to its account, if its writes do not fail, a failing
read is the end of the client's bytes, and the slot is still the one it copied. -/
theorem Serving.step (held : Serving out conn h conn.serve) (slot : Snapshot) {a : ServeAction}
    (taken : conn.step slot.hdr slot.payload a = some conn') (unfailing : a ≠ .write .failed)
    (readsOut : out → a = .read .failed → conn.toServer = [] ∧ conn.peerOpen = false)
    (copied : ∀ copy, conn.serve = .copyPayload copy → copy = slot.hdr) :
    Serving out conn' (h.advance slot conn conn' a.tally a) conn'.serve := by
  have still (copies : a ≠ .copyPayload) (toServer : conn'.toServer = conn.toServer)
      (toPeer : conn'.toPeer = conn.toPeer) :
      h.advance slot conn conn' a.tally a =
        { h with counts := if a.tally = 0 then h.counts else h.counts ++ [a.tally] } :=
    advance_still slot h copies toServer (by rw [toPeer])
  cases Conn.step_steps taken with
  | enter start =>
      rw [still (by simp) rfl rfl]
      rw [start] at held
      cases held with
      | start sent none =>
          subst none
          exact .reading [] (by decide) rfl rfl rfl
      | writing _ _ writing => cases writing
      | ended _ _ ending => cases ending
  | unread got request => exact held.read slot taken fun known _ => readsOut known rfl
  | read call got count request arrived =>
      exact held.read slot taken fun known failed => readsOut known (congrArg _ failed)
  | lock lock =>
      rw [still (by simp) rfl rfl]
      exact .copyHdr (held.asked (by simp [lock]))
  | copyHdr copyHdr =>
      rw [still (by simp) rfl rfl]
      exact .copyPayload _ (held.asked (by simp [copyHdr]))
  | copyPayload copy copyPayload =>
      have same := copied copy copyPayload
      subst same
      have asked := held.asked (by simp [copyPayload])
      have advanced : h.advance slot conn { conn with serve := .unlock slot.hdr slot.payload }
          ServeAction.copyPayload.tally .copyPayload = { h with slots := h.slots ++ [slot] } := by
        simp only [History.advance, Nat.sub_self, List.take_zero, List.drop_length,
          List.append_nil]
        rfl
      rw [advanced]
      refine .unlock h.slots slot rfl ?_ asked.written asked.counts
      dsimp only
      rw [asked.received, List.length_append, List.length_singleton]
  | unlock copy data unlock =>
      rw [still (by simp) rfl rfl]
      rw [unlock] at held
      cases held with
      | unlock earlier slot slots received written counts =>
          refine Serving.of_pending (.header _ _ ?_) received ?_ counts
          · intro none
            have sized := FrameHeader.encode_length
              { slot.hdr with byteLength := .ofNat 32 slot.payload.length }
            rw [none] at sized
            cases sized
          · dsimp only
            rw [slots, replies_snoc, written]
            rfl
      | writing _ _ writing => cases writing
      | ended _ _ ending => cases ending
  | unwritten rest data writing => exact (unfailing rfl).elim
  | header call rest data count header peerOpen =>
      have present := held.unwritten (Or.inl ⟨data, header⟩)
      have cut : rest.take count ++ (rest.drop count ++ data) = rest ++ data := by
        rw [← List.append_assoc, List.take_append_drop]
      refine held.writes slot call ?_ ?_ (afterHeader_pending _ data) rfl rfl
      · rw [cut, header]
        exact .header rest data present
      · rw [cut]
        exact fun none => present (List.append_eq_nil_iff.mp none).1
  | payload call rest count sending peerOpen =>
      have present := held.unwritten (Or.inr sending)
      have cut := List.take_append_drop count rest
      refine held.writes slot call ?_ ?_ (afterPayload_pending _) rfl rfl
      · rw [cut, sending]
        exact .payload rest present
      · rwa [cut]
  | flush flush =>
      apply held.ends slot
      all_goals simp [flush, ServePc.ending, ServePc.shut, ServeAction.tally]
  | disconnect disconnect =>
      apply held.ends slot
      all_goals simp [disconnect, ServePc.ending, ServeAction.tally, Conn.shut]
  | close close =>
      apply held.ends slot
      all_goals simp [close, ServePc.ending, ServePc.shut, ServeAction.tally]
  | leave leave =>
      apply held.ends slot
      all_goals simp [leave, ServePc.ending, ServePc.shut, ServeAction.tally]

end Serving

/-- What a run keeps of connection `i` and its history. -/
structure Watched (out : Prop) (i : Nat) (s : State P C) (h : History) : Prop where
  instances : Instances s
  slot : Slot s
  linked : Linked s
  account : h.sent = h.received ++ (s.conns i).toServer
  serving : Serving out (s.conns i) h (s.conns i).serve
  moments : ∀ j slot, h.slots[j]? = some slot →
    slot.received = 4 * (j + 1) ∧ Current slot.published slot.hdr slot.payload

theorem watched_initial (out : Prop) (i : Nat) :
    Watched out i (State.initial P C) History.empty where
  instances := instances_initial
  slot := slot_initial
  linked := linked_initial
  account := rfl
  serving := .absent [] rfl
  moments := by
    intro j slot impossible
    cases impossible

/-- A step of the thread takes from the front of what has arrived. -/
theorem Conn.step_toServer {hdr : FrameHeader} {payload : List Byte} {conn conn' : Conn C}
    {a : ServeAction} (taken : conn.step hdr payload a = some conn') :
    conn'.toServer <:+ conn.toServer := by
  cases Conn.step_steps taken with
  | read => exact List.drop_suffix _ _
  | _ => exact List.suffix_rfl

section Steps

variable {out : Prop} {s t : State P C} {h : History} {i : Nat}

theorem Watched.foreign [DecidableEq P] [DecidableEq C] (held : Watched out i s h) {a : Action P C}
    (taken : step s a = some t) (foreign : a.servedBy i = none) :
    Watched out i t (History.note i s a t h) := by
  have moved := step_meanwhile held.instances held.linked taken foreign
  have slot := slot_step s a t ⟨held.instances, held.slot⟩ taken
  have linked := linked_step s a t ⟨held.instances, held.linked⟩ taken
  rw [History.note, foreign]
  dsimp only
  refine ⟨slot.1, slot.2, linked, ?_, held.serving.meanwhile moved _, held.moments⟩
  obtain ⟨bytes, same⟩ := moved.arrived
  dsimp only
  rw [held.account, ← same, List.drop_left, List.append_assoc]

/-- While a thread copies, the slot is the newest frame and what it copied is in it. -/
theorem Watched.copying (held : Watched out i s h) (critical : (s.conns i).serve.critical = true) :
    Current s.published s.hdr s.payload ∧ (s.conns i).serve.Copied s.hdr s.payload := by
  have guarded := held.slot.guarded
  rw [held.slot.copying i critical] at guarded
  exact ⟨guarded.1, guarded.2.2⟩

/-- The slot is copied after a request was read and before the next. -/
theorem Watched.moment (held : Watched out i s h) {copy : FrameHeader}
    (copyPayload : (s.conns i).serve = .copyPayload copy) :
    h.received.length = 4 * (h.slots.length + 1) := by
  have asked := held.serving.asked (by simp [copyPayload])
  rw [asked.received, requests_length]

theorem Watched.own [DecidableEq P] [DecidableEq C] (held : Watched out i s h) {b : ServeAction}
    (taken : step s (.serve i b) = some t) (unfailing : b ≠ .write .failed)
    (readsOut : out → b = .read .failed →
      (s.conns i).toServer = [] ∧ (s.conns i).peerOpen = false) :
    Watched out i t (History.note i s (.serve i b) t h) := by
  have slot := slot_step s _ t ⟨held.instances, held.slot⟩ taken
  have linked := linked_step s _ t ⟨held.instances, held.linked⟩ taken
  obtain ⟨conn, stepped, _, rfl⟩ := serveStep_some taken
  rw [History.note, servedBy_serve]
  dsimp only
  have change : s.clientCount + b.tally - s.clientCount = b.tally := by omega
  rw [setConn_same, setConn_clientCount, serveShared_clientCount, change]
  refine ⟨slot.1, slot.2, linked, ?_, ?_, ?_⟩
  · obtain ⟨front, same⟩ := Conn.step_toServer stepped
    simp only [History.advance, setConn_same]
    rw [held.account, ← same, List.length_append, Nat.add_sub_cancel, List.take_left,
      List.append_assoc]
  · rw [setConn_same]
    refine held.serving.step ⟨s.hdr, s.payload, s.published, h.received.length⟩ stepped unfailing
      readsOut ?_
    intro copy copyPayload
    have copied := (held.copying (by rw [copyPayload]; rfl)).2
    rw [copyPayload] at copied
    exact copied
  · intro j snapshot
    simp only [History.advance]
    split
    · rename_i copies
      subst copies
      cases Conn.step_steps stepped with
      | copyPayload copy copyPayload =>
          have whole := (held.copying (by rw [copyPayload]; rfl)).1
          have read := held.moment copyPayload
          rw [List.getElem?_append]
          split
          · exact held.moments j snapshot
          · rename_i later
            rw [List.getElem?_singleton]
            split
            · rename_i last
              have here : j = h.slots.length := by omega
              intro found
              cases found
              rw [here]
              exact ⟨read, whole⟩
            · intro impossible
              cases impossible
    · exact held.moments j snapshot

theorem watched_step [DecidableEq P] [DecidableEq C] (p : State P C × History) (a : Action P C)
    (q : State P C × History) (held : Watched out i p.1 p.2)
    (fine : Unfailing i p a ∧ (out → ReadsOut i p a)) (taken : observed i p a = some q) :
    Watched out i q.1 q.2 := by
  obtain ⟨s, h⟩ := p
  obtain ⟨t, after⟩ := q
  obtain ⟨stepped, noted⟩ := recording_some taken
  dsimp only at held ⊢
  rw [noted]
  cases mine : a.servedBy i with
  | none => exact held.foreign stepped mine
  | some b =>
      have own := servedBy_some mine
      subst own
      apply held.own stepped
      · intro failed
        exact fine.1 (by rw [mine, failed])
      · intro known failed
        exact fine.2 known (by rw [mine, failed])

end Steps

/-- What the history of a connection amounts to: every reply is the slot of one moment
after its request, there are at most as many as there are requests in front, and when the
thread is through there are exactly as many. Requests are counted in what it has read. -/
structure Answered (i : Nat) (s : State P C) (h : History) : Prop where
  front : h.written <+: replies h.slots
  requested : h.slots.length ≤ leadingRequests h.received
  moments : ∀ j slot, h.slots[j]? = some slot →
    slot.received = 4 * (j + 1) ∧ Current slot.published slot.hdr slot.payload ∧
      (BitVec.ofNat 32 slot.payload.length).toNat = slot.payload.length
  beyond : 4 * (leadingRequests h.received + 1) ≤ h.received.length →
    (s.conns i).serve.ending = true
  whole : (s.conns i).serve.ending = true →
    h.written = replies h.slots ∧ h.slots.length = leadingRequests h.received
  closed : (s.conns i).serve = .finished → (s.conns i).stage = .closed ∧ h.counts = [1, -1]

theorem Current.sized {published : List Frame} {hdr : FrameHeader} {payload : List Byte}
    (current : Current published hdr payload) : payload.length = hdr.byteLength.toNat := by
  unfold Current at current
  split at current
  · rw [current.1, current.2]
    rfl
  · rename_i f _
    rw [current.1, current.2]
    exact f.sized

/-- The requests counted when the thread is through are all there are. -/
theorem leadingRequests_over {out : Prop} {conn : Conn C} {word : List Byte}
    (through : conn.Over out word) (k : Nat) :
    leadingRequests (requests k ++ word) = k ∧
      (out → leadingRequests (requests k ++ word ++ conn.toServer) = k) := by
  rw [List.append_assoc, leadingRequests_requests, leadingRequests_requests]
  cases through with
  | wrong whole wrong =>
      have front (rest : List Byte) : leadingRequests (word ++ rest) = 0 := by
        rw [leadingRequests_word _ _ whole, if_neg wrong]
      have alone := front []
      rw [List.append_nil] at alone
      simp only [alone, front, Nat.add_zero, implies_true, and_self]
  | cut short drained =>
      have nothing := leadingRequests_short word short
      rw [nothing]
      refine ⟨Nat.add_zero k, fun known => ?_⟩
      rw [(drained known).1, List.append_nil, nothing, Nat.add_zero]

theorem Serving.front {out : Prop} {conn : Conn C} {h : History} {pc : ServePc}
    (held : Serving out conn h pc) :
    h.written <+: replies h.slots := by
  cases held with
  | absent sent none | start sent none =>
      subst none
      exact List.nil_prefix
  | reading _ _ _ written => rw [written]
  | lock asked | copyHdr asked | copyPayload _ asked => rw [asked.written]
  | unlock earlier slot slots _ written =>
      rw [slots, replies_snoc, written]
      exact List.prefix_append _ _
  | writing pending _ _ _ _ written => exact ⟨pending, written⟩
  | ended _ _ _ _ _ written => rw [written]

/-- Until the thread is through it has read whole requests and part of a word. -/
theorem Serving.unended {out : Prop} {conn : Conn C} {h : History} {pc : ServePc}
    (held : Serving out conn h pc) (busy : pc.ending = false) :
    ∃ k rest, h.received = requests k ++ rest ∧ h.slots.length ≤ k ∧ rest.length < 4 := by
  cases held with
  | absent sent none | start sent none =>
      subst none
      exact ⟨0, [], rfl, Nat.le_refl _, by decide⟩
  | reading got short received => exact ⟨_, got, received, Nat.le_refl _, short⟩
  | lock asked | copyHdr asked | copyPayload _ asked =>
      refine ⟨_, [], ?_, Nat.le_succ _, by decide⟩
      rw [asked.received, List.append_nil]
  | unlock _ _ _ received | writing _ _ _ _ received =>
      refine ⟨_, [], ?_, Nat.le_refl _, by decide⟩
      rw [List.append_nil]
      exact received
  | ended _ _ ending =>
      rw [ending] at busy
      cases busy

section Runs

variable {out : Prop} {s : State P C} {h : History} {i : Nat}

theorem Watched.ended (held : Watched out i s h) (ending : (s.conns i).serve.ending = true) :
    h.written = replies h.slots ∧ h.slots.length = leadingRequests h.received ∧
      (out → h.slots.length = leadingRequests h.sent) := by
  have serving := held.serving
  generalize (s.conns i).serve = pc at ending serving
  cases serving with
  | ended word _ _ through received written =>
      obtain ⟨read, sent⟩ := leadingRequests_over through h.slots.length
      rw [held.account, received]
      exact ⟨written, read.symm, fun known => (sent known).symm⟩
  | writing _ _ writing =>
      rw [writing.not_ending] at ending
      cases ending
  | _ => cases ending

theorem Watched.unended (held : Watched out i s h) (busy : (s.conns i).serve.ending = false) :
    h.slots.length ≤ leadingRequests h.received ∧
      h.received.length < 4 * (leadingRequests h.received + 1) := by
  obtain ⟨k, rest, received, copied, short⟩ := held.serving.unended busy
  rw [received, leadingRequests_requests, List.length_append, requests_length]
  omega

theorem Watched.finished (held : Watched out i s h) (finished : (s.conns i).serve = .finished) :
    (s.conns i).stage = .closed ∧ h.counts = [1, -1] := by
  have serving := held.serving
  rw [finished] at serving
  cases serving with
  | ended _ _ _ _ _ _ closed counts => exact ⟨closed rfl, counts⟩
  | writing _ _ writing => cases writing

theorem Watched.answered (held : Watched out i s h) : Answered i s h where
  front := held.serving.front
  requested := by
    cases stage : (s.conns i).serve.ending with
    | true => exact Nat.le_of_eq (held.ended stage).2.1
    | false => exact (held.unended stage).1
  moments := by
    intro j slot found
    obtain ⟨read, current⟩ := held.moments j slot found
    refine ⟨read, current, ?_⟩
    have small := slot.hdr.byteLength.isLt
    rw [current.sized, BitVec.toNat_ofNat, Nat.mod_eq_of_lt small]
  beyond := by
    intro past
    cases stage : (s.conns i).serve.ending with
    | true => rfl
    | false =>
        have inside := (held.unended stage).2
        omega
  whole := by
    intro ending
    obtain ⟨written, read, _⟩ := held.ended ending
    exact ⟨written, read⟩
  closed := held.finished

/-- A thread that is through writes nothing and stays through. -/
theorem Conn.step_ending {hdr : FrameHeader} {payload : List Byte} {conn conn' : Conn C}
    {a : ServeAction} (ending : conn.serve.ending = true)
    (taken : conn.step hdr payload a = some conn') :
    conn'.serve.ending = true ∧ conn'.toPeer.length ≤ conn.toPeer.length := by
  cases Conn.step_steps taken with
  | flush | close | leave => exact ⟨rfl, Nat.le_refl _⟩
  | disconnect => exact ⟨rfl, Nat.zero_le _⟩
  | unwritten _ _ writing =>
      rcases writing with writing | writing
      · rw [writing] at ending
        cases ending
      · rw [writing] at ending
        cases ending
  | enter at_ | unread _ at_ | read _ _ _ at_ | lock at_ | copyHdr at_ | copyPayload _ at_
  | unlock _ _ at_ | header _ _ _ _ at_ | payload _ _ _ at_ =>
      rw [at_] at ending
      cases ending

theorem Watched.silent [DecidableEq P] [DecidableEq C] (held : Watched out i s h)
    (ending : (s.conns i).serve.ending = true) {a : Action P C} {q : State P C × History}
    (taken : observed i (s, h) a = some q) :
    (q.1.conns i).serve.ending = true ∧ q.2.written = h.written := by
  obtain ⟨t, after⟩ := q
  obtain ⟨stepped, noted⟩ := recording_some taken
  subst noted
  rw [History.note]
  cases mine : a.servedBy i with
  | none =>
      refine ⟨?_, rfl⟩
      rcases (step_meanwhile held.instances held.linked stepped mine).thread with
        ⟨kept, _⟩ | ⟨absent, _⟩
      · rw [← ending]
        exact congrArg ServePc.ending kept
      · rw [absent] at ending
        cases ending
  | some b =>
      have own := servedBy_some mine
      subst own
      obtain ⟨conn, moved, _, rfl⟩ := serveStep_some stepped
      obtain ⟨still, shorter⟩ := Conn.step_ending ending moved
      dsimp only
      rw [setConn_same]
      refine ⟨still, ?_⟩
      simp only [History.advance]
      rw [List.drop_eq_nil_of_le shorter, List.append_nil]

/-- The thread can go on to the end by steps of its own, none of which is a write. -/
def Closes [DecidableEq P] [DecidableEq C] (i : Nat) (p : State P C × History) : Prop :=
  ∃ closing q, (∀ a ∈ closing, ∃ b, a = .serve i b ∧ ∀ call, b ≠ .write call) ∧
    run (observed i) p closing = some q ∧ (q.1.conns i).serve = .finished ∧
    q.2.written = p.2.written

section Closing

variable [DecidableEq P] [DecidableEq C]

/-- A step of the thread that its own connection allows, and that waits for nobody. -/
theorem observed_own {conn : Conn C} {b : ServeAction}
    (stepped : (s.conns i).step s.hdr s.payload b = some conn) (free : b ≠ .lock) :
    ∃ q, observed i (s, h) (.serve i b) = some q ∧ q.1.conns i = conn := by
  have taken : step s (.serve i b) = some ((serveShared s i b).setConn i conn) := by
    rw [step, serveStep, if_neg (fun both => free both.1), stepped]
    rfl
  exact ⟨_, recording_of_step taken h, setConn_same _ _ _⟩

theorem closes_finished (finished : (s.conns i).serve = .finished) : Closes i (s, h) := by
  refine ⟨[], (s, h), ?_, rfl, finished, rfl⟩
  intro a impossible
  cases impossible

theorem closes_cons {p q : State P C × History} {b : ServeAction}
    (taken : observed i p (.serve i b) = some q) (quiet : ∀ call, b ≠ .write call)
    (written : q.2.written = p.2.written) (later : Closes i q) : Closes i p := by
  obtain ⟨closing, last, own, ends, finished, same⟩ := later
  refine ⟨.serve i b :: closing, last, ?_, ?_, finished, same.trans written⟩
  · intro a member
    rcases List.mem_cons.mp member with rfl | later
    · exact ⟨b, rfl, quiet⟩
    · exact own a later
  · rw [run_cons, taken]
    exact ends

/-- A thread that is through takes its next step. -/
theorem Watched.closes_by (held : Watched out i s h) (ending : (s.conns i).serve.ending = true)
    {conn : Conn C} {b : ServeAction} (stepped : (s.conns i).step s.hdr s.payload b = some conn)
    (plain : b = .flush ∨ b = .disconnect ∨ b = .close ∨ b = .leave)
    (later : ∀ (t : State P C) after, Watched out i t after → (t.conns i).serve = conn.serve →
      Closes i (t, after)) : Closes i (s, h) := by
  have quiet (call : Call) : b ≠ .write call ∧ b ≠ .read call := by
    rcases plain with rfl | rfl | rfl | rfl <;> simp
  have free : b ≠ .lock := by
    rcases plain with rfl | rfl | rfl | rfl <;> simp
  obtain ⟨q, taken, moved⟩ := observed_own (h := h) stepped free
  have fine : Unfailing i (s, h) (.serve i b) ∧ (out → ReadsOut i (s, h) (.serve i b)) := by
    rw [Unfailing, ReadsOut, servedBy_serve]
    constructor
    · intro failed
      exact (quiet .failed).1 (Option.some.inj failed)
    · intro _ failed
      exact ((quiet .failed).2 (Option.some.inj failed)).elim
  have next := watched_step (s, h) _ q held fine taken
  apply closes_cons taken (fun call => (quiet call).1) (held.silent ending taken).2
  exact later q.1 q.2 next (congrArg Conn.serve moved)

/-- The thread's `FlushFileBuffers` has nobody to wait for: the client has read everything,
or has left. -/
def Heard (s : State P C) (i : Nat) : Prop :=
  (s.conns i).serve = .flush → (s.conns i).toPeer = [] ∨ (s.conns i).peerOpen = false

theorem Watched.closes (held : Watched out i s h) (ending : (s.conns i).serve.ending = true)
    (heard : Heard s i) : Closes i (s, h) := by
  have leave (t : State P C) (after : History) (held : Watched out i t after)
      (leave : (t.conns i).serve = .leave) : Closes i (t, after) := by
    have stepped : (t.conns i).step t.hdr t.payload .leave =
        some { t.conns i with serve := .finished } := if_pos leave
    exact held.closes_by (by rw [leave]; rfl) stepped (by simp) fun _ _ _ => closes_finished
  have close (t : State P C) (after : History) (held : Watched out i t after)
      (close : (t.conns i).serve = .close) : Closes i (t, after) := by
    have stepped : (t.conns i).step t.hdr t.payload .close =
        some { t.conns i with serve := .leave } := if_pos close
    exact held.closes_by (by rw [close]; rfl) stepped (by simp) leave
  have disconnect (t : State P C) (after : History) (held : Watched out i t after)
      (disconnect : (t.conns i).serve = .disconnect) : Closes i (t, after) := by
    have stepped : (t.conns i).step t.hdr t.payload .disconnect =
        some { (t.conns i).shut with serve := .close } := if_pos disconnect
    exact held.closes_by (by rw [disconnect]; rfl) stepped (by simp) close
  cases pc : (s.conns i).serve with
  | flush =>
      have stepped : (s.conns i).step s.hdr s.payload .flush =
          some { s.conns i with serve := .disconnect } := if_pos ⟨pc, heard pc⟩
      exact held.closes_by ending stepped (by simp) disconnect
  | disconnect => exact disconnect s h held pc
  | close => exact close s h held pc
  | leave => exact leave s h held pc
  | finished => exact closes_finished pc
  | _ =>
      rw [pc] at ending
      cases ending

/-- A request cut off by the client going away ends the loop. -/
theorem Watched.closes_cut (held : Watched out i s h) {got : List Byte}
    (request : (s.conns i).serve = .request got) (drained : (s.conns i).toServer = [])
    (gone : (s.conns i).peerOpen = false) : Closes i (s, h) := by
  have stepped : (s.conns i).step s.hdr s.payload (.read .failed) =
      some { s.conns i with serve := .flush } := by
    simp only [Conn.step, request, ↓reduceIte]
  obtain ⟨q, taken, moved⟩ := observed_own (h := h) stepped (by simp)
  have fine : Unfailing i (s, h) (.serve i (.read .failed)) ∧
      (out → ReadsOut i (s, h) (.serve i (.read .failed))) := by
    rw [Unfailing, servedBy_serve]
    exact ⟨by simp, fun _ _ => ⟨drained, gone⟩⟩
  have next := watched_step (s, h) _ q held fine taken
  have written : q.2.written = h.written := by
    obtain ⟨t, after⟩ := q
    obtain ⟨_, noted⟩ := recording_some taken
    rw [noted, History.note, servedBy_serve]
    simp only [History.advance]
    rw [moved, List.drop_length, List.append_nil]
  have left : (q.1.conns i).peerOpen = false := by
    rw [moved]
    exact gone
  apply closes_cons taken (by simp) written
  exact next.closes (by rw [moved]; rfl) fun _ => .inr left

/-- Every run of the system is observed, and what is observed does not change it. -/
theorem observed_of_run (i : Nat) (actions : List (Action P C)) {t : State P C}
    (ends : run step (State.initial P C) actions = some t) :
    ∃ h, run (observed i) (State.initial P C, History.empty) actions = some (t, h) := by
  have same := run_recording step (History.note i) actions (State.initial P C) History.empty
  rw [ends] at same
  obtain ⟨⟨u, h⟩, found, last⟩ := Option.map_eq_some_iff.mp same
  subst last
  exact ⟨h, found⟩

end Closing

end Runs

def threeBytes : Frame := ⟨{ FrameHeader.zero with byteLength := 3#32 }, [7, 8, 9], rfl⟩

/-- One request in two pieces, then a single byte before the client goes away. -/
def cutSession : List (Action Unit Unit) :=
  [.owner .start, .accept .test, .accept (.create true), .outside (.dial 0),
    .accept (.connected true), .accept .recheck, .publish () (.call threeBytes),
    .publish () .lock, .publish () .copyHdr, .publish () .stampMagic, .publish () .stampVersion,
    .publish () .assign, .publish () .unlock, .serve 0 .enter, .outside (.send 0 [82, 69]),
    .serve 0 (.read (.moved 4)), .outside (.send 0 [81, 49, 120]), .serve 0 (.read (.moved 2)),
    .serve 0 .lock, .serve 0 .copyHdr, .serve 0 .copyPayload, .serve 0 .unlock,
    .serve 0 (.write (.moved 20)), .serve 0 (.write (.moved 48)), .serve 0 (.write (.moved 3)),
    .outside (.hangUp 0), .serve 0 (.read (.moved 4)), .serve 0 (.read .failed), .serve 0 .flush,
    .serve 0 .disconnect, .serve 0 .close, .serve 0 .leave]

end Obs2Mf.Pipe
