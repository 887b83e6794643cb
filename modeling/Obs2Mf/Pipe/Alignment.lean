import Obs2Mf.Foundation.Run
import Obs2Mf.Pipe.Client

set_option autoImplicit false

/- Where on a connection the client reads its headers, when the peer may send anything. -/
namespace Obs2Mf.Pipe

open Run
open Transfer

/-- What a peer has to send for a `Fetch` to be content: a header with the right magic, and
behind it as many bytes as it announces. -/
structure Reply where
  head : List Byte
  body : List Byte
  whole : head.length = FrameHeader.size
  magic : (FrameHeader.decode head).magic = kFrameMagic
  sized : body.length = (FrameHeader.decode head).byteLength.toNat

def Reply.header (r : Reply) : FrameHeader := FrameHeader.decode r.head

def Reply.bytes (r : Reply) : List Byte := r.head ++ r.body

/-- A header over whose first bytes others are stored. -/
def stored (head : List Byte) (hdr : FrameHeader) : FrameHeader :=
  FrameHeader.decode (FramePipeClient.overlay head hdr.encode)

/-- How a `Fetch` ends: without a connection, by dropping the one it had, or after a
whole exchange on it. What it takes for a header is the front of what was unread. -/
inductive Fetches (c : FramePipeClient) (hdr : FrameHeader) : Fetched → Prop where
  | unreachable (dial : List (Option Link)) (payload : List Byte)
      (connected : c.ensureConnected = (none, dial)) :
      Fetches c hdr ⟨false, ⟨none, dial⟩, hdr, payload⟩
  | dropped (link : Link) (dial : List (Option Link)) (head rest payload : List Byte)
      (connected : c.ensureConnected = (some link, dial)) (front : link.incoming = head ++ rest)
      (room : head.length ≤ FrameHeader.size) :
      Fetches c hdr ⟨false, ⟨none, dial⟩, stored head hdr, payload⟩
  | exchanged (link after : Link) (dial : List (Option Link)) (reply : Reply)
      (connected : c.ensureConnected = (some link, dial))
      (consumed : link.incoming = reply.bytes ++ after.incoming)
      (requested : after.outgoing = link.outgoing ++ requestBytes) :
      Fetches c hdr ⟨reply.header.valid, ⟨some after, dial⟩, reply.header, reply.body⟩

namespace Link

variable {n : Nat} {link after : Link} {bytes : List Byte}

/-- A read takes bytes from the front and leaves the others. -/
theorem readExact_front {ok : Bool} (outcome : link.readExact n = (ok, bytes, after)) :
    bytes.length ≤ n ∧ link.incoming = bytes ++ after.incoming ∧
      after.outgoing = link.outgoing := by
  simp only [readExact, Prod.mk.injEq] at outcome
  obtain ⟨_, rfl, rfl⟩ := outcome
  exact ⟨exactly_length_le n link.reads [] link.incoming (Nat.zero_le n),
    (exactly_conserves n link.reads [] link.incoming).symm, rfl⟩

theorem readExact_full (outcome : link.readExact n = (true, bytes, after)) :
    bytes.length = n := by
  simp only [readExact, Prod.mk.injEq] at outcome
  obtain ⟨ok, rfl, _⟩ := outcome
  exact (exactly_ok_iff n link.reads [] link.incoming (Nat.zero_le n)).mp ok

theorem writeExact_full (outcome : link.writeExact bytes = (true, after)) :
    after.outgoing = link.outgoing ++ bytes ∧ after.incoming = link.incoming := by
  simp only [writeExact, Prod.mk.injEq] at outcome
  obtain ⟨ok, rfl⟩ := outcome
  have moved := exactly_ok bytes.length link.writes bytes ok
  refine ⟨?_, rfl⟩
  change link.outgoing ++ (exactly bytes.length link.writes [] bytes).done = _
  rw [moved.1, List.take_length]

end Link

namespace FramePipeClient

theorem stored_nil (hdr : FrameHeader) : stored [] hdr = hdr := by
  rw [stored, overlay, List.nil_append, List.length_nil, List.drop_zero,
    FrameHeader.decode_encode]

theorem stored_whole (head : List Byte) (hdr : FrameHeader)
    (whole : head.length = FrameHeader.size) : stored head hdr = FrameHeader.decode head := by
  rw [stored, overlay_full head _ (by rw [FrameHeader.encode_length, whole])]

theorem fetch_fetches (c : FramePipeClient) (hdr : FrameHeader) (payload : List Byte) :
    Fetches c hdr (c.fetch hdr payload) := by
  unfold fetch
  split
  · rename_i dial connected
    exact .unreachable dial payload connected
  · rename_i link dial connected
    rcases asking : link.writeExact requestBytes with ⟨sent, asked⟩
    cases sent with
    | false =>
        have unread : Fetches c hdr ⟨false, ⟨none, dial⟩, stored [] hdr, payload⟩ :=
          .dropped link dial [] link.incoming payload connected rfl (Nat.zero_le _)
        rw [stored_nil] at unread
        simp only [Bool.not_false, ↓reduceIte]
        exact unread
    | true =>
        obtain ⟨requested, unread⟩ := Link.writeExact_full asking
        simp only [Bool.not_true, Bool.false_eq_true, ↓reduceIte]
        rcases reading : asked.readExact FrameHeader.size with ⟨received, head, read⟩
        obtain ⟨room, front, kept⟩ := Link.readExact_front reading
        rw [unread] at front
        have drop (payload : List Byte) :
            Fetches c hdr ⟨false, ⟨none, dial⟩, stored head hdr, payload⟩ :=
          .dropped link dial head read.incoming payload connected front room
        cases received with
        | false =>
            simp only [Bool.not_false, ↓reduceIte]
            exact drop payload
        | true =>
            have whole := Link.readExact_full reading
            simp only [Bool.not_true, Bool.false_eq_true, ↓reduceIte]
            rw [show FrameHeader.decode (overlay head hdr.encode) = stored head hdr from rfl]
            split
            · exact drop payload
            · rename_i magic
              have magic := Decidable.not_not.mp magic
              have sent : read.outgoing = link.outgoing ++ requestBytes := kept.trans requested
              rw [stored_whole head hdr whole] at magic drop ⊢
              split
              · rcases filling : read.readExact (FrameHeader.decode head).byteLength.toNat with
                  ⟨complete, body, after⟩
                obtain ⟨_, behind, still⟩ := Link.readExact_front filling
                cases complete with
                | false =>
                    simp only [Bool.not_false, ↓reduceIte]
                    exact drop _
                | true =>
                    have sized := Link.readExact_full filling
                    simp only [Bool.not_true, Bool.false_eq_true, ↓reduceIte]
                    rw [overlay_full body _ (by rw [resize_length, sized])]
                    rw [behind, ← List.append_assoc] at front
                    exact .exchanged link after dial ⟨head, body, whole, magic, sized⟩ connected
                      front (still.trans sent)
              · rename_i absent
                have zero := Decidable.not_not.mp absent
                have none : ([] : List Byte).length =
                    (FrameHeader.decode head).byteLength.toNat := by
                  rw [zero]
                  rfl
                refine .exchanged link read dial ⟨head, [], whole, magic, none⟩ connected ?_ sent
                rw [front, Reply.bytes, List.append_nil]

/-- A `Fetch` with the caller's two buffers, of which only the connection stays. -/
def fetchStep (c : FramePipeClient) (buffers : FrameHeader × List Byte) : Option FramePipeClient :=
  some (c.fetch buffers.1 buffers.2).client

end FramePipeClient

/-- What a connection has seen since it was opened: whole replies, one for each request. -/
structure Between (origin link : Link) (replies : List Reply) : Prop where
  consumed : origin.incoming = replies.flatMap Reply.bytes ++ link.incoming
  requested : link.outgoing =
    origin.outgoing ++ (List.replicate replies.length requestBytes).flatten

namespace Between

theorem start (link : Link) : Between link link [] := ⟨rfl, (List.append_nil _).symm⟩

theorem next {origin link after : Link} {replies : List Reply} {reply : Reply}
    (between : Between origin link replies)
    (consumed : link.incoming = reply.bytes ++ after.incoming)
    (requested : after.outgoing = link.outgoing ++ requestBytes) :
    Between origin after (replies ++ [reply]) := by
  constructor
  · rw [between.consumed, consumed, List.flatMap_append, List.append_assoc,
      List.flatMap_singleton]
  · rw [requested, between.requested, List.length_append, List.length_singleton,
      List.replicate_succ', List.flatten_append, List.flatten_singleton, List.append_assoc]

end Between

/-- The connection is the last one that was opened, and stands between two replies. -/
def Opened (dial : List (Option Link)) (c : FramePipeClient) : Prop :=
  ∃ used, dial = used ++ c.dial ∧ ∀ link, c.pipe = some link →
    ∃ origin replies, used.getLast? = some (some origin) ∧ Between origin link replies

theorem Opened.connected {dial rest : List (Option Link)} {c : FramePipeClient} {link : Link}
    (opened : Opened dial c) (connected : c.ensureConnected = (some link, rest)) :
    ∃ used origin replies, dial = used ++ rest ∧ used.getLast? = some (some origin) ∧
      Between origin link replies ∧ (c.pipe = none → origin = link ∧ replies = []) := by
  obtain ⟨used, dialled, open_⟩ := opened
  unfold FramePipeClient.ensureConnected at connected
  cases pipe : c.pipe with
  | some kept =>
      simp only [pipe, Prod.mk.injEq, Option.some.injEq] at connected
      obtain ⟨rfl, rfl⟩ := connected
      obtain ⟨origin, replies, last, between⟩ := open_ kept pipe
      exact ⟨used, origin, replies, dialled, last, between, fun none => by cases none⟩
  | none =>
      cases answers : c.dial with
      | nil => simp only [pipe, answers, Prod.mk.injEq, reduceCtorEq, false_and] at connected
      | cons answer later =>
          simp only [pipe, answers, Prod.mk.injEq] at connected
          obtain ⟨rfl, rfl⟩ := connected
          refine ⟨used ++ [some link], link, [], ?_, ?_, .start link, fun _ => ⟨rfl, rfl⟩⟩
          · rw [dialled, answers, List.append_assoc]
            rfl
          · exact List.getLast?_concat

theorem Opened.closed {dial rest : List (Option Link)} {c : FramePipeClient} {answer : Option Link}
    (opened : Opened dial c) (connected : c.ensureConnected = (answer, rest)) :
    Opened dial ⟨none, rest⟩ := by
  obtain ⟨used, dialled, _⟩ := opened
  have asked : ∃ more, c.dial = more ++ rest := by
    unfold FramePipeClient.ensureConnected at connected
    cases pipe : c.pipe with
    | some kept =>
        simp only [pipe, Prod.mk.injEq] at connected
        exact ⟨[], connected.2⟩
    | none =>
        cases answers : c.dial with
        | nil =>
            simp only [pipe, answers, Prod.mk.injEq] at connected
            exact ⟨[], connected.2⟩
        | cons answer later =>
            simp only [pipe, answers, Prod.mk.injEq] at connected
            exact ⟨[answer], congrArg (answer :: ·) connected.2⟩
  obtain ⟨more, answers⟩ := asked
  refine ⟨used ++ more, ?_, fun link open_ => by cases open_⟩
  rw [dialled, answers, List.append_assoc]

/-- `Fetch` keeps it. -/
theorem Opened.fetch {dial : List (Option Link)} {c : FramePipeClient} (opened : Opened dial c)
    (hdr : FrameHeader) (payload : List Byte) : Opened dial (c.fetch hdr payload).client := by
  generalize same : c.fetch hdr payload = fetched
  have fetches := c.fetch_fetches hdr payload
  rw [same] at fetches
  cases fetches with
  | unreachable rest _ connected => exact opened.closed connected
  | dropped link rest _ _ _ connected => exact opened.closed connected
  | exchanged link after rest reply connected consumed requested =>
      obtain ⟨used, origin, replies, dialled, last, between, _⟩ := opened.connected connected
      refine ⟨used, dialled, fun now pipe => ?_⟩
      cases pipe
      exact ⟨origin, replies ++ [reply], last, between.next consumed requested⟩

/-- What is promised of a `Fetch` by a client that was given the answers `dial` to its
calls of `CreateFileW`. -/
structure InStep (dial : List (Option Link)) (c : FramePipeClient) (hdr : FrameHeader)
    (r : Fetched) : Prop where
  /-- The connection it works on is the last one that was opened, has seen whole replies
  and is new if there was none before. -/
  boundary : ∀ link rest, c.ensureConnected = (some link, rest) →
    ∃ used origin replies, dial = used ++ rest ∧ used.getLast? = some (some origin) ∧
      Between origin link replies ∧ (c.pipe = none → origin = link ∧ replies = [])
  /-- No other bytes than the next ones of that connection become part of the header. -/
  header : ∀ link rest, c.ensureConnected = (some link, rest) → ∃ head behind,
    link.incoming = head ++ behind ∧ head.length ≤ FrameHeader.size ∧ r.hdr = stored head hdr
  exchanged : ∀ after, r.client.pipe = some after → ∃ (link : Link) (rest : List (Option Link))
    (reply : Reply), c.ensureConnected = (some link, rest) ∧
      link.incoming = reply.bytes ++ after.incoming ∧
      after.outgoing = link.outgoing ++ requestBytes ∧ r.hdr = reply.header ∧
      r.payload = reply.body
  valid : r.ok = true → r.client.pipe.isSome = true ∧ r.hdr.valid = true
  fresh : r.client.pipe = none → r.ok = false ∧ ∀ link rest,
    r.client.ensureConnected = (some link, rest) → r.client.dial = some link :: rest

theorem ensureConnected_closed {dial rest : List (Option Link)} {link : Link}
    (connected : FramePipeClient.ensureConnected ⟨none, dial⟩ = (some link, rest)) :
    dial = some link :: rest := by
  cases dial with
  | nil => cases connected
  | cons answer later =>
      cases connected
      rfl

theorem inStep_of_opened {dial : List (Option Link)} {c : FramePipeClient}
    (opened : Opened dial c) (hdr : FrameHeader) (payload : List Byte) :
    InStep dial c hdr (c.fetch hdr payload) := by
  have boundary : ∀ link rest, c.ensureConnected = (some link, rest) → _ :=
    fun link rest connected => opened.connected connected
  generalize same : c.fetch hdr payload = fetched
  have fetches := c.fetch_fetches hdr payload
  rw [same] at fetches
  cases fetches with
  | unreachable rest _ connected =>
      refine ⟨boundary, ?_, ?_, ?_, ?_⟩
      · intro link _ other
        rw [connected] at other
        cases other
      · intro after open_
        cases open_
      · intro valid
        cases valid
      · intro _
        exact ⟨rfl, fun _ _ => ensureConnected_closed⟩
  | dropped link rest head behind _ connected front room =>
      refine ⟨boundary, ?_, ?_, ?_, ?_⟩
      · intro other _ again
        rw [connected] at again
        cases again
        exact ⟨head, behind, front, room, rfl⟩
      · intro after open_
        cases open_
      · intro valid
        cases valid
      · intro _
        exact ⟨rfl, fun _ _ => ensureConnected_closed⟩
  | exchanged link after rest reply connected consumed requested =>
      refine ⟨boundary, ?_, ?_, ?_, ?_⟩
      · intro other _ again
        rw [connected] at again
        cases again
        refine ⟨reply.head, reply.body ++ after.incoming, ?_, Nat.le_of_eq reply.whole, ?_⟩
        · rw [consumed, Reply.bytes, List.append_assoc]
        · exact (FramePipeClient.stored_whole reply.head hdr reply.whole).symm
      · intro now open_
        cases open_
        exact ⟨link, rest, reply, connected, consumed, requested, rfl, rfl⟩
      · intro valid
        exact ⟨rfl, valid⟩
      · intro closed
        cases closed

/-- Whatever the peers send and however the pipes cut it: over any number of fetches no
header is read from anywhere but the front of a reply. -/
theorem fetch_inStep (dial : List (Option Link)) (calls : List (FrameHeader × List Byte))
    (c : FramePipeClient) (ends : run FramePipeClient.fetchStep ⟨none, dial⟩ calls = some c)
    (hdr : FrameHeader) (payload : List Byte) : InStep dial c hdr (c.fetch hdr payload) := by
  apply inStep_of_opened
  have start : Opened dial ⟨none, dial⟩ := ⟨[], rfl, fun link open_ => by cases open_⟩
  apply invariant_run _ calls _ c start ends
  intro s buffers t opened taken
  cases taken
  exact opened.fetch buffers.1 buffers.2

/-- A connection that has a reply of two bytes, in pieces, and then a header of zeros;
and another one. -/
def stuttering : List (Option Link) :=
  [some ⟨replyBytes { FrameHeader.zero with magic := kFrameMagic, byteLength := 2#32 } [1, 2] ++
      List.replicate 48 0, [], [.moved 20, .moved 30, .moved 1, .moved 5, .moved 48],
      [.moved 4, .moved 3, .moved 1]⟩,
    some ⟨[], [], [], []⟩]

theorem stuttering_inStep :
    ∃ c, run FramePipeClient.fetchStep ⟨none, stuttering⟩ [(FrameHeader.zero, [])] = some c ∧
      c.pipe.isSome = true ∧ (c.fetch FrameHeader.zero []).client.pipe = none ∧
      InStep stuttering c FrameHeader.zero (c.fetch FrameHeader.zero []) := by
  refine ⟨_, rfl, by decide, by decide, ?_⟩
  exact fetch_inStep stuttering [(FrameHeader.zero, [])] _ rfl FrameHeader.zero []

end Obs2Mf.Pipe
