import Obs2Mf.Foundation.Transfer
import Obs2Mf.Pipe.Frame

set_option autoImplicit false

/- The media source's end of the pipe, against a peer that may send anything. -/
namespace Obs2Mf.Pipe

open Transfer

/-- One end of an open connection: the bytes its peer has for it, the bytes
written to it, and how the pipe cuts each of the two. -/
structure Link where
  incoming : List Byte
  outgoing : List Byte
  reads : List Call
  writes : List Call
  deriving DecidableEq, Repr

namespace Link

/-- `ReadExact`: the bytes stored in the buffer, whether all `n` came, and the link after. -/
def readExact (n : Nat) (link : Link) : Bool × List Byte × Link :=
  let r := exactly n link.reads [] link.incoming
  (r.ok, r.done, { link with incoming := r.rest, reads := r.calls })

/-- `WriteExact`: whether all of the buffer went out, and the link after. -/
def writeExact (bytes : List Byte) (link : Link) : Bool × Link :=
  let r := exactly bytes.length link.writes [] bytes
  (r.ok, { link with outgoing := link.outgoing ++ r.done, writes := r.calls })

theorem readExact_ok (n : Nat) (link : Link) (success : (link.readExact n).1 = true) :
    (link.readExact n).2.1 = link.incoming.take n ∧ n ≤ link.incoming.length := by
  have moved := exactly_ok n link.reads link.incoming success
  exact ⟨moved.1, moved.2.2⟩

end Link

/-- `_pipe`, absent while it is `INVALID_HANDLE_VALUE`, and what the next
`CreateFileW` calls will answer. -/
structure FramePipeClient where
  pipe : Option Link
  dial : List (Option Link)
  deriving DecidableEq, Repr

/-- What `Fetch` returns, and its two output parameters. -/
structure Fetched where
  ok : Bool
  client : FramePipeClient
  hdr : FrameHeader
  payload : List Byte
  deriving DecidableEq, Repr

namespace FramePipeClient

def ensureConnected (c : FramePipeClient) : Option Link × List (Option Link) :=
  match c.pipe with
  | some link => (some link, c.dial)
  | none =>
      match c.dial with
      | [] => (none, [])
      | answer :: dial => (answer, dial)

/-- The first bytes of a buffer replaced by those a read stored in it. -/
def overlay (stored buffer : List Byte) : List Byte := stored ++ buffer.drop stored.length

/-- `std::vector::resize`. -/
def resize (n : Nat) (buffer : List Byte) : List Byte :=
  buffer.take n ++ List.replicate (n - buffer.length) 0

def fetch (c : FramePipeClient) (hdr : FrameHeader) (payload : List Byte) : Fetched :=
  match c.ensureConnected with
  | (none, dial) => ⟨false, ⟨none, dial⟩, hdr, payload⟩
  | (some link, dial) =>
      -- `Close` drops the link; the next call starts with another `CreateFileW`.
      let closed : FramePipeClient := ⟨none, dial⟩
      let (sent, link) := link.writeExact requestBytes
      if !sent then ⟨false, closed, hdr, payload⟩ else
      let (received, head, link) := link.readExact FrameHeader.size
      let hdr := FrameHeader.decode (overlay head hdr.encode)
      if !received then ⟨false, closed, hdr, payload⟩ else
      if hdr.magic ≠ kFrameMagic then ⟨false, closed, hdr, payload⟩ else
      if hdr.byteLength ≠ 0#32 then
        let (complete, body, link) := link.readExact hdr.byteLength.toNat
        let payload := overlay body (resize hdr.byteLength.toNat payload)
        if !complete then ⟨false, closed, hdr, payload⟩
        else ⟨hdr.valid, ⟨some link, dial⟩, hdr, payload⟩
      else ⟨hdr.valid, ⟨some link, dial⟩, hdr, []⟩

@[simp] theorem resize_length (n : Nat) (buffer : List Byte) : (resize n buffer).length = n := by
  simp only [resize, List.length_append, List.length_take, List.length_replicate]
  omega

theorem overlay_full (stored buffer : List Byte) (full : buffer.length ≤ stored.length) :
    overlay stored buffer = stored := by
  rw [overlay, List.drop_eq_nil_of_le full, List.append_nil]

/-- A fetch that returns true hands over a payload of exactly the announced length. -/
theorem fetch_payload_length (c : FramePipeClient) (hdr : FrameHeader) (payload : List Byte)
    (success : (c.fetch hdr payload).ok = true) :
    (c.fetch hdr payload).payload.length = (c.fetch hdr payload).hdr.byteLength.toNat := by
  unfold fetch at success ⊢
  split at success
  · cases success
  · rename_i link dial _
    dsimp only at success ⊢
    split at success
    · cases success
    · rename_i sent
      rw [if_neg sent]
      split at success
      · cases success
      · rename_i received
        rw [if_neg received]
        split at success
        · cases success
        · rename_i magic
          rw [if_neg magic]
          split at success
          · rename_i present
            rw [if_pos present]
            split at success
            · cases success
            · rename_i complete
              rw [if_neg complete]
              have moved := Link.readExact_ok _ _ (by simpa using complete)
              dsimp only
              rw [moved.1, overlay_full]
              · rw [List.length_take]; omega
              · rw [resize_length, List.length_take]; omega
          · rename_i absent
            rw [if_neg absent]
            have zero := Decidable.not_not.mp absent
            dsimp only
            rw [zero]
            rfl

/-- Any header the client accepts, with any payload of the announced length, is a
reply that a peer can get across. -/
theorem fetch_reply (dial : List (Option Link)) (old new : FrameHeader) (buffer payload : List Byte)
    (magic : new.magic = kFrameMagic) (sized : payload.length = new.byteLength.toNat)
    (present : new.byteLength ≠ 0#32) :
    fetch ⟨some ⟨replyBytes new payload, [], [.moved 48, .moved new.byteLength.toNat], [.moved 4]⟩,
        dial⟩ old buffer =
      ⟨new.valid, ⟨some ⟨[], requestBytes, [], []⟩, dial⟩, new, payload⟩ := by
  have positive : 0 < new.byteLength.toNat := by
    apply Nat.pos_of_ne_zero
    intro zero
    exact present (BitVec.eq_of_toNat_eq zero)
  have sent := exactly_whole 4 [] requestBytes [] requestBytes_length (by decide)
  have head := exactly_whole 48 [.moved new.byteLength.toNat] new.encode payload
    (FrameHeader.encode_length new) (by decide)
  have body := exactly_whole new.byteLength.toNat [] payload [] sized positive
  rw [List.append_nil] at sent body
  have stored : FrameHeader.decode (overlay new.encode old.encode) = new := by
    rw [overlay_full _ _ (by simp only [FrameHeader.encode_length, Nat.le_refl]),
      FrameHeader.decode_encode]
  have filled : overlay payload (resize new.byteLength.toNat buffer) = payload :=
    overlay_full _ _ (by simp only [resize_length, sized, Nat.le_refl])
  simp only [fetch, ensureConnected, Link.writeExact, Link.readExact, requestBytes_length, sent,
    replyBytes, head, stored, magic, body, filled, present, List.nil_append, Bool.not_true,
    Bool.false_eq_true, ↓reduceIte, ne_eq, not_true_eq_false, not_false_eq_true]

end FramePipeClient

end Obs2Mf.Pipe
