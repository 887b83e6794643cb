import Obs2Mf.Foundation.Copies
import Obs2Mf.Hresult
import Obs2Mf.Pipe.Client

set_option autoImplicit false

/- The media source's frame generator: a fetched frame is copied row by row into
the locked sample buffer, and a local pattern stands in when there is none. -/
namespace Obs2Mf.Vcam

open Copies
open Pipe

structure FrameGenerator where
  width : BitVec 32
  height : BitVec 32
  frame : BitVec 64
  pipe : FramePipeClient
  pipeBuf : List Byte
  deriving DecidableEq, Repr

/-- The locked destination: its bytes counted from the first scanline, and its pitch. -/
structure Locked where
  scanline : Int → Byte
  pitch : Int

/-- What one call leaves: its status, whether a live frame was served, the block
copies it made and the bytes of the destination. -/
structure Generated where
  hr : HRESULT
  served : Bool
  generator : FrameGenerator
  copies : List Copy
  scanline : Int → Byte

namespace FrameGenerator

/-- `(size_t)_width * _height * 3 / 2`; the products are taken modulo `2^64`. -/
def frameSize (g : FrameGenerator) : Nat :=
  g.width.toNat * g.height.toNat * 3 % 2 ^ 64 / 2

/-- What a fetched frame must pass before it is copied. -/
def accepts (g : FrameGenerator) (fh : FrameHeader) (buf : List Byte) : Bool :=
  fh.fourcc = kFourccNV12 && fh.width = g.width && fh.height = g.height &&
    decide (g.frameSize ≤ buf.length)

/-- `fh.stride ? fh.stride : fh.width`. -/
def srcStride (fh : FrameHeader) : Nat :=
  (if fh.stride ≠ 0#32 then fh.stride else fh.width).toNat

/-- The two row loops: luma, then chroma right behind it on both sides. -/
def rowCopies (g : FrameGenerator) (fh : FrameHeader) (pitch : Int) : List Copy :=
  rows g.height.toNat 0 pitch 0 (srcStride fh) g.width.toNat ++
    rows (g.height.toNat / 2) (pitch * g.height.toNat) pitch
      (srcStride fh * g.height.toNat) (srcStride fh) g.width.toNat

/-- `heap` is memory from the start of the payload on; its bytes past the
payload's end are whatever lies there. -/
def heapAt (payload : List Byte) (beyond : Nat → Byte) : Nat → Byte :=
  fun i => payload.getD i (beyond i)

def generate (fallback : FrameGenerator → Locked → HRESULT × (Int → Byte))
    (beyond : Nat → Byte) (g : FrameGenerator) (lock : Except HRESULT Locked) : Generated :=
  match lock with
  | .error hr => ⟨hr, false, g, [], fun _ => 0⟩
  | .ok dst =>
      let fetched := g.pipe.fetch .zero g.pipeBuf
      let g := { g with pipe := fetched.client, pipeBuf := fetched.payload }
      if fetched.ok && g.accepts fetched.hdr fetched.payload then
        let copies := g.rowCopies fetched.hdr dst.pitch
        ⟨.sOk, true, { g with frame := g.frame + 1 }, copies,
          applyCopies (heapAt fetched.payload beyond) dst.scanline copies⟩
      else
        let (hr, scanline) := fallback g dst
        ⟨hr, false, { g with frame := if hr.succeeded then g.frame + 1 else g.frame }, [],
          scanline⟩

theorem generate_pipe (fallback : FrameGenerator → Locked → HRESULT × (Int → Byte))
    (beyond : Nat → Byte) (g : FrameGenerator) (dst : Locked) :
    (generate fallback beyond g (.ok dst)).generator.pipe =
      (g.pipe.fetch .zero g.pipeBuf).client := by
  unfold generate
  dsimp only
  split <;> rfl

/-- One past the last byte that the row loops read for this header. -/
def reach (g : FrameGenerator) (fh : FrameHeader) : Nat :=
  (g.height.toNat + g.height.toNat / 2 - 1) * srcStride fh + g.width.toNat

private theorem last_row (width height stride size : Nat) :
    ((width = 0 ∨ height = 0 ∨ 0 + (height - 1) * stride + width ≤ size) ∧
      (width = 0 ∨ height / 2 = 0 ∨
        stride * height + (height / 2 - 1) * stride + width ≤ size)) ↔
      width = 0 ∨ height = 0 ∨ (height + height / 2 - 1) * stride + width ≤ size := by
  by_cases none : height / 2 = 0
  · have single : height + height / 2 - 1 = height - 1 := by omega
    rw [single]
    omega
  · have split : (height + height / 2 - 1) * stride =
        stride * height + (height / 2 - 1) * stride := by
      rw [show height + height / 2 - 1 = height + (height / 2 - 1) by omega, Nat.add_mul,
        Nat.mul_comm height]
    have luma : (height - 1) * stride ≤ stride * height := by
      rw [Nat.mul_comm stride]
      exact Nat.mul_le_mul_right stride (by omega)
    rw [split]
    omega

/-- The row loops stay inside a payload exactly when the last row does. -/
theorem rowCopies_readsWithin_iff (g : FrameGenerator) (fh : FrameHeader) (pitch : Int)
    (size : Nat) :
    (∀ copy ∈ g.rowCopies fh pitch, copy.ReadsWithin size) ↔
      g.width.toNat = 0 ∨ g.height.toNat = 0 ∨ g.reach fh ≤ size := by
  simp only [rowCopies, List.mem_append, or_imp, forall_and, rows_readsWithin_iff, reach]
  exact last_row _ _ _ _

theorem accepts_iff (g : FrameGenerator) (fh : FrameHeader) (buf : List Byte) :
    g.accepts fh buf = true ↔ fh.fourcc = kFourccNV12 ∧ fh.width = g.width ∧
      fh.height = g.height ∧ g.frameSize ≤ buf.length := by
  simp only [accepts, Bool.and_eq_true, decide_eq_true_eq, and_assoc]

section Reads

variable (fallback : FrameGenerator → Locked → HRESULT × (Int → Byte)) (beyond : Nat → Byte)

/-- A live frame is copied only after the guard, out of a payload of the length
the header announces. -/
theorem generate_served (g : FrameGenerator) (lock : Except HRESULT Locked)
    (served : (generate fallback beyond g lock).served = true) :
    (generate fallback beyond g lock).generator.pipeBuf.length =
        (g.pipe.fetch .zero g.pipeBuf).hdr.byteLength.toNat ∧
      ∃ pitch, (generate fallback beyond g lock).copies =
        g.rowCopies (g.pipe.fetch .zero g.pipeBuf).hdr pitch := by
  unfold generate at served ⊢
  cases lock with
  | error hr => cases served
  | ok dst =>
      dsimp only at served ⊢
      split at served
      · rename_i live
        rw [if_pos live]
        have fetched := (Bool.and_eq_true_iff.mp live).1
        exact ⟨FramePipeClient.fetch_payload_length g.pipe .zero g.pipeBuf fetched,
          dst.pitch, rfl⟩
      · cases served

/-- The live path reads inside the received payload exactly when the header's
stride lets the last row end there. The guard does not look at the stride. -/
theorem generate_reads_within_iff (g : FrameGenerator) (lock : Except HRESULT Locked) :
    let shot := generate fallback beyond g lock
    let fh := (g.pipe.fetch .zero g.pipeBuf).hdr
    (shot.served = true →
        ∀ copy ∈ shot.copies, copy.ReadsWithin shot.generator.pipeBuf.length) ↔
      (shot.served = true →
        g.width.toNat = 0 ∨ g.height.toNat = 0 ∨ g.reach fh ≤ fh.byteLength.toNat) := by
  dsimp only
  constructor
  · intro inside served
    obtain ⟨size, pitch, copies⟩ := generate_served fallback beyond g lock served
    have within := inside served
    rw [copies, size] at within
    exact (rowCopies_readsWithin_iff g _ pitch _).mp within
  · intro bound served
    obtain ⟨size, pitch, copies⟩ := generate_served fallback beyond g lock served
    rw [copies, size]
    exact (rowCopies_readsWithin_iff g _ pitch _).mpr (bound served)

/-- A client whose peer has one whole reply ready. -/
def replying (hdr : FrameHeader) (payload : List Byte) : FramePipeClient :=
  ⟨some ⟨replyBytes hdr payload, [], [.moved 48, .moved hdr.byteLength.toNat], [.moved 4]⟩, []⟩

/-- A reply that passes the guard and whose last row ends past its payload. -/
theorem generate_overreads (g : FrameGenerator) (hdr : FrameHeader) (payload : List Byte)
    (dst : Locked) (peer : g.pipe = replying hdr payload) (magic : hdr.magic = kFrameMagic)
    (sized : payload.length = hdr.byteLength.toNat) (present : hdr.byteLength ≠ 0#32)
    (valid : hdr.valid = true) (accepted : g.accepts hdr payload = true)
    (misfit : ¬ (g.width.toNat = 0 ∨ g.height.toNat = 0 ∨ g.reach hdr ≤ hdr.byteLength.toNat)) :
    let shot := generate fallback beyond g (.ok dst)
    shot.served = true ∧
      ∃ copy ∈ shot.copies, ¬ copy.ReadsWithin shot.generator.pipeBuf.length := by
  have fetched := FramePipeClient.fetch_reply [] .zero hdr g.pipeBuf payload magic sized present
  have live : (generate fallback beyond g (.ok dst)).served = true := by
    unfold generate
    dsimp only
    rw [peer, replying, fetched]
    dsimp only
    rw [if_pos]
    exact Bool.and_eq_true_iff.mpr ⟨valid, accepted⟩
  refine ⟨live, ?_⟩
  apply Classical.byContradiction
  intro inside
  apply misfit
  have bound := (generate_reads_within_iff fallback beyond g (.ok dst)).mp (by
    intro _ copy member
    apply Classical.byContradiction
    intro outside
    exact inside ⟨copy, member, outside⟩) live
  rw [peer, replying, fetched] at bound
  exact bound

end Reads

/-- A reply for a 1280x720 generator: a payload of the right size for a tightly
packed frame under a header that claims a stride of two widths. -/
def wideHeader : FrameHeader :=
  { FrameHeader.zero with
    magic := kFrameMagic, version := kProtoVersion, fourcc := kFourccNV12, width := 1280,
    height := 720, stride := 2560, byteLength := 1382400, flags := flag_valid }

/-- The last luma row starts at byte 1840640 of a payload of 1382400 bytes. -/
theorem generate_overreads_wide_stride :
    let g : FrameGenerator := ⟨1280, 720, 0, replying wideHeader (List.replicate 1382400 0), []⟩
    let shot := generate (fun _ dst => (.sOk, dst.scanline)) (fun _ => 0) g (.ok ⟨fun _ => 0, 1280⟩)
    shot.served = true ∧
      ∃ copy ∈ shot.copies, ¬ copy.ReadsWithin shot.generator.pipeBuf.length := by
  have sized := @List.length_replicate _ 1382400 (0 : Byte)
  refine generate_overreads _ _ _ wideHeader (List.replicate 1382400 0) _ rfl rfl ?_ (by decide)
    (by decide) ?_ ?_
  · rw [sized]
    decide
  · rw [accepts_iff, sized]
    exact ⟨rfl, rfl, rfl, by decide⟩
  · decide

/-- A packed frame: as large as the generator's picture, its rows one after another. -/
structure Tight (g : FrameGenerator) (fh : FrameHeader) (payload : List Byte) : Prop where
  fourcc : fh.fourcc = kFourccNV12
  width : fh.width = g.width
  height : fh.height = g.height
  stride : fh.stride = g.width
  whole : g.width.toNat * g.height.toNat * 3 / 2 ≤ payload.length

section Tight

variable {g : FrameGenerator} {fh : FrameHeader} {payload : List Byte}

theorem Tight.srcStride (tight : g.Tight fh payload) :
    FrameGenerator.srcStride fh = g.width.toNat := by
  unfold FrameGenerator.srcStride
  split
  · rw [tight.stride]
  · rw [tight.width]

theorem Tight.accepts (tight : g.Tight fh payload) : g.accepts fh payload = true := by
  rw [accepts_iff]
  refine ⟨tight.fourcc, tight.width, tight.height, ?_⟩
  have wrapped := Nat.mod_le (g.width.toNat * g.height.toNat * 3) (2 ^ 64)
  have half : g.frameSize ≤ g.width.toNat * g.height.toNat * 3 / 2 := Nat.div_le_div_right wrapped
  exact Nat.le_trans half tight.whole

/-- Being packed is a matter of the generator's size alone. -/
theorem Tight.refetched (tight : g.Tight fh payload) (pipe : FramePipeClient) (buf : List Byte) :
    Tight { g with pipe := pipe, pipeBuf := buf } fh payload :=
  ⟨tight.fourcc, tight.width, tight.height, tight.stride, tight.whole⟩

/-- The two loops are one loop over the rows of both planes. -/
theorem rowCopies_eq (g : FrameGenerator) (fh : FrameHeader) (pitch : Int) :
    g.rowCopies fh pitch = rows (g.height.toNat + g.height.toNat / 2) 0 pitch 0
      (FrameGenerator.srcStride fh) g.width.toNat := by
  have planes := rows_append g.height.toNat (g.height.toNat / 2) 0 pitch 0
    (FrameGenerator.srcStride fh) g.width.toNat
  rw [← planes, rowCopies, Int.zero_add, Nat.zero_add, Int.mul_comm pitch,
    Nat.mul_comm (FrameGenerator.srcStride fh)]

/-- Every row of both planes starts inside the payload and ends there. -/
theorem Tight.inside (tight : g.Tight fh payload) {y x : Nat}
    (below : y < g.height.toNat + g.height.toNat / 2) (right : x < g.width.toNat) :
    y * g.width.toNat + x < payload.length := by
  have whole := tight.whole
  have area : y * g.width.toNat + g.width.toNat ≤
      (g.height.toNat + g.height.toNat / 2) * g.width.toNat := by
    rw [← Nat.succ_mul]
    exact Nat.mul_le_mul_right _ below
  have planes : (g.height.toNat + g.height.toNat / 2) * g.width.toNat ≤
      g.width.toNat * g.height.toNat * 3 / 2 := by
    have half : g.height.toNat / 2 * g.width.toNat * 2 ≤ g.width.toNat * g.height.toNat := by
      calc g.height.toNat / 2 * g.width.toNat * 2
          = g.width.toNat * (g.height.toNat / 2 * 2) := by
            rw [Nat.mul_comm (g.height.toNat / 2), Nat.mul_assoc]
        _ ≤ g.width.toNat * g.height.toNat :=
            Nat.mul_le_mul_left _ (Nat.div_mul_le_self g.height.toNat 2)
    rw [Nat.add_mul, Nat.mul_comm g.height.toNat]
    omega
  omega

end Tight

/-- A packed frame arrives row by row, luma then chroma, and touches nothing else. The
rows end inside any buffer that is as long as its pitch makes a picture. -/
theorem generate_copies_tight (fallback : FrameGenerator → Locked → HRESULT × (Int → Byte))
    (beyond : Nat → Byte) (g : FrameGenerator) (dst : Locked)
    (fetched : (g.pipe.fetch .zero g.pipeBuf).ok = true)
    (tight : g.Tight (g.pipe.fetch .zero g.pipeBuf).hdr (g.pipe.fetch .zero g.pipeBuf).payload)
    (pitch : (g.width.toNat : Int) ≤ dst.pitch) :
    let shot := generate fallback beyond g (.ok dst)
    let payload := (g.pipe.fetch .zero g.pipeBuf).payload
    shot.hr = .sOk ∧ shot.served = true ∧
      (∀ y x : Nat, y < g.height.toNat * 3 / 2 → x < g.width.toNat →
        payload[y * g.width.toNat + x]? = some (shot.scanline (y * dst.pitch + x))) ∧
      (∀ address, (∀ y x : Nat, y < g.height.toNat * 3 / 2 → x < g.width.toNat →
        address ≠ y * dst.pitch + x) → shot.scanline address = dst.scanline address) ∧
      ∀ length : Int, dst.pitch * g.height.toNat * 3 / 2 ≤ length →
        ∀ y x : Nat, y < g.height.toNat * 3 / 2 → x < g.width.toNat →
          y * dst.pitch + x < length := by
  have planes : g.height.toNat * 3 / 2 = g.height.toNat + g.height.toNat / 2 := by omega
  have live : ((g.pipe.fetch .zero g.pipeBuf).ok && FrameGenerator.accepts
      { g with
        pipe := (g.pipe.fetch .zero g.pipeBuf).client
        pipeBuf := (g.pipe.fetch .zero g.pipeBuf).payload }
      (g.pipe.fetch .zero g.pipeBuf).hdr (g.pipe.fetch .zero g.pipeBuf).payload) = true :=
    Bool.and_eq_true_iff.mpr ⟨fetched, (tight.refetched _ _).accepts⟩
  dsimp only [generate]
  rw [if_pos live, planes]
  refine ⟨rfl, rfl, ?_, ?_, ?_⟩
  · intro y x below right
    have inside := tight.inside below right
    have copied := applyCopies_rows_inside
      (heapAt (g.pipe.fetch .zero g.pipeBuf).payload beyond) dst.scanline 0 0
      (FrameGenerator.srcStride (g.pipe.fetch .zero g.pipeBuf).hdr) pitch below right
    rw [Int.zero_add, Nat.zero_add, tight.srcStride] at copied
    dsimp only
    rw [rowCopies_eq, tight.srcStride]
    show _ = some (applyCopies _ _ (rows _ 0 dst.pitch 0 g.width.toNat g.width.toNat) _)
    rw [copied, heapAt, List.getD_eq_getElem?_getD, List.getElem?_eq_getElem inside,
      Option.getD_some]
  · intro address outside
    dsimp only
    rw [rowCopies_eq]
    apply applyCopies_rows_outside
    intro y x below right
    rw [Int.zero_add]
    exact outside y x below right
  · intro length long y x below right
    have last : ((y + 1 : Nat) : Int) * dst.pitch ≤
        ((g.height.toNat + g.height.toNat / 2 : Nat) : Int) * dst.pitch :=
      Int.mul_le_mul_of_nonneg_right (by omega) (by omega)
    have half : ((g.height.toNat / 2 * 2 : Nat) : Int) * dst.pitch ≤
        (g.height.toNat : Int) * dst.pitch :=
      Int.mul_le_mul_of_nonneg_right (by omega) (by omega)
    rw [Int.natCast_add, Int.add_mul] at last
    rw [Int.natCast_add, Int.add_mul] at last
    rw [Int.natCast_mul, Int.mul_right_comm] at half
    rw [Int.mul_comm dst.pitch] at long
    omega

/-- A frame of two by two into rows of three bytes. -/
def smallHeader : FrameHeader :=
  { FrameHeader.zero with
    magic := kFrameMagic, version := kProtoVersion, fourcc := kFourccNV12, width := 2,
    height := 2, stride := 2, byteLength := 6, flags := flag_valid }

theorem generate_copies_small :
    let g : FrameGenerator := ⟨2, 2, 0, replying smallHeader [1, 2, 3, 4, 5, 6], []⟩
    let shot := generate (fun _ dst => (.sOk, dst.scanline)) (fun _ => 0) g (.ok ⟨fun _ => 9, 3⟩)
    shot.hr = .sOk ∧ shot.served = true ∧
      [0, 1, 2, 3, 4, 5, 6, 7, 8, 9].map shot.scanline = [1, 2, 9, 3, 4, 9, 5, 6, 9, 9] := by
  have shot := generate_copies_tight (fun _ dst => (.sOk, dst.scanline)) (fun _ => 0)
    ⟨2, 2, 0, replying smallHeader [1, 2, 3, 4, 5, 6], []⟩ ⟨fun _ => 9, 3⟩ (by decide)
    ⟨by decide, by decide, by decide, by decide, by decide⟩ (by decide)
  exact ⟨shot.1, shot.2.1, by decide⟩

end FrameGenerator

end Obs2Mf.Vcam
