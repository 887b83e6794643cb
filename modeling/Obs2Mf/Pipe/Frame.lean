import Obs2Mf.Foundation.Bytes

set_option autoImplicit false

/- The frame transport's wire format: constants, the packed header and replies. -/
namespace Obs2Mf.Pipe

open Bytes

abbrev Byte := UInt8

def kFrameMagic : BitVec 32 := 0x314D424F#32
def kRequestMagic : BitVec 32 := 0x31514552#32
def kProtoVersion : BitVec 32 := 1#32
def kFourccNV12 : BitVec 32 := 0x3231564E#32

def flag_valid : BitVec 32 := 1#32

structure FrameHeader where
  magic : BitVec 32
  version : BitVec 32
  fourcc : BitVec 32
  width : BitVec 32
  height : BitVec 32
  stride : BitVec 32
  byteLength : BitVec 32
  sequence : BitVec 32
  timestampQpc : BitVec 64
  sourceKind : BitVec 32
  flags : BitVec 32
  deriving DecidableEq, Repr

namespace FrameHeader

/-- A value-initialised header, `FrameHeader{}`. -/
def zero : FrameHeader := ⟨0, 0, 0, 0, 0, 0, 0, 0, 0, 0, 0⟩

def widths : List Nat := [4, 4, 4, 4, 4, 4, 4, 4, 8, 4, 4]

/-- `sizeof(FrameHeader)`. -/
abbrev size : Nat := 48

def values (h : FrameHeader) : List Nat :=
  [h.magic.toNat, h.version.toNat, h.fourcc.toNat, h.width.toNat, h.height.toNat,
    h.stride.toNat, h.byteLength.toNat, h.sequence.toNat, h.timestampQpc.toNat,
    h.sourceKind.toNat, h.flags.toNat]

def ofValues : List Nat → FrameHeader
  | [magic, version, fourcc, width, height, stride, byteLength, sequence, timestampQpc,
      sourceKind, flags] =>
      ⟨.ofNat 32 magic, .ofNat 32 version, .ofNat 32 fourcc, .ofNat 32 width, .ofNat 32 height,
        .ofNat 32 stride, .ofNat 32 byteLength, .ofNat 32 sequence, .ofNat 64 timestampQpc,
        .ofNat 32 sourceKind, .ofNat 32 flags⟩
  | _ => zero

/-- The header's object representation, which is what crosses the pipe. -/
def encode (h : FrameHeader) : List Byte := pack widths h.values

def decode (bytes : List Byte) : FrameHeader := ofValues (unpack widths bytes)

theorem values_fit (h : FrameHeader) : Fits widths h.values := by
  simp only [Fits, widths, values, and_true]
  refine ⟨h.magic.isLt, h.version.isLt, h.fourcc.isLt, h.width.isLt, h.height.isLt,
    h.stride.isLt, h.byteLength.isLt, h.sequence.isLt, h.timestampQpc.isLt,
    h.sourceKind.isLt, h.flags.isLt⟩

@[simp] theorem encode_length (h : FrameHeader) : h.encode.length = size :=
  pack_length widths h.values h.values_fit

theorem ofValues_values (h : FrameHeader) : ofValues h.values = h := by
  simp only [values, ofValues, BitVec.ofNat_toNat, BitVec.setWidth_eq]

@[simp] theorem decode_encode (h : FrameHeader) : decode h.encode = h := by
  have read := unpack_pack widths h.values [] h.values_fit
  rw [List.append_nil] at read
  rw [decode, encode, read, ofValues_values]

/-- The header fields `Publish` overwrites before the frame is kept. -/
def stamped (h : FrameHeader) : FrameHeader :=
  { h with magic := kFrameMagic, version := kProtoVersion }

/-- `(hdr.flags & flag_valid) != 0`. -/
def valid (h : FrameHeader) : Bool := h.flags &&& flag_valid != 0#32

end FrameHeader

/-- The four bytes of a request word. -/
def requestBytes : List Byte := leBytes 4 kRequestMagic.toNat

@[simp] theorem requestBytes_length : requestBytes.length = 4 := leBytes_length 4 _

/-- The request word a server has read. -/
def requestWord (bytes : List Byte) : BitVec 32 := .ofNat 32 (leValue bytes)

@[simp] theorem requestWord_requestBytes : requestWord requestBytes = kRequestMagic := by
  simp only [requestWord, requestBytes, leValue_leBytes]
  rfl

/-- What `Serve` writes for a header and the payload copied with it. -/
def replyBytes (hdr : FrameHeader) (payload : List Byte) : List Byte := hdr.encode ++ payload

end Obs2Mf.Pipe
