import Obs2Mf.Foundation.Int32
import Obs2Mf.Foundation.Nv12
import Obs2Mf.Pipe.Frame

set_option autoImplicit false

/- The animated NV12 test pattern the broker falls back to. -/
namespace Obs2Mf.Broker

open Pipe (Byte)
open Stores

def kW : Nat := 1280
def kH : Nat := 720
def kFrameBytes : Nat := kW * kH * 3 / 2

structure Yuv where
  y : Byte
  u : Byte
  v : Byte
  deriving DecidableEq, Repr

/-- `(BYTE)std::clamp(value, 0, 255)`. -/
def clampByte (value : Int) : Byte := UInt8.ofNat (max 0 (min value 255)).toNat

def rgbToYuv (rgb : Int × Int × Int) : Yuv :=
  let (r, g, b) := rgb
  ⟨clampByte (((66 * r + 129 * g + 25 * b + 128) >>> (8 : Nat)) + 16),
    clampByte (((-38 * r - 74 * g + 112 * b + 128) >>> (8 : Nat)) + 128),
    clampByte (((112 * r - 94 * g - 18 * b + 128) >>> (8 : Nat)) + 128)⟩

def bars : List (Int × Int × Int) :=
  [(235, 235, 235), (235, 235, 16), (16, 235, 235), (16, 235, 16),
    (235, 16, 235), (235, 16, 16), (16, 16, 235), (16, 16, 16)]

/-- `bars[idx]`; `beyond` is what lies around the table in memory. -/
def barAt (beyond : Int → Int × Int × Int) (idx : Int) : Int × Int × Int :=
  if 0 ≤ idx ∧ idx < 8 then bars.getD idx.toNat (0, 0, 0) else beyond idx

/-- `(int)(frame * 4)`. -/
def scroll (frame : BitVec 32) : Int := (frame * 4#32).toInt

/-- `((x + scroll) / barW) % 8`, rounding towards zero. -/
def barIndex (frame : BitVec 32) (x : Nat) : Int :=
  ((Int32.add x (scroll frame)).tdiv (kW / 8 : Nat)).tmod 8

def colourAt (beyond : Int → Int × Int × Int) (frame : BitVec 32) (x : Nat) : Yuv :=
  rgbToYuv (barAt beyond (barIndex frame x))

/-- The body of the two loops: four luma bytes and one chroma pair. -/
def blockStores (beyond : Int → Int × Int × Int) (frame : BitVec 32) (blockY blockX : Nat) :
    List (Store Byte) :=
  let x := blockX * 2
  let colour := colourAt beyond frame x
  let px := blockY * 2 * kW + x
  let uv := blockY * kW + x
  [⟨px, colour.y⟩, ⟨px + 1, colour.y⟩, ⟨px + kW, colour.y⟩, ⟨px + kW + 1, colour.y⟩,
    ⟨kW * kH + uv, colour.u⟩, ⟨kW * kH + uv + 1, colour.v⟩]

def fillTestPatternNV12 (beyond : Int → Int × Int × Int) (buf : List Byte) (frame : BitVec 32) :
    List Byte :=
  writeAll buf (nested (kH / 2) (kW / 2) (blockStores beyond frame))

/-- The picture of a frame number. -/
def pattern (beyond : Int → Int × Int × Int) (frame : BitVec 32) : Nv12.Picture Byte where
  luma x _ := (colourAt beyond frame (x / 2 * 2)).y
  chroma cx _ := ((colourAt beyond frame (cx * 2)).u, (colourAt beyond frame (cx * 2)).v)

-- More than a million bytes: no proof should come to compute them.
@[irreducible] def testPattern (beyond : Int → Int × Int × Int) (frame : BitVec 32) :
    List Byte :=
  Nv12.bytes kW kH (pattern beyond frame)

@[simp] theorem testPattern_length (beyond : Int → Int × Int × Int) (frame : BitVec 32) :
    (testPattern beyond frame).length = kFrameBytes := by
  unfold testPattern
  exact Nv12.bytes_length kW kH (pattern beyond frame)

theorem blocks : Nv12.Blocks kW kH := ⟨rfl, rfl⟩

section Coverage

variable (beyond : Int → Int × Int × Int) (frame : BitVec 32)

theorem pattern_luma {i x : Nat} (y part : Nat) (right : x < 640) (pair : part < 2)
    (below : y < 720) (offset : i = Nv12.lumaOffset kW (x * 2 + part) y) :
    (colourAt beyond frame (x * 2)).y = Nv12.byteAt kW kH (pattern beyond frame) i := by
  have below : y < kH := below
  have column : x * 2 + part < kW := by
    change x * 2 + part < 1280
    omega
  have block : (x * 2 + part) / 2 * 2 = x * 2 := by omega
  rw [offset, Nv12.byteAt_luma (pattern beyond frame) column below]
  show (colourAt beyond frame (x * 2)).y = (colourAt beyond frame ((x * 2 + part) / 2 * 2)).y
  rw [block]

theorem blockStores_agree (blockY blockX : Nat) (below : blockY < 360) (right : blockX < 640) :
    Agree (Nv12.byteAt kW kH (pattern beyond frame))
      (blockStores beyond frame blockY blockX) := by
  intro store member
  simp only [blockStores, List.mem_cons, List.not_mem_nil, or_false] at member
  rcases member with rfl | rfl | rfl | rfl | rfl | rfl
  · exact pattern_luma beyond frame (blockY * 2) 0 right (by decide) (by omega) rfl
  · apply pattern_luma beyond frame (blockY * 2) 1 right (by decide) (by omega)
    exact Nat.add_assoc (blockY * 2 * kW) (blockX * 2) 1
  · apply pattern_luma beyond frame (blockY * 2 + 1) 0 right (by decide) (by omega)
    simp only [Nv12.lumaOffset, kW]
    omega
  · apply pattern_luma beyond frame (blockY * 2 + 1) 1 right (by decide) (by omega)
    simp only [Nv12.lumaOffset, kW]
    omega
  · exact (Nv12.byteAt_first (pattern beyond frame) blockY right).symm
  · exact (Nv12.byteAt_second (pattern beyond frame) blockY right).symm

theorem luma_stored {x y : Nat} (right : x < kW) (below : y < kH) :
    ∃ store ∈ nested (kH / 2) (kW / 2) (blockStores beyond frame),
      store.offset = Nv12.lumaOffset kW x y := by
  have right : x < 1280 := right
  have below : y < 720 := below
  rw [exists_stored]
  refine ⟨y / 2, x / 2, show y / 2 < 360 by omega, show x / 2 < 640 by omega, ?_⟩
  simp only [blockStores, Nv12.lumaOffset, kW, kH, List.map_cons, List.map_nil,
    List.mem_cons, List.not_mem_nil, or_false]
  omega

theorem chroma_stored {cx cy part : Nat} (right : cx < kW / 2) (below : cy < kH / 2)
    (pair : part < 2) :
    ∃ store ∈ nested (kH / 2) (kW / 2) (blockStores beyond frame),
      store.offset = Nv12.chromaOffset kW kH cx cy + part := by
  rw [exists_stored]
  refine ⟨cy, cx, below, right, ?_⟩
  simp only [blockStores, Nv12.chromaOffset, kW, kH, List.map_cons, List.map_nil,
    List.mem_cons, List.not_mem_nil, or_false]
  omega

/-- Nothing of what was in the buffer is left. -/
theorem fillTestPatternNV12_eq (buf : List Byte) (sized : buf.length = kFrameBytes) :
    fillTestPatternNV12 beyond buf frame = testPattern beyond frame := by
  unfold testPattern
  apply Nv12.writeAll_picture (pattern beyond frame) buf _ blocks sized
  · exact agree_nested _ _ _ _ (blockStores_agree beyond frame)
  · intro x y right below
    exact luma_stored beyond frame right below
  · intro cx cy part right below pair
    exact chroma_stored beyond frame right below pair

end Coverage

end Obs2Mf.Broker
