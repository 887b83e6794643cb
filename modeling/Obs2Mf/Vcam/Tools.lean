import Obs2Mf.Foundation.Stores
import Obs2Mf.Foundation.WordLoop
import Obs2Mf.Hresult
import Obs2Mf.Pipe.Frame

set_option autoImplicit false

/- The media source's conversion of a rendered RGB32 picture to NV12. -/
namespace Obs2Mf.Vcam

open Pipe (Byte)
open Stores
open WordLoop

/-- An int narrowed to a `BYTE`. -/
def narrow (value : Int) : Byte := UInt8.ofNat (value % 256).toNat

def rgb24ToY (r g b : Int) : Byte :=
  narrow (((66 * r + 129 * g + 25 * b + 128) >>> (8 : Nat)) + 16)

/-- The luma byte, then the chroma pair. -/
def rgb24ToYUY2 (r g b : Int) : Byte × Byte × Byte :=
  (narrow (((66 * r + 129 * g + 25 * b + 128) >>> (8 : Nat)) + 16),
    narrow (((-38 * r - 74 * g + 112 * b + 128) >>> (8 : Nat)) + 128),
    narrow (((112 * r - 94 * g - 18 * b + 128) >>> (8 : Nat)) + 128))

/-- The pointers the inner loop moves along, as offsets into the input and the output. -/
structure BlockPointers where
  rgb1 : Nat
  rgb2 : Nat
  y1 : Nat
  y2 : Nat
  uv : Nat
  deriving DecidableEq, Repr

namespace BlockPointers

/-- After one round of the inner loop. -/
def next (p : BlockPointers) : BlockPointers :=
  ⟨p.rgb1 + 8, p.rgb2 + 8, p.y1 + 2, p.y2 + 2, p.uv + 2⟩

/-- The input bytes one block reads. -/
def reads (p : BlockPointers) : List Nat :=
  [p.rgb1 + 2, p.rgb1 + 1, p.rgb1, p.rgb1 + 6, p.rgb1 + 5, p.rgb1 + 4,
    p.rgb2 + 2, p.rgb2 + 1, p.rgb2, p.rgb2 + 6, p.rgb2 + 5, p.rgb2 + 4]

/-- `RGB32ToNV12` on two rows of two pixels. -/
def stores (input : Nat → Byte) (p : BlockPointers) : List (Store Byte) :=
  let at_ (i : Nat) : Int := (input i).toNat
  let first := rgb24ToYUY2 (at_ (p.rgb1 + 2)) (at_ (p.rgb1 + 1)) (at_ p.rgb1)
  let third := rgb24ToYUY2 (at_ (p.rgb2 + 2)) (at_ (p.rgb2 + 1)) (at_ p.rgb2)
  [⟨p.y1, first.1⟩, ⟨p.uv, first.2.1⟩, ⟨p.uv + 1, first.2.2⟩,
    ⟨p.y1 + 1, rgb24ToY (at_ (p.rgb1 + 6)) (at_ (p.rgb1 + 5)) (at_ (p.rgb1 + 4))⟩,
    ⟨p.y2, third.1⟩, ⟨p.uv, third.2.1⟩, ⟨p.uv + 1, third.2.2⟩,
    ⟨p.y2 + 1, rgb24ToY (at_ (p.rgb2 + 6)) (at_ (p.rgb2 + 5)) (at_ (p.rgb2 + 4))⟩]

end BlockPointers

/-- The arguments of `RGB32ToNV12`; behind the pointers lies memory. -/
structure Conversion where
  input : Option (Nat → Byte)
  inputSize : BitVec 32
  inputStride : BitVec 32
  width : BitVec 32
  height : BitVec 32
  output : Option (Nat → Byte)
  ouputSize : BitVec 32
  outputStride : BitVec 32

namespace Conversion

/-- The pointers at the start of a row of blocks. A row times a stride is an unsigned
product of 32 bits, which is then added to a pointer. -/
def rowStart (c : Conversion) (h : BitVec 32) : BlockPointers where
  rgb1 := (h * c.inputStride).toNat
  rgb2 := ((h + 1#32) * c.inputStride).toNat
  y1 := (h * c.outputStride).toNat
  y2 := ((h + 1#32) * c.outputStride).toNat
  uv := ((h / 2#32 + c.height) * c.outputStride).toNat

/-- The inner loop. -/
def rowBlocks (c : Conversion) (fuel : Nat) (h : BitVec 32) : Option (List BlockPointers) :=
  (forWord c.width 2#32 (fun _ p => some ([p], p.next)) fuel 0#32 (c.rowStart h)).map Prod.fst

/-- Both loops: the blocks in the order in which they are converted. -/
def blocks (c : Conversion) (fuel : Nat) : Option (List BlockPointers) :=
  (forWord (c.height - 1#32) 2#32 (fun h _ => (c.rowBlocks fuel h).map fun row => (row, ()))
    fuel 0#32 ()).map Prod.fst

/-- `width * 4 * height > inputSize`, in 32 bits. -/
def inputTooSmall (c : Conversion) : Bool := c.inputSize < c.width * 4#32 * c.height

/-- `width * 1.5 * height > ouputSize`, of doubles: the product is exact where it is
anywhere near a 32-bit size. -/
def outputTooSmall (c : Conversion) : Bool :=
  2 * c.ouputSize.toNat < 3 * c.width.toNat * c.height.toNat

/-- The status, and the memory behind `output`; nothing while the loops still run. -/
def rgb32ToNV12 (fuel : Nat) (c : Conversion) : Option (HRESULT × Option (Nat → Byte)) :=
  match c.input, c.output with
  | none, _ => some (.eInvalidArg, c.output)
  | some _, none => some (.eInvalidArg, c.output)
  | some input, some output =>
      if c.inputTooSmall then some (.eUnexpected, c.output)
      else if c.outputTooSmall then some (.eUnexpected, c.output)
      else (c.blocks fuel).map fun blocks =>
        (.sOk, some (applyStores output (blocks.flatMap (BlockPointers.stores input))))

/-- Where a line of a picture starts: the product wraps around. -/
def lineStart (line : Nat) (stride : BitVec 32) : Nat := line * stride.toNat % 2 ^ 32

/-- The pointers of a block, from its row and column. -/
def blockAt (c : Conversion) (row column : Nat) : BlockPointers where
  rgb1 := lineStart (2 * row) c.inputStride + 8 * column
  rgb2 := lineStart (2 * row + 1) c.inputStride + 8 * column
  y1 := lineStart (2 * row) c.outputStride + 2 * column
  y2 := lineStart (2 * row + 1) c.outputStride + 2 * column
  uv := lineStart (c.height.toNat + row) c.outputStride + 2 * column

theorem lineStart_toNat (line : Nat) (stride : BitVec 32) :
    (BitVec.ofNat 32 line * stride).toNat = lineStart line stride := by
  rw [BitVec.toNat_mul, BitVec.toNat_ofNat, Nat.mod_mul_mod, lineStart]

theorem rowStart_eq (c : Conversion) (row : Nat) (inside : 2 * row < 2 ^ 32) :
    c.rowStart (BitVec.ofNat 32 (2 * row)) = c.blockAt row 0 := by
  have second : BitVec.ofNat 32 (2 * row) + 1#32 = BitVec.ofNat 32 (2 * row + 1) :=
    (BitVec.ofNat_add (2 * row) 1).symm
  have chroma : BitVec.ofNat 32 (2 * row) / 2#32 + c.height =
      BitVec.ofNat 32 (c.height.toNat + row) := by
    have halved : 2 * row % 2 ^ 32 / (2 % 2 ^ 32) = row := by
      rw [Nat.mod_eq_of_lt inside, Nat.mod_eq_of_lt (by decide),
        Nat.mul_div_cancel_left row (by decide)]
    apply BitVec.eq_of_toNat_eq
    simp only [BitVec.toNat_add, BitVec.toNat_udiv, BitVec.toNat_ofNat, halved]
    omega
  simp only [rowStart, blockAt, second, chroma, lineStart_toNat, Nat.mul_zero, Nat.add_zero]

theorem next_blockAt (c : Conversion) (row column : Nat) :
    (c.blockAt row column).next = c.blockAt row (column + 1) := by
  simp only [BlockPointers.next, blockAt, Nat.mul_add, Nat.mul_one, Nat.add_assoc]

/-- The number of rounds of a loop that counts up to `bound` by twos. -/
theorem after_two (k : Nat) (inside : 2 * k < 2 ^ 32) :
    (after 2#32 0#32 k).toNat = 2 * k := by
  simp only [after, BitVec.toNat_add, BitVec.toNat_mul, BitVec.toNat_ofNat]
  omega

/-- An odd width has a last block that is half outside. -/
def blockColumns (c : Conversion) : Nat := (c.width.toNat + 1) / 2

/-- An odd height has a last line that is in no block. -/
def blockRows (c : Conversion) : Nat := c.height.toNat / 2

theorem rowBlocks_eq (c : Conversion) (fuel row : Nat) (inside : 2 * row < 2 ^ 32)
    (narrow : c.width.toNat < 2 ^ 31) (enough : c.blockColumns < fuel) :
    c.rowBlocks fuel (BitVec.ofNat 32 (2 * row)) =
      some ((List.range c.blockColumns).map (c.blockAt row)) := by
  unfold blockColumns at *
  rw [rowBlocks, rowStart_eq c row inside]
  rw [forWord_ends ((c.width.toNat + 1) / 2) fuel 0#32 (fun column => [c.blockAt row column])
    (c.blockAt row) enough]
  · rw [Option.map_some, List.map_eq_flatMap]
  · intro column below
    rw [BitVec.lt_def, after_two column (by omega)]
    omega
  · rw [BitVec.lt_def, after_two _ (by omega)]
    omega
  · intro column below
    rw [next_blockAt]

/-- Every block of a picture that has a height, row by row. -/
theorem blocks_eq (c : Conversion) (fuel : Nat) (tall : c.height ≠ 0#32)
    (narrow : c.width.toNat < 2 ^ 31) (columns : c.blockColumns < fuel)
    (rows : c.blockRows < fuel) :
    c.blocks fuel = some ((List.range c.blockRows).flatMap fun row =>
      (List.range c.blockColumns).map (c.blockAt row)) := by
  have below := c.height.isLt
  have positive : 0 < c.height.toNat := by
    have bits : c.height.toNat ≠ (0#32).toNat := fun same => tall (BitVec.eq_of_toNat_eq same)
    exact Nat.pos_of_ne_zero bits
  have bound : (c.height - 1#32).toNat = c.height.toNat - 1 := by
    rw [BitVec.toNat_sub, BitVec.toNat_ofNat]
    omega
  have counter (k : Nat) (inside : 2 * k < 2 ^ 32) : after 2#32 0#32 k = .ofNat 32 (2 * k) := by
    apply BitVec.eq_of_toNat_eq
    rw [after_two k inside, BitVec.toNat_ofNat]
    omega
  unfold blockRows at *
  rw [blocks, forWord_ends (c.height.toNat / 2) fuel 0#32
    (fun row => (List.range c.blockColumns).map (c.blockAt row)) (fun _ => ()) rows]
  · rfl
  · intro row inside
    rw [BitVec.lt_def, after_two row (by omega), bound]
    omega
  · rw [BitVec.lt_def, after_two _ (by omega), bound]
    omega
  · intro row inside
    rw [counter row (by omega), c.rowBlocks_eq fuel row (by omega) narrow columns, Option.map_some]

/-- Without a height the bound of the outer loop is the largest word, which is odd: the
counter steps over it. -/
theorem blocks_endless (c : Conversion) (fuel : Nat) (flat : c.height = 0#32) :
    c.blocks fuel = none := by
  rw [blocks, forWord_diverges (fun counter => counter.toNat % 2 = 0) _ fuel 0#32 () rfl]
  · rfl
  · intro counter even
    have bound : (c.height - 1#32).toNat = 2 ^ 32 - 1 := by
      rw [flat]
      rfl
    have below := counter.isLt
    constructor
    · rw [BitVec.lt_def, bound]
      omega
    · rw [BitVec.toNat_add, BitVec.toNat_ofNat]
      omega

end Conversion

end Obs2Mf.Vcam
