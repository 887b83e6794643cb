import Obs2Mf.Broker.TestPattern
import Obs2Mf.Vcam.Tools

set_option autoImplicit false

/- The media source's conversion against the broker's: for a picture that fills its
buffers, both give the same colours. -/
namespace Obs2Mf.Vcam

open Broker (clampByte rgbToYuv)
open Pipe (Byte)
open Stores

section Colours

/-- A value that is a byte already is neither cut nor clamped. -/
theorem narrow_eq (value : Int) (least : 0 ≤ value) (most : value ≤ 255) :
    narrow value = clampByte value := by
  have same : value % 256 = max 0 (min value 255) := by omega
  rw [narrow, clampByte, same]

theorem clampByte_range {value : Int} {least most : Nat} (byte : most ≤ 255)
    (lower : least ≤ value) (upper : value ≤ most) :
    least ≤ (clampByte value).toNat ∧ (clampByte value).toNat ≤ most := by
  have same : (clampByte value).toNat = value.toNat := by
    rw [clampByte, UInt8.toNat_ofNat']
    omega
  rw [same]
  omega

variable {r g b : Int}

/-- What a pixel's byte can be. -/
structure Levels (r g b : Int) : Prop where
  red : 0 ≤ r ∧ r ≤ 255
  green : 0 ≤ g ∧ g ≤ 255
  blue : 0 ≤ b ∧ b ≤ 255

theorem luma_range (levels : Levels r g b) :
    16 ≤ ((66 * r + 129 * g + 25 * b + 128) >>> (8 : Nat)) + 16 ∧
      ((66 * r + 129 * g + 25 * b + 128) >>> (8 : Nat)) + 16 ≤ 235 := by
  obtain ⟨red, green, blue⟩ := levels
  rw [Int.shiftRight_eq_div_pow]
  omega

theorem first_chroma_range (levels : Levels r g b) :
    16 ≤ ((-38 * r - 74 * g + 112 * b + 128) >>> (8 : Nat)) + 128 ∧
      ((-38 * r - 74 * g + 112 * b + 128) >>> (8 : Nat)) + 128 ≤ 240 := by
  obtain ⟨red, green, blue⟩ := levels
  rw [Int.shiftRight_eq_div_pow]
  omega

theorem second_chroma_range (levels : Levels r g b) :
    16 ≤ ((112 * r - 94 * g - 18 * b + 128) >>> (8 : Nat)) + 128 ∧
      ((112 * r - 94 * g - 18 * b + 128) >>> (8 : Nat)) + 128 ≤ 240 := by
  obtain ⟨red, green, blue⟩ := levels
  rw [Int.shiftRight_eq_div_pow]
  omega

theorem rgb24ToY_eq (levels : Levels r g b) : rgb24ToY r g b = (rgbToYuv (r, g, b)).y := by
  have range := luma_range levels
  exact narrow_eq _ (by omega) (by omega)

theorem rgb24ToYUY2_eq (levels : Levels r g b) :
    rgb24ToYUY2 r g b =
      ((rgbToYuv (r, g, b)).y, (rgbToYuv (r, g, b)).u, (rgbToYuv (r, g, b)).v) := by
  have luma := luma_range levels
  have first := first_chroma_range levels
  have second := second_chroma_range levels
  rw [rgb24ToYUY2, narrow_eq _ (by omega) (by omega), narrow_eq _ (by omega) (by omega),
    narrow_eq _ (by omega) (by omega)]
  rfl

theorem rgbToYuv_luma (levels : Levels r g b) :
    16 ≤ (rgbToYuv (r, g, b)).y.toNat ∧ (rgbToYuv (r, g, b)).y.toNat ≤ 235 := by
  have range := luma_range levels
  exact clampByte_range (by decide) range.1 range.2

theorem rgbToYuv_chroma (levels : Levels r g b) :
    (16 ≤ (rgbToYuv (r, g, b)).u.toNat ∧ (rgbToYuv (r, g, b)).u.toNat ≤ 240) ∧
      16 ≤ (rgbToYuv (r, g, b)).v.toNat ∧ (rgbToYuv (r, g, b)).v.toNat ≤ 240 := by
  have first := first_chroma_range levels
  have second := second_chroma_range levels
  exact ⟨clampByte_range (by decide) first.1 first.2,
    clampByte_range (by decide) second.1 second.2⟩

end Colours

/-- A pixel's bytes are blue, green, red and one that is not used. -/
def pixelAt (input : Nat → Byte) (i : Nat) : Int × Int × Int :=
  ((input (i + 2)).toNat, (input (i + 1)).toNat, (input i).toNat)

def pixel (input : Nat → Byte) (stride x y : Nat) : Int × Int × Int :=
  pixelAt input (y * stride + 4 * x)

/-- The picture by the broker's converter: a block has the chroma of its lower left pixel. -/
def converted (input : Nat → Byte) (stride : Nat) : Nv12.Picture Byte where
  luma x y := (rgbToYuv (pixel input stride x y)).y
  chroma cx cy :=
    let colour := rgbToYuv (pixel input stride (2 * cx) (2 * cy + 1))
    (colour.u, colour.v)

theorem pixelAt_levels (input : Nat → Byte) (i : Nat) :
    Levels (pixelAt input i).1 (pixelAt input i).2.1 (pixelAt input i).2.2 := by
  have red := (input (i + 2)).toNat_lt
  have green := (input (i + 1)).toNat_lt
  have blue := (input i).toNat_lt
  simp only [pixelAt]
  constructor
  · omega
  · omega
  · omega

namespace BlockPointers

/-- The stores of a block that last: its chroma is that of the third pixel. -/
def lasting (input : Nat → Byte) (p : BlockPointers) : List (Store Byte) :=
  [⟨p.y1, (rgbToYuv (pixelAt input p.rgb1)).y⟩,
    ⟨p.y1 + 1, (rgbToYuv (pixelAt input (p.rgb1 + 4))).y⟩,
    ⟨p.y2, (rgbToYuv (pixelAt input p.rgb2)).y⟩,
    ⟨p.uv, (rgbToYuv (pixelAt input p.rgb2)).u⟩,
    ⟨p.uv + 1, (rgbToYuv (pixelAt input p.rgb2)).v⟩,
    ⟨p.y2 + 1, (rgbToYuv (pixelAt input (p.rgb2 + 4))).y⟩]

theorem applyStores_lasting (input : Nat → Byte) (p : BlockPointers) (mem : Nat → Byte) :
    applyStores mem (p.stores input) = applyStores mem (p.lasting input) := by
  have first := rgb24ToYUY2_eq (pixelAt_levels input p.rgb1)
  have second := rgb24ToY_eq (pixelAt_levels input (p.rgb1 + 4))
  have third := rgb24ToYUY2_eq (pixelAt_levels input p.rgb2)
  have fourth := rgb24ToY_eq (pixelAt_levels input (p.rgb2 + 4))
  simp only [pixelAt, Nat.add_assoc, Nat.reduceAdd] at first second third fourth
  simp only [stores, lasting, pixelAt, Nat.add_assoc, Nat.reduceAdd, first, second, third, fourth]
  rw [applyStores_cons, applyStores_overwritten, applyStores_overwritten]
  · rfl
  · simp
  · simp

end BlockPointers

namespace Conversion

/-- A picture of whole blocks, in buffers that hold all of its lines and whose sizes are
within a long. -/
structure Fits (c : Conversion) : Prop where
  columns : c.width.toNat % 2 = 0 ∧ 2 ≤ c.width.toNat
  lines : c.height.toNat % 2 = 0 ∧ 2 ≤ c.height.toNat
  inputStride : 4 * (c.width.toNat : Int) ≤ c.inputStride.toInt
  outputStride : (c.width.toNat : Int) ≤ c.outputStride.toInt
  inputSize : c.inputStride.toInt * c.height.toNat ≤ c.inputSize.toNat
  ouputSize : c.outputStride.toInt * c.height.toNat * 3 / 2 ≤ c.ouputSize.toNat
  inputLong : c.inputStride.toInt * c.height.toNat < 2147483648
  outputLong : c.outputStride.toInt * c.height.toNat * 3 / 2 < 2147483648

theorem stride_toNat {stride : BitVec 32} (forward : 0 ≤ stride.toInt) :
    stride.toInt = stride.toNat := by
  have below := stride.isLt
  rw [BitVec.toInt_eq_toNat_cond] at *
  split at forward
  · rw [if_pos (by assumption)]
  · omega

/-- The same of natural numbers, counted in rows of blocks. -/
structure Counts (c : Conversion) : Prop where
  rows : 0 < c.blockRows
  columns : c.width.toNat = 2 * c.blockColumns
  lines : c.height.toNat = 2 * c.blockRows
  inputStride : 4 * c.width.toNat ≤ c.inputStride.toNat
  outputStride : c.width.toNat ≤ c.outputStride.toNat
  inputSize : 2 * (c.blockRows * c.inputStride.toNat) ≤ c.inputSize.toNat
  ouputSize : 3 * (c.blockRows * c.outputStride.toNat) ≤ c.ouputSize.toNat
  inputLong : 2 * (c.blockRows * c.inputStride.toNat) < 2147483648
  outputLong : 3 * (c.blockRows * c.outputStride.toNat) < 2147483648

theorem Fits.counts {c : Conversion} (fits : c.Fits) : c.Counts := by
  obtain ⟨columns, lines, inputStride, outputStride, inputSize, ouputSize, inputLong,
    outputLong⟩ := fits
  have input : c.inputStride.toInt = c.inputStride.toNat := stride_toNat (by omega)
  have output : c.outputStride.toInt = c.outputStride.toNat := stride_toNat (by omega)
  rw [input] at inputStride inputSize inputLong
  rw [output] at outputStride ouputSize outputLong
  have height : c.height.toNat = 2 * c.blockRows := by
    unfold blockRows
    omega
  have twice (stride : BitVec 32) : (stride.toNat : Int) * c.height.toNat =
      2 * (c.blockRows * stride.toNat : Nat) := by
    rw [height, Int.natCast_mul, Int.natCast_mul, Int.mul_left_comm, Int.mul_comm stride.toNat]
    rfl
  rw [twice] at inputSize inputLong ouputSize outputLong
  constructor
  · unfold blockRows
    omega
  · unfold blockColumns
    omega
  · exact height
  · omega
  · omega
  · omega
  · omega
  · omega
  · omega

section Blocks

variable {c : Conversion} (counts : c.Counts)
include counts

theorem inputLine_eq {line : Nat} (below : line < c.height.toNat) :
    lineStart line c.inputStride = line * c.inputStride.toNat := by
  have height := counts.lines
  have long := counts.inputLong
  have most : line * c.inputStride.toNat ≤ 2 * c.blockRows * c.inputStride.toNat :=
    Nat.mul_le_mul_right _ (by omega)
  rw [Nat.mul_assoc] at most
  exact Nat.mod_eq_of_lt (by omega)

theorem outputLine_eq {line : Nat} (below : line < c.height.toNat + c.blockRows) :
    lineStart line c.outputStride = line * c.outputStride.toNat := by
  have height := counts.lines
  have long := counts.outputLong
  have most : line * c.outputStride.toNat ≤ 3 * c.blockRows * c.outputStride.toNat :=
    Nat.mul_le_mul_right _ (by omega)
  rw [Nat.mul_assoc] at most
  exact Nat.mod_eq_of_lt (by omega)

/-- The stores of a block put colours where the picture has them. -/
theorem lasting_eq (input : Nat → Byte) {row : Nat} (column : Nat) (below : row < c.blockRows) :
    let picture := converted input c.inputStride.toNat
    let luma := Nv12.lumaOffset c.outputStride.toNat
    let chroma := Nv12.chromaOffset c.outputStride.toNat c.height.toNat
    (c.blockAt row column).lasting input =
      [⟨luma (2 * column) (2 * row), picture.luma (2 * column) (2 * row)⟩,
        ⟨luma (2 * column + 1) (2 * row), picture.luma (2 * column + 1) (2 * row)⟩,
        ⟨luma (2 * column) (2 * row + 1), picture.luma (2 * column) (2 * row + 1)⟩,
        ⟨chroma column row, (picture.chroma column row).1⟩,
        ⟨chroma column row + 1, (picture.chroma column row).2⟩,
        ⟨luma (2 * column + 1) (2 * row + 1), picture.luma (2 * column + 1) (2 * row + 1)⟩] := by
  have height := counts.lines
  have place : Nv12.chromaOffset c.outputStride.toNat c.height.toNat column row =
      (c.height.toNat + row) * c.outputStride.toNat + 2 * column := by
    rw [Nv12.chromaOffset, Nat.add_mul, Nat.mul_comm c.height.toNat]
    omega
  have left : 4 * (2 * column) = 8 * column := by omega
  have right (start : Nat) : start + 4 * (2 * column + 1) = start + 8 * column + 4 := by omega
  simp only [BlockPointers.lasting, blockAt, place, converted, pixel, Nv12.lumaOffset, left, right,
    inputLine_eq counts (show 2 * row < _ by omega),
    inputLine_eq counts (show 2 * row + 1 < _ by omega),
    outputLine_eq counts (show 2 * row < _ by omega),
    outputLine_eq counts (show 2 * row + 1 < _ by omega),
    outputLine_eq counts (show c.height.toNat + row < _ by omega)]
  rfl

theorem lasting_agree (input : Nat → Byte) {row column : Nat} (below : row < c.blockRows)
    (right : column < c.blockColumns) :
    Agree (Nv12.byteAt c.outputStride.toNat c.height.toNat (converted input c.inputStride.toNat))
      ((c.blockAt row column).lasting input) := by
  have width := counts.columns
  have height := counts.lines
  have stride := counts.outputStride
  have luma {x y : Nat} (inside : x < c.width.toNat) (above : y < c.height.toNat) :=
    (Nv12.byteAt_luma (converted input c.inputStride.toNat)
      (show x < c.outputStride.toNat by omega) above).symm
  have half : column < c.outputStride.toNat / 2 := by omega
  rw [lasting_eq counts input column below]
  intro store member
  simp only [List.mem_cons, List.not_mem_nil, or_false] at member
  rcases member with rfl | rfl | rfl | rfl | rfl | rfl
  · exact luma (x := 2 * column) (y := 2 * row) (by omega) (by omega)
  · exact luma (x := 2 * column + 1) (y := 2 * row) (by omega) (by omega)
  · exact luma (x := 2 * column) (y := 2 * row + 1) (by omega) (by omega)
  · exact (Nv12.byteAt_first _ row half).symm
  · exact (Nv12.byteAt_second _ row half).symm
  · exact luma (x := 2 * column + 1) (y := 2 * row + 1) (by omega) (by omega)

theorem input_enough : c.inputTooSmall = false := by
  have height := counts.lines
  have inputSize := counts.inputSize
  have inputLong := counts.inputLong
  have pixels : c.blockRows * (4 * c.width.toNat) ≤ c.blockRows * c.inputStride.toNat :=
    Nat.mul_le_mul_left _ counts.inputStride
  have area : c.width.toNat * 4 * c.height.toNat = 2 * (c.blockRows * (4 * c.width.toNat)) := by
    rw [height, Nat.mul_comm, Nat.mul_comm _ 4, Nat.mul_assoc]
  have product : (c.width * 4#32 * c.height).toNat ≤ c.width.toNat * 4 * c.height.toNat := by
    rw [BitVec.toNat_mul, BitVec.toNat_mul]
    exact Nat.le_trans (Nat.mod_le _ _) (Nat.mul_le_mul_right _ (Nat.mod_le _ _))
  rw [inputTooSmall, decide_eq_false_iff_not, BitVec.lt_def]
  omega

theorem output_enough : c.outputTooSmall = false := by
  have height := counts.lines
  have ouputSize := counts.ouputSize
  have samples : c.blockRows * c.width.toNat ≤ c.blockRows * c.outputStride.toNat :=
    Nat.mul_le_mul_left _ counts.outputStride
  have area : 3 * c.width.toNat * c.height.toNat = 6 * (c.blockRows * c.width.toNat) := by
    calc 3 * c.width.toNat * c.height.toNat
        = 3 * (c.width.toNat * (2 * c.blockRows)) := by rw [height, Nat.mul_assoc]
      _ = 3 * (2 * (c.blockRows * c.width.toNat)) := by
          rw [Nat.mul_left_comm c.width.toNat, Nat.mul_comm c.width.toNat]
      _ = 6 * (c.blockRows * c.width.toNat) := by omega
  rw [outputTooSmall, decide_eq_false_iff_not]
  omega

/-- The loops store what lasts of every block. -/
theorem rgb32ToNV12_eq (input before : Nat → Byte) (source : c.input = some input)
    (target : c.output = some before) (fuel : Nat) (columns : c.blockColumns < fuel)
    (rows : c.blockRows < fuel) :
    c.rgb32ToNV12 fuel =
      some (.sOk, some (applyStores before (nested c.blockRows c.blockColumns fun row column =>
        (c.blockAt row column).lasting input))) := by
  have height := counts.lines
  have some_rows := counts.rows
  have stride := counts.inputStride
  have line := c.inputStride.isLt
  have tall : c.height ≠ 0#32 := by
    intro flat
    rw [flat] at height
    change 0 = 2 * c.blockRows at height
    omega
  rw [rgb32ToNV12, source, target]
  simp only [input_enough counts, output_enough counts, Bool.false_eq_true, if_false]
  rw [c.blocks_eq fuel tall (by omega) columns rows, Option.map_some,
    applyStores_flatMap before _ _ (BlockPointers.lasting input)
      (fun block _ mem => block.applyStores_lasting input mem),
    List.flatMap_assoc]
  simp only [List.flatMap_map, nested]

theorem luma_stored (input : Nat → Byte) {x y : Nat} (right : x < c.width.toNat)
    (below : y < c.height.toNat) :
    ∃ store ∈ nested c.blockRows c.blockColumns fun row column =>
      (c.blockAt row column).lasting input,
      store.offset = Nv12.lumaOffset c.outputStride.toNat x y := by
  have width := counts.columns
  have height := counts.lines
  obtain ⟨row, line⟩ : ∃ row, y = 2 * row ∨ y = 2 * row + 1 := ⟨y / 2, by omega⟩
  obtain ⟨column, side⟩ : ∃ column, x = 2 * column ∨ x = 2 * column + 1 := ⟨x / 2, by omega⟩
  have block : row < c.blockRows ∧ column < c.blockColumns := by omega
  simp only [exists_stored]
  refine ⟨row, column, block.1, block.2, ?_⟩
  rw [lasting_eq counts input column block.1]
  simp only [List.map_cons, List.map_nil, List.mem_cons, List.not_mem_nil, or_false]
  rcases line with rfl | rfl
  · rcases side with rfl | rfl
    · simp only [true_or]
    · simp only [true_or, or_true]
  · rcases side with rfl | rfl
    · simp only [true_or, or_true]
    · simp only [or_true]

theorem chroma_stored (input : Nat → Byte) {cx cy part : Nat} (right : cx < c.width.toNat / 2)
    (below : cy < c.height.toNat / 2) (pair : part < 2) :
    ∃ store ∈ nested c.blockRows c.blockColumns fun row column =>
      (c.blockAt row column).lasting input,
      store.offset = Nv12.chromaOffset c.outputStride.toNat c.height.toNat cx cy + part := by
  have width := counts.columns
  have height := counts.lines
  have block : cy < c.blockRows ∧ cx < c.blockColumns := by omega
  have half : part = 0 ∨ part = 1 := by omega
  simp only [exists_stored]
  refine ⟨cy, cx, block.1, block.2, ?_⟩
  rw [lasting_eq counts input cx block.1]
  simp only [List.map_cons, List.map_nil, List.mem_cons, List.not_mem_nil, or_false]
  rcases half with rfl | rfl
  · simp only [Nat.add_zero, true_or, or_true]
  · simp only [true_or, or_true]

theorem sample_stored (input : Nat → Byte) {store : Store Byte}
    (member : store ∈ nested c.blockRows c.blockColumns fun row column =>
      (c.blockAt row column).lasting input) :
    Nv12.Sample c.outputStride.toNat c.width.toNat c.height.toNat store.offset := by
  have width := counts.columns
  have height := counts.lines
  obtain ⟨row, column, below, right, member⟩ := mem_nested.mp member
  rw [lasting_eq counts input column below] at member
  have place (part : Nat) : Nv12.chromaOffset c.outputStride.toNat c.height.toNat column row +
      part = Nv12.lumaOffset c.outputStride.toNat (2 * column + part) (c.height.toNat + row) := by
    rw [Nv12.chromaOffset, Nv12.lumaOffset, Nat.add_mul, Nat.mul_comm c.height.toNat]
    omega
  simp only [List.mem_cons, List.not_mem_nil, or_false] at member
  rcases member with rfl | rfl | rfl | rfl | rfl | rfl
  · exact ⟨2 * column, 2 * row, by omega, by omega, rfl⟩
  · exact ⟨2 * column + 1, 2 * row, by omega, by omega, rfl⟩
  · exact ⟨2 * column, 2 * row + 1, by omega, by omega, rfl⟩
  · exact ⟨2 * column, c.height.toNat + row, by omega, by omega, place 0⟩
  · exact ⟨2 * column + 1, c.height.toNat + row, by omega, by omega, place 1⟩
  · exact ⟨2 * column + 1, 2 * row + 1, by omega, by omega, rfl⟩

end Blocks

theorem rgb32ToNV12_shows (c : Conversion) (input before : Nat → Byte) (fits : c.Fits)
    (source : c.input = some input) (target : c.output = some before) :
    ∃ after, (∃ least, ∀ fuel, least ≤ fuel →
        c.rgb32ToNV12 fuel = some (.sOk, some after)) ∧
      Nv12.Shows c.outputStride.toNat c.width.toNat c.height.toNat
        (converted input c.inputStride.toNat) after ∧
      (∀ x y, x < c.width.toNat → y < c.height.toNat →
        16 ≤ (after (Nv12.lumaOffset c.outputStride.toNat x y)).toNat ∧
          (after (Nv12.lumaOffset c.outputStride.toNat x y)).toNat ≤ 235) ∧
      (∀ cx cy part, cx < c.width.toNat / 2 → cy < c.height.toNat / 2 → part < 2 →
        16 ≤ (after (Nv12.chromaOffset c.outputStride.toNat c.height.toNat cx cy + part)).toNat ∧
          (after (Nv12.chromaOffset c.outputStride.toNat c.height.toNat cx cy + part)).toNat
            ≤ 240) ∧
      ∀ i, ¬ Nv12.Sample c.outputStride.toNat c.width.toNat c.height.toNat i →
        after i = before i := by
  have counts := fits.counts
  have shows := Nv12.applyStores_shows (converted input c.inputStride.toNat) before
    (nested c.blockRows c.blockColumns fun row column => (c.blockAt row column).lasting input)
    counts.outputStride
    (agree_nested _ _ _ _ fun row column below right => lasting_agree counts input below right)
    (fun x y right below => luma_stored counts input right below)
    (fun cx cy part right below pair => chroma_stored counts input right below pair)
  refine ⟨_, ⟨c.blockColumns + c.blockRows + 1, ?_⟩, shows, ?_, ?_, ?_⟩
  · intro fuel enough
    exact rgb32ToNV12_eq counts input before source target fuel (by omega) (by omega)
  · intro x y right below
    rw [shows.luma x y right below]
    exact rgbToYuv_luma (pixelAt_levels input _)
  · intro cx cy part right below pair
    rw [shows.chroma cx cy part right below pair]
    have range := rgbToYuv_chroma (pixelAt_levels input
      ((2 * cy + 1) * c.inputStride.toNat + 4 * (2 * cx)))
    split
    · exact range.1
    · exact range.2
  · intro i outside
    apply applyStores_frame
    intro store member here
    have sample := sample_stored counts input member
    rw [here] at sample
    exact outside sample

/-- Two by two red pixels, both pictures with padding. -/
def red : Conversion where
  input := some fun i => if i % 4 = 2 then 255 else 0
  inputSize := 24#32
  inputStride := 12#32
  width := 2#32
  height := 2#32
  output := some fun _ => 7
  ouputSize := 12#32
  outputStride := 4#32

theorem red_shows : ∃ after, (∃ least, ∀ fuel, least ≤ fuel →
      red.rgb32ToNV12 fuel = some (.sOk, some after)) ∧
    (after 0, after 1, after 2) = (82, 82, 7) ∧ (after 8, after 9, after 10) = (90, 240, 7) := by
  have fits : red.Fits := by
    constructor <;> decide
  obtain ⟨after, ends, shows, _, _, unchanged⟩ := rgb32ToNV12_shows red _ _ fits rfl rfl
  have first : after 0 = 82 := (shows.luma 0 0 (by decide) (by decide)).trans (by decide)
  have second : after 1 = 82 := (shows.luma 1 0 (by decide) (by decide)).trans (by decide)
  have padding : after 2 = 7 := by
    apply unchanged
    rintro ⟨x, y, right, below, place⟩
    change x < 2 at right
    change 2 = y * 4 + x at place
    omega
  have chroma : after 8 = 90 :=
    (shows.chroma 0 0 0 (by decide) (by decide) (by decide)).trans (by decide)
  have other : after 9 = 240 :=
    (shows.chroma 0 0 1 (by decide) (by decide) (by decide)).trans (by decide)
  have behind : after 10 = 7 := by
    apply unchanged
    rintro ⟨x, y, right, below, place⟩
    change x < 2 at right
    change 10 = y * 4 + x at place
    omega
  exact ⟨after, ends, by rw [first, second, padding], by rw [chroma, other, behind]⟩

end Conversion

end Obs2Mf.Vcam
