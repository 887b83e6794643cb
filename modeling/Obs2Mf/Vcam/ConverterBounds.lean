import Obs2Mf.Vcam.Tools

set_option autoImplicit false

/- What memory the conversion to NV12 touches, beside what its guards look at. -/
namespace Obs2Mf.Vcam

open Pipe (Byte)
open Stores

namespace BlockPointers

/-- Of a pixel's four bytes the last is not read. -/
theorem reads_inside (p : BlockPointers) (size : Nat) :
    (∀ i ∈ p.reads, i < size) ↔ p.rgb1 + 6 < size ∧ p.rgb2 + 6 < size := by
  simp only [reads, List.mem_cons, List.not_mem_nil, or_false, forall_eq_or_imp, forall_eq]
  omega

theorem stores_inside (p : BlockPointers) (input : Nat → Byte) (size : Nat) :
    (∀ store ∈ p.stores input, store.offset < size) ↔
      p.y1 + 1 < size ∧ p.y2 + 1 < size ∧ p.uv + 1 < size := by
  simp only [stores, List.mem_cons, List.not_mem_nil, or_false, forall_eq_or_imp, forall_eq]
  omega

end BlockPointers

namespace Conversion

/-- The arguments pass the guards, and no line is shorter than its pixels. -/
structure Accepted (c : Conversion) : Prop where
  input : c.input.isSome = true
  output : c.output.isSome = true
  inputSize : c.inputTooSmall = false
  ouputSize : c.outputTooSmall = false
  inputStride : 4 * (c.width.toNat : Int) ≤ c.inputStride.toInt
  outputStride : (c.width.toNat : Int) ≤ c.outputStride.toInt

/-- A block reads and writes within the sizes that were given. -/
def Inside (c : Conversion) (block : BlockPointers) : Prop :=
  (∀ i ∈ block.reads, i < c.inputSize.toNat) ∧
    ∀ input, ∀ store ∈ block.stores input, store.offset < c.ouputSize.toNat

/-- The loops end, and every block stays inside. -/
def Bounded (c : Conversion) : Prop :=
  ∃ blocks, (∃ least, ∀ fuel, least ≤ fuel → c.blocks fuel = some blocks) ∧
    ∀ block ∈ blocks, c.Inside block

/-- Every line holds whole blocks, at the place where its offset wraps around to. -/
structure LinesFit (c : Conversion) : Prop where
  input : ∀ line, line < 2 * c.blockRows →
    lineStart line c.inputStride + 8 * c.blockColumns ≤ c.inputSize.toNat + 1
  luma : ∀ line, line < 2 * c.blockRows →
    lineStart line c.outputStride + 2 * c.blockColumns ≤ c.ouputSize.toNat
  chroma : ∀ row, row < c.blockRows →
    lineStart (c.height.toNat + row) c.outputStride + 2 * c.blockColumns ≤ c.ouputSize.toNat

theorem inside_iff (c : Conversion) (row column : Nat) :
    c.Inside (c.blockAt row column) ↔
      (lineStart (2 * row) c.inputStride + 8 * column + 6 < c.inputSize.toNat ∧
        lineStart (2 * row + 1) c.inputStride + 8 * column + 6 < c.inputSize.toNat) ∧
      lineStart (2 * row) c.outputStride + 2 * column + 1 < c.ouputSize.toNat ∧
        lineStart (2 * row + 1) c.outputStride + 2 * column + 1 < c.ouputSize.toNat ∧
        lineStart (c.height.toNat + row) c.outputStride + 2 * column + 1 < c.ouputSize.toNat := by
  simp only [Inside, BlockPointers.reads_inside, BlockPointers.stores_inside, forall_const, blockAt]

/-- Blocks are two lines high. -/
theorem each_line {P : Nat → Prop} {rows : Nat}
    (pair : ∀ row, row < rows → P (2 * row) ∧ P (2 * row + 1)) (line : Nat)
    (below : line < 2 * rows) : P line := by
  obtain ⟨upper, lower⟩ := pair (line / 2) (by omega)
  by_cases even : line % 2 = 0
  · have here : 2 * (line / 2) = line := by omega
    rw [here] at upper
    exact upper
  · have here : 2 * (line / 2) + 1 = line := by omega
    rw [here] at lower
    exact lower

/-- The last block of a row is the one that reaches furthest. -/
theorem linesFit_iff (c : Conversion) (wide : 0 < c.blockColumns) :
    c.LinesFit ↔ ∀ row column, row < c.blockRows → column < c.blockColumns →
      c.Inside (c.blockAt row column) := by
  constructor
  · intro fit row column below right
    have first := fit.input (2 * row) (by omega)
    have second := fit.input (2 * row + 1) (by omega)
    have upper := fit.luma (2 * row) (by omega)
    have lower := fit.luma (2 * row + 1) (by omega)
    have chroma := fit.chroma row below
    rw [inside_iff]
    omega
  · intro inside
    have last (row : Nat) (below : row < c.blockRows) :=
      (c.inside_iff row (c.blockColumns - 1)).mp
        (inside row (c.blockColumns - 1) below (by omega))
    constructor
    · apply each_line
      intro row below
      have fits := last row below
      omega
    · apply each_line
      intro row below
      have fits := last row below
      omega
    · intro row below
      have fits := last row below
      omega

theorem blocks_settled (c : Conversion) (tall : c.height ≠ 0#32)
    (narrow : c.width.toNat < 2 ^ 31) (blocks : List BlockPointers) :
    (∃ least, ∀ fuel, least ≤ fuel → c.blocks fuel = some blocks) ↔
      blocks = (List.range c.blockRows).flatMap fun row =>
        (List.range c.blockColumns).map (c.blockAt row) := by
  constructor
  · rintro ⟨least, settled⟩
    have enough := settled (least + c.blockColumns + c.blockRows + 1) (by omega)
    rw [c.blocks_eq _ tall narrow (by omega) (by omega)] at enough
    exact (Option.some.inj enough).symm
  · intro same
    rw [same]
    exact ⟨c.blockColumns + c.blockRows + 1, fun fuel enough =>
      c.blocks_eq fuel tall narrow (by omega) (by omega)⟩

theorem bounded_iff_inside (c : Conversion) (tall : c.height ≠ 0#32)
    (narrow : c.width.toNat < 2 ^ 31) :
    c.Bounded ↔ ∀ row column, row < c.blockRows → column < c.blockColumns →
      c.Inside (c.blockAt row column) := by
  simp only [Bounded, c.blocks_settled tall narrow, exists_eq_left, List.mem_flatMap,
    List.mem_map, List.mem_range]
  constructor
  · intro inside row column below right
    exact inside _ ⟨row, below, column, right, rfl⟩
  · rintro inside block ⟨row, below, column, right, rfl⟩
    exact inside row column below right

theorem not_bounded_flat (c : Conversion) (flat : c.height = 0#32) : ¬ c.Bounded := by
  rintro ⟨blocks, ⟨least, settled⟩, _⟩
  have ends := settled least (Nat.le_refl least)
  rw [c.blocks_endless least flat] at ends
  cases ends

theorem blockColumns_pos (c : Conversion) : 0 < c.blockColumns ↔ c.width ≠ 0#32 := by
  constructor
  · intro positive none
    rw [blockColumns, none] at positive
    exact absurd positive (by decide)
  · intro wide
    have bits : c.width.toNat ≠ 0 := fun zero => wide (BitVec.eq_of_toNat_eq zero)
    unfold blockColumns
    omega

/-- Which conversions stay within the buffers. Whether the guards let them through plays
no part. -/
theorem bounded_iff (c : Conversion)
    (stride : 4 * (c.width.toNat : Int) ≤ c.inputStride.toInt) :
    c.Bounded ↔ c.height ≠ 0#32 ∧ (c.width = 0#32 ∨ c.LinesFit) := by
  have most : c.inputStride.toInt < 2147483648 := BitVec.toInt_lt
  have narrow : c.width.toNat < 2 ^ 31 := by omega
  by_cases flat : c.height = 0#32
  · constructor
    · intro bounded
      exact absurd bounded (c.not_bounded_flat flat)
    · intro holds
      exact absurd flat holds.1
  · rw [c.bounded_iff_inside flat narrow]
    by_cases wide : 0 < c.blockColumns
    · have columns := c.blockColumns_pos.mp wide
      rw [← c.linesFit_iff wide]
      constructor
      · intro fit
        exact ⟨flat, Or.inr fit⟩
      · intro holds
        exact holds.2.resolve_left columns
    · have none : c.width = 0#32 := by
        by_contra columns
        exact wide (c.blockColumns_pos.mpr columns)
      constructor
      · intro _
        exact ⟨flat, Or.inl none⟩
      · intro _ row column below right
        omega

/-- A picture of zeros. -/
def blank (inputSize inputStride width height ouputSize outputStride : BitVec 32) : Conversion :=
  ⟨some fun _ => 0, inputSize, inputStride, width, height, some fun _ => 0, ouputSize,
    outputStride⟩

theorem bounded_small : (blank 32#32 16#32 4#32 2#32 12#32 4#32).Bounded :=
  (bounded_iff _ (by decide)).mpr ⟨by decide, Or.inr ⟨by decide, by decide, by decide⟩⟩

/-- Without a height the loop goes on for ever. An odd width reads past the last line, and
so does a line with padding behind it. -/
theorem unbounded :
    ((blank 0#32 16#32 4#32 0#32 0#32 4#32).Accepted ∧
      ¬ (blank 0#32 16#32 4#32 0#32 0#32 4#32).Bounded) ∧
    ((blank 24#32 12#32 3#32 2#32 9#32 3#32).Accepted ∧
      ¬ (blank 24#32 12#32 3#32 2#32 9#32 3#32).Bounded) ∧
    ((blank 16#32 16#32 2#32 2#32 6#32 2#32).Accepted ∧
      ¬ (blank 16#32 16#32 2#32 2#32 6#32 2#32).Bounded) := by
  have odd : ¬ (blank 24#32 12#32 3#32 2#32 9#32 3#32).Bounded := by
    intro bounded
    have inside := (bounded_iff_inside _ (by decide) (by decide)).mp bounded 0 1
      (by decide) (by decide)
    exact absurd ((inside_iff _ 0 1).mp inside) (by decide)
  have padded : ¬ (blank 16#32 16#32 2#32 2#32 6#32 2#32).Bounded := by
    intro bounded
    have inside := (bounded_iff_inside _ (by decide) (by decide)).mp bounded 0 0
      (by decide) (by decide)
    exact absurd ((inside_iff _ 0 0).mp inside) (by decide)
  have first : (blank 0#32 16#32 4#32 0#32 0#32 4#32).Accepted :=
    ⟨rfl, rfl, by decide, by decide, by decide, by decide⟩
  have second : (blank 24#32 12#32 3#32 2#32 9#32 3#32).Accepted :=
    ⟨rfl, rfl, by decide, by decide, by decide, by decide⟩
  have third : (blank 16#32 16#32 2#32 2#32 6#32 2#32).Accepted :=
    ⟨rfl, rfl, by decide, by decide, by decide, by decide⟩
  exact ⟨⟨first, not_bounded_flat _ rfl⟩, ⟨second, odd⟩, ⟨third, padded⟩⟩

end Conversion

end Obs2Mf.Vcam
