import Obs2Mf.Foundation.Int32
import Obs2Mf.Foundation.Nv12
import Obs2Mf.Pipe.Frame

set_option autoImplicit false

/- The capture of the OBS camera: the buffer its callback keeps, and the scaling of that
buffer into the broker's frame. -/
namespace Obs2Mf.Broker

open Pipe (Byte)
open Stores

/-- What the graph passes to the callback: the memory at `pBuffer`, and `len`. -/
structure Delivery where
  pBuffer : Option (Nat → Byte)
  len : Int

/-- The bytes between `pBuffer` and `pBuffer + len`, if the callback takes them. -/
def Delivery.bytes (delivery : Delivery) : Option (List Byte) :=
  match delivery.pBuffer with
  | none => none
  | some memory =>
      if delivery.len ≤ 0 then none else some ((List.range delivery.len.toNat).map memory)

/-- `ObsCapture::Impl`; of its interface pointers only `control` decides anything. -/
structure Impl where
  dstW : BitVec 32
  dstH : BitVec 32
  running : Bool
  control : Bool
  native : List Byte
  srcW : Int
  srcH : Int
  frames : BitVec 64

/-- How the part of `Start` before the graph runs can go. `media` is the size in the
connected media type, where there is one of a known format. -/
inductive Build where
  | noGraph
  | noSource
  | noGrabber
  | noRenderer
  | notRendered
  | rendered (media : Option (Int × Int))
  deriving DecidableEq, Repr

namespace Impl

def new (w h : BitVec 32) : Impl := ⟨w, h, false, false, [], 0, 0, 0⟩

def bufferCB (obs : Impl) (delivery : Delivery) : Impl :=
  match delivery.bytes with
  | none => obs
  | some bytes => { obs with native := bytes, frames := obs.frames + 1#64 }

/-- The size that `Start` takes from the connected media type. -/
def connected (obs : Impl) (media : Option (Int × Int)) : Impl :=
  match media with
  | none => obs
  | some (biWidth, biHeight) => { obs with srcW := biWidth, srcH := biHeight.natAbs }

/-- What `Stop` does once the graph is down. -/
def clear (obs : Impl) : Impl :=
  { obs with control := false, native := [], srcW := 0, srcH := 0, running := false }

/-- `(size_t)srcW * srcH * 3 / 2`. -/
def need (obs : Impl) : Nat := obs.srcW.toNat * obs.srcH.toNat * 3 % 2 ^ 64 / 2

/-- A byte at an offset from `native.data()`; `beyond` is the memory around the buffer. -/
def read (obs : Impl) (beyond : Int → Byte) (offset : Int) : Byte :=
  if 0 ≤ offset ∧ offset < obs.native.length then obs.native.getD offset.toNat default
  else beyond offset

/-- The loop over the luma plane. -/
def lumaStores (obs : Impl) (beyond : Int → Byte) : List (Store Byte) :=
  let dw := obs.dstW.toInt
  let dh := obs.dstH.toInt
  nested dh.toNat dw.toNat fun y x =>
    let srow := (Int32.mul y obs.srcH).tdiv dh * obs.srcW
    [⟨y * dw.toNat + x, obs.read beyond (srow + (Int32.mul x obs.srcW).tdiv dw)⟩]

/-- The loop over the chroma plane, whose stride is that of the luma plane. -/
def chromaStores (obs : Impl) (beyond : Int → Byte) : List (Store Byte) :=
  let dw := obs.dstW.toInt
  let dh := obs.dstH.toInt
  let cdw := dw.tdiv 2
  let cdh := dh.tdiv 2
  let csw := obs.srcW.tdiv 2
  let csh := obs.srcH.tdiv 2
  nested cdh.toNat cdw.toNat fun cy cx =>
    let srow := obs.srcW * obs.srcH + (Int32.mul cy csh).tdiv cdh * obs.srcW
    let scx := (Int32.mul cx csw).tdiv cdw
    let drow := dw.toNat * dh.toNat + (cy * dw.toNat + cx * 2)
    [⟨drow, obs.read beyond (srow + Int32.mul scx 2)⟩,
      ⟨drow + 1, obs.read beyond (srow + Int32.add (Int32.mul scx 2) 1)⟩]

/-- The answer, and `out` afterwards. -/
def getFrame (obs : Impl) (beyond : Int → Byte) (out : List Byte) : Bool × List Byte :=
  if obs.srcW ≤ 0 ∨ obs.srcH ≤ 0 then (false, out)
  else if obs.native.length < obs.need then (false, out)
  else (true, writeAll out (obs.lumaStores beyond ++ obs.chromaStores beyond))

end Impl

/-- The scaling of a source picture, as the bytes of the destination. -/
@[irreducible] def scaled (srcW srcH dstW dstH : Nat) (native : List Byte) : List Byte :=
  Nv12.bytes dstW dstH
    (Nv12.scale srcW srcH dstW dstH (Nv12.ofBytes srcW srcH native))

@[simp] theorem scaled_length (srcW srcH dstW dstH : Nat) (native : List Byte) :
    (scaled srcW srcH dstW dstH native).length = Nv12.size dstW dstH := by
  rw [scaled, Nv12.bytes_length]

/-- Even sizes whose index products fit in an int. -/
structure Fitting (srcW srcH dstW dstH : Nat) : Prop where
  src : Nv12.Blocks srcW srcH
  dst : Nv12.Blocks dstW dstH
  wide : 2 ≤ srcW
  high : 2 ≤ srcH
  across : 2 ≤ dstW
  down : 2 ≤ dstH
  columns : (dstW - 1) * srcW < 2 ^ 31
  rows : (dstH - 1) * srcH < 2 ^ 31

instance (srcW srcH dstW dstH : Nat) : Decidable (Fitting srcW srcH dstW dstH) :=
  decidable_of_iff
    (((srcW % 2 = 0 ∧ srcH % 2 = 0) ∧ (dstW % 2 = 0 ∧ dstH % 2 = 0)) ∧
      (2 ≤ srcW ∧ 2 ≤ srcH ∧ 2 ≤ dstW ∧ 2 ≤ dstH) ∧
      (dstW - 1) * srcW < 2 ^ 31 ∧ (dstH - 1) * srcH < 2 ^ 31)
    ⟨fun ⟨⟨src, dst⟩, ⟨wide, high, across, down⟩, columns, rows⟩ =>
        ⟨⟨src.1, src.2⟩, ⟨dst.1, dst.2⟩, wide, high, across, down, columns, rows⟩,
      fun fits => ⟨⟨⟨fits.src.1, fits.src.2⟩, ⟨fits.dst.1, fits.dst.2⟩⟩,
        ⟨fits.wide, fits.high, fits.across, fits.down⟩, fits.columns, fits.rows⟩⟩

/-- The nearest sample is a sample of the source. -/
theorem nearest_lt {i n m : Nat} (inside : i < n) (positive : 0 < m) : i * m / n < m := by
  apply Nat.div_lt_of_lt_mul
  exact Nat.mul_lt_mul_of_pos_right inside positive

/-- An index computed in int arithmetic, where the product fits. -/
theorem index_eq (i m n : Nat) (fits : i * m < 2 ^ 31) :
    (Int32.mul i m).tdiv n = ((i * m / n : Nat) : Int) := by
  have product : Int32.mul i m = ((i * m : Nat) : Int) := by
    rw [Int32.mul_of_fits]
    · exact (Int.natCast_mul i m).symm
    · unfold Int32.Fits
      have cast := Int.natCast_mul i m
      omega
  rw [product]
  exact (Int.ofNat_tdiv (i * m) n).symm

theorem half_eq (n : Nat) : (n : Int).tdiv 2 = ((n / 2 : Nat) : Int) := (Int.ofNat_tdiv n 2).symm

namespace Fitting

variable {srcW srcH dstW dstH : Nat} (fits : Fitting srcW srcH dstW dstH)

include fits

theorem column_fits {x : Nat} (right : x < dstW) : x * srcW < 2 ^ 31 := by
  calc x * srcW ≤ (dstW - 1) * srcW := Nat.mul_le_mul_right srcW (by omega)
    _ < 2 ^ 31 := fits.columns

theorem row_fits {y : Nat} (below : y < dstH) : y * srcH < 2 ^ 31 := by
  calc y * srcH ≤ (dstH - 1) * srcH := Nat.mul_le_mul_right srcH (by omega)
    _ < 2 ^ 31 := fits.rows

theorem width_lt : srcW < 2 ^ 31 := by
  have one := fits.column_fits (Nat.lt_of_lt_of_le (by decide : 1 < 2) fits.across)
  omega

theorem height_lt : srcH < 2 ^ 31 := by
  have one := fits.row_fits (Nat.lt_of_lt_of_le (by decide : 1 < 2) fits.down)
  omega

theorem half_column_fits {cx : Nat} (right : cx < dstW / 2) : cx * (srcW / 2) < 2 ^ 31 := by
  calc cx * (srcW / 2) ≤ cx * srcW := Nat.mul_le_mul_left cx (Nat.div_le_self srcW 2)
    _ < 2 ^ 31 := fits.column_fits (by omega)

theorem half_row_fits {cy : Nat} (below : cy < dstH / 2) : cy * (srcH / 2) < 2 ^ 31 := by
  calc cy * (srcH / 2) ≤ cy * srcH := Nat.mul_le_mul_left cy (Nat.div_le_self srcH 2)
    _ < 2 ^ 31 := fits.row_fits (by omega)

theorem area_lt : srcW * srcH * 3 < 2 ^ 64 := by
  have area : srcW * srcH < 2 ^ 31 * 2 ^ 31 := by
    exact Nat.mul_lt_mul'' fits.width_lt fits.height_lt
  omega

/-- The luma sample a destination sample is taken from. -/
theorem luma_inside {x y : Nat} (right : x < dstW) (below : y < dstH) :
    Nv12.lumaOffset srcW (x * srcW / dstW) (y * srcH / dstH) < Nv12.size srcW srcH := by
  have wide := fits.wide
  have high := fits.high
  rw [Nv12.size_split fits.src]
  apply Nat.lt_of_lt_of_le (Nv12.row_inside _ _) (Nat.le_add_right _ _)
  · exact nearest_lt right (by omega)
  · exact nearest_lt below (by omega)

theorem chroma_inside {cx cy : Nat} (right : cx < dstW / 2) (below : cy < dstH / 2) :
    Nv12.chromaOffset srcW srcH (cx * (srcW / 2) / (dstW / 2)) (cy * (srcH / 2) / (dstH / 2)) +
      1 < Nv12.size srcW srcH := by
  have wide := fits.wide
  have high := fits.high
  have column : cx * (srcW / 2) / (dstW / 2) < srcW / 2 := nearest_lt right (by omega)
  have row : cy * (srcH / 2) / (dstH / 2) < srcH / 2 := nearest_lt below (by omega)
  have inside : cy * (srcH / 2) / (dstH / 2) * srcW +
      (cx * (srcW / 2) / (dstW / 2) * 2 + 1) < srcW * (srcH / 2) := by
    apply Nv12.row_inside _ row
    omega
  rw [Nv12.size_split fits.src, Nv12.chromaOffset]
  omega

end Fitting

namespace Impl

/-- A capture whose sizes are these. -/
structure Sizes (obs : Impl) (srcW srcH dstW dstH : Nat) : Prop where
  srcW : obs.srcW = srcW
  srcH : obs.srcH = srcH
  dstW : obs.dstW.toInt = dstW
  dstH : obs.dstH.toInt = dstH

variable {obs : Impl} {srcW srcH dstW dstH : Nat}

theorem read_inside (beyond : Int → Byte) (offset : Nat)
    (inside : offset < obs.native.length) :
    obs.read beyond offset = obs.native.getD offset default := by
  have within : 0 ≤ (offset : Int) ∧ (offset : Int) < obs.native.length := by omega
  rw [read, if_pos within, Int.toNat_natCast]

theorem need_eq (sizes : obs.Sizes srcW srcH dstW dstH)
    (fits : Fitting srcW srcH dstW dstH) : obs.need = Nv12.size srcW srcH := by
  rw [need, sizes.srcW, sizes.srcH, Int.toNat_natCast, Int.toNat_natCast,
    Nat.mod_eq_of_lt fits.area_lt]
  rfl

section Loops

variable (sizes : obs.Sizes srcW srcH dstW dstH) (fits : Fitting srcW srcH dstW dstH)
  (full : Nv12.size srcW srcH ≤ obs.native.length) (beyond : Int → Byte)

/-- What both planes of the scaled buffer should hold. -/
abbrev target (obs : Impl) (srcW srcH dstW dstH : Nat) : Nv12.Picture Byte :=
  Nv12.scale srcW srcH dstW dstH (Nv12.ofBytes srcW srcH obs.native)

theorem luma_index {x y : Nat} (column : x * srcW < 2 ^ 31) (row : y * srcH < 2 ^ 31) :
    (Int32.mul y srcH).tdiv dstH * srcW + (Int32.mul x srcW).tdiv dstW =
      ((Nv12.lumaOffset srcW (x * srcW / dstW) (y * srcH / dstH) : Nat) : Int) := by
  rw [index_eq y srcH dstH row, index_eq x srcW dstW column, Nv12.lumaOffset, Int.natCast_add,
    Int.natCast_mul]

/-- The column of a chroma pair is one of the source, even if that has no whole block. -/
theorem chroma_column_lt {cx : Nat} (right : cx < dstW / 2) (positive : 0 < srcW) :
    cx * (srcW / 2) / (dstW / 2) * 2 < srcW := by
  rcases Nat.eq_zero_or_pos (srcW / 2) with none | some
  · rw [none, Nat.mul_zero, Nat.zero_div, Nat.zero_mul]
    exact positive
  · have column : cx * (srcW / 2) / (dstW / 2) < srcW / 2 := nearest_lt right some
    omega

/-- The two columns of a chroma pair, in int arithmetic. -/
theorem column_index {cx : Nat} (right : cx < dstW / 2) (positive : 0 < srcW)
    (narrow : srcW < 2 ^ 31) (product : cx * (srcW / 2) < 2 ^ 31) :
    Int32.mul ((Int32.mul cx (srcW / 2 : Nat)).tdiv (dstW / 2 : Nat)) 2 =
        ((cx * (srcW / 2) / (dstW / 2) * 2 : Nat) : Int) ∧
      Int32.add ((cx * (srcW / 2) / (dstW / 2) * 2 : Nat) : Int) 1 =
        ((cx * (srcW / 2) / (dstW / 2) * 2 + 1 : Nat) : Int) := by
  have column := chroma_column_lt right positive
  rw [index_eq cx (srcW / 2) (dstW / 2) product]
  generalize cx * (srcW / 2) / (dstW / 2) = scx at column
  have twice : Int32.mul (scx : Int) 2 = ((scx * 2 : Nat) : Int) := by
    rw [Int.natCast_mul]
    apply Int32.mul_of_fits
    unfold Int32.Fits
    omega
  have next : Int32.add ((scx * 2 : Nat) : Int) 1 = ((scx * 2 + 1 : Nat) : Int) := by
    rw [Int.natCast_add]
    apply Int32.add_of_fits
    unfold Int32.Fits
    omega
  rw [twice]
  exact ⟨rfl, next⟩

theorem chroma_row {cy : Nat} (product : cy * (srcH / 2) < 2 ^ 31) :
    (srcW : Int) * srcH + (Int32.mul cy (srcH / 2 : Nat)).tdiv (dstH / 2 : Nat) * srcW =
      ((srcW * srcH + cy * (srcH / 2) / (dstH / 2) * srcW : Nat) : Int) := by
  rw [index_eq cy (srcH / 2) (dstH / 2) product, Int.natCast_add, Int.natCast_mul,
    Int.natCast_mul]

include sizes fits full in
theorem lumaStores_agree :
    Agree (Nv12.byteAt dstW dstH (obs.target srcW srcH dstW dstH)) (obs.lumaStores beyond) := by
  simp only [lumaStores, sizes.dstW, sizes.dstH, sizes.srcW, sizes.srcH, Int.toNat_natCast]
  apply agree_nested
  intro y x below right store member
  rw [List.mem_singleton] at member
  rw [member, luma_index (fits.column_fits right) (fits.row_fits below)]
  show _ = Nv12.byteAt dstW dstH (obs.target srcW srcH dstW dstH) (Nv12.lumaOffset dstW x y)
  rw [Nv12.byteAt_luma _ right below]
  have inside := fits.luma_inside right below
  exact read_inside beyond _ (by omega)

include sizes fits full in
theorem chromaStores_agree :
    Agree (Nv12.byteAt dstW dstH (obs.target srcW srcH dstW dstH)) (obs.chromaStores beyond) := by
  simp only [chromaStores, sizes.dstW, sizes.dstH, sizes.srcW, sizes.srcH, Int.toNat_natCast,
    half_eq]
  apply agree_nested
  intro cy cx below right store member
  have inside := Nat.lt_of_lt_of_le (fits.chroma_inside right below) full
  have wide := fits.wide
  have column := column_index right (by omega) fits.width_lt (fits.half_column_fits right)
  have place := Nat.add_assoc (srcW * srcH) (cy * (srcH / 2) / (dstH / 2) * srcW)
    (cx * (srcW / 2) / (dstW / 2) * 2)
  have next := Nat.add_assoc (srcW * srcH + cy * (srcH / 2) / (dstH / 2) * srcW)
    (cx * (srcW / 2) / (dstW / 2) * 2) 1
  rw [chroma_row (fits.half_row_fits below), column.1, column.2, ← Int.natCast_add,
    ← Int.natCast_add, ← next, place] at member
  simp only [List.mem_cons, List.not_mem_nil, or_false] at member
  rcases member with first | second
  · rw [first]
    show _ = Nv12.byteAt dstW dstH (obs.target srcW srcH dstW dstH)
      (Nv12.chromaOffset dstW dstH cx cy)
    rw [Nv12.byteAt_first _ cy right]
    exact read_inside beyond _ (Nat.lt_of_succ_lt inside)
  · rw [second]
    show _ = Nv12.byteAt dstW dstH (obs.target srcW srcH dstW dstH)
      (Nv12.chromaOffset dstW dstH cx cy + 1)
    rw [Nv12.byteAt_second _ cy right]
    exact read_inside beyond _ inside

include sizes in
theorem luma_written {x y : Nat} (right : x < dstW) (below : y < dstH) :
    ∃ store ∈ obs.lumaStores beyond, store.offset = Nv12.lumaOffset dstW x y := by
  simp only [lumaStores, sizes.dstW, sizes.dstH, Int.toNat_natCast]
  exact ⟨_, mem_nested.mpr ⟨y, x, below, right, List.mem_singleton.mpr rfl⟩, rfl⟩

include sizes in
theorem chroma_written {cx cy part : Nat} (right : cx < dstW / 2) (below : cy < dstH / 2)
    (pair : part < 2) :
    ∃ store ∈ obs.chromaStores beyond,
      store.offset = Nv12.chromaOffset dstW dstH cx cy + part := by
  simp only [chromaStores, sizes.dstW, sizes.dstH, Int.toNat_natCast, half_eq]
  have which : part = 0 ∨ part = 1 := by omega
  rcases which with rfl | rfl
  · exact ⟨_, mem_nested.mpr ⟨cy, cx, below, right, List.mem_cons_self⟩, rfl⟩
  · exact ⟨_, mem_nested.mpr ⟨cy, cx, below, right,
      List.mem_cons_of_mem _ (List.mem_singleton.mpr rfl)⟩, rfl⟩

include sizes fits full in
/-- The scaling, whatever the buffer held and whatever lies around the source. -/
theorem getFrame_full (out : List Byte) (sized : out.length = Nv12.size dstW dstH) :
    obs.getFrame beyond out = (true, scaled srcW srcH dstW dstH obs.native) := by
  have wide := fits.wide
  have high := fits.high
  have known : ¬ (obs.srcW ≤ 0 ∨ obs.srcH ≤ 0) := by
    rw [sizes.srcW, sizes.srcH]
    omega
  have enough : ¬ obs.native.length < obs.need := by
    rw [need_eq sizes fits]
    omega
  rw [getFrame, if_neg known, if_neg enough, scaled]
  apply congrArg (Prod.mk true)
  apply Nv12.writeAll_picture (obs.target srcW srcH dstW dstH) out _ fits.dst sized
  · exact agree_append (lumaStores_agree sizes fits full beyond)
      (chromaStores_agree sizes fits full beyond)
  · intro x y right below
    obtain ⟨store, member, offset⟩ := luma_written sizes beyond right below
    exact ⟨store, List.mem_append_left _ member, offset⟩
  · intro cx cy part right below pair
    obtain ⟨store, member, offset⟩ := chroma_written sizes beyond right below pair
    exact ⟨store, List.mem_append_right _ member, offset⟩

include sizes fits in
theorem getFrame_short (out : List Byte) (short : obs.native.length < Nv12.size srcW srcH) :
    obs.getFrame beyond out = (false, out) := by
  rw [← need_eq sizes fits] at short
  rw [getFrame, if_pos short]
  split
  · rfl
  · rfl

end Loops

end Impl

end Obs2Mf.Broker
