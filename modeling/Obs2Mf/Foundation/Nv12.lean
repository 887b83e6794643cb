import Obs2Mf.Foundation.Stores

set_option autoImplicit false

/- NV12 pictures: a plane of luma samples, then one of half the height whose rows are
chroma pairs, one pair for each block of two by two. -/
namespace Obs2Mf.Nv12

open Stores

variable {α : Type}

structure Picture (α : Type) where
  luma : Nat → Nat → α
  chroma : Nat → Nat → α × α

/-- Sizes that are cut into whole blocks. -/
structure Blocks (width height : Nat) : Prop where
  width : width % 2 = 0
  height : height % 2 = 0

def lumaOffset (width x y : Nat) : Nat := y * width + x

def chromaOffset (width height cx cy : Nat) : Nat := width * height + (cy * width + cx * 2)

/-- The number of bytes of a picture. -/
def size (width height : Nat) : Nat := width * height * 3 / 2

def byteAt (width height : Nat) (picture : Picture α) (i : Nat) : α :=
  if i < width * height then picture.luma (i % width) (i / width)
  else
    let j := i - width * height
    if j % width % 2 = 0 then (picture.chroma (j % width / 2) (j / width)).1
    else (picture.chroma (j % width / 2) (j / width)).2

/-- The buffer that holds a picture, without padding. -/
def bytes (width height : Nat) (picture : Picture α) : List α :=
  (List.range (size width height)).map (byteAt width height picture)

/-- The picture that a buffer holds. -/
def ofBytes [Inhabited α] (width height : Nat) (buf : List α) : Picture α where
  luma x y := buf.getD (lumaOffset width x y) default
  chroma cx cy :=
    (buf.getD (chromaOffset width height cx cy) default,
      buf.getD (chromaOffset width height cx cy + 1) default)

/-- The nearest sample up and to the left, in each plane. -/
def scale (srcW srcH dstW dstH : Nat) (picture : Picture α) : Picture α where
  luma x y := picture.luma (x * srcW / dstW) (y * srcH / dstH)
  chroma cx cy :=
    picture.chroma (cx * (srcW / 2) / (dstW / 2)) (cy * (srcH / 2) / (dstH / 2))

@[simp] theorem bytes_length (width height : Nat) (picture : Picture α) :
    (bytes width height picture).length = size width height := by
  rw [bytes, List.length_map, List.length_range]

/-- A column of a row: which row, and which column. -/
theorem row_column {width x : Nat} (y : Nat) (inside : x < width) :
    (y * width + x) / width = y ∧ (y * width + x) % width = x := by
  have positive : 0 < width := by omega
  constructor
  · rw [Nat.add_comm, Nat.add_mul_div_right x y positive, Nat.div_eq_of_lt inside, Nat.zero_add]
  · rw [Nat.add_comm, Nat.add_mul_mod_self_right, Nat.mod_eq_of_lt inside]

theorem row_inside {width height x y : Nat} (right : x < width) (below : y < height) :
    y * width + x < width * height := by
  calc y * width + x
      < y * width + width := by omega
    _ = (y + 1) * width := (Nat.succ_mul y width).symm
    _ ≤ height * width := Nat.mul_le_mul_right width below
    _ = width * height := Nat.mul_comm height width

theorem size_split {width height : Nat} (blocks : Blocks width height) :
    size width height = width * height + width * (height / 2) := by
  have even := blocks.height
  have twice : height = 2 * (height / 2) := by omega
  have area : width * height = 2 * (width * (height / 2)) := by
    calc width * height = width * (2 * (height / 2)) := congrArg (width * ·) twice
      _ = 2 * (width * (height / 2)) := Nat.mul_left_comm width 2 (height / 2)
  rw [size, area]
  omega

section Samples

variable {width height : Nat} (picture : Picture α)

theorem byteAt_luma {x y : Nat} (right : x < width) (below : y < height) :
    byteAt width height picture (lumaOffset width x y) = picture.luma x y := by
  have place := row_column y right
  rw [lumaOffset, byteAt, if_pos (row_inside right below), place.1, place.2]

theorem byteAt_chroma {cx : Nat} (cy part : Nat) (pair : part < 2)
    (right : cx < width / 2) :
    byteAt width height picture (chromaOffset width height cx cy + part) =
      if part = 0 then (picture.chroma cx cy).1 else (picture.chroma cx cy).2 := by
  have after : ¬ chromaOffset width height cx cy + part < width * height := by
    unfold chromaOffset
    omega
  have offset : chromaOffset width height cx cy + part - width * height =
      cy * width + (cx * 2 + part) := by
    unfold chromaOffset
    omega
  have column : cx * 2 + part < width := by omega
  have place := row_column cy column
  have block : (cx * 2 + part) / 2 = cx := by omega
  have which : (cx * 2 + part) % 2 = part := by omega
  simp only [byteAt, if_neg after, offset, place.1, place.2, block, which]

theorem byteAt_first {cx : Nat} (cy : Nat) (right : cx < width / 2) :
    byteAt width height picture (chromaOffset width height cx cy) =
      (picture.chroma cx cy).1 := by
  exact (byteAt_chroma picture cy 0 (by decide) right).trans (if_pos rfl)

theorem byteAt_second {cx : Nat} (cy : Nat) (right : cx < width / 2) :
    byteAt width height picture (chromaOffset width height cx cy + 1) =
      (picture.chroma cx cy).2 := by
  exact (byteAt_chroma picture cy 1 (by decide) right).trans (if_neg (by decide))

end Samples

/-- Every byte is a luma sample or half of a chroma pair. -/
theorem offset_cases {width height i : Nat} (blocks : Blocks width height)
    (inside : i < size width height) :
    (∃ x y, x < width ∧ y < height ∧ i = lumaOffset width x y) ∨
      ∃ cx cy part, cx < width / 2 ∧ cy < height / 2 ∧ part < 2 ∧
        i = chromaOffset width height cx cy + part := by
  rw [size_split blocks] at inside
  have even := blocks.width
  have positive : 0 < width := by
    rcases Nat.eq_zero_or_pos width with none | positive
    · rw [none, Nat.zero_mul, Nat.zero_mul] at inside
      omega
    · exact positive
  by_cases luma : i < width * height
  · left
    refine ⟨i % width, i / width, Nat.mod_lt i positive, ?_, ?_⟩
    · exact Nat.div_lt_of_lt_mul luma
    · rw [lumaOffset, Nat.mul_comm]
      exact (Nat.div_add_mod i width).symm
  · right
    have column := Nat.mod_lt (i - width * height) positive
    have whole := Nat.div_add_mod (i - width * height) width
    have row : (i - width * height) / width < height / 2 := by
      apply Nat.div_lt_of_lt_mul
      omega
    refine ⟨(i - width * height) % width / 2, (i - width * height) / width,
      (i - width * height) % width % 2, by omega, row, Nat.mod_lt _ (by decide), ?_⟩
    rw [chromaOffset, Nat.mul_comm _ width]
    omega

/-- The samples of a picture, found in its buffer. -/
theorem getElem?_luma {width height x y : Nat} (picture : Picture α)
    (blocks : Blocks width height) (right : x < width) (below : y < height) :
    (bytes width height picture)[lumaOffset width x y]? = some (picture.luma x y) := by
  have inside : lumaOffset width x y < size width height := by
    rw [size_split blocks, lumaOffset]
    have luma := row_inside right below
    omega
  rw [bytes, List.getElem?_map, List.getElem?_range inside, Option.map_some,
    byteAt_luma picture right below]

theorem chroma_inside {width height cx cy part : Nat} (blocks : Blocks width height)
    (pair : part < 2) (right : cx < width / 2) (below : cy < height / 2) :
    chromaOffset width height cx cy + part < size width height := by
  have column : cx * 2 + part < width := by omega
  have row := row_inside column below
  rw [size_split blocks, chromaOffset]
  omega

theorem getElem?_chroma {width height cx cy part : Nat} (picture : Picture α)
    (blocks : Blocks width height) (pair : part < 2) (right : cx < width / 2)
    (below : cy < height / 2) :
    (bytes width height picture)[chromaOffset width height cx cy + part]? =
      some (if part = 0 then (picture.chroma cx cy).1 else (picture.chroma cx cy).2) := by
  rw [bytes, List.getElem?_map, List.getElem?_range (chroma_inside blocks pair right below),
    Option.map_some, byteAt_chroma picture cy part pair right]

/-- A buffer that is long enough is the picture it holds, and what follows it. -/
theorem bytes_ofBytes [Inhabited α] {width height : Nat} (blocks : Blocks width height)
    (buf : List α) (full : size width height ≤ buf.length) :
    bytes width height (ofBytes width height buf) = buf.take (size width height) := by
  apply List.ext_getElem?
  intro i
  by_cases inside : i < size width height
  · rw [List.getElem?_take_of_lt inside]
    have held : i < buf.length := by omega
    rcases offset_cases blocks inside with
      ⟨x, y, right, below, rfl⟩ | ⟨cx, cy, part, right, below, pair, rfl⟩
    · rw [getElem?_luma _ blocks right below, List.getElem?_eq_getElem held]
      exact congrArg some (List.getElem_eq_getD default).symm
    · rw [getElem?_chroma _ blocks pair right below, List.getElem?_eq_getElem held]
      have which : part = 0 ∨ part = 1 := by omega
      rcases which with rfl | rfl
      · exact congrArg some (List.getElem_eq_getD default).symm
      · exact congrArg some (List.getElem_eq_getD default).symm
  · rw [List.getElem?_eq_none, List.getElem?_eq_none]
    · rw [List.length_take]
      omega
    · rw [bytes_length]
      omega

/-- Stores that write every luma sample and both halves of every chroma pair, each with
its own value, leave the picture whatever the buffer held. -/
theorem writeAll_picture {width height : Nat} (picture : Picture α) (buf : List α)
    (stores : List (Store α)) (blocks : Blocks width height)
    (sized : buf.length = size width height)
    (agree : Agree (byteAt width height picture) stores)
    (luma : ∀ x y, x < width → y < height →
      ∃ store ∈ stores, store.offset = lumaOffset width x y)
    (chroma : ∀ cx cy part, cx < width / 2 → cy < height / 2 → part < 2 →
      ∃ store ∈ stores, store.offset = chromaOffset width height cx cy + part) :
    writeAll buf stores = bytes width height picture := by
  rw [bytes, ← sized]
  apply writeAll_covered (byteAt width height picture) buf stores agree
  intro i inside
  rw [sized] at inside
  rcases offset_cases blocks inside with
    ⟨x, y, right, below, rfl⟩ | ⟨cx, cy, part, right, below, pair, rfl⟩
  · exact luma x y right below
  · exact chroma cx cy part right below pair

/-- Memory that holds a picture whose rows start `stride` samples apart. -/
structure Shows (stride width height : Nat) (picture : Picture α) (mem : Nat → α) : Prop where
  luma : ∀ x y, x < width → y < height → mem (lumaOffset stride x y) = picture.luma x y
  chroma : ∀ cx cy part, cx < width / 2 → cy < height / 2 → part < 2 →
    mem (chromaOffset stride height cx cy + part) =
      if part = 0 then (picture.chroma cx cy).1 else (picture.chroma cx cy).2

/-- The samples of such a picture, without the padding of its rows. -/
def Sample (stride width height i : Nat) : Prop :=
  ∃ x y, x < width ∧ y < height + height / 2 ∧ i = lumaOffset stride x y

theorem applyStores_shows {stride width height : Nat} (picture : Picture α) (mem : Nat → α)
    (stores : List (Store α)) (narrow : width ≤ stride)
    (agree : Agree (byteAt stride height picture) stores)
    (luma : ∀ x y, x < width → y < height →
      ∃ store ∈ stores, store.offset = lumaOffset stride x y)
    (chroma : ∀ cx cy part, cx < width / 2 → cy < height / 2 → part < 2 →
      ∃ store ∈ stores, store.offset = chromaOffset stride height cx cy + part) :
    Shows stride width height picture (applyStores mem stores) := by
  constructor
  · intro x y right below
    rw [applyStores_written _ mem stores _ agree (luma x y right below)]
    exact byteAt_luma picture (by omega) below
  · intro cx cy part right below pair
    rw [applyStores_written _ mem stores _ agree (chroma cx cy part right below pair)]
    exact byteAt_chroma picture cy part pair (by omega)

end Obs2Mf.Nv12
