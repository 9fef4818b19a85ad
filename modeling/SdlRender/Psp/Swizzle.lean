import SdlRender.Psp.Texture
import Mathlib.Data.List.Perm.Basic
import Mathlib.Data.List.Nodup
import Mathlib.Tactic.Ring

/-!
# The swizzle codec of the PSP backend

`TextureSwizzle` and `TextureUnswizzle` move a texture between the linear layout and the
GE's layout of 16-byte by 8-row blocks. Their loops are written as the lists of
(destination, source) byte copies they make; `swizzleOffset` and `unswizzleOffset` are the
closed forms, inverse permutations of `[0, size)` on a texture of whole blocks.
-/

namespace SdlRender.Psp

/-! ## The loops -/

/-- One chunk of the codec as 16 byte copies of (destination offset, source offset). -/
def chunkCopies (block src : Nat) : List (Nat × Nat) :=
  (List.range 16).map fun k => (block + k, src + k)

/-- The inner loop of `TextureSwizzle`. -/
def swizzleRow (block src : Nat) : Nat → List (Nat × Nat)
  | 0 => []
  | n + 1 => chunkCopies block src ++ swizzleRow (block + 128) (src + 16) n

/-- The outer loop of `TextureSwizzle`. For `rowblocks = 0` the C `rowblocksadd` is
negative and this one is 0; no chunk is copied then. -/
def swizzleRows (rowblocks : Nat) (j blockaddress src : Nat) : Nat → List (Nat × Nat)
  | 0 => []
  | rows + 1 =>
      swizzleRow blockaddress src rowblocks ++
        swizzleRows rowblocks (j + 1)
          (blockaddress + (if j % 8 = 7 then (rowblocks - 1) * 128 else 0) + 16)
          (src + 16 * rowblocks) rows

/-- The byte copies of `TextureSwizzle`. -/
def textureSwizzleCopies (t : PSPTextureData) : List (Nat × Nat) :=
  swizzleRows (t.bytewidth / 16) 0 0 0 (t.size / t.bytewidth)

/-- The innermost loop of `TextureUnswizzle`. -/
def unswizzleBlock (dstpitch block src : Nat) : Nat → List (Nat × Nat)
  | 0 => []
  | n + 1 =>
      chunkCopies block src ++ unswizzleBlock dstpitch (block + 16 + 4 * dstpitch) (src + 16) n

/-- The `blockx` loop of `TextureUnswizzle`: the `n` blocks left of one band of 8 rows. -/
def unswizzleBlockRow (dstpitch xdst src : Nat) : Nat → List (Nat × Nat)
  | 0 => []
  | n + 1 =>
      unswizzleBlock dstpitch xdst src 8 ++ unswizzleBlockRow dstpitch (xdst + 16) (src + 128) n

/-- The `blocky` loop of `TextureUnswizzle`: the `n` bands left, `ydst += dstrow` each. -/
def unswizzleRows (dstpitch dstrow widthblocks ydst src : Nat) : Nat → List (Nat × Nat)
  | 0 => []
  | n + 1 =>
      unswizzleBlockRow dstpitch ydst src widthblocks ++
        unswizzleRows dstpitch dstrow widthblocks (ydst + dstrow) (src + 128 * widthblocks) n

/-- The byte copies of `TextureUnswizzle`. -/
def textureUnswizzleCopies (t : PSPTextureData) : List (Nat × Nat) :=
  unswizzleRows ((t.bytewidth - 16) / 4) (t.bytewidth * 8) (t.bytewidth / 16) 0 0
    (t.size / t.bytewidth / 8)

/-- The destination buffer after a list of copies from `src`. -/
def applyCopies (copies : List (Nat × Nat)) (src dst : Nat → UInt8) : Nat → UInt8 :=
  copies.foldl (fun buffer copy => Function.update buffer copy.1 (src copy.2)) dst

/-- The same copies made in the one address space. -/
def memCopies (copies : List (Nat × Nat)) (src dst : Nat) (bytes : Nat → UInt8) : Nat → UInt8 :=
  copies.foldl (fun memory copy => Function.update memory (dst + copy.1) (memory (src + copy.2)))
    bytes

/-- `SDL_memcpy(dst, src, n)`. -/
def memcpy (dst src n : Nat) (bytes : Nat → UInt8) : Nat → UInt8 :=
  memCopies ((List.range n).map fun o => (o, o)) src dst bytes

/-! ## Closed forms -/

/-- Where `TextureSwizzle` puts byte `o` of the linear image. -/
def swizzleOffset (rowblocks o : Nat) : Nat :=
  ((o / 16 / rowblocks / 8 * rowblocks + o / 16 % rowblocks) * 8 + o / 16 / rowblocks % 8) *
      16 + o % 16

/-- Where `TextureUnswizzle` puts byte `o` of the swizzled image. -/
def unswizzleOffset (rowblocks o : Nat) : Nat :=
  ((o / 128 / rowblocks * 8 + o / 16 % 8) * rowblocks + o / 128 % rowblocks) * 16 + o % 16

section Offsets

variable {rowblocks : Nat}

theorem swizzleOffset_digits {row i k : Nat} (chunk : i < rowblocks) (byte : k < 16) :
    swizzleOffset rowblocks ((row * rowblocks + i) * 16 + k) =
      ((row / 8 * rowblocks + i) * 8 + row % 8) * 16 + k := by
  have line : ((row * rowblocks + i) * 16 + k) / 16 = row * rowblocks + i := by omega
  have quotient : (row * rowblocks + i) / rowblocks = row := by
    rw [Nat.mul_comm row, Nat.mul_add_div (by omega), Nat.div_eq_of_lt chunk, Nat.add_zero]
  have remainder : (row * rowblocks + i) % rowblocks = i := by
    rw [Nat.mul_comm row, Nat.mul_add_mod, Nat.mod_eq_of_lt chunk]
  have low : ((row * rowblocks + i) * 16 + k) % 16 = k := by omega
  simp only [swizzleOffset, line, quotient, remainder, low]

theorem unswizzleOffset_digits {block i r k : Nat} (chunk : i < rowblocks) (line : r < 8)
    (byte : k < 16) :
    unswizzleOffset rowblocks (((block * rowblocks + i) * 8 + r) * 16 + k) =
      ((block * 8 + r) * rowblocks + i) * 16 + k := by
  have blockIndex : (((block * rowblocks + i) * 8 + r) * 16 + k) / 128 =
      block * rowblocks + i := by omega
  have quotient : (block * rowblocks + i) / rowblocks = block := by
    rw [Nat.mul_comm block, Nat.mul_add_div (by omega), Nat.div_eq_of_lt chunk, Nat.add_zero]
  have remainder : (block * rowblocks + i) % rowblocks = i := by
    rw [Nat.mul_comm block, Nat.mul_add_mod, Nat.mod_eq_of_lt chunk]
  have lineIndex : (((block * rowblocks + i) * 8 + r) * 16 + k) / 16 % 8 = r := by omega
  have low : (((block * rowblocks + i) * 8 + r) * 16 + k) % 16 = k := by omega
  simp only [unswizzleOffset, blockIndex, quotient, remainder, lineIndex, low]

theorem unswizzleOffset_swizzleOffset (positive : 0 < rowblocks) (o : Nat) :
    unswizzleOffset rowblocks (swizzleOffset rowblocks o) = o := by
  have split : o = (o / 16 / rowblocks * rowblocks + o / 16 % rowblocks) * 16 + o % 16 := by
    rw [Nat.div_add_mod', Nat.div_add_mod']
  rw [swizzleOffset, unswizzleOffset_digits (Nat.mod_lt _ positive) (Nat.mod_lt _ (by omega))
    (Nat.mod_lt _ (by omega)), Nat.div_add_mod', ← split]

theorem swizzleOffset_unswizzleOffset (positive : 0 < rowblocks) (o : Nat) :
    swizzleOffset rowblocks (unswizzleOffset rowblocks o) = o := by
  rw [unswizzleOffset, swizzleOffset_digits (Nat.mod_lt _ positive) (Nat.mod_lt _ (by omega))]
  have band : (o / 128 / rowblocks * 8 + o / 16 % 8) / 8 = o / 128 / rowblocks := by omega
  have line : (o / 128 / rowblocks * 8 + o / 16 % 8) % 8 = o / 16 % 8 := by omega
  rw [band, line, Nat.div_add_mod']
  omega

theorem swizzleOffset_lt {heightblocks o : Nat}
    (inside : o < 8 * heightblocks * (16 * rowblocks)) :
    swizzleOffset rowblocks o < 8 * heightblocks * (16 * rowblocks) := by
  have positive : 0 < rowblocks := Nat.pos_of_ne_zero fun zero => by simp [zero] at inside
  have row : o / 16 / rowblocks < 8 * heightblocks := by
    rw [Nat.div_lt_iff_lt_mul positive]
    rw [Nat.div_lt_iff_lt_mul (by omega)]
    calc o < 8 * heightblocks * (16 * rowblocks) := inside
      _ = 8 * heightblocks * rowblocks * 16 := by ring
  have band : o / 16 / rowblocks / 8 * rowblocks + o / 16 % rowblocks <
      heightblocks * rowblocks := by
    have : o / 16 / rowblocks / 8 + 1 ≤ heightblocks := by omega
    calc o / 16 / rowblocks / 8 * rowblocks + o / 16 % rowblocks
        < o / 16 / rowblocks / 8 * rowblocks + rowblocks := by
          have := Nat.mod_lt (o / 16) positive
          omega
      _ = (o / 16 / rowblocks / 8 + 1) * rowblocks := by ring
      _ ≤ heightblocks * rowblocks := Nat.mul_le_mul_right _ this
  have total : 8 * heightblocks * (16 * rowblocks) = heightblocks * rowblocks * 128 := by ring
  rw [swizzleOffset, total]
  omega

theorem unswizzleOffset_lt {heightblocks o : Nat}
    (inside : o < 8 * heightblocks * (16 * rowblocks)) :
    unswizzleOffset rowblocks o < 8 * heightblocks * (16 * rowblocks) := by
  have positive : 0 < rowblocks := Nat.pos_of_ne_zero fun zero => by simp [zero] at inside
  have block : o / 128 < heightblocks * rowblocks := by
    rw [Nat.div_lt_iff_lt_mul (by omega)]
    calc o < 8 * heightblocks * (16 * rowblocks) := inside
      _ = heightblocks * rowblocks * 128 := by ring
  have band : o / 128 / rowblocks < heightblocks := by
    rw [Nat.div_lt_iff_lt_mul positive]
    exact block
  have line : (o / 128 / rowblocks * 8 + o / 16 % 8) * rowblocks + o / 128 % rowblocks <
      8 * heightblocks * rowblocks := by
    have := Nat.mod_lt (o / 128) positive
    calc (o / 128 / rowblocks * 8 + o / 16 % 8) * rowblocks + o / 128 % rowblocks
        < (o / 128 / rowblocks * 8 + o / 16 % 8) * rowblocks + rowblocks := by omega
      _ = (o / 128 / rowblocks * 8 + o / 16 % 8 + 1) * rowblocks := by ring
      _ ≤ 8 * heightblocks * rowblocks := Nat.mul_le_mul_right _ (by omega)
  have total : 8 * heightblocks * (16 * rowblocks) = 8 * heightblocks * rowblocks * 16 := by
    ring
  rw [unswizzleOffset, total]
  omega

end Offsets

/-! ## The loops compute the closed forms -/

section Loops

variable {rowblocks : Nat}

theorem map_range'_append (f : Nat → Nat × Nat) (start m n : Nat) :
    (List.range' start m).map f ++ (List.range' (start + m) n).map f =
      (List.range' start (m + n)).map f := by
  rw [← List.map_append, show start + m = start + 1 * m by ring, List.range'_append,
    Nat.add_comm n]

theorem chunkCopies_swizzle {row i : Nat} (chunk : i < rowblocks) :
    chunkCopies (((row / 8 * rowblocks + i) * 8 + row % 8) * 16) ((row * rowblocks + i) * 16) =
      (List.range' ((row * rowblocks + i) * 16) 16).map
        fun o => (swizzleOffset rowblocks o, o) := by
  rw [chunkCopies, List.range'_eq_map_range, List.map_map]
  refine List.map_congr_left fun k member => ?_
  rw [Function.comp_apply, swizzleOffset_digits chunk (List.mem_range.mp member)]

theorem swizzleRow_eq {row : Nat} : ∀ n i, i + n ≤ rowblocks →
    swizzleRow (((row / 8 * rowblocks + i) * 8 + row % 8) * 16) ((row * rowblocks + i) * 16) n =
      (List.range' ((row * rowblocks + i) * 16) (16 * n)).map
        fun o => (swizzleOffset rowblocks o, o)
  | 0, _, _ => rfl
  | n + 1, i, fits => by
      have rest := @swizzleRow_eq row n (i + 1) (by omega)
      rw [show ((row / 8 * rowblocks + (i + 1)) * 8 + row % 8) * 16 =
          ((row / 8 * rowblocks + i) * 8 + row % 8) * 16 + 128 by ring,
        show (row * rowblocks + (i + 1)) * 16 = (row * rowblocks + i) * 16 + 16 by ring] at rest
      rw [swizzleRow, chunkCopies_swizzle (by omega), rest, map_range'_append]
      ring_nf

theorem blockaddress_succ (positive : 0 < rowblocks) (j : Nat) :
    (j / 8 * rowblocks * 8 + j % 8) * 16 + (if j % 8 = 7 then (rowblocks - 1) * 128 else 0) +
        16 = ((j + 1) / 8 * rowblocks * 8 + (j + 1) % 8) * 16 := by
  obtain ⟨r, rfl⟩ := Nat.exists_eq_add_of_lt positive
  by_cases last : j % 8 = 7
  · rw [if_pos last, show (j + 1) / 8 = j / 8 + 1 by omega, show (j + 1) % 8 = 0 by omega,
      last, show 0 + r + 1 - 1 = r by omega]
    ring
  · rw [if_neg last, show (j + 1) / 8 = j / 8 by omega, show (j + 1) % 8 = j % 8 + 1 by omega]
    ring

theorem swizzleRows_eq (positive : 0 < rowblocks) : ∀ rows j,
    swizzleRows rowblocks j ((j / 8 * rowblocks * 8 + j % 8) * 16) (j * rowblocks * 16) rows =
      (List.range' (j * rowblocks * 16) (rows * rowblocks * 16)).map
        fun o => (swizzleOffset rowblocks o, o)
  | 0, _ => by simp [swizzleRows]
  | rows + 1, j => by
      have row := @swizzleRow_eq rowblocks j rowblocks 0 (by omega)
      have rest := swizzleRows_eq positive rows (j + 1)
      simp only [Nat.add_zero, Nat.zero_add] at row
      rw [show (j + 1) * rowblocks * 16 = j * rowblocks * 16 + 16 * rowblocks by ring] at rest
      rw [swizzleRows, row, blockaddress_succ positive, rest, map_range'_append]
      ring_nf

theorem textureSwizzleCopies_eq {t : PSPTextureData} (widthAligned : t.bytewidth % 16 = 0)
    (widthPos : 0 < t.bytewidth) :
    textureSwizzleCopies t =
      (List.range (t.size / t.bytewidth * t.bytewidth)).map
        fun o => (swizzleOffset (t.bytewidth / 16) o, o) := by
  have rows := @swizzleRows_eq (t.bytewidth / 16) (by omega)
    (t.size / t.bytewidth) 0
  simp only [Nat.zero_div, Nat.zero_mul, Nat.zero_mod, Nat.zero_add] at rows
  rw [textureSwizzleCopies, rows, List.range_eq_range', Nat.mul_assoc,
    Nat.div_mul_cancel (Nat.dvd_of_mod_eq_zero widthAligned)]

theorem chunkCopies_unswizzle {band i r : Nat} (chunk : i < rowblocks) (line : r < 8) :
    chunkCopies (((band * 8 + r) * rowblocks + i) * 16) (((band * rowblocks + i) * 8 + r) * 16) =
      (List.range' (((band * rowblocks + i) * 8 + r) * 16) 16).map
        fun o => (unswizzleOffset rowblocks o, o) := by
  rw [chunkCopies, List.range'_eq_map_range, List.map_map]
  refine List.map_congr_left fun k member => ?_
  rw [Function.comp_apply, unswizzleOffset_digits chunk line (List.mem_range.mp member)]

theorem unswizzleBlock_eq {band i : Nat} (chunk : i < rowblocks) : ∀ n r, r + n ≤ 8 →
    unswizzleBlock (4 * rowblocks - 4) (((band * 8 + r) * rowblocks + i) * 16)
        (((band * rowblocks + i) * 8 + r) * 16) n =
      (List.range' (((band * rowblocks + i) * 8 + r) * 16) (16 * n)).map
        fun o => (unswizzleOffset rowblocks o, o)
  | 0, _, _ => rfl
  | n + 1, r, fits => by
      have rest := @unswizzleBlock_eq band i chunk n (r + 1) (by omega)
      have pitch : 16 + 4 * (4 * rowblocks - 4) = 16 * rowblocks := by omega
      rw [show ((band * 8 + (r + 1)) * rowblocks + i) * 16 =
          ((band * 8 + r) * rowblocks + i) * 16 + (16 + 4 * (4 * rowblocks - 4)) by
            rw [pitch]; ring,
        show ((band * rowblocks + i) * 8 + (r + 1)) * 16 =
          ((band * rowblocks + i) * 8 + r) * 16 + 16 by ring] at rest
      rw [unswizzleBlock, chunkCopies_unswizzle chunk (by omega), Nat.add_assoc, rest,
        map_range'_append]
      ring_nf

theorem unswizzleBlockRow_eq {band : Nat} : ∀ n i, i + n ≤ rowblocks →
    unswizzleBlockRow (4 * rowblocks - 4) ((band * 8 * rowblocks + i) * 16)
        ((band * rowblocks + i) * 128) n =
      (List.range' ((band * rowblocks + i) * 128) (128 * n)).map
        fun o => (unswizzleOffset rowblocks o, o)
  | 0, _, _ => rfl
  | n + 1, i, fits => by
      have block := @unswizzleBlock_eq rowblocks band i (by omega) 8 0 (by omega)
      have rest := @unswizzleBlockRow_eq band n (i + 1) (by omega)
      simp only [Nat.add_zero] at block
      rw [show (band * rowblocks + i) * 8 * 16 = (band * rowblocks + i) * 128 by ring] at block
      rw [show (band * 8 * rowblocks + (i + 1)) * 16 = (band * 8 * rowblocks + i) * 16 + 16 by ring,
        show (band * rowblocks + (i + 1)) * 128 = (band * rowblocks + i) * 128 + 128 by ring]
        at rest
      rw [unswizzleBlockRow, block, rest, map_range'_append]
      ring_nf

theorem unswizzleRows_eq (positive : 0 < rowblocks) : ∀ n band,
    unswizzleRows (4 * rowblocks - 4) (16 * rowblocks * 8) rowblocks (band * rowblocks * 128)
        (band * rowblocks * 128) n =
      (List.range' (band * rowblocks * 128) (n * rowblocks * 128)).map
        fun o => (unswizzleOffset rowblocks o, o)
  | 0, _ => by simp [unswizzleRows]
  | n + 1, band => by
      have blockRow := @unswizzleBlockRow_eq rowblocks band rowblocks 0 (by omega)
      have rest := unswizzleRows_eq positive n (band + 1)
      simp only [Nat.add_zero] at blockRow
      rw [show band * 8 * rowblocks * 16 = band * rowblocks * 128 by ring] at blockRow
      rw [show (band + 1) * rowblocks * 128 = band * rowblocks * 128 + 16 * rowblocks * 8 by ring]
        at rest
      rw [unswizzleRows, blockRow, show band * rowblocks * 128 + 128 * rowblocks =
        band * rowblocks * 128 + 16 * rowblocks * 8 by ring, rest,
        show band * rowblocks * 128 + 16 * rowblocks * 8 =
          band * rowblocks * 128 + 128 * rowblocks by ring, map_range'_append]
      ring_nf

theorem textureUnswizzleCopies_eq {t : PSPTextureData} (widthAligned : t.bytewidth % 16 = 0)
    (widthPos : 0 < t.bytewidth) :
    textureUnswizzleCopies t =
      (List.range (t.size / t.bytewidth / 8 * (t.bytewidth / 16) * 128)).map
        fun o => (unswizzleOffset (t.bytewidth / 16) o, o) := by
  have rows := @unswizzleRows_eq (t.bytewidth / 16) (by omega)
    (t.size / t.bytewidth / 8) 0
  simp only [Nat.zero_mul] at rows
  rw [textureUnswizzleCopies, show (t.bytewidth - 16) / 4 = 4 * (t.bytewidth / 16) - 4 by omega,
    show t.bytewidth * 8 = 16 * (t.bytewidth / 16) * 8 by omega, rows, List.range_eq_range']

end Loops

/-! ## Copy lists that place a whole buffer -/

def placeCopies (place : Nat → Nat) (n : Nat) : List (Nat × Nat) :=
  (List.range n).map fun o => (place o, o)

@[simp]
theorem applyCopies_nil (src dst : Nat → UInt8) : applyCopies [] src dst = dst := rfl

@[simp]
theorem applyCopies_cons (copy : Nat × Nat) (rest : List (Nat × Nat)) (src dst : Nat → UInt8) :
    applyCopies (copy :: rest) src dst =
      applyCopies rest src (Function.update dst copy.1 (src copy.2)) := rfl

theorem applyCopies_of_not_mem {copies : List (Nat × Nat)} {d : Nat}
    (untouched : d ∉ copies.map Prod.fst) (src dst : Nat → UInt8) :
    applyCopies copies src dst d = dst d := by
  induction copies generalizing dst with
  | nil => rfl
  | cons copy rest inductionHypothesis =>
      simp only [List.map_cons, List.mem_cons, not_or] at untouched
      rw [applyCopies_cons, inductionHypothesis untouched.2, Function.update_noteq untouched.1]

theorem applyCopies_of_mem {copies : List (Nat × Nat)} (distinct : (copies.map Prod.fst).Nodup)
    {d s : Nat} (copy : (d, s) ∈ copies) (src dst : Nat → UInt8) :
    applyCopies copies src dst d = src s := by
  induction copies generalizing dst with
  | nil => simp at copy
  | cons head rest inductionHypothesis =>
      simp only [List.map_cons, List.nodup_cons] at distinct
      rw [applyCopies_cons]
      rcases List.mem_cons.mp copy with same | later
      · subst same
        rw [applyCopies_of_not_mem distinct.1, Function.update_same]
      · exact inductionHypothesis distinct.2 later _

theorem memCopies_eq_applyCopies {copies : List (Nat × Nat)} {src dst : Nat}
    (apart : ∀ c ∈ copies, ∀ c' ∈ copies, dst + c.1 ≠ src + c'.2) {memory bytes : Nat → UInt8}
    (agree : ∀ c ∈ copies, memory (src + c.2) = bytes (src + c.2)) (d : Nat) :
    memCopies copies src dst memory (dst + d) =
      applyCopies copies (fun o => bytes (src + o)) (fun d => memory (dst + d)) d := by
  induction copies generalizing memory with
  | nil => rfl
  | cons copy rest ih =>
      have written : (fun d => Function.update memory (dst + copy.1) (memory (src + copy.2))
          (dst + d)) = Function.update (fun d => memory (dst + d)) copy.1 (bytes (src + copy.2)) := by
        rw [agree copy (List.mem_cons_self _ _)]
        exact Function.update_comp_eq_of_injective memory (add_right_injective dst) copy.1 _
      rw [applyCopies_cons, ← written]
      refine ih (fun c mem c' mem' => apart c (.tail _ mem) c' (.tail _ mem'))
        fun c mem => ?_
      dsimp only
      rw [Function.update_noteq (apart copy (.head _) c (.tail _ mem)).symm]
      exact agree c (.tail _ mem)

section Placement

variable {place back : Nat → Nat} {n : Nat}

theorem placeCopies_apart (inside : ∀ o < n, place o < n) {src dst : Nat}
    (apart : dst + n ≤ src ∨ src + n ≤ dst) :
    ∀ c ∈ placeCopies place n, ∀ c' ∈ placeCopies place n, dst + c.1 ≠ src + c'.2 := by
  simp only [placeCopies, List.mem_map, List.mem_range]
  rintro _ ⟨o, below, rfl⟩ _ ⟨o', below', rfl⟩
  have := inside o below
  dsimp only
  omega

theorem placeCopies_fst_nodup (inverse : ∀ o, back (place o) = o) :
    ((placeCopies place n).map Prod.fst).Nodup := by
  rw [placeCopies, List.map_map]
  exact (List.nodup_range n).map (Function.LeftInverse.injective inverse)

theorem placeCopies_fst_perm (inverse : ∀ o, back (place o) = o)
    (inverse' : ∀ o, place (back o) = o) (inside : ∀ o < n, place o < n)
    (inside' : ∀ o < n, back o < n) :
    ((placeCopies place n).map Prod.fst).Perm (List.range n) := by
  refine (List.perm_ext_iff_of_nodup (placeCopies_fst_nodup inverse) (List.nodup_range n)).2
    fun d => ?_
  simp only [placeCopies, List.map_map, List.mem_map, List.mem_range, Function.comp_apply]
  constructor
  · rintro ⟨o, below, rfl⟩
    exact inside o below
  · intro below
    exact ⟨back d, inside' d below, inverse' d⟩

theorem placeCopies_snd : (placeCopies place n).map Prod.snd = List.range n := by
  simp [placeCopies, Function.comp_def]

theorem applyCopies_placeCopies (inverse : ∀ o, back (place o) = o) {o : Nat} (below : o < n)
    (src dst : Nat → UInt8) :
    applyCopies (placeCopies place n) src dst (place o) = src o :=
  applyCopies_of_mem (placeCopies_fst_nodup inverse)
    (List.mem_map.mpr ⟨o, List.mem_range.mpr below, rfl⟩) src dst

theorem applyCopies_placeCopies_inverse (inverse : ∀ o, back (place o) = o)
    (inverse' : ∀ o, place (back o) = o) (inside : ∀ o < n, place o < n) {o : Nat}
    (below : o < n) (src junk junk' : Nat → UInt8) :
    applyCopies (placeCopies back n) (applyCopies (placeCopies place n) src junk) junk' o =
      src o := by
  conv_lhs => rw [← inverse o]
  rw [applyCopies_placeCopies inverse' (inside o below),
    applyCopies_placeCopies inverse below]

end Placement

/-! ## The codec on aligned textures -/

section Codec

variable {t : PSPTextureData}

/-- A texture of whole 16-byte by 8-row blocks, the layout the codec is made for. -/
def PSPTextureData.WholeBlocks (t : PSPTextureData) : Prop :=
  t.bytewidth % 16 = 0 ∧ 0 < t.bytewidth ∧ t.size % t.bytewidth = 0 ∧
    t.size / t.bytewidth % 8 = 0

instance (t : PSPTextureData) : Decidable t.WholeBlocks :=
  inferInstanceAs (Decidable (_ ∧ _ ∧ _ ∧ _))

theorem size_eq_blocks (widthAligned : t.bytewidth % 16 = 0) (wholeRows : t.size % t.bytewidth = 0)
    (heightAligned : t.size / t.bytewidth % 8 = 0) :
    t.size = 8 * (t.size / t.bytewidth / 8) * (16 * (t.bytewidth / 16)) := by
  have rows : t.size / t.bytewidth * t.bytewidth = t.size :=
    Nat.div_mul_cancel (Nat.dvd_of_mod_eq_zero wholeRows)
  calc t.size = t.size / t.bytewidth * t.bytewidth := rows.symm
    _ = 8 * (t.size / t.bytewidth / 8) * (16 * (t.bytewidth / 16)) := by
      rw [← show t.size / t.bytewidth = 8 * (t.size / t.bytewidth / 8) by omega,
        ← show t.bytewidth = 16 * (t.bytewidth / 16) by omega]

theorem PSPTextureData.WholeBlocks.offsets_lt (aligned : t.WholeBlocks) {o : Nat}
    (below : o < t.size) :
    swizzleOffset (t.bytewidth / 16) o < t.size ∧ unswizzleOffset (t.bytewidth / 16) o < t.size := by
  obtain ⟨widthAligned, -, wholeRows, heightAligned⟩ := aligned
  rw [size_eq_blocks widthAligned wholeRows heightAligned] at below ⊢
  exact ⟨swizzleOffset_lt below, unswizzleOffset_lt below⟩

theorem textureSwizzleCopies_eq_place (widthAligned : t.bytewidth % 16 = 0)
    (widthPos : 0 < t.bytewidth) (wholeRows : t.size % t.bytewidth = 0) :
    textureSwizzleCopies t = placeCopies (swizzleOffset (t.bytewidth / 16)) t.size := by
  rw [textureSwizzleCopies_eq widthAligned widthPos,
    Nat.div_mul_cancel (Nat.dvd_of_mod_eq_zero wholeRows), placeCopies]

theorem textureUnswizzleCopies_eq_place (widthAligned : t.bytewidth % 16 = 0)
    (widthPos : 0 < t.bytewidth) (wholeRows : t.size % t.bytewidth = 0)
    (heightAligned : t.size / t.bytewidth % 8 = 0) :
    textureUnswizzleCopies t = placeCopies (unswizzleOffset (t.bytewidth / 16)) t.size := by
  have blocks := size_eq_blocks widthAligned wholeRows heightAligned
  rw [textureUnswizzleCopies_eq widthAligned widthPos, placeCopies]
  congr 2
  calc t.size / t.bytewidth / 8 * (t.bytewidth / 16) * 128
      = 8 * (t.size / t.bytewidth / 8) * (16 * (t.bytewidth / 16)) := by ring
    _ = t.size := blocks.symm

end Codec

theorem applyCopies_swizzle_chunk {rowblocks size band r i k : Nat} (line : r < 8)
    (chunk : i < rowblocks) (byte : k < 16) (inside : (8 * band + r + 1) * (16 * rowblocks) ≤ size)
    (src dst : Nat → UInt8) :
    applyCopies (placeCopies (swizzleOffset rowblocks) size) src dst
        (((band * rowblocks + i) * 8 + r) * 16 + k) =
      src ((8 * band + r) * (16 * rowblocks) + 16 * i + k) := by
  have target := @swizzleOffset_digits rowblocks (8 * band + r) i k chunk byte
  rw [show (8 * band + r) / 8 = band by omega, show (8 * band + r) % 8 = r by omega] at target
  have source : (8 * band + r) * (16 * rowblocks) + 16 * i + k =
      ((8 * band + r) * rowblocks + i) * 16 + k := by ring
  have bound : (8 * band + r + 1) * (16 * rowblocks) =
      16 * ((8 * band + r) * rowblocks) + 16 * rowblocks := by ring
  rw [source, ← target, applyCopies_placeCopies (unswizzleOffset_swizzleOffset (by omega))
    (by omega) src dst]

end SdlRender.Psp
