import SdlRender.Sysrender

/-!
# Reading the screen back on the Vita

`VITA_GXM_RenderReadPixels` reads the frame buffer `sceDisplayGetFrameBuf` gives, top-down,
row `i` at `i * pitch`. `SDL_CreateSurface` and `SDL_FlipSurface` are not under src/: the
surface is created zeroed with a pitch of `w` words, and the flip is the vertical mirror.
-/

namespace SdlRender.Vita

/-- The frame buffer `sceDisplayGetFrameBuf` returns, its pitch in pixels. -/
structure FrameBuf where
  pixels : Int → UInt32
  pitch : Nat

/-- An ABGR8888 surface of `w` by `h` pixels, `pixels` in words, row `r` at `r * w`. -/
structure Surface where
  w : Nat
  h : Nat
  pixels : Nat → UInt32

/-- The pixel at column `c` and row `r`. -/
def Surface.pixel (s : Surface) (c r : Nat) : UInt32 :=
  s.pixels (r * s.w + c)

/-- `SDL_FlipSurface(surface, SDL_FLIP_VERTICAL)`: row `r` takes row `h - 1 - r`. -/
def Surface.flipVertical (s : Surface) : Surface :=
  { s with
    pixels := fun k => if k < s.h * s.w then s.pixels ((s.h - 1 - k / s.w) * s.w + k % s.w)
      else s.pixels k }

/-- Row `i` of `read_pixels`. -/
def readRow (fb : FrameBuf) (start : Int) (width height : Nat) (out : Nat → UInt32) (i : Nat) :
    Nat → UInt32 :=
  (List.range width).foldl
    (fun out j => Function.update out ((height - (i + 1)) * width + j)
      (fb.pixels (start + i * fb.pitch + j))) out

/-- `read_pixels`, from `in32 = base + x + y * pitch`. -/
def readPixels (fb : FrameBuf) (x y : Int) (width height : Nat) (data : Nat → UInt32) :
    Nat → UInt32 :=
  (List.range height).foldl (readRow fb (x + y * fb.pitch) width height) data

/-- `VITA_GXM_RenderReadPixels`; `NULL` when a target is set. -/
def vitaGxmRenderReadPixels (target : Option TexId) (rect : SDLRect) (outputH : Int)
    (fb : FrameBuf) : Option Surface :=
  if target.isSome then none
  else
    let surface : Surface := ⟨rect.w.toNat, rect.h.toNat, fun _ => 0⟩
    let y := (outputH - rect.y) - rect.h
    some (Surface.flipVertical
      { surface with pixels := readPixels fb rect.x y rect.w.toNat rect.h.toNat surface.pixels })

/-! ## What the loops store -/

theorem foldl_update_range {α : Type} (base n : Nat) (f : Nat → α) (g : Nat → α) (k : Nat) :
    (List.range n).foldl (fun out j => Function.update out (base + j) (f j)) g k =
      if base ≤ k ∧ k < base + n then f (k - base) else g k := by
  induction n with
  | zero => exact (if_neg (by omega)).symm
  | succ n ih =>
      rw [List.range_succ, List.foldl_append, List.foldl_cons, List.foldl_nil,
        Function.update_apply, ih]
      by_cases last : k = base + n
      · rw [if_pos last, if_pos (by omega), last, Nat.add_sub_cancel_left]
      · rw [if_neg last]
        split_ifs <;> first | rfl | omega

theorem mul_add_mem_block {w r c a : Nat} (short : c < w) :
    a * w ≤ r * w + c ∧ r * w + c < a * w + w ↔ r = a := by
  constructor
  · rintro ⟨above, below⟩
    rcases Nat.lt_trichotomy r a with before | same | after
    · have := Nat.mul_le_mul_right w (Nat.succ_le_of_lt before)
      rw [Nat.succ_mul] at this
      omega
    · exact same
    · have := Nat.mul_le_mul_right w (Nat.succ_le_of_lt after)
      rw [Nat.succ_mul] at this
      omega
  · rintro rfl
    omega

theorem readPixels_rows (fb : FrameBuf) (start : Int) {width height : Nat} (data : Nat → UInt32)
    {r c : Nat} (row : r < height) (short : c < width) :
    ∀ n ≤ height, (List.range n).foldl (readRow fb start width height) data (r * width + c) =
      if height - n ≤ r then fb.pixels (start + (height - 1 - r : Nat) * fb.pitch + c)
      else data (r * width + c)
  | 0, _ => if_neg (by omega) |>.symm
  | n + 1, inside => by
      rw [List.range_succ, List.foldl_append, List.foldl_cons, List.foldl_nil, readRow,
        foldl_update_range, readPixels_rows fb start data row short n (by omega)]
      by_cases last : r = height - (n + 1)
      · rw [if_pos ((mul_add_mem_block short).mpr last), if_pos (by omega), last,
          Nat.add_sub_cancel_left, show height - 1 - (height - (n + 1)) = n by omega]
      · rw [if_neg (mt (mul_add_mem_block short).mp last)]
        split_ifs <;> first | rfl | omega

theorem readPixels_pixel (fb : FrameBuf) (x y : Int) {width height : Nat} (data : Nat → UInt32)
    {r c : Nat} (row : r < height) (short : c < width) :
    readPixels fb x y width height data (r * width + c) =
      fb.pixels (x + y * fb.pitch + (height - 1 - r : Nat) * fb.pitch + c) := by
  rw [readPixels, readPixels_rows fb _ data row short height le_rfl, if_pos (by omega)]

theorem Surface.flipVertical_pixel (s : Surface) {c r : Nat} (row : r < s.h) (short : c < s.w) :
    s.flipVertical.pixel c r = s.pixel c (s.h - 1 - r) := by
  have below : r * s.w + c < s.h * s.w := by
    have := Nat.mul_le_mul_right s.w (Nat.succ_le_of_lt row)
    rw [Nat.succ_mul] at this
    omega
  have rowOf : (r * s.w + c) / s.w = r := by
    rw [Nat.add_comm, Nat.add_mul_div_right _ _ (by omega), Nat.div_eq_of_lt short, Nat.zero_add]
  have columnOf : (r * s.w + c) % s.w = c := by
    rw [Nat.add_comm, Nat.add_mul_mod_self_right, Nat.mod_eq_of_lt short]
  simp only [Surface.flipVertical, Surface.pixel, if_pos below, rowOf, columnOf]

/-- Without a target, surface pixel `(c, r)` is frame pixel
`(rect.x + c, h - rect.y - rect.h + r)`. -/
theorem vitaGxmRenderReadPixels_pixel (rect : SDLRect) (outputH : Int) (fb : FrameBuf)
    {c r : Nat} (row : r < rect.h.toNat) (short : c < rect.w.toNat) :
    (vitaGxmRenderReadPixels none rect outputH fb).map (·.pixel c r) =
      some (fb.pixels (rect.x + (outputH - rect.y - rect.h + r) * fb.pitch + c)) := by
  simp only [vitaGxmRenderReadPixels, Option.isSome_none, Bool.false_eq_true, if_false,
    Option.map_some']
  rw [Surface.flipVertical_pixel _ row short]
  simp only [Surface.pixel]
  rw [readPixels_pixel fb _ _ _ (by omega) short]
  congr 1
  push_cast [Nat.sub_sub_self (by omega : r ≤ rect.h.toNat - 1)]
  rw [Int.add_mul, ← Int.add_assoc]

/-- The 1x1 read at `(0, 0)` of the 544-row screen returns row 543. -/
theorem readPixels_reads_mirrored_row :
    (vitaGxmRenderReadPixels none ⟨0, 0, 1, 1⟩ 544
        ⟨fun a => (a / 960).toNat.toUInt32, 960⟩).map (·.pixel 0 0) = some 543 := by
  rw [vitaGxmRenderReadPixels_pixel _ _ _ (by decide) (by decide)]
  decide

end SdlRender.Vita
