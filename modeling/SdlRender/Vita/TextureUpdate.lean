import SdlRender.Sysrender
import Mathlib.Tactic.Linarith
import Mathlib.Tactic.Ring

/-!
# Texture updates of the Vita backend

`VITA_GXM_UpdateTexture`, `VITA_GXM_UpdateTextureYUV` and `VITA_GXM_UpdateTextureNV` copy the
caller's planes into the texture's storage: `pitch * h` bytes of luma, then two chroma planes
(IYUV, YV12) or one interleaved plane (NV12, NV21). Pointers and pitches are C `int`s, and
the caller's memory is apart from the storage.
-/

namespace SdlRender.Vita

/-- The part of `VITA_GXM_TextureData` the update routines read. -/
structure VitaTextureData where
  data : Int
  pitch : Nat
  w : Nat
  h : Nat
  yuv : Bool
  nv12 : Bool
  widthFits : w ≤ pitch

/-- The record `VITA_GXM_CreateTexture` keeps for a texture of `format`. -/
def vitaGxmCreateTextureData (format : SDLPixelFormat) (data : Int) (pitch w h : Nat)
    (widthFits : w ≤ pitch) : VitaTextureData where
  data := data
  pitch := pitch
  w := w
  h := h
  yuv := format = .iyuv || format = .yv12
  nv12 := format = .nv12 || format = .nv21
  widthFits := widthFits

/-! ## Copies -/

/-- `SDL_memcpy(dst, src, n)` from the caller's memory into the texture's storage. -/
def memcpy (dst src : Int) (n : Nat) (source storage : Int → UInt8) : Int → UInt8 :=
  (List.range n).foldl
    (fun storage (o : Nat) => Function.update storage (dst + o) (source (src + o))) storage

/-- The row loop of `SDL_memcpy` calls. -/
def copyRows (dst src : Int) (length : Nat) (dpitch spitch : Int) :
    Nat → (Int → UInt8) → (Int → UInt8) → Int → UInt8
  | 0, _, storage => storage
  | rows + 1, source, storage =>
      copyRows (dst + dpitch) (src + spitch) length dpitch spitch rows source
        (memcpy dst src length source storage)

/-- The block each routine repeats for each plane, with the source pointer after it. -/
def copyPlane (dst src length dpitch spitch rows : Int) (source storage : Int → UInt8) :
    (Int → UInt8) × Int :=
  if length = spitch ∧ length = dpitch then
    (memcpy dst src (length * rows).toNat source storage, src + spitch * rows)
  else
    (copyRows dst src length.toNat dpitch spitch rows.toNat source storage,
      src + spitch * rows.toNat)

/-! ## The three routines -/

/-- `VITA_GXM_LockTexture`: the address of the rectangle's first pixel, and the pitch. -/
def vitaGxmLockTexture (tex : VitaTextureData) (format : SDLPixelFormat) (rect : SDLRect) :
    Int × Int :=
  (tex.data + rect.y * tex.pitch + rect.x * sdlBytesPerPixel format, tex.pitch)

/-- `UVrect`: `{ x / 2, y / 2, (w + 1) / 2, (h + 1) / 2 }`. -/
def uvRect (rect : SDLRect) : SDLRect :=
  ⟨rect.x.tdiv 2, rect.y.tdiv 2, (rect.w + 1).tdiv 2, (rect.h + 1).tdiv 2⟩

/-- `Dpixels`: the chroma planes start after the luma plane, `pitch * h` bytes in. -/
def chromaBase (tex : VitaTextureData) : Int :=
  tex.data + tex.pitch * tex.h

def secondPlaneOffset (tex : VitaTextureData) (uvPitch : Int) : Int :=
  uvPitch * ((tex.h + 1) / 2 : Nat)

/-- `VITA_GXM_UpdateTexture`, the memory after it. -/
def vitaGxmUpdateTexture (tex : VitaTextureData) (format : SDLPixelFormat) (rect : SDLRect)
    (pixels pitch : Int) (source storage : Int → UInt8) : Int → UInt8 :=
  let locked := vitaGxmLockTexture tex format rect
  let luma := copyPlane locked.1 pixels (rect.w * sdlBytesPerPixel format) locked.2 pitch rect.h
    source storage
  let uv := uvRect rect
  if tex.yuv then
    let uvPitch := (locked.2 + 1).tdiv 2
    let uvSrcPitch := (pitch + 1).tdiv 2
    let udst := chromaBase tex + uv.y * uvPitch + uv.x
    let vdst := chromaBase tex + secondPlaneOffset tex uvPitch + uv.y * uvPitch + uv.x
    let u := copyPlane udst luma.2 uv.w uvPitch uvSrcPitch uv.h source luma.1
    (copyPlane vdst u.2 uv.w uvPitch uvSrcPitch uv.h source u.1).1
  else if tex.nv12 then
    let uvPitch := 2 * (locked.2 + 1).tdiv 2
    let uvSrcPitch := 2 * (pitch + 1).tdiv 2
    let uvdst := chromaBase tex + uv.y * uvPitch + uv.x
    (copyPlane uvdst luma.2 (uv.w * 2) uvPitch uvSrcPitch uv.h source luma.1).1
  else luma.1

/-- `VITA_GXM_UpdateTextureYUV`: YV12 keeps V in the first chroma plane. -/
def vitaGxmUpdateTextureYUV (tex : VitaTextureData) (format : SDLPixelFormat) (rect : SDLRect)
    (yplane ypitch uplane upitch vplane vpitch : Int) (source storage : Int → UInt8) :
    Int → UInt8 :=
  let uv := uvRect rect
  let locked := vitaGxmLockTexture tex format rect
  let storage := (copyPlane locked.1 yplane rect.w locked.2 ypitch rect.h source storage).1
  let uvPitch := (locked.2 + 1).tdiv 2
  let first := chromaBase tex + uv.y * uvPitch + uv.x
  let second := chromaBase tex + secondPlaneOffset tex uvPitch + uv.y * uvPitch + uv.x
  let udst := if format = .yv12 then second else first
  let vdst := if format = .yv12 then first else second
  let storage := (copyPlane udst uplane uv.w uvPitch upitch uv.h source storage).1
  (copyPlane vdst vplane uv.w uvPitch vpitch uv.h source storage).1

/-- `VITA_GXM_UpdateTextureNV`. -/
def vitaGxmUpdateTextureNV (tex : VitaTextureData) (format : SDLPixelFormat) (rect : SDLRect)
    (yplane ypitch uvplane uvpitch : Int) (source storage : Int → UInt8) : Int → UInt8 :=
  let uv := uvRect rect
  let locked := vitaGxmLockTexture tex format rect
  let storage := (copyPlane locked.1 yplane (rect.w * sdlBytesPerPixel format) locked.2 ypitch
    rect.h source storage).1
  let uvPitch := 2 * (locked.2 + 1).tdiv 2
  let uvdst := chromaBase tex + uv.y * uvPitch + uv.x
  (copyPlane uvdst uvplane (uv.w * 2) uvPitch uvpitch uv.h source storage).1

/-! ## Copies, plane by plane -/

section Copies

variable {source : Int → UInt8}

theorem memcpy_succ (dst src : Int) (n : Nat) (storage : Int → UInt8) :
    memcpy dst src (n + 1) source storage =
      Function.update (memcpy dst src n source storage) (dst + n) (source (src + n)) := by
  simp only [memcpy, List.range_succ, List.foldl_append]
  rfl

theorem memcpy_apply (dst src : Int) (n : Nat) (storage : Int → UInt8) (a : Int) :
    memcpy dst src n source storage a =
      if dst ≤ a ∧ a < dst + n then source (src + (a - dst)) else storage a := by
  induction n with
  | zero => exact (if_neg (by omega)).symm
  | succ n ih =>
      rw [memcpy_succ, Function.update_apply, ih]
      by_cases last : a = dst + n
      · subst last
        rw [if_pos rfl, if_pos (by push_cast; omega), add_sub_cancel_left]
      · rw [if_neg last]
        split_ifs <;> first | rfl | (push_cast at *; omega)

theorem memcpy_add (dst src : Int) (m k : Nat) (storage : Int → UInt8) :
    memcpy dst src (m + k) source storage =
      memcpy (dst + m) (src + m) k source (memcpy dst src m source storage) := by
  induction k with
  | zero => rfl
  | succ k ih =>
      rw [← Nat.add_assoc, memcpy_succ, memcpy_succ, ih]
      push_cast
      rw [add_assoc, add_assoc]

theorem copyRows_eq_memcpy (dst src : Int) (length rows : Nat) (storage : Int → UInt8) :
    copyRows dst src length length length rows source storage =
      memcpy dst src (length * rows) source storage := by
  induction rows generalizing dst src storage with
  | zero => rfl
  | succ rows ih =>
      rw [copyRows, ih, Nat.mul_succ, Nat.add_comm (length * rows) length, memcpy_add]

def InRows (dst : Int) (length : Nat) (dpitch : Int) (rows : Nat) (a : Int) : Prop :=
  ∃ r < rows, ∃ c < length, a = dst + r * dpitch + c

theorem inRows_succ {dst : Int} {length : Nat} {dpitch : Int} {rows : Nat} {a : Int} :
    InRows dst length dpitch (rows + 1) a ↔
      (dst ≤ a ∧ a < dst + length) ∨ InRows (dst + dpitch) length dpitch rows a := by
  constructor
  · rintro ⟨r, below, c, short, rfl⟩
    cases r with
    | zero => exact .inl (by push_cast; omega)
    | succ r => exact .inr ⟨r, by omega, c, short, by push_cast; ring⟩
  · rintro (⟨first, short⟩ | ⟨r, below, c, short, rfl⟩)
    · exact ⟨0, by omega, (a - dst).toNat, by omega, by push_cast; omega⟩
    · exact ⟨r + 1, by omega, c, short, by push_cast; ring⟩

theorem copyRows_of_not_inRows {dst src : Int} {length : Nat} {dpitch spitch : Int} {a : Int} :
    ∀ {rows : Nat}, ¬ InRows dst length dpitch rows a → ∀ storage,
      copyRows dst src length dpitch spitch rows source storage a = storage a
  | 0, _, _ => rfl
  | rows + 1, outside, storage => by
      rw [inRows_succ, not_or] at outside
      rw [copyRows, copyRows_of_not_inRows outside.2, memcpy_apply, if_neg outside.1]

theorem copyRows_congr {dst src : Int} {length : Nat} {dpitch spitch : Int} {a : Int} :
    ∀ {rows : Nat}, InRows dst length dpitch rows a → ∀ storage storage',
      copyRows dst src length dpitch spitch rows source storage a =
        copyRows dst src length dpitch spitch rows source storage' a
  | 0, ⟨_, below, _⟩, _, _ => absurd below (Nat.not_lt_zero _)
  | rows + 1, inside, storage, storage' => by
      simp only [copyRows]
      by_cases later : InRows (dst + dpitch) length dpitch rows a
      · exact copyRows_congr later _ _
      · have first := (inRows_succ.mp inside).resolve_right later
        rw [copyRows_of_not_inRows later, copyRows_of_not_inRows later, memcpy_apply,
          memcpy_apply, if_pos first, if_pos first]

theorem copyRows_comm {dst src dst' src' : Int} {length length' : Nat}
    {dpitch spitch dpitch' spitch' : Int} {rows rows' : Nat}
    (disjoint : ∀ a, InRows dst length dpitch rows a → ¬ InRows dst' length' dpitch' rows' a)
    (storage : Int → UInt8) :
    copyRows dst src length dpitch spitch rows source
        (copyRows dst' src' length' dpitch' spitch' rows' source storage) =
      copyRows dst' src' length' dpitch' spitch' rows' source
        (copyRows dst src length dpitch spitch rows source storage) := by
  funext a
  by_cases first : InRows dst length dpitch rows a
  · rw [copyRows_of_not_inRows (disjoint a first), copyRows_congr first]
  · rw [copyRows_of_not_inRows first]
    by_cases second : InRows dst' length' dpitch' rows' a
    · exact copyRows_congr second _ _
    · rw [copyRows_of_not_inRows second, copyRows_of_not_inRows second,
        copyRows_of_not_inRows first]

end Copies


section Planes

variable {source : Int → UInt8}

theorem copyPlane_fst {length rows : Int} (lengthNonneg : 0 ≤ length) (rowsNonneg : 0 ≤ rows)
    (dst src dpitch spitch : Int) (storage : Int → UInt8) :
    (copyPlane dst src length dpitch spitch rows source storage).1 =
      copyRows dst src length.toNat dpitch spitch rows.toNat source storage := by
  unfold copyPlane
  split_ifs with fast
  · obtain ⟨rfl, rfl⟩ := fast
    obtain ⟨n, rfl⟩ := Int.eq_ofNat_of_zero_le lengthNonneg
    obtain ⟨m, rfl⟩ := Int.eq_ofNat_of_zero_le rowsNonneg
    rw [Int.toNat_ofNat, Int.toNat_ofNat, copyRows_eq_memcpy, ← Nat.cast_mul, Int.toNat_ofNat]
  · rfl

theorem copyPlane_snd {rows : Int} (rowsNonneg : 0 ≤ rows)
    (dst src length dpitch spitch : Int) (storage : Int → UInt8) :
    (copyPlane dst src length dpitch spitch rows source storage).2 = src + spitch * rows := by
  unfold copyPlane
  split_ifs
  · rfl
  · rw [Int.toNat_of_nonneg rowsNonneg]

theorem inRows_disjoint {dst : Int} {length : Nat} {pitch : Int} {rows : Nat} {gap : Int}
    (fits : (length : Int) ≤ pitch) (far : (rows : Int) ≤ gap) (a : Int) :
    InRows dst length pitch rows a → ¬ InRows (dst + pitch * gap) length pitch rows a := by
  rintro ⟨r, below, c, short, rfl⟩ ⟨r', below', c', short', same⟩
  have : ((r : Int) - gap - r') * pitch = c' - c := by linarith
  have before : (r : Int) - gap - r' ≤ -1 := by omega
  have := Int.mul_le_mul_of_nonneg_right before (le_trans (Int.natCast_nonneg _) fits)
  omega

end Planes

/-! ## A packed buffer cut into planes -/

/-- `rect` lies inside `w` by `h` pixels. -/
def RectInside (rect : SDLRect) (w h : Nat) : Prop :=
  0 ≤ rect.x ∧ 0 ≤ rect.y ∧ 0 ≤ rect.w ∧ 0 ≤ rect.h ∧ rect.x + rect.w ≤ w ∧ rect.y + rect.h ≤ h

instance (rect : SDLRect) (w h : Nat) : Decidable (RectInside rect w h) :=
  inferInstanceAs (Decidable (0 ≤ rect.x ∧ 0 ≤ rect.y ∧ 0 ≤ rect.w ∧ 0 ≤ rect.h ∧
    rect.x + rect.w ≤ w ∧ rect.y + rect.h ≤ h))

/-- `⌈p / 2⌉`. -/
def ceilHalf (p : Int) : Int := -((-p) / 2)

theorem tdiv_two_succ {p : Int} (nonneg : 0 ≤ p) : (p + 1).tdiv 2 = ceilHalf p := by
  rw [Int.tdiv_eq_ediv (by omega) (by norm_num), ceilHalf]
  omega

theorem copyRows_chroma_comm {base uvPitch g y x : Int} {length rows : Nat}
    (fits : (length : Int) ≤ uvPitch) (far : (rows : Int) ≤ g) (src src' spitch : Int)
    (storage : Int → UInt8) :
    copyRows (base + uvPitch * g + y * uvPitch + x) src length uvPitch spitch rows source
        (copyRows (base + y * uvPitch + x) src' length uvPitch spitch rows source storage) =
      copyRows (base + y * uvPitch + x) src' length uvPitch spitch rows source
        (copyRows (base + uvPitch * g + y * uvPitch + x) src length uvPitch spitch rows source
          storage) := by
  have second : base + uvPitch * g + y * uvPitch + x = base + y * uvPitch + x + uvPitch * g := by
    ring
  rw [second]
  exact (copyRows_comm (fun a => inRows_disjoint fits far a) storage).symm

section Packed

variable {p : Int} (nonneg : 0 ≤ p) (data : Int) (pitch w h : Nat) (widthFits : w ≤ pitch)
  {rect : SDLRect} (inside : RectInside rect w h) (pixels : Int) (source storage : Int → UInt8)

include nonneg inside

theorem vitaGxmUpdateTexture_iyuv :
    vitaGxmUpdateTexture (vitaGxmCreateTextureData .iyuv data pitch w h widthFits) .iyuv rect
        pixels p source storage =
      vitaGxmUpdateTextureYUV (vitaGxmCreateTextureData .iyuv data pitch w h widthFits) .iyuv
        rect pixels p (pixels + p * rect.h) (ceilHalf p)
        (pixels + p * rect.h + ceilHalf p * ceilHalf rect.h) (ceilHalf p) source storage := by
  obtain ⟨hx, hy, hw, hh, -, -⟩ := inside
  have uvh : 0 ≤ ceilHalf rect.h := by unfold ceilHalf; omega
  simp only [vitaGxmUpdateTexture, vitaGxmUpdateTextureYUV]
  simp [vitaGxmCreateTextureData, sdlBytesPerPixel, uvRect, copyPlane_snd hh, copyPlane_snd uvh,
    tdiv_two_succ nonneg, tdiv_two_succ hh]

theorem vitaGxmUpdateTexture_yv12 :
    vitaGxmUpdateTexture (vitaGxmCreateTextureData .yv12 data pitch w h widthFits) .yv12 rect
        pixels p source storage =
      vitaGxmUpdateTextureYUV (vitaGxmCreateTextureData .yv12 data pitch w h widthFits) .yv12
        rect pixels p (pixels + p * rect.h + ceilHalf p * ceilHalf rect.h) (ceilHalf p)
        (pixels + p * rect.h) (ceilHalf p) source storage := by
  obtain ⟨hx, hy, hw, hh, insideW, insideH⟩ := inside
  have uvh : 0 ≤ ceilHalf rect.h := by unfold ceilHalf; omega
  have uvw : 0 ≤ ceilHalf rect.w := by unfold ceilHalf; omega
  simp only [vitaGxmUpdateTexture, vitaGxmUpdateTextureYUV]
  simp [vitaGxmCreateTextureData, sdlBytesPerPixel, uvRect, copyPlane_snd hh, copyPlane_snd uvh,
    tdiv_two_succ nonneg, tdiv_two_succ hh, tdiv_two_succ hw, copyPlane_fst uvw uvh,
    tdiv_two_succ (Int.natCast_nonneg pitch), vitaGxmLockTexture, chromaBase, secondPlaneOffset]
  rw [copyRows_chroma_comm]
  · rw [Int.toNat_of_nonneg uvw]; unfold ceilHalf; omega
  · rw [Int.toNat_of_nonneg uvh]; unfold ceilHalf; omega

theorem vitaGxmUpdateTexture_nv (format : SDLPixelFormat) (nv : format = .nv12 ∨ format = .nv21) :
    vitaGxmUpdateTexture (vitaGxmCreateTextureData format data pitch w h widthFits) format rect
        pixels p source storage =
      vitaGxmUpdateTextureNV (vitaGxmCreateTextureData format data pitch w h widthFits) format
        rect pixels p (pixels + p * rect.h) (2 * ceilHalf p) source storage := by
  obtain ⟨hx, hy, hw, hh, -, -⟩ := inside
  simp only [vitaGxmUpdateTexture, vitaGxmUpdateTextureNV]
  rcases nv with rfl | rfl <;>
  simp [vitaGxmCreateTextureData, sdlBytesPerPixel, uvRect, copyPlane_snd hh,
    tdiv_two_succ nonneg]

end Packed

/-- NV12 places the chroma of column `x` at byte `x / 2` of its row. -/
theorem nv12_chroma_at_half_offset :
    [8, 9, 10, 11].map
        (vitaGxmUpdateTextureNV (vitaGxmCreateTextureData .nv12 0 4 4 2 (by decide)) .nv12
          ⟨2, 0, 2, 2⟩ 100 2 104 2 (fun a => if a = 104 then 0xC0 else if a = 105 then 0xC1 else 0)
          fun _ => 0) = [0, 0xC0, 0xC1, 0] ∧
      [8, 9, 10, 11].map
        (vitaGxmUpdateTexture (vitaGxmCreateTextureData .nv12 0 4 4 2 (by decide)) .nv12
          ⟨2, 0, 2, 2⟩ 100 2 (fun a => if a = 104 then 0xC0 else if a = 105 then 0xC1 else 0)
          fun _ => 0) = [0, 0xC0, 0xC1, 0] := by
  decide

end SdlRender.Vita
