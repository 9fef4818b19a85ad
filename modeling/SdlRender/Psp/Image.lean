import SdlRender.Psp.Queue

/-!
# A texture's image

A texture's storage holds its pixels row by row until it is swizzled; from then on byte `o`
of the linear layout is at `swizzleOffset o`. `textureImage` reads the image through the
layout the texture has now: `PSP_UpdateTexture` writes it linearly on every texture, while
the codec keeps it (`codec_keeps_textureImage`).
-/

namespace SdlRender.Psp

/-! ## `SDL_memcpy` and the row loop -/

theorem memCopies_append (first second : List (Nat × Nat)) (src dst : Nat)
    (bytes : Nat → UInt8) :
    memCopies (first ++ second) src dst bytes =
      memCopies second src dst (memCopies first src dst bytes) :=
  List.foldl_append _ _ _ _

theorem memcpy_succ (dst src n : Nat) (bytes : Nat → UInt8) :
    memcpy dst src (n + 1) bytes =
      Function.update (memcpy dst src n bytes) (dst + n) (memcpy dst src n bytes (src + n)) := by
  simp only [memcpy, List.range_succ, List.map_append, memCopies_append]
  rfl

theorem memcpy_apply {dst src n : Nat} (forward : dst ≤ src ∨ src + n ≤ dst)
    (bytes : Nat → UInt8) (a : Nat) :
    memcpy dst src n bytes a =
      if dst ≤ a ∧ a < dst + n then bytes (src + (a - dst)) else bytes a := by
  induction n generalizing a with
  | zero => exact (if_neg (by omega)).symm
  | succ n ih =>
      have forward' : dst ≤ src ∨ src + n ≤ dst := by omega
      rw [memcpy_succ, Function.update_apply, ih forward', ih forward']
      by_cases last : a = dst + n
      · subst last
        rw [if_pos rfl, if_neg (by omega), if_pos (by omega), Nat.add_sub_cancel_left]
      · rw [if_neg last]
        split_ifs <;> first | rfl | omega

theorem memcpy_add (dst src m k : Nat) (bytes : Nat → UInt8) :
    memcpy dst src (m + k) bytes = memcpy (dst + m) (src + m) k (memcpy dst src m bytes) := by
  induction k with
  | zero => rfl
  | succ k ih => rw [← Nat.add_assoc, memcpy_succ, memcpy_succ, ih, Nat.add_assoc, Nat.add_assoc]

theorem copyRows_succ (dst src length dpitch spitch rows : Nat) (bytes : Nat → UInt8) :
    copyRows dst src length dpitch spitch (rows + 1) bytes =
      copyRows (dst + dpitch) (src + spitch) length dpitch spitch rows
        (memcpy dst src length bytes) := rfl

theorem copyRows_eq_memcpy (dst src length rows : Nat) (bytes : Nat → UInt8) :
    copyRows dst src length length length rows bytes = memcpy dst src (length * rows) bytes := by
  induction rows generalizing dst src bytes with
  | zero => rfl
  | succ rows ih =>
      rw [copyRows_succ, ih, Nat.mul_succ, Nat.add_comm (length * rows) length, memcpy_add]

/-- The bytes after `rows` rows of `length` bytes are copied from `src` to `dst`. -/
def copiedRows (dst src length dpitch spitch : Nat) (bytes : Nat → UInt8) :
    Nat → Nat → UInt8
  | 0, a => bytes a
  | rows + 1, a =>
      if dst ≤ a ∧ a < dst + length then bytes (src + (a - dst))
      else copiedRows (dst + dpitch) (src + spitch) length dpitch spitch bytes rows a

/-- No byte of a source row is a byte of a destination row. -/
def RowsApart (dst src length dpitch spitch rows : Nat) : Prop :=
  ∀ r < rows, ∀ r' < rows, ∀ c < length, ∀ c' < length,
    src + r * spitch + c ≠ dst + r' * dpitch + c'

theorem copiedRows_of_lt {dst src length dpitch spitch : Nat} {bytes : Nat → UInt8} {a : Nat}
    (below : a < dst) : ∀ rows, copiedRows dst src length dpitch spitch bytes rows a = bytes a
  | 0 => rfl
  | rows + 1 => by
      rw [copiedRows, if_neg (by omega), copiedRows_of_lt (by omega) rows]

theorem copiedRows_congr {dst src length dpitch spitch : Nat} {bytes bytes' : Nat → UInt8}
    {a : Nat} (same : bytes a = bytes' a) :
    ∀ rows, (∀ r < rows, ∀ c < length, bytes (src + r * spitch + c) = bytes' (src + r * spitch + c)) →
      copiedRows dst src length dpitch spitch bytes rows a =
        copiedRows dst src length dpitch spitch bytes' rows a
  | 0, _ => same
  | rows + 1, sources => by
      simp only [copiedRows]
      split_ifs with inside
      · simpa using sources 0 (Nat.succ_pos _) (a - dst) (by omega)
      · refine copiedRows_congr same rows fun r below c short => ?_
        have := sources (r + 1) (by omega) c short
        rwa [Nat.succ_mul, ← Nat.add_assoc, Nat.add_right_comm src] at this

theorem copyRows_eq_copiedRows {length dpitch spitch : Nat} (fits : length ≤ dpitch) :
    ∀ rows dst src, RowsApart dst src length dpitch spitch rows → ∀ bytes,
      copyRows dst src length dpitch spitch rows bytes =
        copiedRows dst src length dpitch spitch bytes rows
  | 0, _, _, _, _ => rfl
  | rows + 1, dst, src, apart, bytes => by
      have shifted : RowsApart (dst + dpitch) (src + spitch) length dpitch spitch rows :=
        fun r below r' below' c short c' short' => by
          have := apart (r + 1) (by omega) (r' + 1) (by omega) c short c' short'
          rwa [Nat.succ_mul, Nat.succ_mul, ← Nat.add_assoc, ← Nat.add_assoc,
            Nat.add_right_comm src, Nat.add_right_comm dst] at this
      have forward : dst ≤ src ∨ src + length ≤ dst := by
        by_contra overlap
        have := apart 0 (by omega) 0 (by omega) (dst - src) (by omega) 0 (by omega)
        omega
      rw [copyRows_succ, copyRows_eq_copiedRows fits rows _ _ shifted]
      funext a
      simp only [copiedRows]
      split_ifs with inside
      · rw [copiedRows_of_lt (by omega), memcpy_apply forward, if_pos inside]
      · refine copiedRows_congr ?_ rows fun r below c short => ?_
        · rw [memcpy_apply forward, if_neg inside]
        · rw [memcpy_apply forward, if_neg]
          have := apart (r + 1) (by omega) 0 (by omega) c short
          intro row
          have := this ((src + spitch + r * spitch + c) - dst) (by omega)
          rw [Nat.succ_mul] at this
          omega

section Update

variable {σ : Type}

theorem pspUpdateTexture_eq {s : PSPRenderData σ} {t : TexId} {tex : PSPTexture}
    (found : s.textures t = some tex) (rect : SDLRect) (pixels pitch : Nat)
    (fits : rect.w.toNat * sdlBytesPerPixel tex.texture.format ≤ tex.internal.pitch)
    (apart : RowsApart (tex.internal.data + rect.y.toNat * tex.internal.pitch +
        rect.x.toNat * sdlBytesPerPixel tex.texture.format) pixels
      (rect.w.toNat * sdlBytesPerPixel tex.texture.format) tex.internal.pitch pitch
      rect.h.toNat) :
    pspUpdateTexture s t rect pixels pitch =
      (true, { (s.emit (.cpuWrite tex.internal.data)).emit (.cpuRead pixels) with
        bytes := copiedRows (tex.internal.data + rect.y.toNat * tex.internal.pitch +
            rect.x.toNat * sdlBytesPerPixel tex.texture.format) pixels
          (rect.w.toNat * sdlBytesPerPixel tex.texture.format) tex.internal.pitch pitch s.bytes
          rect.h.toNat }) := by
  simp only [pspUpdateTexture, pspLockTexture, found]
  split_ifs with fast
  · obtain ⟨samePitch, sameDpitch⟩ := fast
    rw [← copyRows_eq_memcpy, ← copyRows_eq_copiedRows fits _ _ _ apart, ← samePitch,
      ← sameDpitch]
    rfl
  · rw [copyRows_eq_copiedRows fits _ _ _ apart]
    rfl

end Update

/-! ## The logical image -/

/-- Where byte `k` of pixel `(x, y)` of the logical image is in a texture's storage. -/
def imageOffset (psp : PSPTextureData) (bpp x y k : Nat) : Nat :=
  if psp.swizzled then swizzleOffset (psp.bytewidth / 16) (y * psp.pitch + x * bpp + k)
  else y * psp.pitch + x * bpp + k

/-- The logical image of texture `t`: byte `k` of its pixel `(x, y)`. -/
def textureImage {σ : Type} (s : PSPRenderData σ) (t : TexId) :
    Option (Nat → Nat → Nat → UInt8) :=
  (s.textures t).map fun tex x y k =>
    s.bytes (tex.internal.data + imageOffset tex.internal (sdlBytesPerPixel tex.texture.format) x y k)

section Swizzled

variable {σ : Type}

theorem pspUpdateTexture_swizzled_pixel {s : PSPRenderData σ} {t : TexId} {tex : PSPTexture}
    (found : s.textures t = some tex) (format : tex.texture.format = .bgr565)
    (swizzled : tex.internal.swizzled = true) (pitch : tex.internal.pitch = 32)
    (bytewidth : tex.internal.bytewidth = 32) {src : Nat} (away : tex.internal.data + 34 ≤ src)
    (b₀ b₁ : UInt8) :
    (textureImage (pspUpdateTexture
        { s with bytes := Function.update (Function.update s.bytes src b₀) (src + 1) b₁ }
        t ⟨0, 1, 1, 1⟩ src 2).2 t).map
      (fun image => [image 0 1 0, image 0 1 1, image 0 2 0, image 0 2 1]) =
    (textureImage s t).map (fun image => [image 0 1 0, image 0 1 1, b₀, b₁]) := by
  have apart : RowsApart (tex.internal.data + 1 * 32 + 0 * 2) src 2 32 2 1 := by
    intro r _ r' _ c _ c' _
    omega
  rw [pspUpdateTexture_eq (s := { s with
      bytes := Function.update (Function.update s.bytes src b₀) (src + 1) b₁ }) found _ _ _
    (by simp [format, pitch, sdlBytesPerPixel])
    (by simpa [format, pitch, sdlBytesPerPixel] using apart)]
  simp only [textureImage, PSPRenderData.emit, found, Option.map_some', imageOffset, swizzled,
    if_true, bytewidth, pitch, format, sdlBytesPerPixel]
  simp only [copiedRows, Int.toNat_one, one_mul, Int.toNat_zero, zero_mul, add_zero, swizzleOffset,
    Nat.reduceDiv, zero_lt_two, Nat.div_self, Nat.mod_self, Nat.one_mod, zero_add, Nat.reduceMod,
    add_le_add_iff_left, Nat.reduceLeDiff, add_lt_add_iff_right, lt_add_iff_pos_right,
    Nat.zero_lt_succ, and_true, ↓reduceIte, Nat.reduceMul, Nat.add_zero, Nat.reduceAdd,
    Function.update_apply, Nat.reduceEqDiff, le_refl, and_self, tsub_self, ne_eq, self_eq_add_right,
    one_ne_zero, not_false_eq_true, Function.update_noteq, zero_lt_one, Nat.reduceSubDiff,
    add_tsub_cancel_left, Option.some.injEq, List.cons.injEq]
  refine ⟨?_, ?_⟩ <;> rw [if_neg (by omega), if_neg (by omega)]

end Swizzled

/-! ## The codec keeps the image -/

section Codec

variable {σ : Type} (P : Platform σ) {s : PSPRenderData σ} {t : TexId} {tex : PSPTexture}
  {dst data : Nat} {memory : σ}

theorem textureSwizzle_of_linear (found : s.textures t = some tex)
    (linear : tex.internal.swizzled = false)
    (fresh : codecDestination P s dst tex.internal.size = some (data, memory)) :
    (textureSwizzle P s t dst).1 = true ∧
      (textureSwizzle P s t dst).2.textures t =
        some { tex with internal := { tex.internal with data, swizzled := true } } ∧
      (textureSwizzle P s t dst).2.bytes =
        memCopies (textureSwizzleCopies tex.internal) tex.internal.data data s.bytes := by
  simp [textureSwizzle, found, linear, fresh, textureStorageFree, PSPRenderData.setInternal,
    PSPRenderData.emit]

theorem textureUnswizzle_of_swizzled (found : s.textures t = some tex)
    (swizzled : tex.internal.swizzled = true)
    (fresh : codecDestination P s dst tex.internal.size = some (data, memory)) :
    (textureUnswizzle P s t dst).1 = true ∧
      (textureUnswizzle P s t dst).2.textures t =
        some { tex with internal := { tex.internal with data, swizzled := false } } ∧
      (textureUnswizzle P s t dst).2.bytes =
        memCopies (textureUnswizzleCopies tex.internal) tex.internal.data data s.bytes := by
  simp [textureUnswizzle, found, swizzled, fresh, textureStorageFree, PSPRenderData.setInternal,
    PSPRenderData.emit]

end Codec

/-- An update of pixel `(0, 1)` of a swizzled 16 x 8 `BGR565` texture writes the linear
offsets of that pixel: the image shows the new bytes at `(0, 2)`. -/
theorem update_after_swizzle_writes_linear_offset :
    ∃ s image, (pspCreateRenderer stackPlatform sdlPspFrame (0, 0) .abgr8888).map
        (fun s => runCalls stackPlatform sdlPspFrame s
          [.texture (.create ⟨.bgr565, .static, 16, 8⟩), .texture (.activate 0)]) = some s ∧
      s.textures 0 = some ⟨⟨.bgr565, .static, 16, 8⟩, 142606404,
        ⟨142606708, 256, 16, 8, 16, 8, 16, .psm5650, 32, true⟩⟩ ∧
      textureImage s 0 = some image ∧
      ∀ b₀ b₁ : UInt8,
        (textureImage (pspUpdateTexture
            { s with
              bytes := Function.update (Function.update s.bytes 0x0A000000 b₀) 0x0A000001 b₁ }
            0 ⟨0, 1, 1, 1⟩ 0x0A000000 2).2 0).map
          (fun image => [image 0 1 0, image 0 1 1, image 0 2 0, image 0 2 1]) =
        some [image 0 1 0, image 0 1 1, b₀, b₁] := by
  refine ⟨_, _, rfl, ?found, rfl, fun b₀ b₁ =>
    (pspUpdateTexture_swizzled_pixel ?found rfl rfl rfl rfl (by decide) b₀ b₁).trans rfl⟩
  rfl

end SdlRender.Psp
