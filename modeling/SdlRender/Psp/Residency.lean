import SdlRender.Psp.Swizzle
import SdlRender.Psp.HotList
import SdlRender.Psp.Ge

/-!
# Texture residency in the PSP backend

Render targets are drawn into in VRAM, unswizzled; when VRAM runs short the least recently
bound one is spilled to system memory, swizzled, and brought back when bound again.

* `Platform` is the VRAM allocator, SDL's heap and `sceGuGetMemory` over a state of any type.
* Each function returns its C `bool` and the new state; a pointer that may be `NULL` is an
  address with 0 for `NULL`.
-/

namespace SdlRender.Psp

/-- The memory services over an allocator state: `vram.h`, SDL's heap and `sceGuGetMemory`. -/
structure Platform (σ : Type) where
  vramalloc : σ → Nat → Option (Nat × σ)
  vfree : σ → Nat → σ
  vlargestblock : σ → Nat
  vmemavail : σ → Nat
  malloc : σ → Nat → Option (Nat × σ)
  free : σ → Nat → σ
  sceGuGetMemory : σ → Nat → Option (Nat × σ)

/-- `sizeof(PSP_TextureData)` on the 32-bit PSP. -/
def pspTextureDataSize : Nat := 48

structure PSPTexture where
  texture : SDLTexture
  record : Nat
  internal : PSPTextureData

/-- `PSP_BlendState`. -/
structure PSPBlendState where
  mode : SDLBlendMode
  color : Nat
  shadeModel : GuShade
  texture : Option TexId
  textureScaleMode : SDLScaleMode
  textureAddressModeU : SDLTextureAddressMode
  textureAddressModeV : SDLTextureAddressMode
  deriving DecidableEq, Repr

/-- `PSP_RenderData`, with the renderer state around it that the backend reads. -/
structure PSPRenderData (σ : Type) where
  memory : σ
  bytes : Nat → UInt8
  textures : TexId → Option PSPTexture
  nextTexture : TexId
  hot : HotList
  target : Option TexId
  boundTarget : Option TexId
  displayListAvail : Bool
  frontbuffer : Nat
  backbuffer : Nat
  psm : GuPsm
  blendState : PSPBlendState
  vsync : Bool
  vblankNotReached : Bool
  trace : List PspEvent
  error : String

namespace PSPRenderData

variable {σ : Type}

def emit (s : PSPRenderData σ) (event : PspEvent) : PSPRenderData σ :=
  { s with trace := s.trace ++ [event] }

def gu (s : PSPRenderData σ) (call : GuCall) : PSPRenderData σ :=
  s.emit (.gu call)

/-- Replace the `PSP_TextureData` of a live texture. -/
def setInternal (s : PSPRenderData σ) (t : TexId) (internal : PSPTextureData) :
    PSPRenderData σ :=
  { s with
    textures := Function.update s.textures t ((s.textures t).map fun tex => { tex with internal }) }

end PSPRenderData

section Functions

variable {σ : Type} (P : Platform σ)

/-- `TextureStorageFree`. -/
def textureStorageFree (s : PSPRenderData σ) (storage : Nat) : PSPRenderData σ :=
  { s.emit (.cpuFree storage) with
    memory := if InVram storage then P.vfree s.memory storage else P.free s.memory storage }

/-- `dst`, or a fresh `SDL_malloc` block when `dst` is `NULL`. -/
def codecDestination (s : PSPRenderData σ) (dst size : Nat) : Option (Nat × σ) :=
  if dst = 0 then P.malloc s.memory size else some (dst, s.memory)

/-- `TextureSwizzle`. -/
def textureSwizzle (s : PSPRenderData σ) (t : TexId) (dst : Nat) : Bool × PSPRenderData σ :=
  match s.textures t with
  | none => (false, s)
  | some tex =>
      let psp := tex.internal
      if psp.swizzled then (true, s)
      else
        match codecDestination P s dst psp.size with
        | none => (false, s)
        | some (data, memory) =>
            let copied := { (s.emit (.cpuRead psp.data)).emit (.cpuWrite data) with
              memory := memory
              bytes := memCopies (textureSwizzleCopies psp) psp.data data s.bytes }
            (true, (textureStorageFree P copied psp.data).setInternal t
              { psp with data := data, swizzled := true })

/-- `TextureUnswizzle`. -/
def textureUnswizzle (s : PSPRenderData σ) (t : TexId) (dst : Nat) : Bool × PSPRenderData σ :=
  match s.textures t with
  | none => (false, s)
  | some tex =>
      let psp := tex.internal
      if !psp.swizzled then (true, s)
      else
        match codecDestination P s dst psp.size with
        | none => (false, s)
        | some (data, memory) =>
            let copied := { (s.emit (.cpuRead psp.data)).emit (.cpuWrite data) with
              memory := memory
              bytes := memCopies (textureUnswizzleCopies psp) psp.data data s.bytes }
            (true, (textureStorageFree P copied psp.data).setInternal t
              { psp with data := data, swizzled := false })

/-- `TextureSpillToSram`. -/
def textureSpillToSram (s : PSPRenderData σ) (t : TexId) : Bool × PSPRenderData σ :=
  match s.textures t with
  | none => (false, s)
  | some tex =>
      let psp := tex.internal
      if psp.swizzled then
        match P.malloc s.memory psp.size with
        | none => (false, s)
        | some (sdata, memory) =>
            let copied := { (s.emit (.cpuRead psp.data)).emit (.cpuWrite sdata) with
              memory := memory
              bytes := memcpy sdata psp.data psp.size s.bytes }
            let freed := { copied.emit (.cpuFree psp.data) with
              memory := P.vfree copied.memory psp.data }
            (true, freed.setInternal t { psp with data := sdata })
      else textureSwizzle P s t 0

/-- `TexturePromoteToVram`. -/
def texturePromoteToVram (s : PSPRenderData σ) (t : TexId) (target : Bool) :
    Bool × PSPRenderData σ :=
  match s.textures t with
  | none => (false, s)
  | some tex =>
      let psp := tex.internal
      let (tdata, memory) := (P.vramalloc s.memory psp.size).getD (0, s.memory)
      let s := { s with memory := memory }
      if psp.swizzled && target then textureUnswizzle P s t tdata
      else
        let copied := { (s.emit (.cpuRead psp.data)).emit (.cpuWrite tdata) with
          bytes := memcpy tdata psp.data psp.size s.bytes }
        let freed := { copied.emit (.cpuFree psp.data) with
          memory := P.free copied.memory psp.data }
        (true, freed.setInternal t { psp with data := tdata })

/-- The message `TextureSpillLRU` passes to `SDL_SetError` when the list is empty. -/
def spillErrorMessage (available largest wanted : Nat) : String :=
  "Could not spill more VRAM to system memory. VRAM : " ++ toString (available / 1024) ++
    "KB,(" ++ toString (largest / 1024) ++ "KB), wanted " ++ toString (wanted / 1024) ++ "KB"

/-- `TextureSpillLRU`. -/
def textureSpillLRU (s : PSPRenderData σ) (wanted : Nat) : Bool × PSPRenderData σ :=
  match s.hot.leastRecentTarget with
  | some lru =>
      match textureSpillToSram P s lru with
      | (true, s) => (true, { s with hot := lruTargetRemove s.hot lru })
      | (false, s) => (false, s)
  | none =>
      (false, { s with
        error := spillErrorMessage (P.vmemavail s.memory) (P.vlargestblock s.memory) wanted })

/-- The loop of `TextureSpillTargetsForSpace`, with fuel. -/
def spillTargetsLoop (size : Nat) : Nat → PSPRenderData σ → Bool × PSPRenderData σ
  | 0, s => (false, s)
  | fuel + 1, s =>
      if P.vlargestblock s.memory < size then
        match textureSpillLRU P s size with
        | (true, s) => spillTargetsLoop size fuel s
        | (false, s) => (false, s)
      else (true, s)

/-- `TextureSpillTargetsForSpace`, with one round per texture created as fuel. -/
def textureSpillTargetsForSpace (s : PSPRenderData σ) (size : Nat) : Bool × PSPRenderData σ :=
  spillTargetsLoop P size (s.nextTexture + 1) s

/-- The end of `TextureBindAsTarget`. -/
def setDrawBuffer (s : PSPRenderData σ) (t : TexId) : PSPRenderData σ :=
  match s.textures t with
  | none => s
  | some tex =>
      let psp := tex.internal
      let s := s.gu (.drawBufferList psp.format psp.data psp.textureWidth)
      if psp.format = .psm5551 then
        ((((s.gu (.enable .stencilTest)).gu .stencilOp).gu .stencilFunc).gu
          (.enable .alphaTest)).gu .alphaFunc
      else (s.gu (.disable .stencilTest)).gu (.disable .alphaTest)

/-- `TextureBindAsTarget`. -/
def textureBindAsTarget (s : PSPRenderData σ) (t : TexId) : Bool × PSPRenderData σ :=
  match s.textures t with
  | none => (false, s)
  | some tex =>
      let resident : Bool × PSPRenderData σ :=
        if InVram tex.internal.data then (true, s)
        else
          match textureSpillTargetsForSpace P s tex.internal.size with
          | (true, s) => texturePromoteToVram P s t true
          | (false, s) => (false, s)
      match resident with
      | (true, s) => (true, setDrawBuffer { s with hot := lruTargetBringFront s.hot t } t)
      | (false, s) => (false, s)

/-- The storage step of `PSP_CreateTexture`. -/
def allocateTextureStorage (s : PSPRenderData σ) (t : TexId) (texture : SDLTexture)
    (record : Nat) : Bool × PSPRenderData σ :=
  let psp := pspTextureRecord texture
  let install (s : PSPRenderData σ) (data : Nat) : PSPRenderData σ :=
    { s with textures := Function.update s.textures t (some ⟨texture, record, { psp with data }⟩) }
  if texture.access = .target then
    match textureSpillTargetsForSpace P s psp.size with
    | (false, s) => (false, { s with memory := P.free s.memory record })
    | (true, s) =>
        match P.vramalloc s.memory psp.size with
        | none => (false, { s with memory := P.free s.memory record })
        | some (data, memory) =>
            (true, install { s with memory := memory, hot := lruTargetPushFront s.hot t } data)
  else
    match P.malloc s.memory psp.size with
    | none => (false, { s with memory := P.free s.memory record })
    | some (data, memory) =>
        (true, install { s with
          memory := memory
          bytes := fun a => if data ≤ a ∧ a < data + psp.size then 0 else s.bytes a } data)

/-- `PSP_CreateTexture` for the core's next texture. -/
def pspCreateTexture (s : PSPRenderData σ) (texture : SDLTexture) : Bool × PSPRenderData σ :=
  let t := s.nextTexture
  let s := { s with nextTexture := t + 1 }
  match P.malloc s.memory pspTextureDataSize with
  | none => (false, s)
  | some (record, memory) => allocateTextureStorage P { s with memory := memory } t texture record

/-- `PSP_DestroyTexture`. -/
def pspDestroyTexture (s : PSPRenderData σ) (t : TexId) : PSPRenderData σ :=
  match s.textures t with
  | none => s
  | some tex =>
      let s := textureStorageFree P { s with hot := lruTargetRemove s.hot t } tex.internal.data
      { s with memory := P.free s.memory tex.record, textures := Function.update s.textures t none }

/-- `TextureShouldSwizzle`. -/
def textureShouldSwizzle (psp : PSPTextureData) (texture : SDLTexture) : Bool :=
  !(texture.access = .target && decide (InVram psp.data)) && texture.access != .streaming &&
    (16 ≤ texture.w || 16 ≤ texture.h)

/-- A 16x1 texture swizzles past its 128-byte block; spilling a 2x2 target copies none
of its bytes. -/
theorem textureSwizzle_small_textures :
    textureShouldSwizzle (pspTextureRecord ⟨.abgr8888, .static, 16, 1⟩)
        ⟨.abgr8888, .static, 16, 1⟩ = true ∧
      (pspTextureRecord ⟨.abgr8888, .static, 16, 1⟩).size = 128 ∧
      (128, 16) ∈ textureSwizzleCopies (pspTextureRecord ⟨.abgr8888, .static, 16, 1⟩) ∧
      (pspTextureRecord ⟨.abgr8888, .target, 2, 2⟩).size = 16 ∧
      textureSwizzleCopies (pspTextureRecord ⟨.abgr8888, .target, 2, 2⟩) = [] := by
  decide

/-- The end of `TextureActivate`. -/
def textureSetImage (s : PSPRenderData σ) (t : TexId) : PSPRenderData σ :=
  match s.textures t with
  | none => s
  | some tex =>
      let psp := tex.internal
      (s.gu (.texMode psp.format psp.swizzled)).gu
        (.texImage psp.textureWidth psp.textureHeight psp.textureWidth psp.data)

/-- `TextureActivate`: swizzle when worth it, then point the GE at the texture. -/
def textureActivate (s : PSPRenderData σ) (t : TexId) : PSPRenderData σ :=
  match s.textures t with
  | none => s
  | some tex =>
      textureSetImage (if textureShouldSwizzle tex.internal tex.texture then
        (textureSwizzle P s t 0).2 else s) t

/-- `PSP_LockTexture`. -/
def pspLockTexture (s : PSPRenderData σ) (t : TexId) (rect : SDLRect) :
    (Nat × Nat) × PSPRenderData σ :=
  match s.textures t with
  | none => ((0, 0), s)
  | some tex =>
      let psp := tex.internal
      ((psp.data + rect.y.toNat * psp.pitch + rect.x.toNat * sdlBytesPerPixel tex.texture.format,
        psp.pitch), s.emit (.cpuWrite psp.data))

/-- The row loop of `PSP_UpdateTexture`. -/
def copyRows (dst src length dpitch spitch : Nat) : Nat → (Nat → UInt8) → Nat → UInt8
  | 0, bytes => bytes
  | rows + 1, bytes =>
      copyRows (dst + dpitch) (src + spitch) length dpitch spitch rows (memcpy dst src length bytes)

/-- `PSP_UpdateTexture`. -/
def pspUpdateTexture (s : PSPRenderData σ) (t : TexId) (rect : SDLRect) (pixels pitch : Nat) :
    Bool × PSPRenderData σ :=
  match s.textures t with
  | none => (false, s)
  | some tex =>
      let ((dst, dpitch), s) := pspLockTexture s t rect
      let length := rect.w.toNat * sdlBytesPerPixel tex.texture.format
      let s := s.emit (.cpuRead pixels)
      if length = pitch ∧ length = dpitch then
        (true, { s with bytes := memcpy dst pixels (length * rect.h.toNat) s.bytes })
      else
        (true, { s with bytes := copyRows dst pixels length dpitch pitch rect.h.toNat s.bytes })

/-- `PSP_UnlockTexture`: the whole texture is updated from its own storage. -/
def pspUnlockTexture (s : PSPRenderData σ) (t : TexId) : PSPRenderData σ :=
  match s.textures t with
  | none => s
  | some tex =>
      (pspUpdateTexture s t ⟨0, 0, tex.texture.w, tex.texture.h⟩ tex.internal.data
        tex.internal.pitch).2

end Functions

end SdlRender.Psp
