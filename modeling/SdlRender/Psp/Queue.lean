import SdlRender.Psp.ResidencyInvariant

/-!
# The PSP command queue

`PSP_RunCommandQueue` opens the display list and binds the draw buffer (`StartDrawing`), then
walks the commands; draws go through `PSP_SetBlendState`, which calls the GE only for what
differs from `data->blendState`. `PspFrame` holds the constants of `SDL_render_psp_c.h`,
which is not under src/.
-/

namespace SdlRender.Psp

structure PspFrame where
  screenWidth : Nat
  screenHeight : Nat
  frameBufferWidth : Nat
  frameBufferSize : Nat

/-- `sizeof(PSP_RenderData)` on the 32-bit PSP. -/
def pspRenderDataSize : Nat := 68

/-- The calls of `PSP_SetBlendState` for a blend mode. -/
def blendModeCalls : SDLBlendMode → List GuCall
  | .none => [.texFunc .replace, .disable .blend]
  | .blend => [.texFunc .modulate, .blendFunc ⟨.srcAlpha, .oneMinusSrcAlpha, 0, 0⟩,
      .enable .blend]
  | .blendPremultiplied => [.texFunc .modulate,
      .blendFunc ⟨.fix, .oneMinusSrcAlpha, 0x00FFFFFF, 0⟩, .enable .blend]
  | .add => [.texFunc .modulate, .blendFunc ⟨.srcAlpha, .fix, 0, 0x00FFFFFF⟩, .enable .blend]
  | .addPremultiplied => [.texFunc .modulate, .blendFunc ⟨.fix, .fix, 0, 0x00FFFFFF⟩,
      .enable .blend]
  | .mod => [.texFunc .modulate, .blendFunc ⟨.fix, .srcColor, 0, 0⟩, .enable .blend]
  | .mul => [.texFunc .modulate, .blendFunc ⟨.dstColor, .oneMinusSrcAlpha, 0, 0⟩,
      .enable .blend]
  | .invalid => []

/-- `SetTextureScaleMode`. -/
def setTextureScaleMode : SDLScaleMode → List GuCall
  | .pixelart | .nearest => [.texFilter .nearest .nearest]
  | .linear => [.texFilter .linear .linear]
  | .invalid => []

/-- `TranslateAddressMode`; an unknown mode asserts and gives `GU_CLAMP`. -/
def translateAddressMode : SDLTextureAddressMode → GuWrap
  | .wrap => .repeat
  | _ => .clamp

namespace PSPRenderData

variable {σ : Type}

def guAll (s : PSPRenderData σ) (calls : List GuCall) : PSPRenderData σ :=
  calls.foldl PSPRenderData.gu s

end PSPRenderData

section Functions

variable {σ : Type} (P : Platform σ) (frame : PspFrame)

/-- `ResetBlendState`. -/
def resetBlendState (s : PSPRenderData σ) : PSPRenderData σ :=
  { s.guAll [.color 0xffffffff, .disable .texture2D, .shadeModel .smooth] with
    blendState :=
      { s.blendState with
        color := 0xffffffff, mode := .invalid, texture := none, shadeModel := .smooth } }

def displayFormat (format : SDLPixelFormat) : GuPsm × Nat :=
  match pixelFormatToPSPFMT format with
  | .psm4444 => (.psm4444, 2)
  | .psm5650 => (.psm5650, 2)
  | .psm5551 => (.psm5551, 2)
  | .psm8888 => (.psm8888, 4)

/-- `PSP_CreateRenderer`. The double buffer's `vramalloc` is not checked in the source;
the colorspace check is not modelled. -/
def pspCreateRenderer (memory : σ) (windowFormat : SDLPixelFormat) :
    Option (PSPRenderData σ) :=
  match P.malloc memory pspRenderDataSize with
  | none => none
  | some (_, memory) =>
      let (psm, bpp) := displayFormat windowFormat
      let (doublebuffer, memory) :=
        (P.vramalloc memory (frame.frameBufferSize * bpp * 2)).getD (0, memory)
      let frontbuffer := doublebuffer + frame.frameBufferSize * bpp
      let width : Int := frame.screenWidth
      let height : Int := frame.screenHeight
      let s : PSPRenderData σ :=
        { memory := memory
          bytes := fun _ => 0
          textures := fun _ => none
          nextTexture := 0
          hot := HotList.empty
          target := none
          boundTarget := none
          displayListAvail := false
          frontbuffer := frontbuffer
          backbuffer := doublebuffer
          psm := psm
          blendState := ⟨.invalid, 0, .flat, none, .nearest, .auto, .auto⟩
          vsync := false
          vblankNotReached := false
          trace := []
          error := "" }
      let s := s.guAll [.init, .start, .drawBuffer psm frontbuffer frame.frameBufferWidth,
        .dispBuffer frame.screenWidth frame.screenHeight doublebuffer frame.frameBufferWidth,
        .offset (2048 - width / 2) (2048 - height / 2), .viewport 2048 2048 width height,
        .disable .depthTest, .scissor 0 0 width height, .enable .scissorTest,
        .disable .cullFace]
      let s := (resetBlendState s).guAll [.finish, .sync, .display true]
      some { s with vblankNotReached := true }

/-- `StartDrawing`. -/
def startDrawing (s : PSPRenderData σ) : PSPRenderData σ :=
  let s := if s.displayListAvail then s else { s.gu .start with displayListAvail := true }
  if s.target = s.boundTarget then s
  else
    let s := match s.target with
      | some t => (textureBindAsTarget P s t).2
      | none => s.gu (.drawBufferList s.psm s.frontbuffer frame.frameBufferWidth)
    { s with boundTarget := s.target }

/-- `PSP_SetBlendState`. -/
def pspSetBlendState (s : PSPRenderData σ) (state : PSPBlendState) : PSPRenderData σ :=
  let current := s.blendState
  let s := if state.mode ≠ current.mode then s.guAll (blendModeCalls state.mode) else s
  let s := if state.color ≠ current.color then s.gu (.color state.color) else s
  let s := if state.shadeModel ≠ current.shadeModel then s.gu (.shadeModel state.shadeModel)
    else s
  let s :=
    if state.texture ≠ current.texture then
      match state.texture with
      | some t => (textureActivate P s t).gu (.enable .texture2D)
      | none => s.gu (.disable .texture2D)
    else s
  let s := match state.texture with
    | some _ =>
        (s.guAll (setTextureScaleMode state.textureScaleMode)).gu
          (.texWrap (translateAddressMode state.textureAddressModeU)
            (translateAddressMode state.textureAddressModeV))
    | none => s
  { s with blendState := state }

/-- The state a points, lines or rectangles command asks for. -/
def flatState (color : Nat) (draw : DrawData) : PSPBlendState :=
  ⟨draw.blend, color, .flat, none, .invalid, .invalid, .invalid⟩

/-- The state a textured command asks for. -/
def texturedState (color : Nat) (draw : DrawData) : PSPBlendState :=
  ⟨draw.blend, color, .smooth, draw.texture, draw.textureScaleMode, draw.textureAddressModeU,
    draw.textureAddressModeV⟩

/-- One command of `PSP_RunCommandQueue`, with `drawstate.color`. -/
def runCommand (gpumem : Nat) : PSPRenderData σ × Nat → SDLRenderCommand → PSPRenderData σ × Nat
  | (s, color), cmd =>
      let draw := cmd.draw
      let verts := gpumem + draw.first
      match cmd.command with
      | .setDrawColor => (s, cmd.color)
      | .setViewport =>
          let v := cmd.viewport
          (s.guAll [.offset (2048 - v.w / 2) (2048 - v.h / 2), .viewport 2048 2048 v.w v.h,
            .scissor v.x v.y v.w v.h], color)
      | .setClipRect =>
          let r := cmd.cliprect
          if cmd.cliprectEnabled then
            (s.guAll [.enable .scissorTest, .scissor r.x r.y r.w r.h], color)
          else (s.gu (.disable .scissorTest), color)
      | .clear =>
          (s.guAll [.clearColor cmd.color, .clearStencil (cmd.color / 0x1000000), .clear], color)
      | .drawPoints =>
          ((pspSetBlendState P s (flatState color draw)).gu
            (.drawArray .points false draw.count verts), color)
      | .drawLines =>
          ((pspSetBlendState P s (flatState color draw)).gu
            (.drawArray .lineStrip false draw.count verts), color)
      | .fillRects =>
          ((pspSetBlendState P s (flatState color draw)).gu
            (.drawArray .sprites false (2 * draw.count) verts), color)
      | .copy =>
          ((pspSetBlendState P s (texturedState color draw)).gu
            (.drawArray .sprites true (2 * draw.count) verts), color)
      | .copyEx =>
          ((pspSetBlendState P s (texturedState color draw)).gu
            (.drawArray .triangleFan true 4 verts), color)
      | .geometry =>
          match draw.texture with
          | none =>
              (s.guAll [.disable .texture2D, .drawArray .triangles false draw.count verts,
                .enable .texture2D], color)
          | some _ =>
              ((pspSetBlendState P s (texturedState color draw)).gu
                (.drawArray .triangles true draw.count verts), color)
      | .noOp => (s, color)

/-- `PSP_RunCommandQueue`. -/
def pspRunCommandQueue (s : PSPRenderData σ) (cmds : List SDLRenderCommand) (vertsize : Nat) :
    Bool × PSPRenderData σ :=
  let s := startDrawing P frame s
  match P.sceGuGetMemory s.memory vertsize with
  | none =>
      (false, { s with
        error := "Couldn\x27t obtain a " ++ toString vertsize ++ "-byte vertex buffer!" })
  | some (gpumem, memory) => (true, (cmds.foldl (runCommand P gpumem) ({ s with memory }, 0)).1)

/-- `PSP_RenderPresent`, run without interruption. -/
def pspRenderPresent (s : PSPRenderData σ) : Bool × PSPRenderData σ :=
  if !s.displayListAvail then (false, s)
  else
    let s := ({ s with displayListAvail := false }.gu .finish).gu .sync
    (true, { s.gu .swapBuffers with
      vblankNotReached := true, backbuffer := s.frontbuffer, frontbuffer := s.backbuffer })

end Functions

/-- A call of the core into the backend. -/
inductive RendererCall where
  | texture (call : TextureCall)
  | setRenderTarget (target : Option TexId)
  | runCommandQueue (cmds : List SDLRenderCommand) (vertsize : Nat)
  | renderPresent

namespace RendererCall

variable {σ : Type} (P : Platform σ) (frame : PspFrame)

def run (s : PSPRenderData σ) : RendererCall → Bool × PSPRenderData σ
  | texture call => call.run P s
  | setRenderTarget target => (true, { s with target })
  | runCommandQueue cmds vertsize => pspRunCommandQueue P frame s cmds vertsize
  | renderPresent => pspRenderPresent s

end RendererCall

/-- The state after a run of calls. -/
def runCalls {σ : Type} (P : Platform σ) (frame : PspFrame) (s : PSPRenderData σ)
    (calls : List RendererCall) : PSPRenderData σ :=
  calls.foldl (fun s call => (call.run P frame s).2) s

/-! ## Runs on the PSP's memory map -/

/-- The values `SDL_render_psp_c.h` gives the frame constants. -/
def sdlPspFrame : PspFrame :=
  ⟨480, 272, 512, 512 * 272⟩

/-- VRAM as a stack, and system memory handed out upwards from the user area. -/
def stackPlatform : Platform (Fin 0x200000 × Nat) where
  vramalloc m n :=
    if _ : n ≤ 0x1FFFFF - m.1.val then
      some (0x04000000 + m.1.val, (⟨m.1.val + n, by omega⟩, m.2))
    else none
  vfree m block :=
    if _ : 0x04000000 ≤ block ∧ block - 0x04000000 < m.1.val then
      (⟨block - 0x04000000, by omega⟩, m.2)
    else m
  vlargestblock m := 0x1FFFFF - m.1.val
  vmemavail m := 0x1FFFFF - m.1.val
  malloc m n := some (0x08800000 + m.2, (m.1, m.2 + n))
  free m _ := m
  sceGuGetMemory m n := some (0x09000000 + m.2, (m.1, m.2 + n))

theorem stackPlatform_sound : stackPlatform.Sound where
  vramalloc_of_fits m n fits := by
    simp only [stackPlatform] at fits ⊢
    simp [fits]
  vramalloc_inVram m n block memory allocated := by
    simp only [stackPlatform] at allocated
    split at allocated
    · obtain ⟨rfl, -⟩ := Prod.mk.inj (Option.some.inj allocated)
      exact ⟨by omega, by simp only [InVram]; omega⟩
    · cases allocated
  malloc_outside_vram m n block memory allocated := by
    obtain ⟨rfl, -⟩ := Prod.mk.inj (Option.some.inj allocated)
    simp only [InVram]
    omega

/-- The stack platform with `sysram` bytes of system memory. -/
def sysramPlatform (sysram : Nat) : Platform (Fin 0x200000 × Nat) :=
  { stackPlatform with
    malloc := fun m n =>
      if m.2 + n ≤ sysram then some (0x08800000 + m.2, (m.1, m.2 + n)) else none }

theorem sysramPlatform_sound (sysram : Nat) : (sysramPlatform sysram).Sound where
  vramalloc_of_fits := stackPlatform_sound.vramalloc_of_fits
  vramalloc_inVram := stackPlatform_sound.vramalloc_inVram
  malloc_outside_vram m n block memory allocated := by
    simp only [sysramPlatform] at allocated
    split at allocated
    · obtain ⟨rfl, -⟩ := Prod.mk.inj (Option.some.inj allocated)
      simp only [InVram]
      omega
    · cases allocated

/-- Creating a second 512x256 target spills the bound one, and the GE still draws into the
block that now holds the new target. -/
theorem startDrawing_target_spilled_while_bound :
    ∃ s, (pspCreateRenderer stackPlatform sdlPspFrame (0, 0) .abgr8888).map
        (fun s => runCalls stackPlatform sdlPspFrame s
          [.texture (.create ⟨.abgr8888, .target, 512, 256⟩), .setRenderTarget (some 0),
            .runCommandQueue [] 0, .texture (.create ⟨.abgr8888, .target, 512, 256⟩)]) =
        some s ∧
      s.target = some 0 ∧ s.boundTarget = some 0 ∧
      (s.textures 0).map (fun tex => decide (InVram tex.internal.data)) = some false ∧
      (s.hot.mostRecentTarget, s.hot.leastRecentTarget) = (some 1, some 1) ∧
      lastDrawBuffer s.trace = (s.textures 1).map fun tex => tex.internal.data := by
  refine ⟨_, rfl, ?_⟩
  decide

/-- Binding a spilled target whose spill of the other fails: `StartDrawing` drops the
`false` and the draw goes to the front buffer. -/
theorem startDrawing_ignores_failed_bind :
    (sysramPlatform 0x100000).Sound ∧
      ∃ s r, (pspCreateRenderer (sysramPlatform 0x100000) sdlPspFrame (0, 0) .abgr8888).map
          (fun s => runCalls (sysramPlatform 0x100000) sdlPspFrame s
            [.texture (.create ⟨.abgr8888, .target, 512, 256⟩),
              .texture (.create ⟨.abgr8888, .target, 512, 256⟩), .setRenderTarget (some 0)]) =
          some s ∧
        pspRunCommandQueue (sysramPlatform 0x100000) sdlPspFrame s
          [{ command := .drawPoints, draw := { count := 1 } }] 16 = r ∧
        (textureBindAsTarget (sysramPlatform 0x100000)
          { s.gu .start with displayListAvail := true } 0).1 = false ∧
        r.1 = true ∧ s.boundTarget = none ∧ r.2.boundTarget = some 0 ∧
        (r.2.textures 0).map (fun tex => decide (InVram tex.internal.data)) = some false ∧
        (drawRegisters r.2.trace).length = 1 ∧ lastDrawBuffer r.2.trace = some s.frontbuffer := by
  refine ⟨sysramPlatform_sound _, _, _, rfl, rfl, ?_⟩
  decide

/-- Untextured geometry between points commands leaves the flat shade model and
`GU_TEXTURE_2D` behind `data->blendState`. -/
theorem untextured_geometry_breaks_blend_cache :
    (pspCreateRenderer stackPlatform sdlPspFrame (0, 0) .abgr8888).map
        (fun s => (drawRegisters (runCalls stackPlatform sdlPspFrame s
          [.runCommandQueue [{ command := .drawPoints, draw := { count := 1 } },
            { command := .geometry, draw := { first := 16, count := 3 } },
            { command := .drawPoints, draw := { count := 1 } }] 64]).trace).map
          fun draw => (draw.2.enabled .texture2D, draw.2.shadeModel)) =
      some [(some false, some .flat), (some false, some .flat), (some true, some .flat)] := by
  decide

/-- `PSP_DestroyTexture` frees the storage a pending copy samples. -/
theorem destroy_frees_pending_texture :
    (pspCreateRenderer stackPlatform sdlPspFrame (0, 0) .abgr8888).map
        (fun s => pendingAccesses (runCalls stackPlatform sdlPspFrame s
          [.texture (.create ⟨.abgr8888, .static, 16, 16⟩),
            .runCommandQueue [{ command := .copy, draw := { count := 1, texture := some 0 } }] 40,
            .texture (.destroy 0)]).trace) =
      some [.cpuFree 0x0880049C] := by
  decide

end SdlRender.Psp
