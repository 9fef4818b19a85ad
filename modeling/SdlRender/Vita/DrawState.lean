import SdlRender.Vita.Gxm

/-!
# `SetDrawState` and the calls around it

`SetDrawState` brings the GXM context to what a draw command needs, cut here into its steps
(viewport, clip rectangle, programs, WVP uniform, texture modes, texture), each a definition,
run by `setDrawState` in the order of the source.
-/

namespace SdlRender.Vita

/-- The `blend_fragment_programs` entry `VITA_GXM_SetBlendMode` selects. -/
def blendPrograms : SDLBlendMode → BlendPrograms
  | .none => .none
  | .add => .add
  | .mod => .mod
  | .mul => .mul
  | _ => .blend

/-- `TranslateAddressMode`; an unknown mode asserts and gives `SCE_GXM_TEXTURE_ADDR_CLAMP`. -/
def translateAddressMode : SDLTextureAddressMode → GxmAddrMode
  | .wrap => .repeat
  | _ => .clamp

/-- The filters `gxm_texture_set_filters` writes for a scale mode. -/
def filterWords (mode : SDLScaleMode) (words : TextureWords) : TextureWords :=
  match mode with
  | .pixelart | .nearest => { words with minFilter := .point, magFilter := .point }
  | .linear => { words with minFilter := .linear, magFilter := .linear }
  | .invalid => words

/-- `ClampCliprectToViewport`, on C `int`s. -/
def clampCliprectToViewport (clip viewport : SDLRect) : SDLRect :=
  let clip := if clip.x < 0 then { clip with w := clip.w + clip.x, x := 0 } else clip
  let clip := if clip.y < 0 then { clip with h := clip.h + clip.y, y := 0 } else clip
  let maxXc := clip.x + clip.w
  let maxYc := clip.y + clip.h
  let maxXv := viewport.x + viewport.w
  let maxYv := viewport.y + viewport.h
  let clip := if maxXc > maxXv then { clip with w := clip.w - (maxXv - maxXc) } else clip
  if maxYc > maxYv then { clip with h := clip.h - (maxYv - maxYc) } else clip

namespace VitaRenderData

/-- The calls, in order. -/
def gxmAll (s : VitaRenderData) (calls : List GxmCall) : VitaRenderData :=
  { s with trace := s.trace ++ calls }

def withDrawstate (s : VitaRenderData) (drawstate : DrawStateCache) : VitaRenderData :=
  { s with drawstate }

@[simp] theorem gxmAll_trace (s : VitaRenderData) (calls : List GxmCall) :
    (s.gxmAll calls).trace = s.trace ++ calls := rfl

@[simp] theorem gxmAll_context (s : VitaRenderData) (calls : List GxmCall) :
    (s.gxmAll calls).context = gxmContextAfter s.context calls :=
  gxmContextAfter_append _ _ _

@[simp] theorem gxmAll_drawstate (s : VitaRenderData) (calls : List GxmCall) :
    (s.gxmAll calls).drawstate = s.drawstate := rfl

@[simp] theorem gxmAll_textures (s : VitaRenderData) (calls : List GxmCall) :
    (s.gxmAll calls).textures = s.textures := rfl

@[simp] theorem gxmAll_currentBlendMode (s : VitaRenderData) (calls : List GxmCall) :
    (s.gxmAll calls).currentBlendMode = s.currentBlendMode := rfl

@[simp] theorem gxmAll_colorFragmentProgram (s : VitaRenderData) (calls : List GxmCall) :
    (s.gxmAll calls).colorFragmentProgram = s.colorFragmentProgram := rfl

@[simp] theorem gxmAll_textureFragmentProgram (s : VitaRenderData) (calls : List GxmCall) :
    (s.gxmAll calls).textureFragmentProgram = s.textureFragmentProgram := rfl

@[simp] theorem withDrawstate_trace (s : VitaRenderData) (drawstate : DrawStateCache) :
    (s.withDrawstate drawstate).trace = s.trace := rfl

@[simp] theorem withDrawstate_context (s : VitaRenderData) (drawstate : DrawStateCache) :
    (s.withDrawstate drawstate).context = s.context := rfl

@[simp] theorem withDrawstate_drawstate (s : VitaRenderData) (drawstate : DrawStateCache) :
    (s.withDrawstate drawstate).drawstate = drawstate := rfl

@[simp] theorem withDrawstate_textures (s : VitaRenderData) (drawstate : DrawStateCache) :
    (s.withDrawstate drawstate).textures = s.textures := rfl

@[simp] theorem withDrawstate_currentBlendMode (s : VitaRenderData) (drawstate : DrawStateCache) :
    (s.withDrawstate drawstate).currentBlendMode = s.currentBlendMode := rfl

@[simp] theorem withDrawstate_colorFragmentProgram (s : VitaRenderData)
    (drawstate : DrawStateCache) :
    (s.withDrawstate drawstate).colorFragmentProgram = s.colorFragmentProgram := rfl

@[simp] theorem withDrawstate_textureFragmentProgram (s : VitaRenderData)
    (drawstate : DrawStateCache) :
    (s.withDrawstate drawstate).textureFragmentProgram = s.textureFragmentProgram := rfl

end VitaRenderData

/-- `StartDrawing`. -/
def startDrawing (s : VitaRenderData) : VitaRenderData :=
  if s.drawing then s
  else
    ({ s with
      drawstate :=
        { s.drawstate with
          texture := none, vertexProgram := none, fragmentProgram := none, viewportDirty := true }
      drawing := true } : VitaRenderData).gxm (.beginScene s.target)

/-- `VITA_GXM_SetBlendMode`. -/
def vitaGxmSetBlendMode (s : VitaRenderData) (blendMode : SDLBlendMode) : VitaRenderData :=
  if blendMode ≠ s.currentBlendMode then
    { s with
      colorFragmentProgram := .color (blendPrograms blendMode)
      textureFragmentProgram := .texture (blendPrograms blendMode)
      currentBlendMode := blendMode }
  else s

/-- The viewport step of `SetDrawState`, with `matrix_updated`. -/
def applyViewport (s : VitaRenderData) : VitaRenderData × Bool :=
  if s.drawstate.viewportDirty then
    let viewport := s.drawstate.viewport
    let matrixUpdated := viewport.w ≠ 0 ∧ viewport.h ≠ 0
    let s := s.gxm (.setViewport viewport)
    let s := if matrixUpdated then { s with orthoMatrix := some (viewport.w, viewport.h) } else s
    (s.withDrawstate { s.drawstate with viewportDirty := false }, matrixUpdated)
  else (s, false)

/-- The clip step of `SetDrawState`. -/
def applyCliprect (s : VitaRenderData) : VitaRenderData :=
  let s :=
    if s.drawstate.cliprectEnabledDirty then
      let s := if !s.drawstate.cliprectEnabled then s.gxm .unsetClipRectangle else s
      s.withDrawstate { s.drawstate with cliprectEnabledDirty := false }
    else s
  if (s.drawstate.cliprectEnabled || s.drawstate.viewportIsSet) && s.drawstate.cliprectDirty then
    let rect :=
      if s.drawstate.viewportIsSet then
        clampCliprectToViewport s.drawstate.cliprect s.drawstate.viewport
      else s.drawstate.cliprect
    (s.gxm (.setClipRectangle rect.x rect.y (rect.x + rect.w) (rect.y + rect.h))).withDrawstate
      { s.drawstate with cliprectDirty := false }
  else s

/-- The programs a draw needs, with the fragment program `VITA_GXM_SetBlendMode` left. -/
def drawPrograms (s : VitaRenderData) (texture : Option TexId) :
    VertexProgram × FragmentProgram :=
  match texture with
  | some _ => (.texture, s.textureFragmentProgram)
  | none => (.color, s.colorFragmentProgram)

/-- `sceGxmSetVertexProgram` when the program is not the cached one. -/
def bindVertexProgram (s : VitaRenderData) (program : VertexProgram) : VitaRenderData × Bool :=
  if s.drawstate.vertexProgram ≠ some program then
    ((s.withDrawstate { s.drawstate with vertexProgram := some program }).gxm
      (.setVertexProgram program), true)
  else (s, false)

/-- `sceGxmSetFragmentProgram` when the program is not the cached one. -/
def bindFragmentProgram (s : VitaRenderData) (program : FragmentProgram) :
    VitaRenderData × Bool :=
  if s.drawstate.fragmentProgram ≠ some program then
    ((s.withDrawstate { s.drawstate with fragmentProgram := some program }).gxm
      (.setFragmentProgram program), true)
  else (s, false)

/-- The program step of `SetDrawState`, with `program_updated`. -/
def bindPrograms (s : VitaRenderData) (texture : Option TexId) : VitaRenderData × Bool :=
  let programs := drawPrograms s texture
  let vertexStep := bindVertexProgram s programs.1
  let fragmentStep := bindFragmentProgram vertexStep.1 programs.2
  (fragmentStep.1, vertexStep.2 || fragmentStep.2)

/-- The WVP step of `SetDrawState`. -/
def uploadWvp (s : VitaRenderData) (updated : Bool) : VitaRenderData :=
  if updated then
    if s.drawstate.fragmentProgram = some s.textureFragmentProgram then
      s.gxm (.setWvp .texture s.orthoMatrix)
    else s.gxm (.setWvp .color s.orthoMatrix)
  else s

/-- A texture's filter and address words after a command's modes, through its cache. -/
def updateTextureModes (tex : VitaTexture) (draw : DrawData) : VitaTexture :=
  let tex :=
    if draw.textureScaleMode ≠ tex.scaleMode then
      { tex with
        words := filterWords draw.textureScaleMode tex.words
        scaleMode := draw.textureScaleMode }
    else tex
  if draw.textureAddressModeU ≠ tex.addressModeU ∨
      draw.textureAddressModeV ≠ tex.addressModeV then
    { tex with
      words :=
        { tex.words with
          addressU := translateAddressMode draw.textureAddressModeU
          addressV := translateAddressMode draw.textureAddressModeV }
      addressModeU := draw.textureAddressModeU
      addressModeV := draw.textureAddressModeV }
  else tex

/-- The texture-mode step of `SetDrawState`. -/
def applyTextureModes (s : VitaRenderData) (draw : DrawData) : VitaRenderData :=
  match draw.texture with
  | none => s
  | some t =>
      match s.textures t with
      | none => s
      | some tex =>
          { s with textures := Function.update s.textures t (some (updateTextureModes tex draw)) }

/-- The texture step of `SetDrawState`. -/
def bindTexture (s : VitaRenderData) (texture : Option TexId) : VitaRenderData :=
  if texture ≠ s.drawstate.texture then
    let s :=
      match texture with
      | some t =>
          match s.textures t with
          | some tex => s.gxm (.setFragmentTexture t tex.words)
          | none => s
      | none => s
    s.withDrawstate { s.drawstate with texture }
  else s

/-- `SetDrawState`, which always returns `true`. -/
def setDrawState (s : VitaRenderData) (cmd : SDLRenderCommand) : VitaRenderData :=
  let viewportStep := applyViewport s
  let s := applyCliprect viewportStep.1
  let s := vitaGxmSetBlendMode s cmd.draw.blend
  let programStep := bindPrograms s cmd.draw.texture
  let s := uploadWvp programStep.1 (programStep.2 || viewportStep.2)
  let s := applyTextureModes s cmd.draw
  let s := bindTexture s cmd.draw.texture
  s.gxm (.setVertexStream (.pool cmd.draw.first))

/-- `VITA_GXM_RenderClear`. -/
def vitaGxmRenderClear (s : VitaRenderData) (cmd : SDLRenderCommand) : VitaRenderData :=
  let s := s.gxm .unsetClipRectangle
  let s := s.withDrawstate
    { s.drawstate with fragmentProgram := some .clear, vertexProgram := some .clear }
  let s := s.gxmAll [.setVertexProgram .clear, .setFragmentProgram .clear,
    .setClearColor cmd.color, .setVertexStream .clearVertices, .draw .triangles 3]
  s.withDrawstate { s.drawstate with cliprectDirty := true }

/-! ## The calls `SetDrawState` adds -/

namespace VitaRenderData

/-- `s'` is `s` with calls added to the trace, none of them a draw. -/
def AddsNoDraw (s s' : VitaRenderData) : Prop :=
  ∃ calls, s'.trace = s.trace ++ calls ∧ ∀ call ∈ calls, call.isDraw = false

variable {s s₁ s₂ : VitaRenderData}

theorem AddsNoDraw.of_trace_eq (same : s₁.trace = s.trace) : AddsNoDraw s s₁ :=
  ⟨[], by simp [same], by simp⟩

theorem AddsNoDraw.trans (first : AddsNoDraw s s₁) (second : AddsNoDraw s₁ s₂) :
    AddsNoDraw s s₂ := by
  obtain ⟨calls₁, trace₁, noDraw₁⟩ := first
  obtain ⟨calls₂, trace₂, noDraw₂⟩ := second
  refine ⟨calls₁ ++ calls₂, by simp [trace₂, trace₁], ?_⟩
  simp only [List.mem_append]
  rintro call (mem | mem)
  exacts [noDraw₁ call mem, noDraw₂ call mem]

theorem AddsNoDraw.gxm (added : AddsNoDraw s s₁) (call : GxmCall)
    (notDraw : call.isDraw = false) : AddsNoDraw s (s₁.gxm call) :=
  added.trans ⟨[call], rfl, by simpa using notDraw⟩

theorem AddsNoDraw.draws (added : AddsNoDraw s s₁) (rest : List GxmCall) :
    ∃ calls, s₁.trace ++ rest = s.trace ++ calls ∧
      gxmDrawsFrom s.context calls = gxmDrawsFrom s₁.context rest := by
  obtain ⟨calls, trace, noDraw⟩ := added
  refine ⟨calls ++ rest, by simp [trace], ?_⟩
  rw [gxmDrawsFrom_append, gxmDrawsFrom_of_not_isDraw noDraw, List.nil_append,
    context_eq_of_trace trace]

end VitaRenderData

open VitaRenderData

@[simp] theorem vitaGxmSetBlendMode_trace (s : VitaRenderData) (blendMode : SDLBlendMode) :
    (vitaGxmSetBlendMode s blendMode).trace = s.trace := by
  unfold vitaGxmSetBlendMode
  split_ifs <;> rfl

@[simp] theorem applyTextureModes_trace (s : VitaRenderData) (draw : DrawData) :
    (applyTextureModes s draw).trace = s.trace := by
  unfold applyTextureModes
  split <;> [rfl; split <;> rfl]

theorem applyViewport_addsNoDraw (s : VitaRenderData) : AddsNoDraw s (applyViewport s).1 := by
  simp only [applyViewport]
  split_ifs <;> simp [AddsNoDraw, GxmCall.isDraw]

theorem applyCliprect_addsNoDraw (s : VitaRenderData) : AddsNoDraw s (applyCliprect s) := by
  simp only [applyCliprect]
  split_ifs <;> simp [AddsNoDraw, GxmCall.isDraw]

theorem bindPrograms_addsNoDraw (s : VitaRenderData) (texture : Option TexId) :
    AddsNoDraw s (bindPrograms s texture).1 := by
  simp only [bindPrograms, bindVertexProgram, bindFragmentProgram]
  split_ifs <;> simp [AddsNoDraw, GxmCall.isDraw]

theorem uploadWvp_addsNoDraw (s : VitaRenderData) (updated : Bool) :
    AddsNoDraw s (uploadWvp s updated) := by
  simp only [uploadWvp]
  split_ifs <;> simp [AddsNoDraw, GxmCall.isDraw]

theorem bindTexture_addsNoDraw (s : VitaRenderData) (texture : Option TexId) :
    AddsNoDraw s (bindTexture s texture) := by
  simp only [bindTexture]
  split_ifs <;> [split <;> [split <;> simp [AddsNoDraw, GxmCall.isDraw]; simp [AddsNoDraw]];
    simp [AddsNoDraw]]

theorem setDrawState_addsNoDraw (s : VitaRenderData) (cmd : SDLRenderCommand) :
    AddsNoDraw s (setDrawState s cmd) :=
  ((((((applyViewport_addsNoDraw s).trans (applyCliprect_addsNoDraw _)).trans
    (.of_trace_eq (vitaGxmSetBlendMode_trace _ _))).trans (bindPrograms_addsNoDraw _ _)).trans
    (uploadWvp_addsNoDraw _ _)).trans (.of_trace_eq (applyTextureModes_trace _ _))).trans
    (bindTexture_addsNoDraw _ _) |>.gxm _ rfl

theorem setDrawState_vertexStream (s : VitaRenderData) (cmd : SDLRenderCommand) :
    (setDrawState s cmd).context.vertexStream = some (.pool cmd.draw.first) := by
  simp only [setDrawState, gxm_context, GxmContext.apply]

end SdlRender.Vita
