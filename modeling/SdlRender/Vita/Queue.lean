import SdlRender.Vita.DrawState

/-!
# `VITA_GXM_RunCommandQueue`

State commands update the cached intent in `data->drawstate`; a run of draw commands of one
type, texture and blend mode becomes one `sceGxmDraw` of their summed count. `runQueue` is
the `while (cmd)` loop, with the queue's length as fuel.
-/

namespace SdlRender.Vita

/-- The draw commands, which the loop merges. -/
def isBatched (cmd : SDLRenderCommand) : Bool :=
  match cmd.command with
  | .drawPoints | .drawLines | .geometry => true
  | _ => false

/-- Whether the merge scan takes `next` into the draw of `first`. -/
def mergeable (first next : SDLRenderCommand) : Bool :=
  decide (next.command = first.command ∧ next.draw.texture = first.draw.texture ∧
    next.draw.blend = first.draw.blend)

/-- The primitive a draw command is drawn as. -/
def primitiveOf : SDLRenderCommandType → GxmPrimitive
  | .drawPoints => .points
  | .drawLines => .lines
  | _ => .triangles

/-- The calls after `SetDrawState` of a merged draw of `count` vertices. -/
def drawCalls (command : SDLRenderCommandType) (count : Nat) : List GxmCall :=
  match command with
  | .drawPoints => [.setFrontPolygonMode .point, .draw .points count,
      .setFrontPolygonMode .triangleFill]
  | .drawLines => [.setFrontPolygonMode .line, .draw .lines count,
      .setFrontPolygonMode .triangleFill]
  | _ => [.draw .triangles count]

/-- The draw of a merged run. -/
def drawBatch (s : VitaRenderData) (cmd : SDLRenderCommand) (count : Nat) : VitaRenderData :=
  (setDrawState s cmd).gxmAll (drawCalls cmd.command count)

/-- The `SDL_RENDERCMD_SETVIEWPORT` case. -/
def setViewportCommand (s : VitaRenderData) (rect : SDLRect) : VitaRenderData :=
  let ds := s.drawstate
  if ds.viewport ≠ rect then
    let ds :=
      { ds with
        viewport := rect, viewportDirty := true, cliprectDirty := true
        viewportIsSet :=
          rect.x ≠ 0 || rect.y ≠ 0 || rect.w ≠ ds.drawablew || rect.h ≠ ds.drawableh }
    let ds :=
      if !ds.cliprectEnabled then
        if ds.viewportIsSet then { ds with cliprect := { rect with x := 0, y := 0 } }
        else { ds with cliprectEnabledDirty := true }
      else ds
    s.withDrawstate ds
  else s

/-- The `SDL_RENDERCMD_SETCLIPRECT` case. -/
def setCliprectCommand (s : VitaRenderData) (enabled : Bool) (rect : SDLRect) :
    VitaRenderData :=
  let ds := s.drawstate
  let ds :=
    if ds.cliprectEnabled ≠ enabled then
      let ds := { ds with cliprectEnabled := enabled, cliprectEnabledDirty := true }
      if !ds.cliprectEnabled && ds.viewportIsSet then
        { ds with cliprect := { ds.viewport with x := 0, y := 0 } }
      else ds
    else ds
  let ds := if ds.cliprect ≠ rect then { ds with cliprect := rect, cliprectDirty := true } else ds
  s.withDrawstate ds

/-- The cases of the loop for the commands it does not merge. -/
def runCommand (s : VitaRenderData) (cmd : SDLRenderCommand) : VitaRenderData :=
  match cmd.command with
  | .setViewport => setViewportCommand s cmd.viewport
  | .setClipRect => setCliprectCommand s cmd.cliprectEnabled cmd.cliprect
  | .clear => vitaGxmRenderClear s cmd
  | _ => s

/-- The `while (cmd)` loop. -/
def runQueue : Nat → VitaRenderData → List SDLRenderCommand → VitaRenderData
  | 0, s, _ => s
  | _, s, [] => s
  | fuel + 1, s, cmd :: rest =>
      if isBatched cmd then
        let scan := rest.span (mergeable cmd)
        let count := scan.1.foldl (fun count next => count + next.draw.count) cmd.draw.count
        runQueue fuel (drawBatch s cmd count) scan.2
      else runQueue fuel (runCommand s cmd) rest

/-- The size `VITA_GXM_RunCommandQueue` takes for the drawable. -/
def drawableSize (s : VitaRenderData) : Int × Int :=
  match s.drawstate.target with
  | none => (s.windoww, s.windowh)
  | some t =>
      match s.textures t with
      | some tex => (tex.w, tex.h)
      | none => (s.drawstate.drawablew, s.drawstate.drawableh)

/-- The start of `VITA_GXM_RunCommandQueue`, before its loop. -/
def beginQueue (s : VitaRenderData) : VitaRenderData :=
  let s := startDrawing s
  let s := s.withDrawstate { s.drawstate with target := s.target }
  let size := drawableSize s
  if size.1 ≠ s.drawstate.drawablew ∨ size.2 ≠ s.drawstate.drawableh then
    s.withDrawstate
      { s.drawstate with
        viewportDirty := true, cliprectDirty := true, drawablew := size.1, drawableh := size.2 }
  else s

/-- `VITA_GXM_RunCommandQueue`, which always returns `true`. -/
def vitaGxmRunCommandQueue (s : VitaRenderData) (cmds : List SDLRenderCommand) :
    VitaRenderData :=
  let s := runQueue cmds.length (beginQueue s) cmds
  { s.gxm .endScene with drawing := false }

theorem beginQueue_addsNoDraw (s : VitaRenderData) :
    VitaRenderData.AddsNoDraw s (beginQueue s) := by
  simp only [beginQueue, startDrawing]
  split_ifs <;> simp [VitaRenderData.AddsNoDraw, GxmCall.isDraw]

@[simp] theorem setViewportCommand_trace (s : VitaRenderData) (rect : SDLRect) :
    (setViewportCommand s rect).trace = s.trace := by
  simp only [setViewportCommand]
  split_ifs <;> rfl

@[simp] theorem setCliprectCommand_trace (s : VitaRenderData) (enabled : Bool) (rect : SDLRect) :
    (setCliprectCommand s enabled rect).trace = s.trace := rfl

/-! ## Renderers and textures -/

/-- The renderer `VITA_GXM_CreateRenderer` makes; `gxm_init`, not under src/, is taken to select
the `SDL_BLENDMODE_BLEND` programs. -/
def createdRenderData (windoww windowh : Int) : VitaRenderData where
  drawing := false
  currentBlendMode := .blend
  colorFragmentProgram := .color .blend
  textureFragmentProgram := .texture .blend
  orthoMatrix := none
  drawstate :=
    { viewport := ⟨0, 0, 0, 0⟩, viewportDirty := false, viewportIsSet := false, texture := none
      target := none, fragmentProgram := none, vertexProgram := none
      cliprectEnabledDirty := false, cliprectEnabled := false, cliprectDirty := false
      cliprect := ⟨0, 0, 0, 0⟩, drawablew := 0, drawableh := 0 }
  textures := fun _ => none
  target := none
  windoww := windoww
  windowh := windowh
  trace := []

/-- `VITA_GXM_CreateTexture` once `create_gxm_texture` (not under src/) has made the texture. -/
def vitaGxmCreateTexture (s : VitaRenderData) (t : TexId) (texture : SDLTexture)
    (words : TextureWords) : VitaRenderData :=
  { s with
    textures := Function.update s.textures t
      (some ⟨texture.w, texture.h, words, .invalid, .invalid, .invalid⟩) }

/-! ## The vertex pool -/

/-- The bytes of the vertex type a queue function writes for a command. -/
def vertexSize (cmd : SDLRenderCommand) : Nat :=
  if cmd.command = .geometry ∧ cmd.draw.texture.isSome then 32 else 24

/-- The vertices `VITA_GXM_QueueDrawLines` writes for a polyline, without the colour. -/
def vitaGxmQueueDrawLines {α : Type} (points : List α) : List α :=
  (points.zip points.tail).flatMap fun (a, b) => [a, b]

end SdlRender.Vita
