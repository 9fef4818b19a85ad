import SdlRender.Vita.Batch

/-!
# The bind caches of `SetDrawState`

`SetDrawState` binds a program or texture only when it differs from the one cached in
`data->drawstate`. `BindView.Sound` says the caches agree with the context; each step of
`SetDrawState` keeps it, and at each merged draw the context has bound what the run's first
command needs.
-/

namespace SdlRender.Vita

/-- The vertex and fragment programs a draw command needs. -/
def requiredPrograms (cmd : SDLRenderCommand) : VertexProgram × FragmentProgram :=
  match cmd.draw.texture with
  | some _ => (.texture, .texture (blendPrograms cmd.draw.blend))
  | none => (.color, .color (blendPrograms cmd.draw.blend))

/-- A context has bound what a draw command needs: its programs, and its texture. -/
def BindsRequired (cmd : SDLRenderCommand) (g : GxmContext) : Prop :=
  g.vertexProgram = some (requiredPrograms cmd).1 ∧
    g.fragmentProgram = some (requiredPrograms cmd).2 ∧
    ∀ t ∈ cmd.draw.texture, g.fragmentTexture.map Prod.fst = some t

structure BindView where
  cachedVertex : Option VertexProgram
  cachedFragment : Option FragmentProgram
  cachedTexture : Option TexId
  boundVertex : Option VertexProgram
  boundFragment : Option FragmentProgram
  boundTexture : Option TexId
  blendMode : SDLBlendMode
  colorProgram : FragmentProgram
  textureProgram : FragmentProgram
  live : TexId → Bool

/-- The selected fragment programs are `VITA_GXM_SetBlendMode`'s entry for the blend mode. -/
def ProgramsMatchBlend (s : VitaRenderData) : Prop :=
  s.colorFragmentProgram = .color (blendPrograms s.currentBlendMode) ∧
    s.textureFragmentProgram = .texture (blendPrograms s.currentBlendMode)

namespace BindView

/-- The caches agree with the context, and the selected programs with the blend mode. -/
structure Sound (b : BindView) : Prop where
  vertex : ∀ p ∈ b.cachedVertex, b.boundVertex = some p
  fragment : ∀ p ∈ b.cachedFragment, b.boundFragment = some p
  texture : ∀ t ∈ b.cachedTexture, b.boundTexture = some t
  color : b.colorProgram = .color (blendPrograms b.blendMode)
  textured : b.textureProgram = .texture (blendPrograms b.blendMode)

/-- `VITA_GXM_SetBlendMode`: the mode's programs are selected. -/
def selectBlend (b : BindView) (mode : SDLBlendMode) : BindView :=
  { b with
    blendMode := mode, colorProgram := .color (blendPrograms mode)
    textureProgram := .texture (blendPrograms mode) }

def bindVertex (b : BindView) (program : VertexProgram) : BindView :=
  { b with cachedVertex := some program, boundVertex := some program }

def bindFragment (b : BindView) (program : FragmentProgram) : BindView :=
  { b with cachedFragment := some program, boundFragment := some program }

/-- A texture is bound and cached; no texture is cached as none and unbinds nothing. -/
def bindTexture (b : BindView) : Option TexId → BindView
  | some t => { b with cachedTexture := some t, boundTexture := some t }
  | none => { b with cachedTexture := none }

/-- `StartDrawing` empties the caches. -/
def reset (b : BindView) : BindView :=
  { b with cachedVertex := none, cachedFragment := none, cachedTexture := none }

/-- What `SetDrawState` of a command does to the view. -/
def setDrawState (b : BindView) (cmd : SDLRenderCommand) : BindView :=
  (((b.selectBlend cmd.draw.blend).bindVertex (requiredPrograms cmd).1).bindFragment
    (requiredPrograms cmd).2).bindTexture cmd.draw.texture

/-- What `VITA_GXM_RenderClear` does to the view. -/
def clear (b : BindView) : BindView :=
  (b.bindVertex .clear).bindFragment .clear

@[simp] theorem bindTexture_boundVertex (b : BindView) (texture : Option TexId) :
    (b.bindTexture texture).boundVertex = b.boundVertex := by
  cases texture <;> rfl

@[simp] theorem bindTexture_boundFragment (b : BindView) (texture : Option TexId) :
    (b.bindTexture texture).boundFragment = b.boundFragment := by
  cases texture <;> rfl

@[simp] theorem bindTexture_live (b : BindView) (texture : Option TexId) :
    (b.bindTexture texture).live = b.live := by
  cases texture <;> rfl

variable {b : BindView}

theorem Sound.selectBlend (sound : b.Sound) (mode : SDLBlendMode) : (b.selectBlend mode).Sound :=
  ⟨sound.vertex, sound.fragment, sound.texture, rfl, rfl⟩

theorem Sound.bindVertex (sound : b.Sound) (program : VertexProgram) :
    (b.bindVertex program).Sound :=
  ⟨by simp [BindView.bindVertex], sound.fragment, sound.texture, sound.color, sound.textured⟩

theorem Sound.bindFragment (sound : b.Sound) (program : FragmentProgram) :
    (b.bindFragment program).Sound :=
  ⟨sound.vertex, by simp [BindView.bindFragment], sound.texture, sound.color, sound.textured⟩

theorem Sound.bindTexture (sound : b.Sound) (texture : Option TexId) :
    (b.bindTexture texture).Sound := by
  cases texture with
  | some t => exact ⟨sound.vertex, sound.fragment, by simp [BindView.bindTexture], sound.color,
      sound.textured⟩
  | none => exact ⟨sound.vertex, sound.fragment, by simp [BindView.bindTexture], sound.color,
      sound.textured⟩

theorem reset_sound (color : b.colorProgram = .color (blendPrograms b.blendMode))
    (textured : b.textureProgram = .texture (blendPrograms b.blendMode)) : b.reset.Sound :=
  ⟨by simp [BindView.reset], by simp [BindView.reset], by simp [BindView.reset], color,
    textured⟩

theorem Sound.setDrawState (sound : b.Sound) (cmd : SDLRenderCommand) :
    (b.setDrawState cmd).Sound :=
  ((((sound.selectBlend _).bindVertex _).bindFragment _).bindTexture _)

theorem Sound.clear (sound : b.Sound) : b.clear.Sound :=
  (sound.bindVertex _).bindFragment _

theorem setDrawState_bound (b : BindView) (cmd : SDLRenderCommand) :
    (b.setDrawState cmd).boundVertex = some (requiredPrograms cmd).1 ∧
      (b.setDrawState cmd).boundFragment = some (requiredPrograms cmd).2 ∧
      ∀ t ∈ cmd.draw.texture, (b.setDrawState cmd).boundTexture = some t := by
  refine ⟨?_, ?_, fun t mem => ?_⟩
  · cases texture : cmd.draw.texture <;>
      simp [BindView.setDrawState, requiredPrograms, texture, BindView.bindFragment,
        BindView.bindVertex]
  · cases texture : cmd.draw.texture <;>
      simp [BindView.setDrawState, requiredPrograms, texture, BindView.bindFragment]
  · simp only [Option.mem_def] at mem
    simp [BindView.setDrawState, mem, BindView.bindTexture]

@[simp] theorem setDrawState_live (b : BindView) (cmd : SDLRenderCommand) :
    (b.setDrawState cmd).live = b.live := by
  simp [BindView.setDrawState, BindView.bindFragment, BindView.bindVertex, BindView.selectBlend]

end BindView

namespace VitaRenderData

def binds (s : VitaRenderData) : BindView :=
  ⟨s.drawstate.vertexProgram, s.drawstate.fragmentProgram, s.drawstate.texture,
    s.context.vertexProgram, s.context.fragmentProgram, s.context.fragmentTexture.map Prod.fst,
    s.currentBlendMode, s.colorFragmentProgram, s.textureFragmentProgram,
    fun t => (s.textures t).isSome⟩

end VitaRenderData

open VitaRenderData

/-! ## The steps of `SetDrawState` refine the view's -/

section Steps

variable (s : VitaRenderData)

theorem applyViewport_binds : (applyViewport s).1.binds = s.binds := by
  simp only [applyViewport]
  split_ifs <;> simp [binds, context, gxm, withDrawstate, gxmContextAfter_append, GxmContext.apply]

theorem applyCliprect_binds : (applyCliprect s).binds = s.binds := by
  simp only [applyCliprect]
  split_ifs <;> simp [binds, context, gxm, withDrawstate, gxmContextAfter_append, GxmContext.apply]

theorem uploadWvp_binds (updated : Bool) : (uploadWvp s updated).binds = s.binds := by
  simp only [uploadWvp]
  split_ifs <;> simp [binds, context, gxm, withDrawstate, gxmContextAfter_append, GxmContext.apply]

theorem applyTextureModes_binds (draw : DrawData) : (applyTextureModes s draw).binds = s.binds := by
  cases texture : draw.texture with
  | none => simp [applyTextureModes, texture]
  | some t' =>
    cases found : s.textures t' with
    | none => simp [applyTextureModes, texture, found]
    | some tex =>
      simp only [binds, applyTextureModes, texture, found, BindView.mk.injEq, true_and]
      refine ⟨rfl, rfl, rfl, funext fun t => ?_⟩
      by_cases same : t = t'
      · subst same; simp [found]
      · simp [Function.update_noteq same]

variable {s}

theorem vitaGxmSetBlendMode_binds (sound : s.binds.Sound) (mode : SDLBlendMode) :
    (vitaGxmSetBlendMode s mode).binds = s.binds.selectBlend mode := by
  unfold vitaGxmSetBlendMode
  split_ifs with changed
  · rfl
  · rw [not_not.mp changed]
    simp only [binds, BindView.selectBlend, BindView.mk.injEq, true_and]
    exact ⟨sound.color, sound.textured, trivial⟩

theorem bindVertexProgram_binds (sound : s.binds.Sound) (program : VertexProgram) :
    (bindVertexProgram s program).1.binds = s.binds.bindVertex program := by
  unfold bindVertexProgram
  split_ifs with changed
  · simp [binds, context, gxm, withDrawstate, gxmContextAfter_append, GxmContext.apply,
      BindView.bindVertex]
  · have cached := not_not.mp changed
    have bound : s.context.vertexProgram = some program := sound.vertex program cached
    simp only [binds, BindView.bindVertex, cached, bound]

theorem bindFragmentProgram_binds (sound : s.binds.Sound) (program : FragmentProgram) :
    (bindFragmentProgram s program).1.binds = s.binds.bindFragment program := by
  unfold bindFragmentProgram
  split_ifs with changed
  · simp [binds, context, gxm, withDrawstate, gxmContextAfter_append, GxmContext.apply,
      BindView.bindFragment]
  · have cached := not_not.mp changed
    have bound : s.context.fragmentProgram = some program := sound.fragment program cached
    simp only [binds, BindView.bindFragment, cached, bound]

theorem bindTexture_binds (sound : s.binds.Sound) (texture : Option TexId)
    (live : ∀ t ∈ texture, s.binds.live t = true) :
    (bindTexture s texture).binds = s.binds.bindTexture texture := by
  unfold bindTexture
  split_ifs with changed
  · cases texture with
    | none => rfl
    | some t =>
      obtain ⟨tex, found⟩ := Option.isSome_iff_exists.mp (live t rfl)
      simp [binds, found, context, gxm, withDrawstate, gxmContextAfter_append, GxmContext.apply,
        BindView.bindTexture]
  · have cached := not_not.mp changed
    cases texture with
    | none => simp only [binds, BindView.bindTexture, ← cached]
    | some t =>
      have bound : s.context.fragmentTexture.map Prod.fst = some t := sound.texture t cached.symm
      simp only [binds, BindView.bindTexture, ← cached, bound]

theorem binds_setVertexStream (stream : VertexStream) :
    (s.gxm (.setVertexStream stream)).binds = s.binds := by
  simp [binds, GxmContext.apply]

theorem setDrawState_binds (sound : s.binds.Sound) (cmd : SDLRenderCommand)
    (live : ∀ t ∈ cmd.draw.texture, s.binds.live t = true) :
    (setDrawState s cmd).binds = s.binds.setDrawState cmd := by
  simp only [setDrawState, bindPrograms]
  set s₃ := vitaGxmSetBlendMode (applyCliprect (applyViewport s).1) cmd.draw.blend
  have b₃ : s₃.binds = s.binds.selectBlend cmd.draw.blend := by
    have b₂ := (applyCliprect_binds (applyViewport s).1).trans (applyViewport_binds s)
    rw [vitaGxmSetBlendMode_binds (b₂ ▸ sound), b₂]
  have required : drawPrograms s₃ cmd.draw.texture = requiredPrograms cmd := by
    have color : s₃.colorFragmentProgram = .color (blendPrograms cmd.draw.blend) :=
      congrArg BindView.colorProgram b₃
    have textured : s₃.textureFragmentProgram = .texture (blendPrograms cmd.draw.blend) :=
      congrArg BindView.textureProgram b₃
    cases texture : cmd.draw.texture <;>
      simp [drawPrograms, requiredPrograms, texture, color, textured]
  have b₄ :=
    bindVertexProgram_binds (b₃ ▸ sound.selectBlend cmd.draw.blend) (requiredPrograms cmd).1
  rw [b₃] at b₄
  have b₅ := bindFragmentProgram_binds (b₄ ▸ (sound.selectBlend _).bindVertex _)
    (requiredPrograms cmd).2
  rw [b₄] at b₅
  rw [required, binds_setVertexStream, bindTexture_binds, applyTextureModes_binds, uploadWvp_binds,
    b₅]
  · rfl
  · rw [applyTextureModes_binds, uploadWvp_binds, b₅]
    exact ((sound.selectBlend _).bindVertex _).bindFragment _
  · rw [applyTextureModes_binds, uploadWvp_binds, b₅]
    exact live

end Steps

/-! ## The loop keeps the view sound -/

section Loop

variable {s : VitaRenderData}

theorem drawBatch_binds (sound : s.binds.Sound) (cmd : SDLRenderCommand) (count : Nat)
    (live : ∀ t ∈ cmd.draw.texture, s.binds.live t = true) :
    (drawBatch s cmd count).binds = s.binds.setDrawState cmd := by
  rw [← setDrawState_binds sound cmd live]
  cases command : cmd.command <;>
    simp [drawBatch, drawCalls, command, binds, gxmContextAfter, GxmContext.apply]

theorem vitaGxmRenderClear_binds (cmd : SDLRenderCommand) :
    (vitaGxmRenderClear s cmd).binds = s.binds.clear := by
  simp [vitaGxmRenderClear, binds, BindView.clear, BindView.bindVertex, BindView.bindFragment,
    gxmContextAfter, GxmContext.apply]

theorem runCommand_binds (cmd : SDLRenderCommand) :
    (runCommand s cmd).binds = if cmd.command = .clear then s.binds.clear else s.binds := by
  cases command : cmd.command
  case setViewport =>
    simp only [runCommand, command, setViewportCommand, reduceCtorEq, if_false]
    split_ifs <;> rfl
  case setClipRect =>
    simp only [runCommand, command, setCliprectCommand, reduceCtorEq, if_false]
    split_ifs <;> rfl
  case clear => simp [runCommand, command, vitaGxmRenderClear_binds]
  all_goals simp [runCommand, command]

theorem beginQueue_binds (idle : s.drawing = false) : (beginQueue s).binds = s.binds.reset := by
  simp only [beginQueue, startDrawing, idle, Bool.false_eq_true, if_false]
  split_ifs <;> simp [binds, BindView.reset, context, gxmContextAfter_append, GxmContext.apply]

theorem runBatch_binds {cmds run : List SDLRenderCommand} (mem : run ∈ batchRuns cmds)
    (sound : s.binds.Sound)
    (live : ∀ c ∈ cmds, ∀ t ∈ c.draw.texture, s.binds.live t = true) :
    (runBatch s run).binds.Sound ∧ (runBatch s run).binds.live = s.binds.live := by
  match run with
  | [] => exact ⟨sound, rfl⟩
  | cmd :: merged =>
    by_cases batched : isBatched cmd
    · rw [runBatch, if_pos batched,
        drawBatch_binds sound _ _ (live cmd (mem_of_mem_batchRuns mem (List.mem_cons_self _ _)))]
      exact ⟨sound.setDrawState cmd, BindView.setDrawState_live _ _⟩
    · rw [runBatch, if_neg batched, runCommand_binds]
      split_ifs
      · exact ⟨sound.clear, rfl⟩
      · exact ⟨sound, rfl⟩

theorem bindsRequired_of_setDrawState (sound : s.binds.Sound) (cmd : SDLRenderCommand)
    (live : ∀ t ∈ cmd.draw.texture, s.binds.live t = true) (mode : PolygonMode) :
    BindsRequired cmd { (setDrawState s cmd).context with polygonMode := mode } := by
  have bound := BindView.setDrawState_bound s.binds cmd
  rw [← setDrawState_binds sound cmd live] at bound
  exact bound

end Loop

/-! ## Every merged draw binds what its run needs -/

/-- At each merged draw the context has bound the programs and the texture the run's
first command needs, frame after frame. -/
theorem vitaGxmRunCommandQueue_binds_required (s : VitaRenderData) (cmds : List SDLRenderCommand)
    (idle : s.drawing = false) (programs : ProgramsMatchBlend s)
    (live : ∀ c ∈ cmds, ∀ t ∈ c.draw.texture, (s.textures t).isSome) :
    (∃ calls, (vitaGxmRunCommandQueue s cmds).trace = s.trace ++ calls ∧
      List.Forall₂
        (fun run draw =>
          runDraw run = some draw.1 ∧ ∀ cmd ∈ run.head?, BindsRequired cmd draw.2)
        ((batchRuns cmds).filter fun run => (runDraw run).isSome)
        (poolDraws (gxmDrawsFrom s.context calls))) ∧
    (vitaGxmRunCommandQueue s cmds).drawing = false ∧
      ProgramsMatchBlend (vitaGxmRunCommandQueue s cmds) := by
  have begun := beginQueue_binds idle
  obtain ⟨⟨sound, -⟩, loopCalls, loopTrace, draws⟩ :=
    foldl_runBatch_poolDraws
      (fun s => s.binds.Sound ∧ ∀ c ∈ cmds, ∀ t ∈ c.draw.texture, s.binds.live t = true)
      (fun run ctx => ∀ cmd ∈ run.head?, BindsRequired cmd ctx) (batchRuns cmds)
      (fun s run mem ⟨sound, live⟩ => by
        obtain ⟨sound', live'⟩ := runBatch_binds mem sound live
        refine ⟨⟨sound', live' ▸ live⟩, fun cmd merged mode run _ c head => ?_⟩
        obtain rfl : cmd = c := by simpa [run] using head
        exact bindsRequired_of_setDrawState sound cmd
          (live cmd (mem_of_mem_batchRuns mem (run ▸ List.mem_cons_self _ _))) mode)
      (beginQueue s) ⟨begun ▸ BindView.reset_sound programs.1 programs.2, begun ▸ live⟩
  obtain ⟨calls, trace, drawsEq⟩ := vitaGxmRunCommandQueue_poolDraws s cmds loopTrace
  refine ⟨⟨calls, trace, drawsEq ▸ draws⟩, rfl, ?_⟩
  show ProgramsMatchBlend (runQueue cmds.length (beginQueue s) cmds)
  rw [runQueue_eq_foldl _ _ _ le_rfl]
  exact ⟨sound.color, sound.textured⟩

/-- An untextured triangle at `first`. -/
def colorTriangle (first : Nat) : SDLRenderCommand :=
  { command := .geometry, draw := { first, count := 3, blend := .blend } }

/-- A textured triangle, then an untextured one: each draw binds what it needs. -/
theorem vitaGxmRunCommandQueue_binds_required_two_triangles :
    (∃ calls, (vitaGxmRunCommandQueue oneTextureRenderData
        [texturedTriangle 0x100 .linear, colorTriangle (0x100 + 3 * 32)]).trace =
          oneTextureRenderData.trace ++ calls ∧
      List.Forall₂
        (fun run draw =>
          runDraw run = some draw.1 ∧ ∀ cmd ∈ run.head?, BindsRequired cmd draw.2)
        ((batchRuns [texturedTriangle 0x100 .linear, colorTriangle (0x100 + 3 * 32)]).filter
          fun run => (runDraw run).isSome)
        (poolDraws (gxmDrawsFrom oneTextureRenderData.context calls))) ∧
    (vitaGxmRunCommandQueue oneTextureRenderData
        [texturedTriangle 0x100 .linear, colorTriangle (0x100 + 3 * 32)]).drawing = false ∧
    ProgramsMatchBlend (vitaGxmRunCommandQueue oneTextureRenderData
        [texturedTriangle 0x100 .linear, colorTriangle (0x100 + 3 * 32)]) :=
  vitaGxmRunCommandQueue_binds_required _ _ rfl ⟨rfl, rfl⟩ (by decide)

/-- The caches let `SetDrawState` skip a needed texture bind after a `CLEAR`, and
repeat a bind after an untextured draw. -/
theorem setDrawState_stale_words_and_repeated_bind :
    (gxmDraws (vitaGxmRunCommandQueue oneTextureRenderData
        [texturedTriangle 0x100 .nearest, { command := .clear },
          texturedTriangle (0x100 + 3 * 32) .linear]).trace).getLast?.map
        (fun draw => draw.2.2.fragmentTexture) =
      some (some (1, ⟨.point, .point, .clamp, .clamp⟩)) ∧
    filterWords .linear ⟨.point, .point, .clamp, .clamp⟩ =
      ⟨.linear, .linear, .clamp, .clamp⟩ ∧
    (vitaGxmRunCommandQueue oneTextureRenderData
        [texturedTriangle 0x100 .linear, colorTriangle (0x100 + 3 * 32),
          texturedTriangle (0x100 + 3 * 32 + 3 * 24) .linear]).trace.filter
        (fun call => call matches .setFragmentTexture _ _) =
      [.setFragmentTexture 1 ⟨.linear, .linear, .clamp, .clamp⟩,
        .setFragmentTexture 1 ⟨.linear, .linear, .clamp, .clamp⟩] := by
  decide

/-! ## The deferred viewport and clip -/

/-- A disabled `SETCLIPRECT` still replaces the viewport's clip. -/
theorem disabled_cliprect_replaces_viewport_clip :
    (gxmDraws (vitaGxmRunCommandQueue (createdRenderData 960 544)
        [{ command := .setViewport, viewport := ⟨10, 10, 100, 100⟩ },
          { command := .setClipRect, cliprectEnabled := false, cliprect := ⟨0, 0, 0, 0⟩ },
          colorTriangle 0x100]).trace).map (fun draw => (draw.2.2.viewport, draw.2.2.clip)) =
      [(some ⟨10, 10, 100, 100⟩, some (.set 0 0 0 0))] ∧
    (gxmDraws (vitaGxmRunCommandQueue (createdRenderData 960 544)
        [{ command := .setViewport, viewport := ⟨10, 10, 100, 100⟩ },
          colorTriangle 0x100]).trace).map (fun draw => (draw.2.2.viewport, draw.2.2.clip)) =
      [(some ⟨10, 10, 100, 100⟩, some (.set 0 0 100 100))] := by
  decide

/-- `ClampCliprectToViewport` grows a clip that passes the viewport's right edge. -/
theorem cliprect_clamp_grows_past_viewport :
    (gxmDraws (vitaGxmRunCommandQueue (createdRenderData 960 544)
        [{ command := .setViewport, viewport := ⟨0, 0, 100, 100⟩ },
          { command := .setClipRect, cliprectEnabled := true, cliprect := ⟨0, 0, 200, 100⟩ },
          colorTriangle 0x100,
          { command := .setClipRect, cliprectEnabled := true, cliprect := ⟨-10, 0, 5, 5⟩ },
          colorTriangle 0x100]).trace).map (fun draw => draw.2.2.clip) =
      [some (.set 0 0 300 100), some (.set 0 0 (-5) 5)] := by
  decide

end SdlRender.Vita
