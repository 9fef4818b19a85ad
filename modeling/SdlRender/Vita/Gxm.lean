import SdlRender.Sysrender

/-!
# The GXM context of the Vita backend

Every call the backend makes on its `SceGxmContext` is recorded, in order, as a `GxmCall`;
`GxmContext.apply` interprets the trace. Programs are named by which of the renderer's
programs they are, and the viewport by its rectangle. `set_clip_rectangle` and
`unset_clip_rectangle` are not under src/ and are recorded as calls.
-/

namespace SdlRender.Vita

/-- The entries of `blend_fragment_programs`. -/
inductive BlendPrograms where
  | none
  | blend
  | add
  | mod
  | mul
  deriving DecidableEq, Repr

inductive VertexProgram where
  | clear
  | color
  | texture
  deriving DecidableEq, Repr

inductive FragmentProgram where
  | clear
  | color (programs : BlendPrograms)
  | texture (programs : BlendPrograms)
  deriving DecidableEq, Repr

/-- `SCE_GXM_TEXTURE_FILTER_*`. -/
inductive GxmFilter where
  | point
  | linear
  deriving DecidableEq, Repr

/-- `SCE_GXM_TEXTURE_ADDR_*`. -/
inductive GxmAddrMode where
  | clamp
  | repeat
  deriving DecidableEq, Repr

/-- The control words of a `SceGxmTexture` that the backend changes. -/
structure TextureWords where
  minFilter : GxmFilter
  magFilter : GxmFilter
  addressU : GxmAddrMode
  addressV : GxmAddrMode
  deriving DecidableEq, Repr

/-- `SCE_GXM_PRIMITIVE_*`. -/
inductive GxmPrimitive where
  | triangles
  | points
  | lines
  deriving DecidableEq, Repr

/-- `SCE_GXM_POLYGON_MODE_*`. -/
inductive PolygonMode where
  | triangleFill
  | point
  | line
  deriving DecidableEq, Repr

/-- The vertices a draw reads: the clear triangle, or a frame's vertex pool. -/
inductive VertexStream where
  | clearVertices
  | pool (address : Nat)
  deriving DecidableEq, Repr

/-- `colorWvpParam` or `textureWvpParam`. -/
inductive WvpParam where
  | color
  | texture
  deriving DecidableEq, Repr

/-- `data->ortho_matrix`: the size it was last built for, `none` for the zero matrix. -/
abbrev OrthoMatrix := Option (Int × Int)

/-- The calls the backend makes on its `SceGxmContext`. -/
inductive GxmCall where
  | beginScene (target : Option TexId)
  | endScene
  | setVertexProgram (program : VertexProgram)
  | setFragmentProgram (program : FragmentProgram)
  | setViewport (viewport : SDLRect)
  | setWvp (param : WvpParam) (matrix : OrthoMatrix)
  | setClipRectangle (x0 y0 x1 y1 : Int)
  | unsetClipRectangle
  | setFragmentTexture (texture : TexId) (words : TextureWords)
  | setClearColor (color : Nat)
  | setVertexStream (stream : VertexStream)
  | setFrontPolygonMode (mode : PolygonMode)
  | draw (primitive : GxmPrimitive) (count : Nat)
  deriving DecidableEq, Repr

/-- The clip a draw is subject to. -/
inductive ClipState where
  | set (x0 y0 x1 y1 : Int)
  | unset
  deriving DecidableEq, Repr

/-- What the context holds; `none` is a setting no call has made yet. -/
structure GxmContext where
  vertexProgram : Option VertexProgram := none
  fragmentProgram : Option FragmentProgram := none
  fragmentTexture : Option (TexId × TextureWords) := none
  vertexStream : Option VertexStream := none
  viewport : Option SDLRect := none
  wvp : Option (WvpParam × OrthoMatrix) := none
  clip : Option ClipState := none
  polygonMode : PolygonMode := .triangleFill
  deriving DecidableEq, Repr

/-- The setting a call makes. -/
def GxmContext.apply (g : GxmContext) : GxmCall → GxmContext
  | .setVertexProgram program => { g with vertexProgram := some program }
  | .setFragmentProgram program => { g with fragmentProgram := some program }
  | .setViewport viewport => { g with viewport := some viewport }
  | .setWvp param matrix => { g with wvp := some (param, matrix) }
  | .setClipRectangle x0 y0 x1 y1 => { g with clip := some (.set x0 y0 x1 y1) }
  | .unsetClipRectangle => { g with clip := some .unset }
  | .setFragmentTexture texture words => { g with fragmentTexture := some (texture, words) }
  | .setVertexStream stream => { g with vertexStream := some stream }
  | .setFrontPolygonMode mode => { g with polygonMode := mode }
  | _ => g

/-- The draw a call makes in a context: a `sceGxmDraw` draws with the context as it is. -/
def GxmCall.drawIn (g : GxmContext) : GxmCall → List (GxmPrimitive × Nat × GxmContext)
  | .draw primitive count => [(primitive, count, g)]
  | _ => []

/-- Each `sceGxmDraw` of a trace from a context, with the context it draws with. -/
def gxmDrawsFrom : GxmContext → List GxmCall → List (GxmPrimitive × Nat × GxmContext)
  | _, [] => []
  | g, call :: rest => call.drawIn g ++ gxmDrawsFrom (g.apply call) rest

def gxmDraws (trace : List GxmCall) : List (GxmPrimitive × Nat × GxmContext) :=
  gxmDrawsFrom {} trace

/-- The context after a trace. -/
def gxmContextAfter (g : GxmContext) (trace : List GxmCall) : GxmContext :=
  trace.foldl GxmContext.apply g

@[simp] theorem gxmDrawsFrom_nil (g : GxmContext) : gxmDrawsFrom g [] = [] := rfl

@[simp] theorem gxmDrawsFrom_cons (g : GxmContext) (call : GxmCall) (rest : List GxmCall) :
    gxmDrawsFrom g (call :: rest) = call.drawIn g ++ gxmDrawsFrom (g.apply call) rest := rfl

@[simp] theorem gxmContextAfter_nil (g : GxmContext) : gxmContextAfter g [] = g := rfl

@[simp] theorem gxmContextAfter_cons (g : GxmContext) (call : GxmCall) (rest : List GxmCall) :
    gxmContextAfter g (call :: rest) = gxmContextAfter (g.apply call) rest := rfl

theorem gxmDrawsFrom_append (g : GxmContext) (first second : List GxmCall) :
    gxmDrawsFrom g (first ++ second) =
      gxmDrawsFrom g first ++ gxmDrawsFrom (gxmContextAfter g first) second := by
  induction first generalizing g with
  | nil => rfl
  | cons call rest ih => simp [ih]

theorem gxmContextAfter_append (g : GxmContext) (first second : List GxmCall) :
    gxmContextAfter g (first ++ second) = gxmContextAfter (gxmContextAfter g first) second :=
  List.foldl_append _ _ _ _

def GxmCall.isDraw : GxmCall → Bool
  | .draw _ _ => true
  | _ => false

theorem GxmCall.drawIn_of_not_isDraw {call : GxmCall} (notDraw : call.isDraw = false)
    (g : GxmContext) : call.drawIn g = [] := by
  cases call <;> first | rfl | cases notDraw

theorem gxmDrawsFrom_of_not_isDraw {calls : List GxmCall}
    (noDraw : ∀ call ∈ calls, call.isDraw = false) (g : GxmContext) :
    gxmDrawsFrom g calls = [] := by
  induction calls generalizing g with
  | nil => rfl
  | cons call rest ih =>
    simp only [List.mem_cons, forall_eq_or_imp] at noDraw
    rw [gxmDrawsFrom_cons, ih noDraw.2, GxmCall.drawIn_of_not_isDraw noDraw.1, List.append_nil]

/-! ## The renderer state -/

/-- `VITA_GXM_TextureData`, with the control words of its `gxm_texture`. -/
structure VitaTexture where
  w : Int
  h : Int
  words : TextureWords
  scaleMode : SDLScaleMode
  addressModeU : SDLTextureAddressMode
  addressModeV : SDLTextureAddressMode
  deriving DecidableEq, Repr

/-- `gxm_drawstate_cache`, without `color` and `last_command`. -/
structure DrawStateCache where
  viewport : SDLRect
  viewportDirty : Bool
  viewportIsSet : Bool
  texture : Option TexId
  target : Option TexId
  fragmentProgram : Option FragmentProgram
  vertexProgram : Option VertexProgram
  cliprectEnabledDirty : Bool
  cliprectEnabled : Bool
  cliprectDirty : Bool
  cliprect : SDLRect
  drawablew : Int
  drawableh : Int
  deriving DecidableEq, Repr

/-- `VITA_GXM_RenderData`, with the renderer state around it that the backend reads. -/
structure VitaRenderData where
  drawing : Bool
  currentBlendMode : SDLBlendMode
  colorFragmentProgram : FragmentProgram
  textureFragmentProgram : FragmentProgram
  orthoMatrix : OrthoMatrix
  drawstate : DrawStateCache
  textures : TexId → Option VitaTexture
  target : Option TexId
  windoww : Int
  windowh : Int
  trace : List GxmCall

namespace VitaRenderData

def gxm (s : VitaRenderData) (call : GxmCall) : VitaRenderData :=
  { s with trace := s.trace ++ [call] }

/-- What the context holds after every call the backend has made. -/
def context (s : VitaRenderData) : GxmContext :=
  gxmContextAfter {} s.trace

@[simp] theorem gxm_trace (s : VitaRenderData) (call : GxmCall) :
    (s.gxm call).trace = s.trace ++ [call] := rfl

@[simp] theorem gxm_drawstate (s : VitaRenderData) (call : GxmCall) :
    (s.gxm call).drawstate = s.drawstate := rfl

@[simp] theorem gxm_textures (s : VitaRenderData) (call : GxmCall) :
    (s.gxm call).textures = s.textures := rfl

@[simp] theorem gxm_currentBlendMode (s : VitaRenderData) (call : GxmCall) :
    (s.gxm call).currentBlendMode = s.currentBlendMode := rfl

@[simp] theorem gxm_colorFragmentProgram (s : VitaRenderData) (call : GxmCall) :
    (s.gxm call).colorFragmentProgram = s.colorFragmentProgram := rfl

@[simp] theorem gxm_textureFragmentProgram (s : VitaRenderData) (call : GxmCall) :
    (s.gxm call).textureFragmentProgram = s.textureFragmentProgram := rfl

@[simp] theorem gxm_context (s : VitaRenderData) (call : GxmCall) :
    (s.gxm call).context = s.context.apply call :=
  gxmContextAfter_append _ _ _

theorem context_eq_of_trace {s s' : VitaRenderData} {calls : List GxmCall}
    (extends_ : s'.trace = s.trace ++ calls) : s'.context = gxmContextAfter s.context calls := by
  simp only [context, extends_, gxmContextAfter_append]

end VitaRenderData

end SdlRender.Vita
