import SdlRender.Psp.Texture

/-!
# The GE calls of the PSP backend

Every `sceGu*` call the backend makes is recorded, in order, in the renderer's trace, with
the CPU accesses to texture storage; `geWork` interprets the trace as the GE's registers and
the storage of the work it has not finished. Addresses passed through `vrelptr` are
recorded as absolute.
-/

namespace SdlRender.Psp

/-- `GU_*` capabilities passed to `sceGuEnable` and `sceGuDisable`. -/
inductive GuCap where
  | alphaTest
  | depthTest
  | scissorTest
  | stencilTest
  | blend
  | cullFace
  | texture2D
  deriving DecidableEq, Repr

/-- `GU_TFX_*`. -/
inductive GuTfx where
  | replace
  | modulate
  deriving DecidableEq, Repr

/-- The blend factors `PSP_SetBlendState` passes to `sceGuBlendFunc`. -/
inductive GuBlendFactor where
  | srcColor
  | srcAlpha
  | oneMinusSrcAlpha
  | dstColor
  | fix
  deriving DecidableEq, Repr

/-- The arguments of `sceGuBlendFunc(GU_ADD, src, dest, srcfix, destfix)`. -/
structure GuBlendFunc where
  src : GuBlendFactor
  dest : GuBlendFactor
  srcfix : Nat
  destfix : Nat
  deriving DecidableEq, Repr

inductive GuFilter where
  | nearest
  | linear
  deriving DecidableEq, Repr

inductive GuWrap where
  | clamp
  | repeat
  deriving DecidableEq, Repr

inductive GuShade where
  | flat
  | smooth
  deriving DecidableEq, Repr

inductive GuPrim where
  | points
  | lineStrip
  | sprites
  | triangles
  | triangleFan
  deriving DecidableEq, Repr

/-- The `sceGu*` calls of the backend. -/
inductive GuCall where
  | init
  | start
  | drawBuffer (psm : GuPsm) (address width : Nat)
  | dispBuffer (width height address bufferWidth : Nat)
  | display (enable : Bool)
  | drawBufferList (psm : GuPsm) (address width : Nat)
  | enable (cap : GuCap)
  | disable (cap : GuCap)
  | stencilOp
  | stencilFunc
  | alphaFunc
  | texMode (psm : GuPsm) (swizzle : Bool)
  | texImage (width height bufferWidth address : Nat)
  | texFilter (min mag : GuFilter)
  | texWrap (u v : GuWrap)
  | texFunc (tfx : GuTfx)
  | blendFunc (func : GuBlendFunc)
  | color (color : Nat)
  | shadeModel (mode : GuShade)
  | offset (x y : Int)
  | viewport (cx cy width height : Int)
  | scissor (x y width height : Int)
  | clearColor (color : Nat)
  | clearStencil (stencil : Nat)
  | clear
  | drawArray (prim : GuPrim) (textured : Bool) (count vertices : Nat)
  | finish
  | sync
  | swapBuffers
  deriving DecidableEq, Repr

/-- What the backend does: a GE call, or a CPU access to texture storage. -/
inductive PspEvent where
  | gu (call : GuCall)
  | cpuRead (storage : Nat)
  | cpuWrite (storage : Nat)
  | cpuFree (storage : Nat)
  deriving DecidableEq, Repr

/-- The GE registers the backend's calls set; `none` is a register no call has set yet. -/
structure GEState where
  drawBuffer : Option (GuPsm × Nat × Nat) := none
  enabled : GuCap → Option Bool := fun _ => none
  texMode : Option (GuPsm × Bool) := none
  texImage : Option Nat := none
  texFunc : Option GuTfx := none
  blendFunc : Option GuBlendFunc := none
  color : Option Nat := none
  shadeModel : Option GuShade := none
  texFilter : Option GuFilter := none
  texWrap : Option (GuWrap × GuWrap) := none

/-- The register a call sets. -/
def GEState.apply (g : GEState) : GuCall → GEState
  | .drawBufferList psm address width => { g with drawBuffer := some (psm, address, width) }
  | .drawBuffer psm address width => { g with drawBuffer := some (psm, address, width) }
  | .enable cap => { g with enabled := Function.update g.enabled cap (some true) }
  | .disable cap => { g with enabled := Function.update g.enabled cap (some false) }
  | .texMode psm swizzle => { g with texMode := some (psm, swizzle) }
  | .texImage _ _ _ address => { g with texImage := some address }
  | .texFilter filter _ => { g with texFilter := some filter }
  | .texWrap u v => { g with texWrap := some (u, v) }
  | .texFunc tfx => { g with texFunc := some tfx }
  | .blendFunc func => { g with blendFunc := some func }
  | .color color => { g with color := some color }
  | .shadeModel mode => { g with shadeModel := some mode }
  | _ => g

/-- The storage a call hands the GE, given the registers before it. -/
def referencedStorage (g : GEState) : GuCall → List Nat
  | .drawBufferList _ address _ => [address]
  | .drawBuffer _ address _ => [address]
  | .texImage _ _ _ address => [address]
  | .drawArray _ _ _ _ =>
      (g.drawBuffer.map fun buffer => buffer.2.1).toList ++
        (if g.enabled .texture2D = some true then g.texImage.toList else [])
  | _ => []

/-- The GE registers and the storage of the work handed to it since the last `sceGuSync`. -/
structure GEWork where
  registers : GEState := {}
  pending : List Nat := []

def GEWork.step (w : GEWork) : PspEvent → GEWork
  | .gu .sync => { w with pending := [] }
  | .gu call =>
      { registers := w.registers.apply call
        pending := referencedStorage w.registers call ++ w.pending }
  | _ => w

/-- The GE after a trace of events. -/
def geWork (trace : List PspEvent) : GEWork :=
  trace.foldl GEWork.step {}

/-- The GE calls of a trace, in order. -/
def guCalls (trace : List PspEvent) : List GuCall :=
  trace.filterMap fun
    | .gu call => some call
    | _ => none

/-- The draw buffer the GE renders into after a trace. -/
def lastDrawBuffer (trace : List PspEvent) : Option Nat :=
  (geWork trace).registers.drawBuffer.map fun buffer => buffer.2.1

/-- Each `sceGuDrawArray` of a trace with the registers the GE holds when it draws. -/
def drawRegisters (trace : List PspEvent) : List (GuCall × GEState) :=
  (trace.foldl (fun (acc : GEState × List (GuCall × GEState)) event =>
    match event with
    | .gu call =>
        (acc.1.apply call, match call with
          | .drawArray .. => acc.2 ++ [(call, acc.1)]
          | _ => acc.2)
    | _ => acc) ({}, [])).2

/-- The storage a CPU event touches. -/
def cpuStorage : PspEvent → Option Nat
  | .cpuRead storage => some storage
  | .cpuWrite storage => some storage
  | .cpuFree storage => some storage
  | .gu _ => none

/-- The CPU events of a trace that touch storage the GE still has pending work on. -/
def pendingAccesses (trace : List PspEvent) : List PspEvent :=
  (trace.foldl (fun (acc : GEWork × List PspEvent) event =>
    (acc.1.step event, match cpuStorage event with
      | some storage => if storage ∈ acc.1.pending then acc.2 ++ [event] else acc.2
      | none => acc.2)) ({}, [])).2

end SdlRender.Psp
