import Mathlib.Data.List.Basic

/-!
# The render-command interface shared by the backends

The part of `SDL_sysrender.h` the PSP and Vita GXM backends read: the core queues
`SDL_RenderCommand`s and hands the list to the backend's `RunCommandQueue`.

* A texture is named by a `TexId`; `none` is `NULL`. Colours are the packed values the
  backends compute, and the union `cmd->data` is one field per member.
-/

namespace SdlRender

/-- An `SDL_Texture *`. -/
abbrev TexId := Nat

inductive SDLTextureAccess where
  | static
  | streaming
  | target
  deriving DecidableEq, Repr

/-- The pixel formats the two backends name. -/
inductive SDLPixelFormat where
  | bgr565
  | abgr1555
  | abgr4444
  | abgr8888
  | argb8888
  | xrgb8888
  | xbgr8888
  | rgb565
  | yv12
  | iyuv
  | nv12
  | nv21
  deriving DecidableEq, Repr

/-- `SDL_BYTESPERPIXEL`: the packed formats give their pixel size, the planar YUV formats 1. -/
def sdlBytesPerPixel : SDLPixelFormat → Nat
  | .bgr565 | .abgr1555 | .abgr4444 | .rgb565 => 2
  | .abgr8888 | .argb8888 | .xrgb8888 | .xbgr8888 => 4
  | .yv12 | .iyuv | .nv12 | .nv21 => 1

inductive SDLBlendMode where
  | none
  | blend
  | blendPremultiplied
  | add
  | addPremultiplied
  | mod
  | mul
  | invalid
  deriving DecidableEq, Repr

inductive SDLScaleMode where
  | invalid
  | nearest
  | linear
  | pixelart
  deriving DecidableEq, Repr

inductive SDLTextureAddressMode where
  | invalid
  | auto
  | clamp
  | wrap
  deriving DecidableEq, Repr

structure SDLRect where
  x : Int
  y : Int
  w : Int
  h : Int
  deriving DecidableEq, Repr, Inhabited

inductive SDLRenderCommandType where
  | noOp
  | setViewport
  | setClipRect
  | setDrawColor
  | clear
  | fillRects
  | copy
  | copyEx
  | drawPoints
  | drawLines
  | geometry
  deriving DecidableEq, Repr, Inhabited

/-- `cmd->data.draw`. -/
structure DrawData where
  first : Nat := 0
  count : Nat := 0
  blend : SDLBlendMode := .none
  texture : Option TexId := none
  textureScaleMode : SDLScaleMode := .invalid
  textureAddressModeU : SDLTextureAddressMode := .invalid
  textureAddressModeV : SDLTextureAddressMode := .invalid
  deriving DecidableEq, Repr

/-- One queued `SDL_RenderCommand`, its union flattened. -/
structure SDLRenderCommand where
  command : SDLRenderCommandType
  viewport : SDLRect := default
  cliprectEnabled : Bool := false
  cliprect : SDLRect := default
  color : Nat := 0
  draw : DrawData := {}
  deriving DecidableEq, Repr

/-- The fields of an `SDL_Texture` that the backends read, besides `internal`. -/
structure SDLTexture where
  format : SDLPixelFormat
  access : SDLTextureAccess
  w : Nat
  h : Nat
  deriving DecidableEq, Repr

end SdlRender
