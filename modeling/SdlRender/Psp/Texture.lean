import SdlRender.Sysrender

/-!
# PSP texture records

`PSP_TextureData`, the format tables, and the record `PSP_CreateTexture` fills in. Addresses
are natural numbers and sizes are computed in `Nat`: no texture of this backend comes near
the 32-bit limits of the C fields.
-/

namespace SdlRender.Psp

/-- `GU_PSM_*`, the pixel storage modes of the GE. -/
inductive GuPsm where
  | psm5650
  | psm5551
  | psm4444
  | psm8888
  deriving DecidableEq, Repr

/-- `PixelFormatToPSPFMT`; any other format falls to `GU_PSM_8888`. -/
def pixelFormatToPSPFMT : SDLPixelFormat → GuPsm
  | .bgr565 => .psm5650
  | .abgr1555 => .psm5551
  | .abgr4444 => .psm4444
  | .abgr8888 => .psm8888
  | _ => .psm8888

/-- The `switch` of `PSP_CreateTexture` that sets `bits` from the storage mode. -/
def psmBits : GuPsm → Nat
  | .psm5650 | .psm5551 | .psm4444 => 16
  | .psm8888 => 32

/-- The formats `PSP_CreateRenderer` registers. -/
def pspSupportedFormat : SDLPixelFormat → Bool
  | .bgr565 | .abgr1555 | .abgr4444 | .abgr8888 => true
  | _ => false

/-- `InVram`: the PSP maps its 2 MiB of VRAM below `0x04200000`. -/
def InVram (data : Nat) : Prop :=
  data < 0x04200000

instance (data : Nat) : Decidable (InVram data) :=
  inferInstanceAs (Decidable (data < 0x04200000))

/-- `while (w > n) n <<= 1`, with fuel. -/
def nextPow2Loop (w : Nat) : Nat → Nat → Nat
  | 0, n => n
  | fuel + 1, n => if w > n then nextPow2Loop w fuel (n * 2) else n

/-- `TextureNextPow2`. -/
def textureNextPow2 (w : Nat) : Nat :=
  if w = 0 then 0 else nextPow2Loop w w 2

/-- `PSP_TextureData` without its hot-list links. -/
structure PSPTextureData where
  data : Nat
  size : Nat
  width : Nat
  height : Nat
  textureWidth : Nat
  textureHeight : Nat
  bits : Nat
  format : GuPsm
  pitch : Nat
  swizzled : Bool
  deriving DecidableEq, Repr

namespace PSPTextureData

def bytewidth (t : PSPTextureData) : Nat :=
  t.textureWidth * (t.bits / 8)

end PSPTextureData

/-- The record `PSP_CreateTexture` fills in before it allocates storage. -/
def pspTextureRecord (texture : SDLTexture) : PSPTextureData :=
  let textureWidth := textureNextPow2 texture.w
  let textureHeight := textureNextPow2 texture.h
  let format := pixelFormatToPSPFMT texture.format
  let pitch := textureWidth * sdlBytesPerPixel texture.format
  { data := 0
    size := textureHeight * pitch
    width := texture.w
    height := texture.h
    textureWidth := textureWidth
    textureHeight := textureHeight
    bits := psmBits format
    format := format
    pitch := pitch
    swizzled := false }

end SdlRender.Psp
