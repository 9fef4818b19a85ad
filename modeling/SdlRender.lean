import SdlRender.Sysrender
import SdlRender.Psp.Texture
import SdlRender.Psp.Swizzle
import SdlRender.Psp.HotList
import SdlRender.Psp.Ge
import SdlRender.Psp.Residency
import SdlRender.Psp.ResidencyView
import SdlRender.Psp.ResidencyInvariant
import SdlRender.Psp.Queue
import SdlRender.Psp.Image
import SdlRender.Vita.Gxm
import SdlRender.Vita.DrawState
import SdlRender.Vita.Queue
import SdlRender.Vita.Batch
import SdlRender.Vita.Cache
import SdlRender.Vita.TextureUpdate
import SdlRender.Vita.Pool
import SdlRender.Vita.ReadPixels
import SdlRender.Egl.Extension
import SdlRender.Egl.Config
import SdlRender.Psp.SpillLoop
import SdlRender.Egl.Attribs
import SdlRender.Egl.Load
import SdlRender.Egl.Offscreen
import SdlRender.Egl.Session
import SdlRender.Vita.Present
import SdlRender.Psp.Vblank
import SdlRender.Winrt.Displays
import SdlRender.Winrt.Window
import SdlRender.Winrt.Orientation
import SdlRender.Winrt.Device
import SdlRender.X11.Video
