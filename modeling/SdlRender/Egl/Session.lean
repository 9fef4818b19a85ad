import SdlRender.Egl.Offscreen
import SdlRender.Egl.Attribs

/-!
# An EGL session

After loading, a video driver creates contexts and surfaces, binds them, sets the swap
interval, swaps, destroys contexts and unloads the library, in any order, on one thread.
`EGLSession` is the loader's device with what those calls add; `EGLCallEnv` is what the EGL
calls of one SDL call give; `egl_data` read while it is NULL is `none`.
-/

namespace SdlRender.Egl

/-! ## `SDL_EGL_SetErrorEx` -/

/-- The codes `SDL_EGL_GetErrorName` knows, in its order. -/
def eglErrorNames : List (Int × String) :=
  [(0x3000, "EGL_SUCCESS"), (0x3001, "EGL_NOT_INITIALIZED"), (0x3002, "EGL_BAD_ACCESS"),
    (0x3003, "EGL_BAD_ALLOC"), (0x3004, "EGL_BAD_ATTRIBUTE"), (0x3006, "EGL_BAD_CONTEXT"),
    (0x3005, "EGL_BAD_CONFIG"), (0x3007, "EGL_BAD_CURRENT_SURFACE"),
    (0x3008, "EGL_BAD_DISPLAY"), (0x300D, "EGL_BAD_SURFACE"), (0x3009, "EGL_BAD_MATCH"),
    (0x300C, "EGL_BAD_PARAMETER"), (0x300A, "EGL_BAD_NATIVE_PIXMAP"),
    (0x300B, "EGL_BAD_NATIVE_WINDOW"), (0x300E, "EGL_CONTEXT_LOST")]

/-- `SDL_EGL_GetErrorName`: `""` for a code it does not know. -/
def sdlEglGetErrorName (eglErrorCode : Int) : String :=
  (eglErrorNames.lookup eglErrorCode).getD ""

/-- `SDL_snprintf(altErrorText, 32, "0x%x", (unsigned int)eglErrorCode)`. -/
def hexErrorText (eglErrorCode : Int) : String :=
  "0x" ++ String.mk (Nat.toDigits 16 (eglErrorCode % 0x100000000).toNat)

/-- The message `SDL_EGL_SetErrorEx` sets. -/
def sdlEglSetErrorEx (message eglFunctionName : String) (eglErrorCode : Int) : String :=
  let errorText :=
    if sdlEglGetErrorName eglErrorCode = "" then hexErrorText eglErrorCode
    else sdlEglGetErrorName eglErrorCode
  message ++ " (call to " ++ eglFunctionName ++ " failed, reporting an error of " ++ errorText ++
    ")"

/-- `SDL_EGL_ChooseConfig`: the message it sets when it returns false. -/
def sdlEglChooseConfig (eglData strict relaxed : Bool) (eglErrorCode : Int) : Option String :=
  if !eglData then some "EGL not initialized"
  else if strict || relaxed then none
  else some (sdlEglSetErrorEx "Couldn't find matching EGL config" "eglChooseConfig" eglErrorCode)

/-! ## `SDL_EGL_GetProcAddressInternal` -/

/-- `(((Uint32)major) << 16) | ((Uint32)minor)`. -/
def eglVersionWord (major minor : Int) : BitVec 32 :=
  (BitVec.ofInt 32 major <<< 16) ||| BitVec.ofInt 32 minor

/-- `SDL_EGL_GetProcAddressInternal`. -/
def sdlEglGetProcAddressInternal (b : Build) (eglGetProcAddress : String → Option Nat)
    (loadFunction : Option Nat → String → Option Nat) (eglData : Option EGLVideoData)
    (proc : String) : Option Nat :=
  match eglData with
  | none => none
  | some data =>
    let eglver := eglVersionWord data.eglVersionMajor data.eglVersionMinor
    let isEgl15OrLater := eglVersionWord 1 5 ≤ eglver
    let result := if isEgl15OrLater then eglGetProcAddress proc else none
    let result :=
      if result.isNone && !b.vita then loadFunction data.openglDllHandle proc else result
    if result.isNone && !isEgl15OrLater then eglGetProcAddress proc else result

theorem shiftLeft_or_toNat (a low : BitVec 32) (small : low.toNat < 0x10000) :
    (a <<< 16 ||| low).toNat = a.toNat * 0x10000 % 0x100000000 + low.toNat := by
  have apart : a <<< 16 &&& low = 0#32 := by
    ext i
    simp only [BitVec.getLsbD_and, BitVec.getLsbD_shiftLeft, BitVec.getLsbD_zero]
    by_cases high : 16 ≤ i.val
    · have unset : low.getLsbD i = false := by
        rw [BitVec.getLsbD, Nat.testBit_lt_two_pow]
        exact lt_of_lt_of_le small (Nat.pow_le_pow_right (show 2 > 0 by decide) high)
      simp [unset]
    · simp [show i.val < 16 by omega]
  rw [← BitVec.add_eq_or_of_and_eq_zero _ _ apart, BitVec.toNat_add, BitVec.toNat_shiftLeft,
    Nat.shiftLeft_eq]
  omega

theorem ofInt_toNat_of_lt {x : Int} (range : 0 ≤ x ∧ x < 0x10000) :
    (BitVec.ofInt 32 x).toNat = x.toNat := by
  rw [BitVec.toNat_ofInt, Int.emod_eq_of_lt range.1 (by omega)]

theorem eglVersionWord_toNat {major minor : Int} (majorRange : 0 ≤ major ∧ major < 0x10000)
    (minorRange : 0 ≤ minor ∧ minor < 0x10000) :
    (eglVersionWord major minor).toNat = major.toNat * 0x10000 + minor.toNat := by
  have minorWord := ofInt_toNat_of_lt minorRange
  rw [eglVersionWord, shiftLeft_or_toNat _ _ (by omega), ofInt_toNat_of_lt majorRange, minorWord,
    Nat.mod_eq_of_lt (by omega)]

/-- `SDL_EGL_GetProcAddressInternal` tries `eglGetProcAddress` first exactly
from EGL 1.5 on. -/
theorem sdlEglGetProcAddressInternal_order (b : Build) (eglGetProcAddress : String → Option Nat)
    (loadFunction : Option Nat → String → Option Nat) {data : EGLVideoData} (proc : String)
    (majorRange : 0 ≤ data.eglVersionMajor ∧ data.eglVersionMajor < 0x10000)
    (minorRange : 0 ≤ data.eglVersionMinor ∧ data.eglVersionMinor < 0x10000) :
    let library := if b.vita then none else loadFunction data.openglDllHandle proc
    sdlEglGetProcAddressInternal b eglGetProcAddress loadFunction (some data) proc =
      if data.eglVersionMajor > 1 ∨ (data.eglVersionMajor = 1 ∧ data.eglVersionMinor ≥ 5) then
        (eglGetProcAddress proc).orElse fun _ => library
      else library.orElse fun _ => eglGetProcAddress proc := by
  have atLeast : eglVersionWord 1 5 ≤ eglVersionWord data.eglVersionMajor data.eglVersionMinor ↔
      data.eglVersionMajor > 1 ∨ (data.eglVersionMajor = 1 ∧ data.eglVersionMinor ≥ 5) := by
    rw [BitVec.le_def, eglVersionWord_toNat majorRange minorRange,
      eglVersionWord_toNat (by decide) (by decide)]
    omega
  unfold sdlEglGetProcAddressInternal
  simp only [atLeast]
  by_cases later : data.eglVersionMajor > 1 ∨ (data.eglVersionMajor = 1 ∧ data.eglVersionMinor ≥ 5)
  · cases eglGetProcAddress proc <;> cases b.vita <;> simp [later]
  · cases loadFunction data.openglDllHandle proc <;> cases b.vita <;> simp [later]

/-- An `egl_data` of EGL 1.5 with an OpenGL library. -/
def eglOneFiveData : EGLVideoData :=
  { EGLVideoData.zeroed with
    openglDllHandle := some 1
    eglDllHandle := some 2
    eglVersionMajor := 1
    eglVersionMinor := 5 }

theorem sdlEglGetProcAddressInternal_order_one_five :
    (0 ≤ eglOneFiveData.eglVersionMajor ∧ eglOneFiveData.eglVersionMajor < 0x10000) ∧
      (0 ≤ eglOneFiveData.eglVersionMinor ∧ eglOneFiveData.eglVersionMinor < 0x10000) ∧
      sdlEglGetProcAddressInternal desktopBuild (fun _ => some 7) (fun _ _ => some 8)
          (some eglOneFiveData) "eglGetPlatformDisplayEXT" =
        if eglOneFiveData.eglVersionMajor > 1 ∨
            (eglOneFiveData.eglVersionMajor = 1 ∧ eglOneFiveData.eglVersionMinor ≥ 5) then
          (some 7).orElse fun _ => if desktopBuild.vita then none else some 8
        else (if desktopBuild.vita then none else some 8).orElse fun _ => some 7 :=
  ⟨by decide, by decide, sdlEglGetProcAddressInternal_order desktopBuild _ _ _ (by decide)
    (by decide)⟩

/-! ## The session -/

/-- `egl_data->apitype`: zero from `SDL_calloc`, then the API `SDL_EGL_CreateContext` binds. -/
inductive EGLApi where
  | unset
  | openglEs
  | opengl
  deriving DecidableEq, Repr

/-- The fields of `SDL_EGL_VideoData` the context calls use beside the loader's. -/
structure EGLContextData where
  eglSwapinterval : Int
  apitype : EGLApi
  deriving DecidableEq, Repr

/-- What `SDL_calloc` leaves in them. -/
def EGLContextData.zeroed : EGLContextData := ⟨0, .unset⟩

/-- One device and one thread, its current binding and the contexts SDL created. -/
structure EGLSession where
  device : VideoDevice
  contextData : EGLContextData
  minorVersion : Int
  flags : Int
  noError : Int
  glAllowNoSurface : Bool
  current : Nat × Nat
  contexts : Multiset Nat

/-- What the EGL and GL calls of one SDL call give. -/
structure EGLCallEnv where
  hasExtension : String → Bool
  attribsInit : Nat → Int
  contextattribCallback : Option (Option (List Int))
  eglCreateContext : Nat
  eglMakeCurrent : Bool
  eglSwapInterval : Bool
  eglSwapBuffers : Nat → Bool
  eglGetError : Int
  oesSurfacelessContext : Bool
  glMajorVersion : Option Int

/-- What the calls of `SDL_EGL_CreateSurface` and `SDL_EGL_CreateOffscreenSurface` give. -/
structure SurfaceEnv where
  privateChooseConfig : Bool → Bool
  hasExtension : String → Bool
  attribsInit : Nat → Int
  surfaceattribCallback : Option (Option (List Int))
  eglCreateWindowSurface : List Int → Nat
  eglCreatePbufferSurface : Int → Int → Nat
  eglGetError : Int

/-- The references `egl_data` holds. -/
def VideoDevice.held (d : VideoDevice) : Multiset Nat :=
  (d.eglData.map EGLVideoData.handles).getD 0

namespace EGLSession

/-- `SDL_SetError(message)` on the session's device. -/
def setError (s : EGLSession) (message : String) : EGLSession :=
  { s with device := { s.device with error := message } }

def fail (s : EGLSession) (message : String) (clears : Bool) : EGLSession :=
  { s with
    device := { s.device with
      error := message
      driverLoaded := if clears then 0 else s.device.driverLoaded
      driverPath := if clears then "" else s.device.driverPath } }

/-- The `gl_config` `SDL_EGL_CreateContext` reads. -/
def glContextConfig (s : EGLSession) : GLContextConfig :=
  ⟨s.device.profileMask, s.device.majorVersion, s.minorVersion, s.flags, s.noError⟩

/-- No context is current without a surface unless surfaceless contexts work. -/
def BindingSafe (s : EGLSession) : Prop :=
  s.current = (0, 0) ∨ (s.current.2 ≠ 0 ∧ (s.current.1 ≠ 0 ∨ s.glAllowNoSurface = true))

end EGLSession

/-- The context a returned handle stands for: none for `NULL`. -/
def contextRef (context : Nat) : Multiset Nat :=
  if context = 0 then 0 else {context}

section Calls

variable (b : Build) (sdlVideoOpengl : Bool)

/-- `SDL_EGL_MakeCurrent`. -/
def sdlEglMakeCurrent (e : EGLCallEnv) (surface context : Nat) (s : EGLSession) :
    Bool × EGLSession :=
  match s.device.eglData with
  | none => (false, s.setError "EGL not initialized")
  | some _ =>
      if context = 0 ∨ (surface = 0 ∧ s.glAllowNoSurface = false) then
        (true, if e.eglMakeCurrent then { s with current := (0, 0) } else s)
      else if e.eglMakeCurrent then (true, { s with current := (surface, context) })
      else
        (false, s.setError
          (sdlEglSetErrorEx "Unable to make EGL context current" "eglMakeCurrent" e.eglGetError))

/-- `SDL_EGL_DestroyContext`. -/
def sdlEglDestroyContext (context : Nat) (s : EGLSession) : Bool × EGLSession :=
  match s.device.eglData with
  | none => (true, s)
  | some _ => (true, if context ≠ 0 then { s with contexts := s.contexts.erase context } else s)

/-- Whether `SDL_EGL_CreateContext` finds that contexts may be current without a surface. -/
def surfacelessAllowed (e : EGLCallEnv) (data : EGLVideoData) (profileEs : Bool) : Bool :=
  (decide (data.eglVersionMajor > 1) || (data.eglVersionMajor = 1 && data.eglVersionMinor ≥ 5) ||
      e.hasExtension "EGL_KHR_surfaceless_context") &&
    if profileEs then e.oesSurfacelessContext
    else sdlVideoOpengl && !b.vita && e.glMajorVersion.any (3 ≤ ·)

/-- `SDL_EGL_CreateContext` from a context `eglCreateContext` returned. -/
def createdContext (e : EGLCallEnv) (surface : Nat) (data : EGLVideoData) (profileEs : Bool)
    (s : EGLSession) : Nat × EGLSession :=
  let context := e.eglCreateContext
  let s := { s with
    contextData := { s.contextData with eglSwapinterval := 0 }
    contexts := context ::ₘ s.contexts }
  match sdlEglMakeCurrent e surface context s with
  | (false, s) => (0, (sdlEglDestroyContext context s).2)
  | (true, s) =>
      (context, { s with
        glAllowNoSurface :=
          s.glAllowNoSurface || surfacelessAllowed b sdlVideoOpengl e data profileEs })

/-- `SDL_EGL_CreateContext`, the Android debug-flag part apart: the context, `0` for NULL. -/
def sdlEglCreateContext (e : EGLCallEnv) (surface : Nat) (s : EGLSession) :
    Option (Nat × EGLSession) :=
  match s.device.eglData with
  | none => some (0, s.setError "EGL not initialized")
  | some data =>
      let profileEs := s.device.profileMask = sdlGlContextProfileEs
      (sdlEglCreateContextAttribs s.glContextConfig e.hasExtension e.attribsInit
          e.contextattribCallback).map fun r =>
        match r.failure with
        | some (message, clears) => (0, s.fail message clears)
        | none =>
            let s := { s with
              contextData := { s.contextData with
                apitype := if profileEs then .openglEs else .opengl } }
            if e.eglCreateContext = 0 then
              (0, s.setError
                (sdlEglSetErrorEx "Could not create EGL context" "eglCreateContext" e.eglGetError))
            else createdContext b sdlVideoOpengl e surface data profileEs s

/-- `SDL_EGL_SetSwapInterval`. -/
def sdlEglSetSwapInterval (e : EGLCallEnv) (interval : Int) (s : EGLSession) :
    Bool × EGLSession :=
  match s.device.eglData with
  | none => (false, s.setError "EGL not initialized")
  | some _ =>
      if interval < 0 then (false, s.setError "Late swap tearing currently unsupported")
      else if e.eglSwapInterval then
        (true, { s with contextData := { s.contextData with eglSwapinterval := interval } })
      else
        (false, s.setError
          (sdlEglSetErrorEx "Unable to set the EGL swap interval" "eglSwapInterval" e.eglGetError))

/-- `SDL_EGL_GetSwapInterval`: the interval it writes, `none` when it returns false. -/
def sdlEglGetSwapInterval (s : EGLSession) : Option Int × EGLSession :=
  match s.device.eglData with
  | none => (none, s.setError "EGL not initialized")
  | some _ => (some s.contextData.eglSwapinterval, s)

/-- `SDL_EGL_SwapBuffers`, which reads `egl_data` without checking it. -/
def sdlEglSwapBuffers (e : EGLCallEnv) (surface : Nat) (s : EGLSession) :
    Option (Bool × EGLSession) :=
  s.device.eglData.map fun _ =>
    if e.eglSwapBuffers surface then (true, s)
    else
      (false, s.setError (sdlEglSetErrorEx "unable to show color buffer in an OS-native window"
        "eglSwapBuffers" e.eglGetError))

/-- `SDL_EGL_ChooseConfig` on the session: the message it sets, `none` when it finds a config. -/
def chooseConfigError (e : SurfaceEnv) (s : EGLSession) : Option String :=
  sdlEglChooseConfig s.device.eglData.isSome (e.privateChooseConfig true)
    (e.privateChooseConfig false) e.eglGetError

/-- `SDL_EGL_CreateSurface`, the Android part apart. -/
def sdlEglCreateSurface (e : SurfaceEnv) (framebufferSrgbCapable transparent : Bool)
    (s : EGLSession) : Option (Nat × EGLSession) :=
  match chooseConfigError e s with
  | some message => some (0, s.setError message)
  | none =>
    (sdlEglCreateSurfaceAttribs framebufferSrgbCapable transparent e.hasExtension e.attribsInit
        e.surfaceattribCallback).map fun r =>
      match r.failure with
      | some (message, clears) => (0, s.fail message clears)
      | none =>
        let surface := e.eglCreateWindowSurface r.fill.words
        if surface = 0 then
          (0, s.setError (sdlEglSetErrorEx "unable to create an EGL window surface"
            "eglCreateWindowSurface" e.eglGetError))
        else (surface, s)

/-- `SDL_EGL_CreateOffscreenSurface`. -/
def sdlEglCreateOffscreenSurface (e : SurfaceEnv) (width height : Int) (s : EGLSession) :
    Nat × EGLSession :=
  match chooseConfigError e s with
  | some message => (0, s.setError message)
  | none => (e.eglCreatePbufferSurface width height, s)

def sessionLoad (load : VideoDevice → Bool × VideoDevice) (s : EGLSession) : Bool × EGLSession :=
  Prod.map id
    (fun device => { s with
      device
      contextData := if s.device.eglData.isNone then .zeroed else s.contextData })
    (load s.device)

/-- `SDL_EGL_UnloadLibrary` on the session. -/
def sessionUnloadLibrary (s : EGLSession) : EGLSession :=
  { s with device := sdlEglUnloadLibrary s.device }

/-- The calls a video driver makes, each with what the calls outside SDL give. -/
inductive SessionCall where
  | loadLibraryOnly (env : LoaderEnv) (eglPath : Option String)
  | loadLibrary (env : LoaderEnv) (eglPath : Option String) (nativeDisplay platform : Nat)
  | initializeOffscreen (env : LoaderEnv) (o : OffscreenEnv)
  | unloadLibrary
  | createContext (e : EGLCallEnv) (surface : Nat)
  | makeCurrent (e : EGLCallEnv) (surface context : Nat)
  | destroyContext (context : Nat)
  | setSwapInterval (e : EGLCallEnv) (interval : Int)
  | getSwapInterval
  | swapBuffers (e : EGLCallEnv) (surface : Nat)
  | createSurface (e : SurfaceEnv) (framebufferSrgbCapable transparent : Bool)
  | createOffscreenSurface (e : SurfaceEnv) (width height : Int)

/-- What a call returns to the driver. -/
inductive SessionOutput where
  | status (ok : Bool)
  | context (context : Nat)
  | interval (value : Option Int)
  | surface (surface : Nat)

/-- The context a return hands to the driver. -/
def SessionOutput.handed : SessionOutput → Multiset Nat
  | .context returned => contextRef returned
  | _ => 0

/-- The contexts a list of returns hands to the driver. -/
def handedOut : List SessionOutput → Multiset Nat
  | [] => 0
  | output :: outputs => output.handed + handedOut outputs

/-- One call; `none` when it reads past a list's end or a NULL `egl_data`. -/
def sessionStep (s : EGLSession) : SessionCall → Option (SessionOutput × EGLSession)
  | .loadLibraryOnly env eglPath =>
      some (Prod.map .status id (sessionLoad (sdlEglLoadLibraryOnly b env eglPath) s))
  | .loadLibrary env eglPath nativeDisplay platform =>
      some (Prod.map .status id
        (sessionLoad (sdlEglLoadLibrary b env eglPath nativeDisplay platform) s))
  | .initializeOffscreen env o =>
      (sdlEglInitializeOffscreen env o s.device).map (Prod.map .status fun device => { s with device })
  | .unloadLibrary => some (.status true, sessionUnloadLibrary s)
  | .createContext e surface =>
      (sdlEglCreateContext b sdlVideoOpengl e surface s).map (Prod.map .context id)
  | .makeCurrent e surface context =>
      some (Prod.map .status id (sdlEglMakeCurrent e surface context s))
  | .destroyContext context => some (Prod.map .status id (sdlEglDestroyContext context s))
  | .setSwapInterval e interval =>
      some (Prod.map .status id (sdlEglSetSwapInterval e interval s))
  | .getSwapInterval => some (Prod.map .interval id (sdlEglGetSwapInterval s))
  | .swapBuffers e surface => (sdlEglSwapBuffers e surface s).map (Prod.map .status id)
  | .createSurface e framebufferSrgbCapable transparent =>
      (sdlEglCreateSurface e framebufferSrgbCapable transparent s).map (Prod.map .surface id)
  | .createOffscreenSurface e width height =>
      some (Prod.map .surface id (sdlEglCreateOffscreenSurface e width height s))

/-- A run of calls: what each returned, and the session after them. -/
def sessionRun (s : EGLSession) : List SessionCall → Option (List SessionOutput × EGLSession)
  | [] => some ([], s)
  | call :: calls =>
      (sessionStep b sdlVideoOpengl s call).bind fun (output, s) =>
        (sessionRun s calls).map fun (outputs, s) => (output :: outputs, s)

end Calls

/-! ## What each call does -/

section Effects

variable (b : Build) (sdlVideoOpengl : Bool)

@[simp] theorem contextRef_zero : contextRef 0 = 0 := rfl

theorem contextRef_of_ne {context : Nat} (nonzero : context ≠ 0) : contextRef context = {context} :=
  if_neg nonzero

theorem surfaced_of_not_released {surface : Nat} {allowNoSurface : Bool}
    (bound : ¬(surface = 0 ∧ allowNoSurface = false)) : surface ≠ 0 ∨ allowNoSurface = true := by
  cases allowNoSurface <;> simp_all

theorem sdlEglMakeCurrent_eq (e : EGLCallEnv) (surface context : Nat) (s : EGLSession) :
    ∃ error current, (sdlEglMakeCurrent e surface context s).2 =
        { s with device := { s.device with error }, current } ∧
      (current = s.current ∨ current = (0, 0) ∨
        (current = (surface, context) ∧ context ≠ 0 ∧
          (surface ≠ 0 ∨ s.glAllowNoSurface = true))) := by
  unfold sdlEglMakeCurrent
  split
  · exact ⟨_, s.current, rfl, .inl rfl⟩
  · split_ifs with release made
    · exact ⟨s.device.error, (0, 0), rfl, .inr (.inl rfl)⟩
    · exact ⟨s.device.error, s.current, rfl, .inl rfl⟩
    · exact ⟨s.device.error, (surface, context), rfl, .inr (.inr ⟨rfl, fun live => release (.inl live),
        surfaced_of_not_released fun released => release (.inr released)⟩)⟩
    · exact ⟨_, s.current, rfl, .inl rfl⟩

theorem sdlEglDestroyContext_eq (context : Nat) (s : EGLSession) :
    ∃ contexts ≤ s.contexts, (sdlEglDestroyContext context s).2 = { s with contexts } := by
  unfold sdlEglDestroyContext
  split
  · exact ⟨s.contexts, le_rfl, rfl⟩
  · split_ifs
    · exact ⟨_, Multiset.erase_le _ _, rfl⟩
    · exact ⟨s.contexts, le_rfl, rfl⟩

theorem sdlEglCreateContext_cases {e : EGLCallEnv} {surface context : Nat} {s s' : EGLSession}
    (created : sdlEglCreateContext b sdlVideoOpengl e surface s = some (context, s')) :
    (context = 0 ∧ s'.device.eglData = s.device.eglData ∧ s'.device.loaded = s.device.loaded ∧
        s'.contexts = s.contexts ∧ s'.current = s.current ∧
        s'.glAllowNoSurface = s.glAllowNoSurface ∧
        (s'.contextData.eglSwapinterval = s.contextData.eglSwapinterval ∨
          s'.contextData.eglSwapinterval = 0)) ∨
      (context ≠ 0 ∧ s'.device = s.device ∧ s'.contexts = context ::ₘ s.contexts ∧
        s'.contextData.eglSwapinterval = 0 ∧
        s'.current =
          (if surface = 0 ∧ s.glAllowNoSurface = false then
            if e.eglMakeCurrent then (0, 0) else s.current
          else (surface, context)) ∧
        (s.glAllowNoSurface = true → s'.glAllowNoSurface = true)) := by
  unfold sdlEglCreateContext at created
  split at created
  · cases created
    exact .inl ⟨rfl, rfl, rfl, rfl, rfl, rfl, .inl rfl⟩
  · next data set =>
    obtain ⟨r, -, returned⟩ := Option.map_eq_some'.1 created
    split at returned
    · cases returned
      exact .inl ⟨rfl, rfl, rfl, rfl, rfl, rfl, .inl rfl⟩
    · dsimp only at returned
      by_cases made : e.eglCreateContext = 0
      · rw [if_pos made] at returned
        cases returned
        exact .inl ⟨rfl, rfl, rfl, rfl, rfl, rfl, .inl rfl⟩
      · rw [if_neg made] at returned
        generalize (if s.device.profileMask = sdlGlContextProfileEs then EGLApi.openglEs
          else EGLApi.opengl) = api at returned
        simp only [createdContext, sdlEglMakeCurrent, set, made, false_or] at returned
        split_ifs at returned with release bound <;> cases returned
        · exact .inr ⟨made, rfl, rfl, rfl, by simp [release, bound], fun allowed => by simp [allowed]⟩
        · exact .inr ⟨made, rfl, rfl, rfl, by simp [release, bound], fun allowed => by simp [allowed]⟩
        · exact .inr ⟨made, rfl, rfl, rfl, by simp [release], fun allowed => by simp [allowed]⟩
        · exact .inl ⟨rfl, by simp [sdlEglDestroyContext, EGLSession.setError, set, made]⟩

theorem sdlEglSetSwapInterval_eq (e : EGLCallEnv) (interval : Int) (s : EGLSession) :
    ∃ error contextData, (sdlEglSetSwapInterval e interval s).2 =
        { s with device := { s.device with error }, contextData } ∧
      (contextData = s.contextData ∨ 0 ≤ contextData.eglSwapinterval) := by
  unfold sdlEglSetSwapInterval
  split
  · exact ⟨_, _, rfl, .inl rfl⟩
  · split_ifs with negative
    · exact ⟨_, _, rfl, .inl rfl⟩
    · exact ⟨s.device.error, _, rfl, .inr (not_lt.1 negative)⟩
    · exact ⟨_, _, rfl, .inl rfl⟩

theorem sdlEglGetSwapInterval_eq (s : EGLSession) :
    ∃ error, (sdlEglGetSwapInterval s).2 = { s with device := { s.device with error } } := by
  unfold sdlEglGetSwapInterval
  split
  · exact ⟨_, rfl⟩
  · exact ⟨s.device.error, rfl⟩

theorem sdlEglSwapBuffers_eq {e : EGLCallEnv} {surface : Nat} {s s' : EGLSession} {ok : Bool}
    (swapped : sdlEglSwapBuffers e surface s = some (ok, s')) :
    ∃ error, s' = { s with device := { s.device with error } } := by
  obtain ⟨_, -, returned⟩ := Option.map_eq_some'.1 swapped
  split_ifs at returned <;> cases returned
  exacts [⟨s.device.error, rfl⟩, ⟨_, rfl⟩]

theorem sdlEglCreateSurface_eq {e : SurfaceEnv} {framebufferSrgbCapable transparent : Bool}
    {s s' : EGLSession} {surface : Nat}
    (created : sdlEglCreateSurface e framebufferSrgbCapable transparent s = some (surface, s')) :
    ∃ error driverLoaded driverPath,
      s' = { s with device := { s.device with error, driverLoaded, driverPath } } := by
  unfold sdlEglCreateSurface at created
  split at created
  · cases created
    exact ⟨_, s.device.driverLoaded, s.device.driverPath, rfl⟩
  · obtain ⟨r, -, returned⟩ := Option.map_eq_some'.1 created
    split at returned
    · cases returned
      exact ⟨_, _, _, rfl⟩
    · dsimp only at returned
      split_ifs at returned <;> cases returned
      exacts [⟨_, s.device.driverLoaded, s.device.driverPath, rfl⟩,
        ⟨s.device.error, s.device.driverLoaded, s.device.driverPath, rfl⟩]

theorem sdlEglCreateOffscreenSurface_eq (e : SurfaceEnv) (width height : Int) (s : EGLSession) :
    ∃ error, (sdlEglCreateOffscreenSurface e width height s).2 =
      { s with device := { s.device with error } } := by
  unfold sdlEglCreateOffscreenSurface
  split
  · exact ⟨_, rfl⟩
  · exact ⟨s.device.error, rfl⟩

/-! ## The loader's references -/

variable (env : LoaderEnv)

theorem sdlEglLoadLibraryOnly_held (eglPath : Option String) {d : VideoDevice}
    {base : Multiset Nat} (counted : d.held + base ≤ d.loaded) :
    (sdlEglLoadLibraryOnly b env eglPath d).2.held + base ≤
      (sdlEglLoadLibraryOnly b env eglPath d).2.loaded := by
  rcases set : d.eglData with _ | data
  · obtain ⟨data, eglData, taken, -⟩ := sdlEglLoadLibraryOnly_loaded b env eglPath d set
    have atMost : (sdlEglLoadLibraryOnly b env eglPath d).2.held ≤ data.handles := by
      rw [VideoDevice.held, eglData]
      split <;> simp [Multiset.zero_le]
    have kept : base ≤ d.loaded := by simpa [VideoDevice.held, set] using counted
    rw [taken, add_assoc]
    exact add_le_add atMost (kept.trans (Multiset.le_add_left _ _))
  · simpa [sdlEglLoadLibraryOnly_refuses b env eglPath set, VideoDevice.held] using counted

theorem sdlEglLoadLibrary_held (eglPath : Option String) (nativeDisplay platform : Nat)
    {d : VideoDevice} {base : Multiset Nat} (counted : d.held + base ≤ d.loaded) :
    (sdlEglLoadLibrary b env eglPath nativeDisplay platform d).2.held + base ≤
      (sdlEglLoadLibrary b env eglPath nativeDisplay platform d).2.loaded := by
  obtain ⟨loaded, handles⟩ := sdlEglLoadLibrary_references b env eglPath nativeDisplay platform d
  rw [VideoDevice.held, handles, loaded]
  exact sdlEglLoadLibraryOnly_held b env eglPath counted

theorem sdlEglUnloadLibrary_held {d : VideoDevice} {base : Multiset Nat}
    (counted : d.held + base ≤ d.loaded) :
    (sdlEglUnloadLibrary d).held + base ≤ (sdlEglUnloadLibrary d).loaded := by
  rcases set : d.eglData with _ | data
  · simpa [sdlEglUnloadLibrary, set] using counted
  · obtain ⟨rest, split⟩ := Multiset.le_iff_exists_add.1 counted
    rw [VideoDevice.held, set] at split
    obtain ⟨freed, gave⟩ := sdlEglUnloadLibrary_loaded set (base + rest) (by simpa [add_assoc] using split)
    simp [VideoDevice.held, freed, gave, Multiset.zero_le]

/-! ## Every call, then every run -/

/-- What one call may do, said once: each run invariant below follows from it. -/
structure CallEffect (s s' : EGLSession) (output : SessionOutput) : Prop where
  references : ∀ base, s.device.held + base ≤ s.device.loaded →
    s'.device.held + base ≤ s'.device.loaded
  contexts : s'.contexts ≤ output.handed + s.contexts
  binding : s.BindingSafe → s'.BindingSafe
  swapinterval : 0 ≤ s.contextData.eglSwapinterval → 0 ≤ s'.contextData.eglSwapinterval
  reported : ∀ value, output = .interval (some value) → value = s.contextData.eglSwapinterval

theorem references_kept {s s' : EGLSession}
    (handles : s'.device.eglData.map EGLVideoData.handles =
      s.device.eglData.map EGLVideoData.handles)
    (loaded : s'.device.loaded = s.device.loaded) (base : Multiset Nat)
    (counted : s.device.held + base ≤ s.device.loaded) :
    s'.device.held + base ≤ s'.device.loaded := by
  rwa [VideoDevice.held, handles, loaded]

theorem CallEffect.of_error {s : EGLSession} {error : String} {output : SessionOutput}
    (handed : output.handed = 0)
    (reported : ∀ value, output = .interval (some value) → value = s.contextData.eglSwapinterval) :
    CallEffect s { s with device := { s.device with error } } output :=
  ⟨references_kept rfl rfl, by simp [handed], id, id, reported⟩

theorem CallEffect.of_failure {s : EGLSession} {error driverPath : String} {driverLoaded : Nat}
    {output : SessionOutput} (handed : output.handed = 0)
    (reported : ∀ value, output = .interval (some value) → value = s.contextData.eglSwapinterval) :
    CallEffect s { s with device := { s.device with error, driverLoaded, driverPath } } output :=
  ⟨references_kept rfl rfl, by simp [handed], id, id, reported⟩

theorem sessionLoad_effect (load : VideoDevice → Bool × VideoDevice) (s : EGLSession)
    (held : ∀ base, s.device.held + base ≤ s.device.loaded →
      (load s.device).2.held + base ≤ (load s.device).2.loaded) :
    CallEffect s (sessionLoad load s).2 (.status (sessionLoad load s).1) := by
  refine ⟨held, by simp [SessionOutput.handed, sessionLoad], id, ?_, by simp⟩
  simp only [sessionLoad, Prod.map_snd]
  split_ifs <;> simp [EGLContextData.zeroed]

theorem EGLSession.BindingSafe.kept {s s' : EGLSession} (safe : s.BindingSafe)
    (current : s'.current = s.current)
    (allowed : s.glAllowNoSurface = true → s'.glAllowNoSurface = true) : s'.BindingSafe := by
  rcases safe with released | ⟨live, surfaced⟩
  · exact .inl (current.trans released)
  · exact .inr (by rw [current]; exact ⟨live, surfaced.imp_right allowed⟩)

theorem EGLSession.BindingSafe.bound {s' : EGLSession} {surface context : Nat}
    (current : s'.current = (surface, context)) (live : context ≠ 0)
    (surfaced : surface ≠ 0 ∨ s'.glAllowNoSurface = true) : s'.BindingSafe :=
  .inr (by rw [current]; exact ⟨live, surfaced⟩)

theorem sessionStep_effect {s s' : EGLSession} {call : SessionCall} {output : SessionOutput}
    (stepped : sessionStep b sdlVideoOpengl s call = some (output, s')) :
    CallEffect s s' output := by
  cases call with
  | createContext e surface =>
    obtain ⟨⟨context, s''⟩, created, returned⟩ := Option.map_eq_some'.1 stepped
    simp only [Prod.map, id_eq, Prod.mk.injEq] at returned
    obtain ⟨rfl, rfl⟩ := returned
    rcases sdlEglCreateContext_cases b sdlVideoOpengl created with
      ⟨rfl, eglData, loaded, contexts, current, allowed, swap⟩ |
      ⟨made, device, contexts, swap, current, allowed⟩
    · refine ⟨references_kept (by rw [eglData]) loaded, by simp [SessionOutput.handed, contexts],
        fun safe => safe.kept current (by simp [allowed]), fun nonneg => ?_, by simp⟩
      rcases swap with swap | swap <;> simp [swap, nonneg]
    · refine ⟨references_kept (by rw [device]) (by rw [device]),
        by simp [SessionOutput.handed, contexts, contextRef_of_ne made, Multiset.singleton_add],
        fun safe => ?_, fun _ => by simp [swap], by simp⟩
      split_ifs at current with release made'
      · exact .inl current
      · exact safe.kept current allowed
      · exact .bound current made ((surfaced_of_not_released release).imp id allowed)
  | loadLibraryOnly env eglPath =>
    simp only [sessionStep, Option.some.injEq, Prod.ext_iff, Prod.map_fst, Prod.map_snd, id_eq]
      at stepped
    obtain ⟨rfl, rfl⟩ := stepped
    exact sessionLoad_effect _ s fun _ => sdlEglLoadLibraryOnly_held b env eglPath
  | loadLibrary env eglPath nativeDisplay platform =>
    simp only [sessionStep, Option.some.injEq, Prod.ext_iff, Prod.map_fst, Prod.map_snd, id_eq]
      at stepped
    obtain ⟨rfl, rfl⟩ := stepped
    exact sessionLoad_effect _ s fun _ => sdlEglLoadLibrary_held b env eglPath nativeDisplay platform
  | initializeOffscreen env o =>
    obtain ⟨⟨ok, device⟩, initialized, returned⟩ := Option.map_eq_some'.1 stepped
    simp only [Prod.map, Prod.mk.injEq] at returned
    obtain ⟨rfl, rfl⟩ := returned
    obtain ⟨handles, loaded⟩ := sdlEglInitializeOffscreen_library env initialized
    exact ⟨references_kept handles loaded, by simp [SessionOutput.handed], id, id, by simp⟩
  | unloadLibrary =>
    cases stepped
    exact ⟨fun _ => sdlEglUnloadLibrary_held, by simp [SessionOutput.handed, sessionUnloadLibrary],
      id, id, by simp⟩
  | makeCurrent e surface context =>
    simp only [sessionStep, Option.some.injEq, Prod.ext_iff, Prod.map_fst, Prod.map_snd, id_eq]
      at stepped
    obtain ⟨rfl, rfl⟩ := stepped
    obtain ⟨error, current, made, bound⟩ := sdlEglMakeCurrent_eq e surface context s
    rw [made]
    refine ⟨references_kept rfl rfl, by simp [SessionOutput.handed], fun safe => ?_, id, by simp⟩
    rcases bound with rfl | rfl | ⟨rfl, live, surfaced⟩
    · exact safe.kept rfl id
    · exact .inl rfl
    · exact .bound rfl live surfaced
  | destroyContext context =>
    simp only [sessionStep, Option.some.injEq, Prod.ext_iff, Prod.map_fst, Prod.map_snd, id_eq]
      at stepped
    obtain ⟨rfl, rfl⟩ := stepped
    obtain ⟨contexts, fewer, destroyed⟩ := sdlEglDestroyContext_eq context s
    rw [destroyed]
    exact ⟨references_kept rfl rfl, by simpa [SessionOutput.handed] using fewer,
      fun safe => safe, id, by simp⟩
  | setSwapInterval e interval =>
    simp only [sessionStep, Option.some.injEq, Prod.ext_iff, Prod.map_fst, Prod.map_snd, id_eq]
      at stepped
    obtain ⟨rfl, rfl⟩ := stepped
    obtain ⟨error, contextData, set, stored⟩ := sdlEglSetSwapInterval_eq e interval s
    rw [set]
    refine ⟨references_kept rfl rfl, by simp [SessionOutput.handed], fun safe => safe,
      fun nonneg => ?_, by simp⟩
    rcases stored with rfl | stored
    exacts [nonneg, stored]
  | getSwapInterval =>
    simp only [sessionStep, Option.some.injEq, Prod.ext_iff, Prod.map_fst, Prod.map_snd, id_eq]
      at stepped
    obtain ⟨rfl, rfl⟩ := stepped
    obtain ⟨error, got⟩ := sdlEglGetSwapInterval_eq s
    rw [got]
    refine .of_error (by simp [SessionOutput.handed]) ?_
    unfold sdlEglGetSwapInterval
    split <;> simp
  | swapBuffers e surface =>
    obtain ⟨⟨ok, s''⟩, swapped, returned⟩ := Option.map_eq_some'.1 stepped
    simp only [Prod.map, id_eq, Prod.mk.injEq] at returned
    obtain ⟨rfl, rfl⟩ := returned
    obtain ⟨error, rfl⟩ := sdlEglSwapBuffers_eq swapped
    exact .of_error (by simp [SessionOutput.handed]) (by simp)
  | createSurface e framebufferSrgbCapable transparent =>
    obtain ⟨⟨surface, s''⟩, created, returned⟩ := Option.map_eq_some'.1 stepped
    simp only [Prod.map, id_eq, Prod.mk.injEq] at returned
    obtain ⟨rfl, rfl⟩ := returned
    obtain ⟨error, driverLoaded, driverPath, rfl⟩ := sdlEglCreateSurface_eq created
    exact .of_failure (by simp [SessionOutput.handed]) (by simp)
  | createOffscreenSurface e width height =>
    simp only [sessionStep, Option.some.injEq, Prod.ext_iff, Prod.map_fst, Prod.map_snd, id_eq]
      at stepped
    obtain ⟨rfl, rfl⟩ := stepped
    obtain ⟨error, created⟩ := sdlEglCreateOffscreenSurface_eq e width height s
    rw [created]
    exact .of_error (by simp [SessionOutput.handed]) (by simp)

theorem sessionRun_cons_some {s s'' : EGLSession} {call : SessionCall}
    {calls : List SessionCall} {outputs : List SessionOutput}
    (ran : sessionRun b sdlVideoOpengl s (call :: calls) = some (outputs, s'')) :
    ∃ output s' rest, sessionStep b sdlVideoOpengl s call = some (output, s') ∧
      sessionRun b sdlVideoOpengl s' calls = some (rest, s'') ∧ outputs = output :: rest := by
  obtain ⟨⟨output, s'⟩, stepped, continued⟩ := Option.bind_eq_some.1 ran
  obtain ⟨⟨rest, _⟩, ranRest, joined⟩ := Option.map_eq_some'.1 continued
  cases joined
  exact ⟨output, s', rest, stepped, ranRest, rfl⟩

theorem sessionRun_keeps (P : EGLSession → Prop)
    (kept : ∀ {s s' call output}, sessionStep b sdlVideoOpengl s call = some (output, s') →
      P s → P s')
    {s s' : EGLSession} {calls : List SessionCall} {outputs : List SessionOutput}
    (ran : sessionRun b sdlVideoOpengl s calls = some (outputs, s')) (holds : P s) : P s' := by
  induction calls generalizing s outputs with
  | nil =>
    cases ran
    exact holds
  | cons call calls continued =>
    obtain ⟨_, _, _, stepped, ranRest, rfl⟩ := sessionRun_cons_some b sdlVideoOpengl ran
    exact continued ranRest (kept stepped holds)

/-! ### A sample run -/

/-- The device before the run. -/
def sampleDevice : VideoDevice :=
  ⟨0, 2, 1, "", some { EGLVideoData.zeroed with
    openglDllHandle := some 1
    eglDllHandle := some 2
    eglDisplay := 5 }, "", {1, 2, 9}, []⟩

def sampleSession : EGLSession := ⟨sampleDevice, .zeroed, 0, 0, 0, false, (0, 0), 0⟩

/-- `eglCreateContext` returns context `3`; every other call succeeds. -/
def sampleCallEnv : EGLCallEnv :=
  ⟨fun _ => false, fun _ => 0, none, 3, true, true, fun _ => true, 0x3000, false, none⟩

def sampleCalls : List SessionCall :=
  [.createContext sampleCallEnv 7, .setSwapInterval sampleCallEnv 1, .getSwapInterval,
    .swapBuffers sampleCallEnv 7, .destroyContext 3, .unloadLibrary]

theorem sampleSession_runs : ∃ outputs s',
    sessionRun desktopBuild true sampleSession sampleCalls = some (outputs, s') :=
  ⟨_, _, rfl⟩

/-- The loader never gives back a reference it did not take. -/
theorem sessionRun_references {s s' : EGLSession} {calls : List SessionCall}
    {outputs : List SessionOutput} (ran : sessionRun b sdlVideoOpengl s calls = some (outputs, s'))
    {base : Multiset Nat} (counted : s.device.held + base ≤ s.device.loaded) :
    s'.device.held + base ≤ s'.device.loaded :=
  sessionRun_keeps b sdlVideoOpengl (fun t => t.device.held + base ≤ t.device.loaded)
    (fun stepped => (sessionStep_effect b sdlVideoOpengl stepped).references base) ran counted

theorem sessionRun_references_sample : ∃ outputs s',
    sessionRun desktopBuild true sampleSession sampleCalls = some (outputs, s') ∧
      s'.device.held + {9} ≤ s'.device.loaded := by
  obtain ⟨outputs, s', ran⟩ := sampleSession_runs
  exact ⟨outputs, s', ran, sessionRun_references desktopBuild true ran (by decide)⟩

/-- Every context live after a run was live before it or handed to the driver. -/
theorem sessionRun_contexts {s s' : EGLSession} {calls : List SessionCall}
    {outputs : List SessionOutput}
    (ran : sessionRun b sdlVideoOpengl s calls = some (outputs, s')) :
    s'.contexts ≤ handedOut outputs + s.contexts := by
  induction calls generalizing s outputs with
  | nil =>
    cases ran
    simp [handedOut]
  | cons call calls continued =>
    obtain ⟨output, s₁, rest, stepped, ranRest, rfl⟩ := sessionRun_cons_some b sdlVideoOpengl ran
    calc s'.contexts ≤ handedOut rest + s₁.contexts := continued ranRest
      _ ≤ handedOut rest + (output.handed + s.contexts) :=
          add_le_add_left (sessionStep_effect b sdlVideoOpengl stepped).contexts _
      _ = handedOut (output :: rest) + s.contexts := by
          rw [handedOut, add_left_comm, add_assoc]

theorem sessionRun_contexts_sample : ∃ outputs s',
    sessionRun desktopBuild true sampleSession sampleCalls = some (outputs, s') ∧
      s'.contexts ≤ handedOut outputs + sampleSession.contexts := by
  obtain ⟨outputs, s', ran⟩ := sampleSession_runs
  exact ⟨outputs, s', ran, sessionRun_contexts desktopBuild true ran⟩

/-- No run leaves a context current without a surface unless that is allowed. -/
theorem sessionRun_binding_safe {s s' : EGLSession} {calls : List SessionCall}
    {outputs : List SessionOutput} (ran : sessionRun b sdlVideoOpengl s calls = some (outputs, s'))
    (safe : s.BindingSafe) : s'.BindingSafe :=
  sessionRun_keeps b sdlVideoOpengl EGLSession.BindingSafe
    (fun stepped => (sessionStep_effect b sdlVideoOpengl stepped).binding) ran safe

theorem sessionRun_binding_safe_sample : ∃ outputs s',
    sessionRun desktopBuild true sampleSession sampleCalls = some (outputs, s') ∧
      s'.BindingSafe := by
  obtain ⟨outputs, s', ran⟩ := sampleSession_runs
  exact ⟨outputs, s', ran, sessionRun_binding_safe desktopBuild true ran (.inl rfl)⟩

/-- No run stores or reports a negative swap interval. -/
theorem sessionRun_swapinterval {s s' : EGLSession} {calls : List SessionCall}
    {outputs : List SessionOutput} (ran : sessionRun b sdlVideoOpengl s calls = some (outputs, s'))
    (nonneg : 0 ≤ s.contextData.eglSwapinterval) :
    0 ≤ s'.contextData.eglSwapinterval ∧
      ∀ value, SessionOutput.interval (some value) ∈ outputs → 0 ≤ value := by
  induction calls generalizing s outputs with
  | nil =>
    cases ran
    simpa using nonneg
  | cons call calls continued =>
    obtain ⟨output, s₁, rest, stepped, ranRest, rfl⟩ := sessionRun_cons_some b sdlVideoOpengl ran
    have effect := sessionStep_effect b sdlVideoOpengl stepped
    obtain ⟨stored, reportedRest⟩ := continued ranRest (effect.swapinterval nonneg)
    refine ⟨stored, fun value reported => ?_⟩
    rcases List.mem_cons.1 reported with first | later
    · exact effect.reported value first.symm ▸ nonneg
    · exact reportedRest value later

theorem sessionRun_swapinterval_sample : ∃ outputs s',
    sessionRun desktopBuild true sampleSession sampleCalls = some (outputs, s') ∧
      0 ≤ s'.contextData.eglSwapinterval ∧
        ∀ value, SessionOutput.interval (some value) ∈ outputs → 0 ≤ value := by
  obtain ⟨outputs, s', ran⟩ := sampleSession_runs
  exact ⟨outputs, s', ran, sessionRun_swapinterval desktopBuild true ran (by decide)⟩

/-- `SDL_EGL_CreateContext` fails with nothing changed, or adds one context. -/
theorem sdlEglCreateContext_outcome {e : EGLCallEnv} {surface context : Nat} {s s' : EGLSession}
    (created : sdlEglCreateContext b sdlVideoOpengl e surface s = some (context, s')) :
    (context = 0 ∧ s'.contexts = s.contexts ∧ s'.current = s.current) ∨
      (context ≠ 0 ∧ s'.contexts = context ::ₘ s.contexts ∧ s'.contextData.eglSwapinterval = 0 ∧
        (surface ≠ 0 ∨ s.glAllowNoSurface = true → s'.current = (surface, context))) := by
  rcases sdlEglCreateContext_cases b sdlVideoOpengl created with
    ⟨nullContext, -, -, contexts, current, -⟩ | ⟨made, -, contexts, swap, current, -⟩
  · exact .inl ⟨nullContext, contexts, current⟩
  · refine .inr ⟨made, contexts, swap, fun surfaced => ?_⟩
    rw [current, if_neg]
    rintro ⟨null, disallowed⟩
    simp_all

theorem sdlEglCreateContext_outcome_sample : ∃ s',
    sdlEglCreateContext desktopBuild true sampleCallEnv 7 sampleSession = some (3, s') ∧
      ((3 = 0 ∧ s'.contexts = sampleSession.contexts ∧ s'.current = sampleSession.current) ∨
        (3 ≠ 0 ∧ s'.contexts = 3 ::ₘ sampleSession.contexts ∧
          s'.contextData.eglSwapinterval = 0 ∧
          (7 ≠ 0 ∨ sampleSession.glAllowNoSurface = true → s'.current = (7, 3)))) := by
  obtain ⟨s', created⟩ : ∃ s',
      sdlEglCreateContext desktopBuild true sampleCallEnv 7 sampleSession = some (3, s') :=
    ⟨_, rfl⟩
  exact ⟨s', created, sdlEglCreateContext_outcome desktopBuild true created⟩

end Effects

end SdlRender.Egl
