import SdlRender.Egl.Load

/-!
# `SDL_EGL_InitializeOffscreen`: choosing an EGL device

The function takes the display of the device the hint `"SDL_HINT_EGL_DEVICE"` names, or else
of the first device whose display `eglInitialize` accepts. Reading `egl_devices` before its
start, and `egl_data` while it is NULL, are `none`; the `device` argument is overwritten before
it is read, and is left out.
-/

namespace SdlRender.Egl

/-- What the EGL device calls give; `none` for NULL or a failure. -/
structure OffscreenEnv where
  eglQueryDevicesExt : Option (Option (List Nat))
  eglGetPlatformDisplayExt : Option (Nat → Nat)
  eglDeviceHint : Option Int

section Offscreen

variable (env : LoaderEnv)

/-- A display the loop keeps: not `EGL_NO_DISPLAY`, and `eglInitialize` accepts it. -/
def usableDisplay (display : Nat) : Bool :=
  display ≠ 0 && env.eglInitialize display

/-- The device loop: the display it keeps, and those it terminates. -/
def offscreenLoop (getDisplay : Nat → Nat) : List Nat → Option Nat × List Nat
  | [] => (none, [])
  | device :: devices =>
      if getDisplay device = 0 then offscreenLoop getDisplay devices
      else if env.eglInitialize (getDisplay device) then (some (getDisplay device), [])
      else Prod.map id (getDisplay device :: ·) (offscreenLoop getDisplay devices)

/-- The end of `SDL_EGL_InitializeOffscreen` with `egl_display` initialized. -/
def offscreenReady (data : EGLVideoData) (d : VideoDevice) : Bool × VideoDevice :=
  (true, { d with eglData := some { sdlEglGetVersion env data with isOffscreen := true } })

/-- After the loop: the display it kept is made ready, or no device could be initialized. -/
def offscreenFound (data : EGLVideoData) : Option Nat → VideoDevice → Bool × VideoDevice
  | some display, d => offscreenReady env { data with eglDisplay := display } d
  | none, d => (false, { d with error := "Could not find a valid EGL device to initialize" })

/-- `SDL_SetError(message)`, returning false. -/
def offscreenFail (message : String) (d : VideoDevice) : Bool × VideoDevice :=
  (false, { d with error := message })

/-- The device the hint names: its display is stored in `egl_display` before it is checked. -/
def hintedDevice (data : EGLVideoData) (display : Nat) (d : VideoDevice) : Bool × VideoDevice :=
  let d := { d with eglData := some { data with eglDisplay := display } }
  if display = 0 then offscreenFail "eglGetPlatformDisplayEXT() failed." d
  else if !env.eglInitialize display then offscreenFail "Could not initialize EGL" d
  else offscreenReady env { data with eglDisplay := display } d

/-- `SDL_EGL_InitializeOffscreen`. -/
def sdlEglInitializeOffscreen (o : OffscreenEnv) (d : VideoDevice) :
    Option (Bool × VideoDevice) :=
  if d.driverLoaded = 0 then
    some (offscreenFail "SDL_EGL_LoadLibraryOnly() has not been called or has failed." d)
  else
    match d.eglData, o.eglQueryDevicesExt, o.eglGetPlatformDisplayExt with
    | none, _, _ => none
    | some _, none, _ =>
        some (offscreenFail
          "eglQueryDevicesEXT is missing (EXT_device_enumeration not supported by the drivers?)" d)
    | some _, some _, none =>
        some (offscreenFail
          "eglGetPlatformDisplayEXT is missing (EXT_platform_base not supported by the drivers?)" d)
    | some _, some none, some _ => some (offscreenFail "eglQueryDevicesEXT() failed" d)
    | some data, some (some devices), some getDisplay =>
        match o.eglDeviceHint with
        | some device =>
            if device ≥ devices.length then
              some (offscreenFail "Invalid EGL device is requested." d)
            else if device < 0 then none
            else devices[device.toNat]?.map fun handle => hintedDevice env data (getDisplay handle) d
        | none =>
            let (found, terminated) := offscreenLoop env getDisplay devices
            some (offscreenFound env data found { d with terminated := d.terminated ++ terminated })

theorem offscreenLoop_eq (getDisplay : Nat → Nat) (devices : List Nat) :
    offscreenLoop env getDisplay devices =
      ((devices.map getDisplay).find? (usableDisplay env),
        ((devices.map getDisplay).takeWhile fun display => !usableDisplay env display).filter
          (· ≠ 0)) := by
  induction devices with
  | nil => rfl
  | cons device devices ih =>
    simp only [offscreenLoop, List.map_cons, List.find?_cons, List.takeWhile_cons, usableDisplay,
      ih]
    split_ifs <;> simp_all

/-! ### Three devices -/

/-- A loader environment whose `eglInitialize` accepts display `2` only. -/
def offscreenSampleEnv : LoaderEnv :=
  { loadObject := fun _ => none
    loadFunction := fun _ _ => false
    openglLibraryHint := none
    eglLibraryHint := none
    d3dcompilerHint := none
    windowsVistaOrGreater := false
    callocSucceeds := true
    eglVersion := fun _ => none
    platformattribCallback := none
    eglGetPlatformDisplay := fun _ _ _ => 0
    platformBase := false
    eglGetPlatformDisplayExt := none
    allowGetdisplayFallback := false
    eglGetDisplay := fun _ => 0
    eglInitialize := fun display => display = 2 }

/-- A device after `SDL_EGL_LoadLibraryOnly`. -/
def offscreenSampleDevice : VideoDevice :=
  ⟨0, 2, 1, "", some .zeroed, "", 0, []⟩

/-- Without the hint the device loop keeps the first usable display and
terminates each one it rejected before it. -/
theorem sdlEglInitializeOffscreen_first_usable {o : OffscreenEnv} {d : VideoDevice}
    {data : EGLVideoData} {devices : List Nat} {getDisplay : Nat → Nat}
    (loaded : d.driverLoaded ≠ 0) (set : d.eglData = some data)
    (queried : o.eglQueryDevicesExt = some (some devices))
    (platform : o.eglGetPlatformDisplayExt = some getDisplay) (unhinted : o.eglDeviceHint = none) :
    sdlEglInitializeOffscreen env o d =
      some (offscreenFound env data ((devices.map getDisplay).find? (usableDisplay env))
        { d with
          terminated := d.terminated ++
            ((devices.map getDisplay).takeWhile fun display => !usableDisplay env display).filter
              (· ≠ 0) }) := by
  simp [sdlEglInitializeOffscreen, loaded, set, queried, platform, unhinted, offscreenLoop_eq]

theorem sdlEglInitializeOffscreen_first_usable_third :
    sdlEglInitializeOffscreen offscreenSampleEnv ⟨some (some [10, 11, 12]), some (· - 10), none⟩
        offscreenSampleDevice =
      some (offscreenFound offscreenSampleEnv .zeroed (some 2)
        { offscreenSampleDevice with terminated := [1] }) :=
  (sdlEglInitializeOffscreen_first_usable offscreenSampleEnv (by decide) rfl rfl rfl rfl).trans rfl

theorem sdlEglInitializeOffscreen_negative_hint {o : OffscreenEnv} {d : VideoDevice}
    {data : EGLVideoData} {devices : List Nat} {getDisplay : Nat → Nat} {device : Int}
    (loaded : d.driverLoaded ≠ 0) (set : d.eglData = some data)
    (queried : o.eglQueryDevicesExt = some (some devices))
    (platform : o.eglGetPlatformDisplayExt = some getDisplay)
    (hinted : o.eglDeviceHint = some device) (negative : device < 0) :
    sdlEglInitializeOffscreen env o d = none := by
  have inRange : ¬device ≥ devices.length := by omega
  simp [sdlEglInitializeOffscreen, loaded, set, queried, platform, hinted, inRange, negative]

@[simp] theorem sdlEglGetVersion_eglDisplay (data : EGLVideoData) :
    (sdlEglGetVersion env data).eglDisplay = data.eglDisplay := by
  unfold sdlEglGetVersion
  split <;> rfl

theorem sdlEglInitializeOffscreen_hinted {o : OffscreenEnv} {d : VideoDevice}
    {data : EGLVideoData} {devices : List Nat} {getDisplay : Nat → Nat} {device : Int}
    {handle : Nat} (loaded : d.driverLoaded ≠ 0) (set : d.eglData = some data)
    (queried : o.eglQueryDevicesExt = some (some devices))
    (platform : o.eglGetPlatformDisplayExt = some getDisplay)
    (hinted : o.eglDeviceHint = some device) (nonneg : 0 ≤ device)
    (listed : devices[device.toNat]? = some handle) :
    ∃ d', sdlEglInitializeOffscreen env o d = some (usableDisplay env (getDisplay handle), d') ∧
      d'.eglData.map EGLVideoData.eglDisplay = some (getDisplay handle) ∧
      d'.terminated = d.terminated := by
  obtain ⟨bound, -⟩ := List.getElem?_eq_some_iff.1 listed
  have inRange : ¬device ≥ devices.length := by omega
  have notNegative : ¬device < 0 := by omega
  simp only [sdlEglInitializeOffscreen, loaded, set, queried, platform, hinted, inRange,
    notNegative, listed, if_false, Option.map_some']
  unfold hintedDevice usableDisplay
  by_cases null : getDisplay handle = 0
  · simp [null, offscreenFail]
  · cases initialized : env.eglInitialize (getDisplay handle) <;>
      simp [null, initialized, offscreenFail, offscreenReady]

theorem hintedDevice_library (data : EGLVideoData) (display : Nat) (d : VideoDevice) :
    (hintedDevice env data display d).2.eglData.map EGLVideoData.handles = some data.handles ∧
      (hintedDevice env data display d).2.loaded = d.loaded := by
  unfold hintedDevice
  split_ifs <;> simp [offscreenFail, offscreenReady, EGLVideoData.handles]

theorem offscreenFound_library (data : EGLVideoData) (found : Option Nat)
    (terminated : List Nat) {d : VideoDevice} (set : d.eglData = some data) :
    (offscreenFound env data found { d with terminated }).2.eglData.map EGLVideoData.handles =
        some data.handles ∧
      (offscreenFound env data found { d with terminated }).2.loaded = d.loaded := by
  cases found <;> simp [offscreenFound, offscreenReady, EGLVideoData.handles, set]

theorem sdlEglInitializeOffscreen_library {o : OffscreenEnv} {d d' : VideoDevice} {ok : Bool}
    (initialized : sdlEglInitializeOffscreen env o d = some (ok, d')) :
    d'.eglData.map EGLVideoData.handles = d.eglData.map EGLVideoData.handles ∧
      d'.loaded = d.loaded := by
  unfold sdlEglInitializeOffscreen at initialized
  split_ifs at initialized
  · cases initialized
    exact ⟨rfl, rfl⟩
  · split at initialized
    · cases initialized
    · cases initialized
      exact ⟨rfl, rfl⟩
    · cases initialized
      exact ⟨rfl, rfl⟩
    · cases initialized
      exact ⟨rfl, rfl⟩
    · next data devices getDisplay set _ _ =>
      rw [set]
      split at initialized
      · split_ifs at initialized
        · cases initialized
          simp [set]
        · obtain ⟨handle, -, chosen⟩ := Option.map_eq_some'.1 initialized
          simpa [chosen] using hintedDevice_library env data (getDisplay handle) d
      · obtain ⟨-, rfl⟩ := Prod.ext_iff.1 (Option.some.inj initialized).symm
        exact offscreenFound_library env data _ _ set

end Offscreen

end SdlRender.Egl
