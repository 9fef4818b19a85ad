import Mathlib.Data.Multiset.Basic
import SdlRender.Egl.Config

/-!
# Loading the EGL library

`SDL_EGL_LoadLibraryOnly` allocates `egl_data` and loads the OpenGL library, the EGL library
and its functions; `SDL_EGL_LoadLibrary` then gets and initializes a display, and
`SDL_EGL_UnloadLibrary` gives everything back.

* `Build` is the macros the loader tests and `LoaderEnv` what the calls outside the file give.
* A handle is a `Nat`, and the references `SDL_LoadObject` takes are the multiset `loaded`.
-/

namespace SdlRender.Egl

/-! ## Build, environment and state -/

/-- The macros the loader tests. -/
structure Build where
  staticAngle : Bool
  vita : Bool
  windows : Bool
  defaultEgl : String
  defaultOgl : Option String
  altOgl : Option String
  defaultOglEs2 : String
  defaultOglEsPvr : String
  defaultOglEs : String
  altOglEs2 : Option String
  altEgl : Option String

/-- The build loads the libraries with `SDL_LoadObject`. -/
def Build.dynamicLoading (b : Build) : Bool := !b.staticAngle && !b.vita

/-- The desktop Linux names, the last branch of the `#if` chain. -/
def desktopBuild : Build where
  staticAngle := false
  vita := false
  windows := false
  defaultEgl := "libEGL.so.1"
  defaultOgl := some "libGL.so.1"
  altOgl := some "libOpenGL.so.0"
  defaultOglEs2 := "libGLESv2.so.2"
  defaultOglEsPvr := "libGLES_CM.so.1"
  defaultOglEs := "libGLESv1_CM.so.1"
  altOglEs2 := none
  altEgl := none

/-- What the calls the loader makes outside this file give. -/
structure LoaderEnv where
  loadObject : String → Option Nat
  loadFunction : Nat → String → Bool
  openglLibraryHint : Option String
  eglLibraryHint : Option String
  d3dcompilerHint : Option String
  windowsVistaOrGreater : Bool
  callocSucceeds : Bool
  eglVersion : Nat → Option (Int × Int)
  platformattribCallback : Option (Option (List Int))
  eglGetPlatformDisplay : Nat → Nat → Option (List Int) → Nat
  platformBase : Bool
  eglGetPlatformDisplayExt : Option (Nat → Nat → Nat)
  allowGetdisplayFallback : Bool
  eglGetDisplay : Nat → Nat
  eglInitialize : Nat → Bool

/-- The fields of `SDL_EGL_VideoData` the loader writes and reads. -/
structure EGLVideoData where
  openglDllHandle : Option Nat
  eglDllHandle : Option Nat
  eglDisplay : Nat
  eglVersionMajor : Int
  eglVersionMinor : Int
  eglGetDisplay : Bool
  eglGetPlatformDisplay : Bool
  isOffscreen : Bool
  deriving DecidableEq, Repr

/-- `SDL_calloc(1, sizeof(SDL_EGL_VideoData))`. -/
def EGLVideoData.zeroed : EGLVideoData := ⟨none, none, 0, 0, 0, false, false, false⟩

/-- The reference a handle that may be NULL stands for. -/
def refOf : Option Nat → Multiset Nat
  | some h => {h}
  | none => 0

@[simp] theorem refOf_some (h : Nat) : refOf (some h) = {h} := rfl

@[simp] theorem refOf_none : refOf none = 0 := rfl

/-- The references `egl_data` holds, which `SDL_EGL_UnloadLibrary` gives back. -/
def EGLVideoData.handles (data : EGLVideoData) : Multiset Nat :=
  refOf data.openglDllHandle + refOf data.eglDllHandle

/-- The parts of `SDL_VideoDevice` the loader reads and writes, with the process's references. -/
structure VideoDevice where
  profileMask : Int
  majorVersion : Int
  driverLoaded : Nat
  driverPath : String
  eglData : Option EGLVideoData
  error : String
  loaded : Multiset Nat
  terminated : List Nat

/-- `_this->egl_data->FIELD = ...` on a device whose `egl_data` is set. -/
def VideoDevice.mapEglData (f : EGLVideoData → EGLVideoData) (d : VideoDevice) : VideoDevice :=
  { d with eglData := d.eglData.map f }

/-! ## `SDL_EGL_LoadLibraryInternal` and `SDL_EGL_LoadLibraryOnly` -/

section Loader

variable (b : Build) (env : LoaderEnv)

/-- `SDL_LoadObject(path)`. -/
def loadObject (path : String) (d : VideoDevice) : Option Nat × VideoDevice :=
  match env.loadObject path with
  | some h => (some h, { d with loaded := h ::ₘ d.loaded })
  | none => (none, d)

/-- `SDL_UnloadObject(handle)`. -/
def unloadObject (handle : Nat) (d : VideoDevice) : VideoDevice :=
  { d with loaded := d.loaded.erase handle }

/-- `if (handle) { SDL_UnloadObject(handle); }`. -/
def unloadRef : Option Nat → VideoDevice → VideoDevice
  | some h, d => unloadObject h d
  | none, d => d

/-- `SDL_LoadObject` on each path in turn while the handle is NULL. -/
def loadFirst : List String → Option String → VideoDevice → Option Nat × Option String × VideoDevice
  | [], path, d => (none, path, d)
  | p :: rest, _, d =>
      match loadObject env p d with
      | (some h, d) => (some h, some p, d)
      | (none, d) => loadFirst rest (some p) d

/-- The d3dcompiler libraries of a Windows build. -/
def d3dcompilerCandidates : List String :=
  match env.d3dcompilerHint with
  | some d3dcompiler => if d3dcompiler.toLower = "none" then [] else [d3dcompiler]
  | none =>
      if env.windowsVistaOrGreater then ["d3dcompiler_47.dll", "d3dcompiler_46.dll"]
      else ["d3dcompiler_43.dll"]

/-- Each candidate in turn until one loads; nothing unloads the handle. -/
def tryD3dcompilers : List String → VideoDevice → VideoDevice
  | [], d => d
  | p :: rest, d =>
      match loadObject env p d with
      | (some _, d) => d
      | (none, d) => tryD3dcompilers rest { d with error := "" }

/-- The `SDL_VIDEO_DRIVER_WINDOWS` block that opens `SDL_EGL_LoadLibraryInternal`. -/
def loadD3dcompiler (d : VideoDevice) : VideoDevice :=
  if b.windows then tryD3dcompilers env (d3dcompilerCandidates env) d else d

/-- The libraries tried for OpenGL. -/
def openglCandidates (d : VideoDevice) : List String :=
  env.openglLibraryHint.toList ++
    if d.profileMask = sdlGlContextProfileEs then
      if d.majorVersion > 1 then b.defaultOglEs2 :: b.altOglEs2.toList
      else b.defaultOglEs :: b.defaultOglEsPvr :: b.altOglEs2.toList
    else
      match b.defaultOgl with
      | some ogl => ogl :: b.altOgl.toList
      | none => []

/-- The libraries tried for EGL after `egl_path`. -/
def eglCandidates : List String :=
  env.eglLibraryHint.getD b.defaultEgl :: b.altEgl.toList

/-- The default EGL library, kept only if it has `eglChooseConfig`. -/
def eglFallback (path : Option String) (d : VideoDevice) :
    Option (Nat × Option String) × VideoDevice :=
  match loadFirst env (eglCandidates b env) path d with
  | (some h, path, d) =>
      if env.loadFunction h "eglChooseConfig" then (some (h, path), { d with error := "" })
      else (none, { unloadObject h d with error := "Could not load EGL library" })
  | (none, _, d) => (none, { d with error := "Could not load EGL library" })

/-- The EGL library block: the handle and `path` after it, or `none` where the function returns. -/
def loadEglLibrary (eglPath path : Option String) (d : VideoDevice) :
    Option (Nat × Option String) × VideoDevice :=
  match eglPath with
  | none => eglFallback b env path d
  | some p =>
      match loadObject env p d with
      | (some h, d) =>
          if env.loadFunction h "eglChooseConfig" then (some (h, path), d)
          else eglFallback b env path (unloadObject h d)
      | (none, d) => eglFallback b env path d

/-- The `LOAD_FUNC` lines of `SDL_EGL_LoadLibraryInternal`, in order. -/
def loadFuncNames : List String :=
  ["eglGetDisplay", "eglInitialize", "eglTerminate", "eglGetProcAddress", "eglChooseConfig",
    "eglCreateContext", "eglDestroyContext", "eglCreatePbufferSurface",
    "eglCreateWindowSurface", "eglDestroySurface", "eglMakeCurrent", "eglSwapBuffers",
    "eglSwapInterval", "eglQueryString", "eglGetConfigAttrib", "eglWaitNative", "eglWaitGL",
    "eglBindAPI", "eglGetError"]

/-- `LOAD_FUNC(TYPE, NAME)` gets a function. -/
def loadFunc (eglDllHandle : Option Nat) (name : String) : Bool :=
  !b.dynamicLoading || eglDllHandle.any fun h => env.loadFunction h name

/-- `SDL_strlcpy` into `char driver_path[256]`; `""` for a NULL `path`. -/
def copyDriverPath : Option String → String
  | some path => path.take 254
  | none => ""

/-- The `LOAD_FUNC`s, then `driver_path`. -/
def loadFunctions (egl : Option Nat) (path : Option String) (d : VideoDevice) :
    Bool × VideoDevice :=
  let d := d.mapEglData fun data => { data with eglDllHandle := egl }
  match loadFuncNames.find? fun name => !loadFunc b env egl name with
  | some name => (false, { d with error := "Could not retrieve EGL function " ++ name })
  | none =>
      (true, { d.mapEglData (fun data => { data with eglGetDisplay := true }) with
        driverPath := copyDriverPath path })

/-- `SDL_EGL_LoadLibraryInternal`, on a device whose `egl_data` is set. -/
def sdlEglLoadLibraryInternal (eglPath : Option String) (d : VideoDevice) : Bool × VideoDevice :=
  let d := loadD3dcompiler b env d
  if b.dynamicLoading then
    match loadFirst env (openglCandidates b env d) none d with
    | (none, _, d) =>
        (false, { d.mapEglData (fun data => { data with openglDllHandle := none }) with
          error := "Could not initialize OpenGL / GLES library" })
    | (some gl, path, d) =>
        match loadEglLibrary b env eglPath path
            (d.mapEglData fun data => { data with openglDllHandle := some gl }) with
        | (some (egl, path), d) => loadFunctions b env (some egl) path d
        | (none, d) => (false, d)
  else loadFunctions b env none none d

/-- `SDL_EGL_LoadLibraryOnly`. -/
def sdlEglLoadLibraryOnly (eglPath : Option String) (d : VideoDevice) : Bool × VideoDevice :=
  match d.eglData with
  | some _ => (false, { d with error := "EGL context already created" })
  | none =>
      if env.callocSucceeds then
        match sdlEglLoadLibraryInternal b env eglPath { d with eglData := some .zeroed } with
        | (true, d) => (true, d)
        | (false, d) => (false, { d with eglData := none })
      else (false, d)

/-! ## `SDL_EGL_LoadLibrary` -/

/-- `SDL_EGL_GetVersion`: `eglQueryString` is one of the functions `LOAD_FUNC` got. -/
def sdlEglGetVersion (data : EGLVideoData) : EGLVideoData :=
  match env.eglVersion data.eglDisplay with
  | some (major, minor) => { data with eglVersionMajor := major, eglVersionMinor := minor }
  | none => data

/-- The `if (platform)` block of `SDL_EGL_LoadLibrary`. -/
def platformDisplay (nativeDisplay platform : Nat) (data : EGLVideoData) :
    Option (String × Bool) × EGLVideoData :=
  if b.vita || platform = 0 then (none, data)
  else
    let data := sdlEglGetVersion env data
    let egl15 := data.eglVersionMajor = 1 && data.eglVersionMinor = 5
    if egl15 && !loadFunc b env data.eglDllHandle "eglGetPlatformDisplay" then
      (some ("Could not retrieve EGL function eglGetPlatformDisplay", false), data)
    else
      let data := if egl15 then { data with eglGetPlatformDisplay := true } else data
      if data.eglGetPlatformDisplay then
        match env.platformattribCallback with
        | some none => (some ("EGL platform attribute callback returned NULL pointer", true), data)
        | attribs =>
            (none, { data with
              eglDisplay := env.eglGetPlatformDisplay platform nativeDisplay attribs.join })
      else
        match env.platformBase, env.eglGetPlatformDisplayExt with
        | true, some getPlatformDisplayExt =>
            (none, { data with eglDisplay := getPlatformDisplayExt platform nativeDisplay })
        | _, _ => (none, data)

/-- `return SDL_SetError(message)` with `egl_data` set. -/
def failWith (message : String) (clears : Bool) (data : EGLVideoData) (d : VideoDevice) :
    Bool × VideoDevice :=
  (false,
    { d with
      eglData := some data
      error := message
      driverLoaded := if clears then 0 else d.driverLoaded
      driverPath := if clears then "" else d.driverPath })

/-- The `eglGetDisplay` fallback, `eglInitialize` and the second `SDL_EGL_GetVersion`. -/
def initializeDisplay (nativeDisplay : Nat) (data : EGLVideoData) (d : VideoDevice) :
    Bool × VideoDevice :=
  let data := if data.eglDisplay = 0 && data.eglGetDisplay && env.allowGetdisplayFallback then
      { data with eglDisplay := env.eglGetDisplay nativeDisplay }
    else data
  if data.eglDisplay = 0 then failWith "Could not get EGL display" true data d
  else if !env.eglInitialize data.eglDisplay then failWith "Could not initialize EGL" true data d
  else (true, { d with eglData := some { sdlEglGetVersion env data with isOffscreen := false } })

/-- `SDL_EGL_LoadLibrary`. -/
def sdlEglLoadLibrary (eglPath : Option String) (nativeDisplay platform : Nat)
    (d : VideoDevice) : Bool × VideoDevice :=
  match sdlEglLoadLibraryOnly b env eglPath d with
  | (false, d) => (false, d)
  | (true, d) =>
      match d.eglData with
      | none => (true, d)
      | some data =>
          match platformDisplay b env nativeDisplay platform { data with eglDisplay := 0 } with
          | (some (message, clears), data) => failWith message clears data d
          | (none, data) => initializeDisplay env nativeDisplay data d

end Loader

/-- `SDL_EGL_UnloadLibrary`. -/
def sdlEglUnloadLibrary (d : VideoDevice) : VideoDevice :=
  match d.eglData with
  | none => d
  | some data =>
      let d := if data.eglDisplay ≠ 0 then { d with terminated := d.terminated ++ [data.eglDisplay] }
        else d
      { unloadRef data.openglDllHandle (unloadRef data.eglDllHandle d) with eglData := none }

/-! ## The references `SDL_EGL_LoadLibraryOnly` takes -/

section References

variable (b : Build) (env : LoaderEnv)

theorem loadObject_eq (path : String) (d : VideoDevice) :
    loadObject env path d =
      (env.loadObject path, { d with loaded := refOf (env.loadObject path) + d.loaded }) := by
  unfold loadObject
  split <;> simp_all [Multiset.singleton_add]

theorem loadFirst_eq : ∀ (ps : List String) (path : Option String) (d : VideoDevice),
    (loadFirst env ps path d).1 = ps.findSome? env.loadObject ∧
      (loadFirst env ps path d).2.2 =
        { d with loaded := refOf (ps.findSome? env.loadObject) + d.loaded }
  | [], _, d => by simp [loadFirst]
  | p :: rest, _, d => by
      rw [loadFirst, loadObject_eq, List.findSome?_cons]
      cases env.loadObject p with
      | some h => simp
      | none => simpa using loadFirst_eq rest (some p) d

theorem tryD3dcompilers_eq : ∀ (ps : List String) (d : VideoDevice), ∃ error,
    tryD3dcompilers env ps d =
      { d with loaded := refOf (ps.findSome? env.loadObject) + d.loaded, error }
  | [], d => ⟨d.error, by simp [tryD3dcompilers]⟩
  | p :: rest, d => by
      rw [tryD3dcompilers, loadObject_eq, List.findSome?_cons]
      cases env.loadObject p with
      | some h => exact ⟨d.error, by simp⟩
      | none =>
          obtain ⟨error, tried⟩ := tryD3dcompilers_eq rest { d with error := "" }
          exact ⟨error, by simpa using tried⟩

/-- The reference the d3dcompiler block of a Windows build takes and never gives back. -/
def d3dcompilerRefs : Multiset Nat :=
  if b.windows then refOf ((d3dcompilerCandidates env).findSome? env.loadObject) else 0

theorem loadD3dcompiler_eq (d : VideoDevice) : ∃ error,
    loadD3dcompiler b env d = { d with loaded := d3dcompilerRefs b env + d.loaded, error } := by
  unfold loadD3dcompiler d3dcompilerRefs
  split
  · exact tryD3dcompilers_eq env _ d
  · exact ⟨d.error, by simp⟩

theorem eglFallback_eq (path : Option String) (d : VideoDevice) : ∃ error,
    (eglFallback b env path d).2 =
      { d with loaded := refOf ((eglFallback b env path d).1.map Prod.fst) + d.loaded, error } := by
  obtain ⟨handle, tried⟩ := loadFirst_eq env (eglCandidates b env) path d
  unfold eglFallback
  rcases found : loadFirst env (eglCandidates b env) path d with ⟨_ | h, path', d'⟩ <;>
    rw [found] at handle tried <;> dsimp only at handle tried ⊢ <;> subst tried
  · exact ⟨"Could not load EGL library", by simp [← handle]⟩
  · split
    · exact ⟨"", by simp [← handle]⟩
    · exact ⟨"Could not load EGL library", by simp [← handle, unloadObject]⟩

theorem loadEglLibrary_eq (eglPath path : Option String) (d : VideoDevice) : ∃ error,
    (loadEglLibrary b env eglPath path d).2 = { d with
      loaded := refOf ((loadEglLibrary b env eglPath path d).1.map Prod.fst) + d.loaded
      error } := by
  rcases eglPath with _ | p
  · exact eglFallback_eq b env path d
  · simp only [loadEglLibrary, loadObject_eq]
    rcases env.loadObject p with _ | h
    · simpa using eglFallback_eq b env path d
    · dsimp only
      split
      · exact ⟨d.error, by simp_all⟩
      · obtain ⟨error, fallback⟩ :=
          eglFallback_eq b env path (unloadObject h { d with loaded := {h} + d.loaded })
        exact ⟨error, by simp_all [unloadObject]⟩

theorem loadFunctions_spec (egl : Option Nat) (path : Option String) {d : VideoDevice}
    {data : EGLVideoData} (set : d.eglData = some data) :
    ∃ data', (loadFunctions b env egl path d).2.eglData = some data' ∧
      data'.openglDllHandle = data.openglDllHandle ∧ data'.eglDllHandle = egl ∧
      (loadFunctions b env egl path d).2.loaded = d.loaded := by
  unfold loadFunctions
  split <;> simp [VideoDevice.mapEglData, set]

theorem sdlEglLoadLibraryInternal_loaded (eglPath : Option String) (d : VideoDevice)
    (fresh : d.eglData = some .zeroed) :
    ∃ data, (sdlEglLoadLibraryInternal b env eglPath d).2.eglData = some data ∧
      (sdlEglLoadLibraryInternal b env eglPath d).2.loaded =
        data.handles + d3dcompilerRefs b env + d.loaded ∧
      (b.dynamicLoading →
        data.openglDllHandle = (openglCandidates b env d).findSome? env.loadObject) := by
  obtain ⟨e, d3d⟩ := loadD3dcompiler_eq b env d
  have cands : openglCandidates b env (loadD3dcompiler b env d) = openglCandidates b env d := by
    rw [d3d]; rfl
  simp only [sdlEglLoadLibraryInternal, cands]
  split
  case isTrue =>
    obtain ⟨handle, tried⟩ :=
      loadFirst_eq env (openglCandidates b env d) none (loadD3dcompiler b env d)
    rcases found : loadFirst env (openglCandidates b env d) none (loadD3dcompiler b env d) with
      ⟨_ | gl, path, d2⟩ <;> rw [found] at handle tried <;> dsimp only at handle tried ⊢ <;>
      subst tried
    · simp [VideoDevice.mapEglData, d3d, fresh, ← handle, EGLVideoData.handles,
        EGLVideoData.zeroed]
    · generalize hD : VideoDevice.mapEglData (fun data => { data with openglDllHandle := some gl })
        { loadD3dcompiler b env d with loaded := _ } = D
      have DeglData : D.eglData = some { EGLVideoData.zeroed with openglDllHandle := some gl } := by
        rw [← hD, d3d]; simp [VideoDevice.mapEglData, fresh]
      have Dloaded : D.loaded = {gl} + (d3dcompilerRefs b env + d.loaded) := by
        rw [← hD, d3d, ← handle]; rfl
      obtain ⟨e2, library⟩ := loadEglLibrary_eq b env eglPath path D
      rcases result : loadEglLibrary b env eglPath path D with ⟨_ | ⟨egl, path'⟩, d3⟩ <;>
        rw [result] at library <;> dsimp only at library ⊢ <;> subst library
      · refine ⟨_, DeglData, ?_, fun _ => by simp [handle]⟩
        simp [Dloaded, EGLVideoData.handles, EGLVideoData.zeroed]
      · obtain ⟨data, set, opengl, egl, same⟩ := loadFunctions_spec b env (some egl) path'
          (d := { D with loaded := _, error := e2 }) (by simpa using DeglData)
        refine ⟨data, set, ?_, fun _ => by simp [opengl, handle]⟩
        rw [same]
        simp [Dloaded, EGLVideoData.handles, opengl, egl, Multiset.cons_swap]
  case isFalse =>
    obtain ⟨data, set, opengl, egl, same⟩ := loadFunctions_spec b env none none
      (show (loadD3dcompiler b env d).eglData = some .zeroed by rw [d3d]; exact fresh)
    refine ⟨data, set, ?_, by simp_all⟩
    rw [same, d3d]
    simp [EGLVideoData.handles, opengl, egl, EGLVideoData.zeroed]

theorem sdlEglLoadLibraryOnly_loaded (eglPath : Option String) (d : VideoDevice)
    (empty : d.eglData = none) :
    ∃ data, (sdlEglLoadLibraryOnly b env eglPath d).2.eglData =
        (if (sdlEglLoadLibraryOnly b env eglPath d).1 then some data else none) ∧
      (sdlEglLoadLibraryOnly b env eglPath d).2.loaded =
        data.handles + (if env.callocSucceeds then d3dcompilerRefs b env else 0) + d.loaded ∧
      (env.callocSucceeds → b.dynamicLoading →
        data.openglDllHandle = (openglCandidates b env d).findSome? env.loadObject) := by
  unfold sdlEglLoadLibraryOnly
  rw [empty]
  dsimp only
  split
  · obtain ⟨data, set, loaded, opengl⟩ :=
      sdlEglLoadLibraryInternal_loaded b env eglPath { d with eglData := some .zeroed } rfl
    refine ⟨data, ?_, ?_, fun _ => opengl⟩ <;>
      rcases result : sdlEglLoadLibraryInternal b env eglPath { d with eglData := some .zeroed }
        with ⟨_ | _, d'⟩ <;> simp_all
  · exact ⟨.zeroed, by simp [empty], by simp [EGLVideoData.handles, EGLVideoData.zeroed, *],
      by simp [*]⟩

theorem sdlEglLoadLibraryOnly_refuses (eglPath : Option String) {d : VideoDevice}
    {data : EGLVideoData} (set : d.eglData = some data) :
    sdlEglLoadLibraryOnly b env eglPath d =
      (false, { d with error := "EGL context already created" }) := by
  simp [sdlEglLoadLibraryOnly, set]

theorem sdlEglLoadLibrary_refuses (eglPath : Option String) (nativeDisplay platform : Nat)
    {d : VideoDevice} {data : EGLVideoData} (set : d.eglData = some data) :
    sdlEglLoadLibrary b env eglPath nativeDisplay platform d =
      (false, { d with error := "EGL context already created" }) := by
  simp [sdlEglLoadLibrary, sdlEglLoadLibraryOnly_refuses b env eglPath set]

theorem sdlEglLoadLibraryOnly_true (eglPath : Option String) {d : VideoDevice}
    (loaded : (sdlEglLoadLibraryOnly b env eglPath d).1 = true) :
    ∃ data, (sdlEglLoadLibraryOnly b env eglPath d).2.eglData = some data := by
  rcases set : d.eglData with _ | data
  · obtain ⟨data, eglData, -, -⟩ := sdlEglLoadLibraryOnly_loaded b env eglPath d set
    exact ⟨data, by simpa [loaded] using eglData⟩
  · simp [sdlEglLoadLibraryOnly_refuses b env eglPath set] at loaded

end References

/-! ## `SDL_EGL_LoadLibrary` and `SDL_EGL_UnloadLibrary` -/

section Display

variable (b : Build) (env : LoaderEnv)

@[simp] theorem sdlEglGetVersion_openglDllHandle (data : EGLVideoData) :
    (sdlEglGetVersion env data).openglDllHandle = data.openglDllHandle := by
  unfold sdlEglGetVersion
  split <;> rfl

@[simp] theorem sdlEglGetVersion_eglDllHandle (data : EGLVideoData) :
    (sdlEglGetVersion env data).eglDllHandle = data.eglDllHandle := by
  unfold sdlEglGetVersion
  split <;> rfl

theorem platformDisplay_handles (nativeDisplay platform : Nat) (data : EGLVideoData) :
    (platformDisplay b env nativeDisplay platform data).2.handles = data.handles := by
  unfold platformDisplay
  dsimp only
  split_ifs <;> (try split) <;> simp [EGLVideoData.handles]

theorem initializeDisplay_references (nativeDisplay : Nat) (data : EGLVideoData)
    (d : VideoDevice) :
    (initializeDisplay env nativeDisplay data d).2.loaded = d.loaded ∧
      (initializeDisplay env nativeDisplay data d).2.eglData.map EGLVideoData.handles =
        some data.handles := by
  unfold initializeDisplay failWith
  dsimp only
  split_ifs <;> simp [EGLVideoData.handles]

theorem sdlEglLoadLibrary_references (eglPath : Option String) (nativeDisplay platform : Nat)
    (d : VideoDevice) :
    (sdlEglLoadLibrary b env eglPath nativeDisplay platform d).2.loaded =
        (sdlEglLoadLibraryOnly b env eglPath d).2.loaded ∧
      (sdlEglLoadLibrary b env eglPath nativeDisplay platform d).2.eglData.map
          EGLVideoData.handles =
        (sdlEglLoadLibraryOnly b env eglPath d).2.eglData.map EGLVideoData.handles := by
  unfold sdlEglLoadLibrary
  rcases sdlEglLoadLibraryOnly b env eglPath d with ⟨_ | _, d'⟩
  · simp
  · rcases set : d'.eglData with _ | data
    · simp [set]
    · simp only [set]
      have kept := platformDisplay_handles b env nativeDisplay platform { data with eglDisplay := 0 }
      rcases display : platformDisplay b env nativeDisplay platform { data with eglDisplay := 0 }
        with ⟨_ | ⟨message, clears⟩, data'⟩ <;> rw [display] at kept <;> dsimp only at kept
      · simpa [set, kept] using initializeDisplay_references env nativeDisplay data' d'
      · simpa [failWith, set] using kept

end Display

@[simp] theorem unloadRef_loaded (h : Option Nat) (d : VideoDevice) :
    (unloadRef h d).loaded = d.loaded - refOf h := by
  cases h <;> simp [unloadRef, unloadObject, Multiset.sub_singleton]

theorem sdlEglUnloadLibrary_loaded {d : VideoDevice} {data : EGLVideoData}
    (set : d.eglData = some data) (rest : Multiset Nat) (held : d.loaded = data.handles + rest) :
    (sdlEglUnloadLibrary d).eglData = none ∧ (sdlEglUnloadLibrary d).loaded = rest := by
  have givesBack : ∀ d' : VideoDevice, d'.loaded = d.loaded →
      (unloadRef data.openglDllHandle (unloadRef data.eglDllHandle d')).loaded = rest := by
    intro d' same
    rw [unloadRef_loaded, unloadRef_loaded, same, held, tsub_tsub, EGLVideoData.handles,
      add_comm (refOf data.eglDllHandle), add_tsub_cancel_left]
  simp only [sdlEglUnloadLibrary, set]
  split_ifs <;> exact ⟨trivial, givesBack _ rfl⟩

/-! ## What a failed load leaves -/

section Failure

variable (b : Build) (env : LoaderEnv)

theorem sdlEglLoadLibraryOnly_false_eglData (eglPath : Option String) {d : VideoDevice}
    (empty : d.eglData = none) (failed : (sdlEglLoadLibraryOnly b env eglPath d).1 = false) :
    (sdlEglLoadLibraryOnly b env eglPath d).2.eglData = none := by
  obtain ⟨data, eglData, -, -⟩ := sdlEglLoadLibraryOnly_loaded b env eglPath d empty
  simpa [failed] using eglData

theorem sdlEglLoadLibraryOnly_false_keeps_opengl (eglPath : Option String) {d : VideoDevice}
    {gl : Nat} (empty : d.eglData = none) (calloc : env.callocSucceeds = true)
    (dynamic : b.dynamicLoading = true)
    (found : (openglCandidates b env d).findSome? env.loadObject = some gl)
    (failed : (sdlEglLoadLibraryOnly b env eglPath d).1 = false) :
    (sdlEglLoadLibraryOnly b env eglPath d).2.eglData = none ∧
      gl ::ₘ d.loaded ≤ (sdlEglLoadLibraryOnly b env eglPath d).2.loaded := by
  obtain ⟨data, eglData, loaded, opengl⟩ := sdlEglLoadLibraryOnly_loaded b env eglPath d empty
  refine ⟨by simpa [failed] using eglData, ?_⟩
  rw [loaded, EGLVideoData.handles, opengl calloc dynamic, found, if_pos calloc, refOf_some,
    Multiset.singleton_add, Multiset.cons_add, Multiset.cons_add]
  exact Multiset.cons_le_cons gl (Multiset.le_add_left _ _)

theorem sdlEglLoadLibrary_past_only_refuses (eglPath : Option String)
    (nativeDisplay platform : Nat) {d : VideoDevice}
    (only : (sdlEglLoadLibraryOnly b env eglPath d).1 = true) (env' : LoaderEnv)
    (eglPath' : Option String) (nativeDisplay' platform' : Nat) :
    sdlEglLoadLibrary b env' eglPath' nativeDisplay' platform'
        (sdlEglLoadLibrary b env eglPath nativeDisplay platform d).2 =
      (false, { (sdlEglLoadLibrary b env eglPath nativeDisplay platform d).2 with
        error := "EGL context already created" }) := by
  obtain ⟨data, set⟩ := sdlEglLoadLibraryOnly_true b env eglPath only
  have kept := (sdlEglLoadLibrary_references b env eglPath nativeDisplay platform d).2
  rw [set] at kept
  obtain ⟨data', set', -⟩ := Option.map_eq_some'.1 kept
  exact sdlEglLoadLibrary_refuses b env' eglPath' nativeDisplay' platform' set'

theorem sdlEglLoadLibrary_then_unload (eglPath : Option String) (nativeDisplay platform : Nat)
    {d : VideoDevice} (empty : d.eglData = none)
    (only : (sdlEglLoadLibraryOnly b env eglPath d).1 = true) :
    (sdlEglUnloadLibrary (sdlEglLoadLibrary b env eglPath nativeDisplay platform d).2).eglData =
        none ∧
      (sdlEglUnloadLibrary (sdlEglLoadLibrary b env eglPath nativeDisplay platform d).2).loaded =
        d3dcompilerRefs b env + d.loaded := by
  have calloc : env.callocSucceeds = true := by
    by_contra noMemory
    simp [sdlEglLoadLibraryOnly, empty, noMemory] at only
  obtain ⟨data, eglData, loaded, -⟩ := sdlEglLoadLibraryOnly_loaded b env eglPath d empty
  obtain ⟨sameLoaded, sameHandles⟩ :=
    sdlEglLoadLibrary_references b env eglPath nativeDisplay platform d
  rw [eglData, if_pos only] at sameHandles
  obtain ⟨data', set', handles'⟩ := Option.map_eq_some'.1 sameHandles
  refine sdlEglUnloadLibrary_loaded set' _ ?_
  rw [sameLoaded, loaded, handles', if_pos calloc, add_assoc]

@[simp] theorem sdlEglUnloadLibrary_of_none {d : VideoDevice} (empty : d.eglData = none) :
    sdlEglUnloadLibrary d = d := by
  simp [sdlEglUnloadLibrary, empty]

/-- A failed load keeps the libraries it loaded; only `SDL_EGL_UnloadLibrary` after
a successful `SDL_EGL_LoadLibraryOnly` gives them back. -/
theorem sdlEglLoad_failures_keep_libraries (eglPath : Option String) {d : VideoDevice}
    (empty : d.eglData = none) :
    ((sdlEglLoadLibraryOnly b env eglPath d).1 = false →
      (sdlEglLoadLibraryOnly b env eglPath d).2.eglData = none ∧
      sdlEglUnloadLibrary (sdlEglLoadLibraryOnly b env eglPath d).2 =
        (sdlEglLoadLibraryOnly b env eglPath d).2 ∧
      ∀ gl, env.callocSucceeds = true → b.dynamicLoading = true →
        (openglCandidates b env d).findSome? env.loadObject = some gl →
        gl ::ₘ d.loaded ≤ (sdlEglLoadLibraryOnly b env eglPath d).2.loaded) ∧
    ((sdlEglLoadLibraryOnly b env eglPath d).1 = true → ∀ nativeDisplay platform,
      (sdlEglLoadLibrary b env eglPath nativeDisplay platform d).2.loaded =
        (sdlEglLoadLibraryOnly b env eglPath d).2.loaded ∧
      (∀ env' eglPath' nativeDisplay' platform',
        sdlEglLoadLibrary b env' eglPath' nativeDisplay' platform'
            (sdlEglLoadLibrary b env eglPath nativeDisplay platform d).2 =
          (false, { (sdlEglLoadLibrary b env eglPath nativeDisplay platform d).2 with
            error := "EGL context already created" })) ∧
      (sdlEglUnloadLibrary (sdlEglLoadLibrary b env eglPath nativeDisplay platform d).2).loaded =
        d3dcompilerRefs b env + d.loaded) := by
  refine ⟨fun failed => ?_, fun only nativeDisplay platform =>
    ⟨(sdlEglLoadLibrary_references b env eglPath nativeDisplay platform d).1,
      sdlEglLoadLibrary_past_only_refuses b env eglPath nativeDisplay platform only,
      (sdlEglLoadLibrary_then_unload b env eglPath nativeDisplay platform empty only).2⟩⟩
  have freed := sdlEglLoadLibraryOnly_false_eglData b env eglPath empty failed
  exact ⟨freed, sdlEglUnloadLibrary_of_none freed, fun gl calloc dynamic found =>
    (sdlEglLoadLibraryOnly_false_keeps_opengl b env eglPath empty calloc dynamic found failed).2⟩

end Failure

/-- A desktop Linux process where `eglGetDisplay` gives `EGL_NO_DISPLAY`. -/
def noDisplayEnv (eglInstalled : Bool) : LoaderEnv where
  loadObject path :=
    if path = "libGL.so.1" then some 1
    else if eglInstalled && path = "libEGL.so.1" then some 2
    else none
  loadFunction _ _ := true
  openglLibraryHint := none
  eglLibraryHint := none
  d3dcompilerHint := none
  windowsVistaOrGreater := false
  callocSucceeds := true
  eglVersion _ := none
  platformattribCallback := none
  eglGetPlatformDisplay _ _ _ := 0
  platformBase := false
  eglGetPlatformDisplayExt := none
  allowGetdisplayFallback := true
  eglGetDisplay _ := 0
  eglInitialize _ := false

/-- A device with no EGL library loaded, set up for a desktop OpenGL context. -/
def unloadedDevice : VideoDevice := ⟨0, 0, 0, "", none, "", 0, []⟩

theorem failed_egl_loads_keep_libraries :
    (sdlEglLoadLibraryOnly desktopBuild (noDisplayEnv false) none unloadedDevice).1 = false ∧
    (sdlEglLoadLibraryOnly desktopBuild (noDisplayEnv false) none unloadedDevice).2.eglData =
      none ∧
    (sdlEglLoadLibraryOnly desktopBuild (noDisplayEnv false) none unloadedDevice).2.loaded = {1} ∧
    (sdlEglUnloadLibrary
      (sdlEglLoadLibraryOnly desktopBuild (noDisplayEnv false) none unloadedDevice).2).loaded =
      {1} ∧
    (sdlEglLoadLibrary desktopBuild (noDisplayEnv true) none 0 0 unloadedDevice).1 = false ∧
    (sdlEglLoadLibrary desktopBuild (noDisplayEnv true) none 0 0 unloadedDevice).2.error =
      "Could not get EGL display" ∧
    (sdlEglLoadLibrary desktopBuild (noDisplayEnv true) none 0 0 unloadedDevice).2.loaded =
      {1, 2} ∧
    (sdlEglLoadLibrary desktopBuild (noDisplayEnv true) none 0 0 unloadedDevice).2.eglData.isSome ∧
    (sdlEglLoadLibrary desktopBuild (noDisplayEnv true) none 0 0
      (sdlEglLoadLibrary desktopBuild (noDisplayEnv true) none 0 0 unloadedDevice).2) =
      (false, { (sdlEglLoadLibrary desktopBuild (noDisplayEnv true) none 0 0 unloadedDevice).2 with
        error := "EGL context already created" }) := by
  refine ⟨by decide, ((sdlEglLoad_failures_keep_libraries desktopBuild (noDisplayEnv false) none
    rfl).1 (by decide)).1, by decide, by decide, by decide, by decide, by decide, by decide,
    ((sdlEglLoad_failures_keep_libraries desktopBuild (noDisplayEnv true) none rfl).2 (by decide)
      0 0).2.1 (noDisplayEnv true) none 0 0⟩

end SdlRender.Egl
