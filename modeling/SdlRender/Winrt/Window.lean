import SdlRender.Egl.Session

/-!
# The WinRT video driver's window

The driver keeps its one `SDL_Window` in `WINRT_GlobalSDLWindow`: `WINRT_CreateWindow` refuses
a second, and `WINRT_DestroyWindow` clears it. What WinRT, EGL and the SDL core give is an
environment; the flags are the `Uint64` of `SDL_WindowFlags`.
-/

namespace SdlRender.Winrt

/-! ## Flags and build macros -/

/-- `SDL_WINDOW_FULLSCREEN` (values from `SDL_video.h`). -/
def sdlWindowFullscreen : BitVec 64 := BitVec.ofNat 64 0x1

def sdlWindowOpengl : BitVec 64 := BitVec.ofNat 64 0x2

def sdlWindowHidden : BitVec 64 := BitVec.ofNat 64 0x8

def sdlWindowBorderless : BitVec 64 := BitVec.ofNat 64 0x10

def sdlWindowResizable : BitVec 64 := BitVec.ofNat 64 0x20

def sdlWindowMaximized : BitVec 64 := BitVec.ofNat 64 0x80

def sdlWindowMouseFocus : BitVec 64 := BitVec.ofNat 64 0x400

/-- `WINRT_DetectableFlags`. -/
def winrtDetectableFlags : BitVec 64 :=
  sdlWindowMaximized ||| sdlWindowFullscreen ||| sdlWindowHidden ||| sdlWindowMouseFocus

/-- `DisplayOrientations::Landscape` and the others (values from WinRT). -/
def displayOrientationsLandscape : Nat := 1

def displayOrientationsPortrait : Nat := 2

def displayOrientationsLandscapeFlipped : Nat := 4

def displayOrientationsPortraitFlipped : Nat := 8

/-- `NTDDI_WIN8`, `NTDDI_WINBLUE` and `NTDDI_WIN10` (values from `sdkddkver.h`). -/
def ntddiWin8 : Nat := 0x06020000

def ntddiWinblue : Nat := 0x06030000

def ntddiWin10 : Nat := 0x0A000000

/-- The build macros the window functions read. -/
structure WinrtBuild where
  useApplicationView : Bool
  phone : Bool
  ntddiVersion : Nat
  openglEgl : Bool
  openglWgl : Bool
  xboxSeries : Bool

/-! ## `WINRT_DetectWindowFlags` and `WINRT_UpdateWindowFlags` -/

/-- What `WINRT_DetectWindowFlags` reads of the window, its display and WinRT. -/
structure DetectEnv where
  appView : Bool
  isFullScreenMode : Bool
  coreWindow : Bool
  width : Int
  height : Int
  currentOrientation : Nat
  desktopW : Int
  desktopH : Int
  visible : Bool
  pointerInside : Bool

section Detect

variable (b : WinrtBuild)

/-- `is_fullscreen` as the build computes it. -/
def detectFullscreen (e : DetectEnv) : Bool :=
  if b.useApplicationView then e.appView && e.isFullScreenMode
  else b.phone || b.ntddiVersion = ntddiWin8

/-- Whether the size is rotated before it is compared with the desktop mode. -/
def rotatesSize (currentOrientation : Nat) : Bool :=
  (!b.phone || decide (b.ntddiVersion > ntddiWin8)) &&
    if b.phone then
      currentOrientation = displayOrientationsLandscape ||
        currentOrientation = displayOrientationsLandscapeFlipped
    else
      currentOrientation = displayOrientationsPortrait ||
        currentOrientation = displayOrientationsPortraitFlipped

/-- Windows Phone 8.0 sets `SDL_WINDOW_MOUSE_FOCUS` without reading the pointer. -/
def alwaysMouseFocus : Bool :=
  b.phone && decide (b.ntddiVersion < ntddiWinblue)

/-- `WINRT_DetectWindowFlags`. -/
def winrtDetectWindowFlags (e : DetectEnv) : BitVec 64 :=
  if !e.coreWindow then 0
  else
    let size :=
      if rotatesSize b e.currentOrientation then (e.height, e.width) else (e.width, e.height)
    let latestFlags : BitVec 64 :=
      if detectFullscreen b e then
        if e.desktopW ≠ size.1 ∨ e.desktopH ≠ size.2 then sdlWindowMaximized
        else sdlWindowFullscreen
      else 0
    let latestFlags :=
      if e.visible then latestFlags &&& ~~~sdlWindowHidden else latestFlags ||| sdlWindowHidden
    if alwaysMouseFocus b || (e.visible && e.pointerInside) then latestFlags ||| sdlWindowMouseFocus
    else latestFlags

end Detect

/-- `WINRT_UpdateWindowFlags`; the `Uint32 apply` keeps the low 32 bits. -/
def winrtUpdateWindowFlags (detected mask flags : BitVec 64) : BitVec 64 :=
  let mask := mask &&& winrtDetectableFlags
  let apply : BitVec 32 := detected.setWidth 32
  (flags &&& ~~~mask) ||| (apply.setWidth 64 &&& mask)

/-! ## `WINRT_CreateWindow` and `WINRT_DestroyWindow` -/

/-- The fields of `SDL_Window` these functions read and write. -/
structure SDLWindow where
  id : Nat
  flags : BitVec 64
  x : Int
  y : Int
  w : Int
  h : Int
  internal : Bool
  eglSurface : Nat

/-- `WINRT_GlobalSDLWindow`, the error, and the focus the SDL core keeps. -/
structure WinrtVideo where
  globalWindow : Option Nat
  error : String
  keyboardFocus : Option Nat
  mouseFocus : Option Nat

/-- What WinRT, EGL and the SDL core give `WINRT_CreateWindow`. -/
structure CreateWindowEnv where
  xamlWasEnabled : Bool
  detect : DetectEnv
  eglData : Bool
  privateChooseConfig : Bool → Bool
  winrtEglWindow : Bool
  eglCreateWindowSurface : Nat
  eglGetError : Int
  boundsLeft : Int
  boundsTop : Int
  boundsWidth : Int
  boundsHeight : Int
  tryResizeView : Bool
  activationState : Option Bool

section Create

variable (b : WinrtBuild)

/-- Whether `WINRT_CreateWindow` takes the XAML branch. -/
def xamlBranch (e : CreateWindowEnv) : Bool :=
  e.xamlWasEnabled && !b.xboxSeries

/-- `data->coreWindow` is set: not on the XAML branch, and `GetForCurrentThread` gave one. -/
def hasCoreWindow (e : CreateWindowEnv) : Bool :=
  !xamlBranch b e && e.detect.coreWindow

/-- The `#ifdef SDL_VIDEO_OPENGL_EGL` block: the `egl_surface`, or the error it returns. -/
def eglWindowSurface (e : CreateWindowEnv) (flags : BitVec 64) : Except String Nat :=
  if !b.openglEgl || (flags &&& sdlWindowOpengl) = 0 then .ok 0
  else
    match Egl.sdlEglChooseConfig e.eglData (e.privateChooseConfig true)
        (e.privateChooseConfig false) e.eglGetError with
    | some message => .error message
    | none =>
      if e.winrtEglWindow || hasCoreWindow b e then
        if e.eglCreateWindowSurface = 0 then
          .error (Egl.sdlEglSetErrorEx "unable to create EGL native-window surface"
            "eglCreateWindowSurface" e.eglGetError)
        else .ok e.eglCreateWindowSurface
      else .error "No supported means to create an EGL window surface are available"

/-- The flags `WINRT_CreateWindow` starts from once the surface is made. -/
def createdFlags (eglSurface : Nat) : BitVec 64 :=
  let flags := sdlWindowBorderless ||| sdlWindowResizable
  let flags := if b.openglEgl && eglSurface ≠ 0 then flags ||| sdlWindowOpengl else flags
  if b.openglWgl then flags ||| sdlWindowOpengl else flags

/-- `WINRT_IsCoreWindowActive`. -/
def winrtIsCoreWindowActive (activationState : Option Bool) : Bool :=
  activationState.getD true

/-- The created size; `none` when `appView` is NULL. -/
def createdSize (e : CreateWindowEnv) (requestedFlags : BitVec 32) (window : SDLWindow) :
    Option (Int × Int) :=
  if b.ntddiVersion < ntddiWin10 then some (e.boundsWidth, e.boundsHeight)
  else if requestedFlags &&& sdlWindowFullscreen.setWidth 32 = 0 then
    if !e.detect.appView then none
    else if e.tryResizeView then some (window.w, window.h)
    else some (e.boundsWidth, e.boundsHeight)
  else some (e.boundsWidth, e.boundsHeight)

/-- `WINRT_CreateWindow`. -/
def winrtCreateWindow (e : CreateWindowEnv) (v : WinrtVideo) (window : SDLWindow) :
    Option (Bool × WinrtVideo × SDLWindow) :=
  if v.globalWindow.isSome then
    some (false, { v with error := "WinRT only supports one window" }, window)
  else
    let window := { window with internal := true }
    let requestedFlags := window.flags.setWidth 32
    match eglWindowSurface b e window.flags with
    | .error message => some (false, { v with error := message }, window)
    | .ok eglSurface =>
        let window := { window with eglSurface, flags := createdFlags b eglSurface }
        if xamlBranch b e then
          some (true,
            { v with
              globalWindow := some window.id
              mouseFocus := none
              keyboardFocus := none },
            { window with x := 0, y := 0, flags := window.flags &&& ~~~sdlWindowHidden })
        else if !e.detect.coreWindow then none
        else
          (createdSize b e requestedFlags window).map fun (w, h) =>
            let window := { window with
              x := e.boundsLeft, y := e.boundsTop, w, h
              flags := winrtUpdateWindowFlags (winrtDetectWindowFlags b e.detect)
                (BitVec.ofNat 64 0xffffffff) window.flags }
            (true, { v with
                globalWindow := some window.id
                keyboardFocus :=
                  if winrtIsCoreWindowActive e.activationState then some window.id
                  else v.keyboardFocus },
              window)

end Create

/-- `WINRT_DestroyWindow`. -/
def winrtDestroyWindow (v : WinrtVideo) (window : SDLWindow) : WinrtVideo × SDLWindow :=
  ({ v with globalWindow := if v.globalWindow = some window.id then none else v.globalWindow },
    { window with internal := false })

/-! ## `WINRT_UpdateWindowFlags` -/

theorem winrtDetectableFlags_low :
    (winrtDetectableFlags.setWidth 32).setWidth 64 = winrtDetectableFlags := by
  decide

/-- `WINRT_UpdateWindowFlags` sets the detectable bits of the mask and keeps the rest. -/
theorem winrtUpdateWindowFlags_eq (detected mask flags : BitVec 64) :
    winrtUpdateWindowFlags detected mask flags =
      (flags &&& ~~~(mask &&& winrtDetectableFlags)) |||
        (detected &&& (mask &&& winrtDetectableFlags)) := by
  unfold winrtUpdateWindowFlags
  rw [← winrtDetectableFlags_low]
  ext i
  by_cases low : i.val < 32 <;>
    simp [low, BitVec.getLsbD_setWidth]

theorem winrtUpdateWindowFlags_and_outside {detected mask flags bits : BitVec 64}
    (outside : bits &&& (mask &&& winrtDetectableFlags) = 0) :
    winrtUpdateWindowFlags detected mask flags &&& bits = flags &&& bits := by
  rw [winrtUpdateWindowFlags_eq]
  ext i
  have bit := congrArg (BitVec.getLsbD · i) outside
  simp only [BitVec.getLsbD_and, BitVec.getLsbD_zero] at bit
  simp only [BitVec.getLsbD_and, BitVec.getLsbD_or, BitVec.getLsbD_not]
  revert bit
  cases bits.getLsbD i <;> cases mask.getLsbD i <;> cases winrtDetectableFlags.getLsbD i <;> simp

theorem winrtUpdateWindowFlags_and_inside {detected mask flags bits : BitVec 64}
    (inside : bits &&& (mask &&& winrtDetectableFlags) = bits) :
    winrtUpdateWindowFlags detected mask flags &&& bits = detected &&& bits := by
  rw [winrtUpdateWindowFlags_eq]
  ext i
  have bit := congrArg (BitVec.getLsbD · i) inside
  simp only [BitVec.getLsbD_and] at bit
  simp only [BitVec.getLsbD_and, BitVec.getLsbD_or, BitVec.getLsbD_not]
  revert bit
  cases bits.getLsbD i <;> cases mask.getLsbD i <;> cases winrtDetectableFlags.getLsbD i <;> simp

/-! ## `WINRT_CreateWindow` -/

section Created

variable (b : WinrtBuild)

theorem not_both_after_focus {latestFlags : BitVec 64}
    (found : latestFlags = 0 ∨ latestFlags = sdlWindowMaximized ∨
      latestFlags = sdlWindowFullscreen) (visible focus : Bool) :
    let shown := if visible then latestFlags &&& ~~~sdlWindowHidden
      else latestFlags ||| sdlWindowHidden
    let flags := if focus then shown ||| sdlWindowMouseFocus else shown
    flags &&& sdlWindowMaximized = 0 ∨ flags &&& sdlWindowFullscreen = 0 := by
  rcases found with rfl | rfl | rfl <;> cases visible <;> cases focus <;> decide

theorem winrtDetectWindowFlags_not_both (e : DetectEnv) :
    winrtDetectWindowFlags b e &&& sdlWindowMaximized = 0 ∨
      winrtDetectWindowFlags b e &&& sdlWindowFullscreen = 0 := by
  unfold winrtDetectWindowFlags
  split
  · decide
  · refine not_both_after_focus ?_ e.visible (alwaysMouseFocus b || (e.visible && e.pointerInside))
    split_ifs <;> simp

theorem createdFlags_cases (eglSurface : Nat) :
    createdFlags b eglSurface = sdlWindowBorderless ||| sdlWindowResizable ∨
      createdFlags b eglSurface = sdlWindowBorderless ||| sdlWindowResizable ||| sdlWindowOpengl := by
  unfold createdFlags
  split_ifs <;> simp only [true_or, or_true, BitVec.or_assoc, BitVec.or_self]

theorem winrtCreateWindow_true {e : CreateWindowEnv} {v v' : WinrtVideo}
    {window window' : SDLWindow} (created : winrtCreateWindow b e v window = some (true, v', window')) :
    v.globalWindow = none ∧ v'.globalWindow = some window.id ∧
      ∃ eglSurface, window'.flags = createdFlags b eglSurface &&& ~~~sdlWindowHidden ∨
        window'.flags = winrtUpdateWindowFlags (winrtDetectWindowFlags b e.detect)
          (BitVec.ofNat 64 0xffffffff) (createdFlags b eglSurface) := by
  unfold winrtCreateWindow at created
  by_cases refused : v.globalWindow.isSome
  · rw [if_pos refused] at created
    cases created
  rw [if_neg refused] at created
  have free : v.globalWindow = none := by simpa using refused
  dsimp only at created
  split at created
  · cases created
  next eglSurface _ =>
  by_cases xaml : xamlBranch b e = true
  · rw [if_pos xaml] at created
    cases created
    exact ⟨free, rfl, eglSurface, .inl rfl⟩
  rw [if_neg xaml] at created
  by_cases noCore : (!e.detect.coreWindow) = true
  · rw [if_pos noCore] at created
    cases created
  rw [if_neg noCore] at created
  obtain ⟨size, -, made⟩ := Option.map_eq_some'.1 created
  cases made
  exact ⟨free, rfl, eglSurface, .inr rfl⟩

theorem winrtCreateWindow_false {e : CreateWindowEnv} {v v' : WinrtVideo}
    {window window' : SDLWindow} (refused : winrtCreateWindow b e v window = some (false, v', window')) :
    v'.globalWindow = v.globalWindow := by
  unfold winrtCreateWindow at refused
  by_cases taken : v.globalWindow.isSome
  · rw [if_pos taken] at refused
    cases refused
    rfl
  rw [if_neg taken] at refused
  dsimp only at refused
  split at refused
  · cases refused
    rfl
  by_cases xaml : xamlBranch b e = true
  · rw [if_pos xaml] at refused
    cases refused
  rw [if_neg xaml] at refused
  by_cases noCore : (!e.detect.coreWindow) = true
  · rw [if_pos noCore] at refused
    cases refused
  rw [if_neg noCore] at refused
  obtain ⟨size, -, made⟩ := Option.map_eq_some'.1 refused
  cases made

/-- A created window is borderless and resizable, and never maximized and fullscreen. -/
theorem winrtCreateWindow_flags {e : CreateWindowEnv} {v v' : WinrtVideo}
    {window window' : SDLWindow} (created : winrtCreateWindow b e v window = some (true, v', window')) :
    window'.flags &&& (sdlWindowBorderless ||| sdlWindowResizable) =
        sdlWindowBorderless ||| sdlWindowResizable ∧
      (window'.flags &&& sdlWindowMaximized = 0 ∨ window'.flags &&& sdlWindowFullscreen = 0) := by
  obtain ⟨-, -, eglSurface, xaml | detected⟩ := winrtCreateWindow_true b created
  · rw [xaml]
    rcases createdFlags_cases b eglSurface with start | start <;> rw [start] <;> decide
  · rw [detected]
    constructor
    · rw [winrtUpdateWindowFlags_and_outside]
      · rcases createdFlags_cases b eglSurface with start | start <;> rw [start] <;> decide
      · decide
    · rw [winrtUpdateWindowFlags_and_inside, winrtUpdateWindowFlags_and_inside]
      · exact winrtDetectWindowFlags_not_both b e.detect
      all_goals decide

end Created

/-! ## A run of window calls -/

/-- The calls of the SDL core on the driver's windows. -/
inductive WindowCall where
  | create (e : CreateWindowEnv) (window : SDLWindow)
  | destroy (window : SDLWindow)

/-- One call: whether it succeeded, and the driver's state after it. -/
def windowStep (b : WinrtBuild) (v : WinrtVideo) : WindowCall → Option (Bool × WinrtVideo)
  | .create e window => (winrtCreateWindow b e v window).map fun (created, v, _) => (created, v)
  | .destroy window => some (true, (winrtDestroyWindow v window).1)

/-- A run of calls: what each returned, and the driver's state after them. -/
def windowRun (b : WinrtBuild) (v : WinrtVideo) : List WindowCall → Option (List Bool × WinrtVideo)
  | [] => some ([], v)
  | call :: calls =>
      (windowStep b v call).bind fun (result, v) =>
        (windowRun b v calls).map fun (results, v) => (result :: results, v)

/-- The windows open after a run, from those open before it. -/
def openWindows : List WindowCall → List Bool → List Nat → List Nat
  | .create _ window :: calls, created :: results, opened =>
      openWindows calls results (if created then opened ++ [window.id] else opened)
  | .destroy window :: calls, _ :: results, opened =>
      openWindows calls results (opened.erase window.id)
  | _, _, opened => opened

section Runs

variable (b : WinrtBuild)

theorem openWindows_cons (call : WindowCall) (calls : List WindowCall) (result : Bool)
    (results : List Bool) (opened : List Nat) :
    openWindows (call :: calls) (result :: results) opened =
      openWindows calls results (openWindows [call] [result] opened) := by
  cases call <;> rfl

theorem windowStep_open {v v' : WinrtVideo} {call : WindowCall} {result : Bool}
    (stepped : windowStep b v call = some (result, v')) :
    openWindows [call] [result] v.globalWindow.toList = v'.globalWindow.toList := by
  cases call with
  | create e window =>
    obtain ⟨⟨created, v'', window'⟩, ran, returned⟩ := Option.map_eq_some'.1 stepped
    cases returned
    cases result
    · simp [openWindows, winrtCreateWindow_false b ran]
    · obtain ⟨free, set, -⟩ := winrtCreateWindow_true b ran
      simp [openWindows, free, set]
  | destroy window =>
    cases stepped
    simp only [openWindows, winrtDestroyWindow]
    rcases v.globalWindow with _ | current
    · rfl
    · by_cases same : current = window.id
      · simp [same]
      · simp [same, List.erase_cons, Ne.symm same]

/-- The windows left open are exactly `WINRT_GlobalSDLWindow`: never more than one. -/
theorem windowRun_open_windows {v v' : WinrtVideo} {calls : List WindowCall}
    {results : List Bool} (ran : windowRun b v calls = some (results, v')) :
    openWindows calls results v.globalWindow.toList = v'.globalWindow.toList ∧
      (openWindows calls results v.globalWindow.toList).length ≤ 1 := by
  have opened : openWindows calls results v.globalWindow.toList = v'.globalWindow.toList := by
    induction calls generalizing v results with
    | nil =>
      cases ran
      rfl
    | cons call calls ih =>
      obtain ⟨⟨result, v₁⟩, stepped, continued⟩ := Option.bind_eq_some.1 ran
      obtain ⟨⟨rest, _⟩, ranRest, joined⟩ := Option.map_eq_some'.1 continued
      cases joined
      rw [openWindows_cons, windowStep_open b stepped]
      exact ih ranRest
  refine ⟨opened, ?_⟩
  rw [opened]
  cases v'.globalWindow <;> simp

end Runs

/-! ### A desktop build -/

def desktopWinrt : WinrtBuild := ⟨true, false, ntddiWin10, true, false, false⟩

def sampleCreateEnv : CreateWindowEnv :=
  ⟨false, ⟨true, false, true, 1280, 720, displayOrientationsLandscape, 1920, 1080, true, false⟩,
    true, fun _ => true, false, 3, 0x3000, 0, 0, 1280, 720, true, none⟩

def sampleWindow (id : Nat) : SDLWindow :=
  ⟨id, sdlWindowOpengl, 0, 0, 1280, 720, false, 0⟩

def noWindow : WinrtVideo := ⟨none, "", none, none⟩

theorem winrtCreateWindow_flags_sample : ∃ v' window',
    winrtCreateWindow desktopWinrt sampleCreateEnv noWindow (sampleWindow 1) =
        some (true, v', window') ∧
      window'.flags &&& (sdlWindowBorderless ||| sdlWindowResizable) =
        sdlWindowBorderless ||| sdlWindowResizable ∧
      (window'.flags &&& sdlWindowMaximized = 0 ∨ window'.flags &&& sdlWindowFullscreen = 0) := by
  obtain ⟨v', window', created⟩ : ∃ v' window',
      winrtCreateWindow desktopWinrt sampleCreateEnv noWindow (sampleWindow 1) =
        some (true, v', window') :=
    ⟨_, _, rfl⟩
  exact ⟨v', window', created, winrtCreateWindow_flags desktopWinrt created⟩

def sampleWindowCalls : List WindowCall :=
  [.create sampleCreateEnv (sampleWindow 1), .create sampleCreateEnv (sampleWindow 2),
    .destroy (sampleWindow 1), .create sampleCreateEnv (sampleWindow 2)]

theorem windowRun_open_windows_sample : ∃ results v',
    windowRun desktopWinrt noWindow sampleWindowCalls = some (results, v') ∧
      openWindows sampleWindowCalls results noWindow.globalWindow.toList =
        v'.globalWindow.toList ∧
      (openWindows sampleWindowCalls results noWindow.globalWindow.toList).length ≤ 1 := by
  obtain ⟨results, v', ran⟩ : ∃ results v',
      windowRun desktopWinrt noWindow sampleWindowCalls = some (results, v') :=
    ⟨_, _, rfl⟩
  exact ⟨results, v', ran, windowRun_open_windows desktopWinrt ran⟩

end SdlRender.Winrt
