import Mathlib.Data.Multiset.Basic

/-!
# The X11 video device

`X11_CreateDevice` loads the Xlib symbols, opens two connections and allocates the device;
`X11_DeleteDevice` gives it all back. `X11_CheckWindowManager` reads
`_NET_SUPPORTING_WM_CHECK` under an error handler of its own. Xlib and the SDL core are
outside src/, and the state counts what they hand out.
-/

namespace SdlRender.X11

/-! ## What the device holds -/

structure X11Resources where
  symbolsRefs : Nat
  displaysOpen : Multiset Nat
  heapBlocks : Nat

namespace X11Resources

/-- `SDL_X11_LoadSymbols` that succeeds. -/
@[simp] def loadSymbols (r : X11Resources) : X11Resources :=
  { r with symbolsRefs := r.symbolsRefs + 1 }

/-- `SDL_X11_UnloadSymbols`. -/
@[simp] def unloadSymbols (r : X11Resources) : X11Resources :=
  { r with symbolsRefs := r.symbolsRefs - 1 }

/-- `X11_XOpenDisplay` that returns a connection. -/
@[simp] def openDisplay (r : X11Resources) (display : Nat) : X11Resources :=
  { r with displaysOpen := display ::ₘ r.displaysOpen }

/-- `X11_XCloseDisplay`. -/
@[simp] def closeDisplay (r : X11Resources) (display : Nat) : X11Resources :=
  { r with displaysOpen := r.displaysOpen.erase display }

/-- `SDL_calloc` that succeeds. -/
@[simp] def alloc (r : X11Resources) : X11Resources :=
  { r with heapBlocks := r.heapBlocks + 1 }

/-- `SDL_free` of an allocated block. -/
@[simp] def free (r : X11Resources) : X11Resources :=
  { r with heapBlocks := r.heapBlocks - 1 }

end X11Resources

/-- What the calls of `X11_CreateDevice` give. -/
structure X11CreateEnv where
  loadSymbols : Bool
  openDisplay : Option Nat
  callocDevice : Bool
  callocData : Bool
  openRequestDisplay : Option Nat
  steamDeck : Bool
  xQueryExtension : Nat → String → Bool

/-- `X11_IsXWayland`. -/
def x11IsXWayland (env : X11CreateEnv) (d : Nat) : Bool :=
  env.xQueryExtension d "XWAYLAND"

/-- The fields of `SDL_VideoData` these functions read and write. -/
structure X11VideoData where
  display : Option Nat
  requestDisplay : Option Nat
  globalMouseChanged : Bool
  isSteamDeck : Bool
  isXwayland : Bool
  netWm : Bool
  windowlist : Bool

/-- The `VIDEO_DEVICE_CAPS_*` `X11_CreateDevice` sets. -/
inductive VideoDeviceCap where
  | hasPopupWindowSupport
  | modeSwitchingEmulated
  | disableMouseWarpOnFullscreenTransitions
  | sendsFullscreenDimensions
  deriving DecidableEq, Repr

/-- `SDL_VideoDevice`: its `internal` data and `device_caps`. -/
structure X11Device where
  internal : X11VideoData
  deviceCaps : List VideoDeviceCap

/-- `device->device_caps` after `X11_CreateDevice`. -/
def deviceCapsOf (isXwayland : Bool) : List VideoDeviceCap :=
  .hasPopupWindowSupport ::
    if isXwayland then
      [.modeSwitchingEmulated, .disableMouseWarpOnFullscreenTransitions,
        .sendsFullscreenDimensions]
    else []

/-- `X11_CreateDevice`. -/
def x11CreateDevice (env : X11CreateEnv) (r : X11Resources) : Option X11Device × X11Resources :=
  if !env.loadSymbols then (none, r)
  else
    let r := r.loadSymbols
    match env.openDisplay with
    | none => (none, r.unloadSymbols)
    | some x11Display =>
      let r := r.openDisplay x11Display
      if !env.callocDevice then (none, r)
      else
        let r := r.alloc
        if !env.callocData then (none, r.free)
        else
          let r := r.alloc
          match env.openRequestDisplay with
          | none => (none, (r.closeDisplay x11Display).free.free.unloadSymbols)
          | some requestDisplay =>
            let isXwayland := x11IsXWayland env x11Display
            (some ⟨⟨some x11Display, some requestDisplay, true, env.steamDeck, isXwayland, false,
                false⟩, deviceCapsOf isXwayland⟩,
              r.openDisplay requestDisplay)

/-- `X11_DeleteDevice`. -/
def x11DeleteDevice (device : X11Device) (r : X11Resources) : X11Resources :=
  let data := device.internal
  let r := match data.display with
    | some display => r.closeDisplay display
    | none => r
  let r := match data.requestDisplay with
    | some requestDisplay => r.closeDisplay requestDisplay
    | none => r
  let r := if data.windowlist then r.free else r
  r.free.free.unloadSymbols

/-- What a failed `X11_CreateDevice` leaves. -/
def createLeaked (env : X11CreateEnv) (r : X11Resources) : X11Resources :=
  match env.loadSymbols, env.openDisplay with
  | true, some x11Display =>
    if env.callocDevice && env.callocData then r else r.loadSymbols.openDisplay x11Display
  | _, _ => r

/-- `X11_DeleteDevice` gives back what `X11_CreateDevice` took; a failed creation leaks
only when `SDL_calloc` fails. -/
theorem x11CreateDevice_resources (env : X11CreateEnv) (r : X11Resources) :
    (∀ device ∈ (x11CreateDevice env r).1, x11DeleteDevice device (x11CreateDevice env r).2 = r) ∧
      ((x11CreateDevice env r).1 = none → (x11CreateDevice env r).2 = createLeaked env r) := by
  obtain ⟨loaded, opened, callocDevice, callocData, requested, steamDeck, query⟩ := env
  obtain ⟨refs, displays, blocks⟩ := r
  unfold x11CreateDevice createLeaked
  cases loaded
  · simp
  · cases opened with
    | none => simp
    | some x11Display =>
      cases callocDevice
      · simp
      · cases callocData
        · simp
        · cases requested with
          | none => simp
          | some requestDisplay =>
            simp [x11DeleteDevice, Multiset.cons_swap requestDisplay x11Display]

/-! ## `X11_CheckWindowManager` -/

/-- What `X11_XGetWindowProperty` gives when it returns `Success`. -/
structure PropertyReply where
  windows : List Nat
  propdata : Option Nat

/-- The X server as `X11_CheckWindowManager` sees it. -/
structure WindowManagerEnv where
  defaultRootWindow : Nat
  getWindowProperty : Nat → Except Int PropertyReply

/-- An X error handler: `X11_CheckWindowManagerErrorHandler`, or another. -/
inductive XErrorHandler where
  | checkWindowManager
  | other (handler : Nat)
  deriving DecidableEq, Repr

/-- The error handler Xlib calls, `handler`, and the buffers not yet freed. -/
structure XlibState where
  errorHandler : XErrorHandler
  handler : XErrorHandler
  buffers : Multiset Nat

/-- `X11_XGetWindowProperty`: Xlib allocates `propdata` for a reply that has one. -/
def getProperty (env : WindowManagerEnv) (w : Nat) (x : XlibState) :
    Except Int PropertyReply × XlibState :=
  match env.getWindowProperty w with
  | .ok reply =>
    (.ok reply, match reply.propdata with
      | some propdata => { x with buffers := propdata ::ₘ x.buffers }
      | none => x)
  | .error status => (.error status, x)

/-- `if (propdata) X11_XFree(propdata)`. -/
def xFreeIf (propdata : Option Nat) (x : XlibState) : XlibState :=
  match propdata with
  | some propdata => { x with buffers := x.buffers.erase propdata }
  | none => x

/-- The first read: the window `_NET_SUPPORTING_WM_CHECK` of the root names, `0` for none. -/
def rootCheck (env : WindowManagerEnv) (x : XlibState) : Nat × XlibState :=
  match getProperty env env.defaultRootWindow x with
  | (.ok reply, x) => (reply.windows.headD 0, xFreeIf reply.propdata x)
  | (.error _, x) => (0, x)

/-- The second read: `wm_window` when its own property names it, `None` otherwise. -/
def windowCheck (env : WindowManagerEnv) (wmWindow : Nat) (x : XlibState) : Nat × XlibState :=
  if wmWindow = 0 then (wmWindow, x)
  else
    match getProperty env wmWindow x with
    | (.ok reply, x) =>
      (if reply.windows.head? = some wmWindow then wmWindow else 0, xFreeIf reply.propdata x)
    | (.error _, x) => (0, x)

/-- `X11_CheckWindowManager`. -/
def x11CheckWindowManager (env : WindowManagerEnv) (device : X11Device) (x : XlibState) :
    X11Device × XlibState :=
  let x := { x with handler := x.errorHandler, errorHandler := .checkWindowManager }
  let root := rootCheck env x
  let checked := windowCheck env root.1 root.2
  let x := { checked.2 with errorHandler := checked.2.handler }
  if checked.1 = 0 then (device, x)
  else ({ device with internal := { device.internal with netWm := true } }, x)

/-- The window manager's check window, when it names itself. -/
def confirmedWindowManager (env : WindowManagerEnv) : Option Nat :=
  match env.getWindowProperty env.defaultRootWindow with
  | .ok reply =>
    let wmWindow := reply.windows.headD 0
    if wmWindow = 0 then none
    else
      match env.getWindowProperty wmWindow with
      | .ok reply' => if reply'.windows.head? = some wmWindow then some wmWindow else none
      | .error _ => none
  | .error _ => none

theorem xFreeIf_getProperty (env : WindowManagerEnv) (w : Nat) (x : XlibState) :
    match getProperty env w x with
    | (.ok reply, x') => xFreeIf reply.propdata x' = x ∧ env.getWindowProperty w = .ok reply
    | (.error status, x') => x' = x ∧ env.getWindowProperty w = .error status := by
  unfold getProperty
  rcases env.getWindowProperty w with status | ⟨windows, _ | propdata⟩ <;> simp [xFreeIf]

theorem windowCheck_rootCheck (env : WindowManagerEnv) (x : XlibState) :
    let root := rootCheck env x
    (windowCheck env root.1 root.2).2 = x ∧
      ((windowCheck env root.1 root.2).1 ≠ 0 ↔ (confirmedWindowManager env).isSome) := by
  have first := xFreeIf_getProperty env env.defaultRootWindow x
  unfold rootCheck confirmedWindowManager
  revert first
  rcases getProperty env env.defaultRootWindow x with ⟨_ | reply, x'⟩
  · rintro ⟨rfl, read⟩
    simp [read, windowCheck]
  · rintro ⟨freed, read⟩
    simp only [read, freed]
    generalize reply.windows.headD 0 = wmWindow
    unfold windowCheck
    by_cases none : wmWindow = 0
    · simp [none]
    · have second := xFreeIf_getProperty env wmWindow x
      simp only [none, if_false]
      revert second
      rcases getProperty env wmWindow x with ⟨_ | reply', x''⟩
      · rintro ⟨rfl, read'⟩
        simp [read']
      · rintro ⟨freed', read'⟩
        by_cases named : reply'.windows.head? = some wmWindow <;> simp [none, read', freed', named]

/-- `X11_CheckWindowManager` restores the error handler, frees every property buffer and
sets only `net_wm`. -/
theorem x11CheckWindowManager_eq (env : WindowManagerEnv) (device : X11Device)
    (x : XlibState) :
    (x11CheckWindowManager env device x).2 = { x with handler := x.errorHandler } ∧
      (x11CheckWindowManager env device x).1 =
        { device with internal := { device.internal with
            netWm := device.internal.netWm || (confirmedWindowManager env).isSome } } := by
  obtain ⟨restored, found⟩ :=
    windowCheck_rootCheck env { x with handler := x.errorHandler, errorHandler := .checkWindowManager }
  unfold x11CheckWindowManager
  dsimp only at found restored ⊢
  split_ifs with none
  · have unconfirmed : (confirmedWindowManager env).isSome = false := by simpa [none] using found
    simp [restored, unconfirmed]
  · simp [restored, found.1 none]

end SdlRender.X11
