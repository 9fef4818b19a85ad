import SdlRender.Winrt.Displays

/-!
# The WinRT video device from creation to deletion

`WINRT_CreateDevice`, `WINRT_VideoInit`, `WINRT_VideoQuit` and `WINRT_DeleteDevice` over the
COM references and heap blocks SDL holds. SDL_video.c is not under src/; it calls them in the
order `winrtVideoSession` runs.
-/

namespace SdlRender.Winrt

/-! ## `WINRT_CreateDisplayRequest` -/

/-- What the calls of `WINRT_CreateDisplayRequest` give. -/
structure DisplayRequestEnv where
  windowsCreateString : Bool
  getActivationFactory : Except Int Nat
  activateInstance : Except Int Nat
  queryInterface : Except Int Nat

/-- The locals the `done:` label reads. -/
structure DisplayRequestLocals where
  hClassName : Bool
  pActivationFactory : Option Nat
  pDisplayRequestRaw : Option Nat
  pDisplayRequest : Option Nat

/-- `WINRT_CreateDisplayRequest` up to `done:`, each failure jumping there. -/
def displayRequestBody (env : DisplayRequestEnv) (s : DisplaysState) :
    DisplayRequestLocals × DisplaysState :=
  if !env.windowsCreateString then (⟨false, none, none, none⟩, s)
  else
    let s := s.alloc
    match env.getActivationFactory with
    | .error _ => (⟨true, none, none, none⟩, s)
    | .ok factory =>
      let s := s.acquire factory
      match env.activateInstance with
      | .error _ => (⟨true, some factory, none, none⟩, s)
      | .ok raw =>
        let s := s.acquire raw
        match env.queryInterface with
        | .error _ => (⟨true, some factory, some raw, none⟩, s)
        | .ok displayRequest => (⟨true, some factory, some raw, some displayRequest⟩,
            s.acquire displayRequest)

/-- The `done:` label of `WINRT_CreateDisplayRequest`. -/
def displayRequestDone : DisplayRequestLocals × DisplaysState → Option Nat × DisplaysState
  | (l, s) =>
    let s := match l.pDisplayRequestRaw with
      | some raw => s.release raw
      | none => s
    let s := match l.pActivationFactory with
      | some factory => s.release factory
      | none => s
    let s := if l.hClassName then s.free else s
    (l.pDisplayRequest, s)

/-- `WINRT_CreateDisplayRequest`. -/
def winrtCreateDisplayRequest (env : DisplayRequestEnv) (s : DisplaysState) :
    Option Nat × DisplaysState :=
  displayRequestDone (displayRequestBody env s)

/-- The display request when every call succeeds. -/
def displayRequestOf (env : DisplayRequestEnv) : Option Nat :=
  match env.windowsCreateString, env.getActivationFactory, env.activateInstance,
    env.queryInterface with
  | true, .ok _, .ok _, .ok displayRequest => some displayRequest
  | _, _, _, _ => none

theorem winrtCreateDisplayRequest_eq (env : DisplayRequestEnv) (s : DisplaysState) :
    (winrtCreateDisplayRequest env s).1 = displayRequestOf env ∧
      Effect s (winrtCreateDisplayRequest env s).2 [] (displayRequestOf env).toList := by
  obtain ⟨created, factory, raw, queried⟩ := env
  unfold winrtCreateDisplayRequest displayRequestBody displayRequestOf
  cases created
  · simp [displayRequestDone, Effect]
  · cases factory with
    | error hr => simp [displayRequestDone, Effect]
    | ok factory =>
      cases raw with
      | error hr => simp [displayRequestDone, Effect]
      | ok raw =>
        cases queried with
        | error hr => simp [displayRequestDone, Effect]
        | ok displayRequest =>
          simp only [displayRequestDone, Effect, DisplaysState.acquire, DisplaysState.release,
            DisplaysState.alloc, DisplaysState.free, Multiset.cons_swap displayRequest raw,
            Multiset.erase_cons_head, Multiset.cons_swap displayRequest factory]
          simp

/-! ## The device -/

/-- The fields of `SDL_VideoData` these functions read. -/
structure WinrtVideoData where
  winrtEglWindow : Option Nat
  displayRequest : Option Nat

/-- `SDL_VideoDevice`, its `internal` pointer. -/
structure WinrtDevice where
  internal : Option WinrtVideoData

/-- `WINRT_CreateDevice`: two `SDL_calloc`s, the first freed when the second fails. -/
def winrtCreateDevice (callocDevice callocData : Bool) (s : DisplaysState) :
    Option WinrtDevice × DisplaysState :=
  if !callocDevice then (none, s)
  else if !callocData then (none, s.alloc.free)
  else (some ⟨some ⟨none, none⟩⟩, s.alloc.alloc)

/-- `WINRT_DeleteDevice`. -/
def winrtDeleteDevice (device : WinrtDevice) (s : DisplaysState) : DisplaysState :=
  let s := match device.internal with
    | some videoData =>
      let s := match videoData.winrtEglWindow with
        | some eglWindow => s.release eglWindow
        | none => s
      s.free
    | none => s
  s.free

section Session

variable (dxgi : DxgiEnv) (request : DisplayRequestEnv)

/-- `WINRT_VideoInit`: the result, the device and the state after it. -/
def winrtVideoInit (device : WinrtDevice) (s : DisplaysState) :
    Bool × WinrtDevice × DisplaysState :=
  let modes := winrtInitModes dxgi s
  if !modes.1 then (false, device, modes.2)
  else
    match device.internal with
    | some videoData =>
      let created := winrtCreateDisplayRequest request modes.2
      (true, ⟨some { videoData with displayRequest := created.1 }⟩, created.2)
    | none => (true, device, modes.2)

/-- `WINRT_VideoQuit`. -/
def winrtVideoQuit (device : WinrtDevice) (s : DisplaysState) : WinrtDevice × DisplaysState :=
  match device.internal with
  | some videoData =>
    match videoData.displayRequest with
    | some displayRequest =>
      (⟨some { videoData with displayRequest := none }⟩, s.release displayRequest)
    | none => (device, s)
  | none => (device, s)

/-- The display request a device holds. -/
def WinrtDevice.displayRequest (device : WinrtDevice) : Option Nat :=
  device.internal.bind WinrtVideoData.displayRequest

/-- The references a device holds. -/
def WinrtDevice.held (device : WinrtDevice) : Multiset Nat :=
  match device.internal with
  | some videoData => videoData.winrtEglWindow.toList + videoData.displayRequest.toList
  | none => 0

/-- The heap blocks a device holds: the device, and its `SDL_VideoData`. -/
def WinrtDevice.blocks (device : WinrtDevice) : Nat :=
  match device.internal with
  | some _ => 2
  | none => 1

/-- The state holds what the device holds, and `others` and `otherBlocks` beside it. -/
def WinrtDevice.Holds (device : WinrtDevice) (s : DisplaysState) (others : Multiset Nat)
    (otherBlocks : Nat) : Prop :=
  s.comHeld = device.held + others ∧ s.heapBlocks = device.blocks + otherBlocks

def initModesKept : Multiset Nat :=
  match dxgi.createDxgiFactory1 with
  | .ok factory => workaroundKept dxgi + {factory}
  | .error _ => 0

/-- The order SDL_video.c calls the driver in, from `SDL_VideoInit` to `SDL_VideoQuit`. -/
def winrtVideoSession (callocDevice callocData : Bool) (s : DisplaysState) : DisplaysState :=
  match winrtCreateDevice callocDevice callocData s with
  | (none, s) => s
  | (some device, s) =>
    let init := winrtVideoInit dxgi request device s
    let quit := winrtVideoQuit init.2.1 init.2.2
    winrtDeleteDevice quit.1 quit.2

theorem winrtInitModes_kept (s : DisplaysState) :
    (winrtInitModes dxgi s).2.comHeld = initModesKept dxgi + s.comHeld ∧
      (winrtInitModes dxgi s).2.heapBlocks = s.heapBlocks := by
  unfold initModesKept
  cases created : dxgi.createDxgiFactory1 with
  | error hr => simp [winrtInitModes, created]
  | ok factory =>
    obtain ⟨-, -, comHeld, heapBlocks⟩ := winrtInitModes_eq dxgi created (s := s)
    exact ⟨comHeld, heapBlocks⟩

theorem winrtCreateDevice_holds (callocDevice callocData : Bool) (s : DisplaysState) :
    match winrtCreateDevice callocDevice callocData s with
    | (some device, s') => (callocDevice && callocData) = true ∧
        device.Holds s' s.comHeld s.heapBlocks ∧ device.displayRequest = none
    | (none, s') => (callocDevice && callocData) = false ∧ s'.comHeld = s.comHeld ∧
        s'.heapBlocks = s.heapBlocks := by
  unfold winrtCreateDevice
  cases callocDevice <;> cases callocData <;>
    simp [WinrtDevice.Holds, WinrtDevice.held, WinrtDevice.blocks, WinrtDevice.displayRequest]
  omega

theorem winrtVideoInit_holds {device : WinrtDevice} {s : DisplaysState} {others : Multiset Nat}
    {otherBlocks : Nat} (holds : device.Holds s others otherBlocks)
    (fresh : device.displayRequest = none) :
    (winrtVideoInit dxgi request device s).2.1.Holds (winrtVideoInit dxgi request device s).2.2
      (initModesKept dxgi + others) otherBlocks := by
  obtain ⟨comHeld, heapBlocks⟩ := winrtInitModes_kept dxgi s
  obtain ⟨held, blocks⟩ := holds
  unfold winrtVideoInit
  dsimp only
  split_ifs
  · exact ⟨by rw [comHeld, held, add_left_comm], by rw [heapBlocks, blocks]⟩
  · rcases device with ⟨_ | ⟨eglWindow, displayRequest⟩⟩
    · exact ⟨by rw [comHeld, held, add_left_comm], by rw [heapBlocks, blocks]⟩
    · obtain ⟨created, -, comHeld', heapBlocks'⟩ :=
        winrtCreateDisplayRequest_eq request (winrtInitModes dxgi s).2
      obtain rfl : displayRequest = none := fresh
      refine ⟨?_, by simp only [heapBlocks', heapBlocks, blocks, WinrtDevice.blocks]⟩
      simp only [WinrtDevice.held, Option.toList_none, Multiset.coe_nil, add_zero] at held ⊢
      rw [comHeld', comHeld, held, created]
      ac_rfl

theorem winrtVideoQuit_holds {device : WinrtDevice} {s : DisplaysState} {others : Multiset Nat}
    {otherBlocks : Nat} (holds : device.Holds s others otherBlocks) :
    (winrtVideoQuit device s).1.Holds (winrtVideoQuit device s).2 others otherBlocks ∧
      (winrtVideoQuit device s).1.displayRequest = none := by
  obtain ⟨held, blocks⟩ := holds
  rcases device with ⟨_ | ⟨eglWindow, _ | displayRequest⟩⟩
  · exact ⟨⟨held, blocks⟩, rfl⟩
  · exact ⟨⟨held, blocks⟩, rfl⟩
  · refine ⟨⟨?_, blocks⟩, rfl⟩
    simp only [winrtVideoQuit, WinrtDevice.held, DisplaysState.release, held,
      Option.toList_some, Multiset.coe_singleton]
    rw [add_comm (eglWindow.toList : Multiset Nat), add_assoc, Multiset.singleton_add,
      Multiset.erase_cons_head]
    simp

theorem winrtDeleteDevice_holds {device : WinrtDevice} {s : DisplaysState}
    {others : Multiset Nat} {otherBlocks : Nat} (holds : device.Holds s others otherBlocks)
    (released : device.displayRequest = none) :
    (winrtDeleteDevice device s).comHeld = others ∧
      (winrtDeleteDevice device s).heapBlocks = otherBlocks := by
  obtain ⟨held, blocks⟩ := holds
  rcases device with ⟨_ | ⟨_ | eglWindow, displayRequest⟩⟩ <;>
    simp_all [winrtDeleteDevice, WinrtDevice.held, WinrtDevice.blocks, WinrtDevice.displayRequest]

/-- A WinRT video session frees every block and releases every reference but those
`WINRT_InitModes` keeps. -/
theorem winrtVideoSession_references (callocDevice callocData : Bool) (s : DisplaysState) :
    (winrtVideoSession dxgi request callocDevice callocData s).comHeld =
        (if callocDevice && callocData then initModesKept dxgi else 0) + s.comHeld ∧
      (winrtVideoSession dxgi request callocDevice callocData s).heapBlocks = s.heapBlocks := by
  have created := winrtCreateDevice_holds callocDevice callocData s
  unfold winrtVideoSession
  rcases creation : winrtCreateDevice callocDevice callocData s with ⟨_ | device, s₁⟩ <;>
    rw [creation] at created <;> dsimp only
  · obtain ⟨failed, comHeld, heapBlocks⟩ := created
    simp [failed, comHeld, heapBlocks]
  · obtain ⟨succeeded, holds, fresh⟩ := created
    obtain ⟨quitHolds, released⟩ :=
      winrtVideoQuit_holds (winrtVideoInit_holds dxgi request holds fresh)
    obtain ⟨comHeld, heapBlocks⟩ := winrtDeleteDevice_holds quitHolds released
    simp [succeeded, comHeld, heapBlocks]

end Session

end SdlRender.Winrt
