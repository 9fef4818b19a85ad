import Mathlib.Data.Multiset.Basic
import SdlRender.Sysrender

/-!
# The WinRT video driver's displays

`WINRT_InitModes` enumerates the DXGI adapters and `WINRT_AddDisplaysForAdapter` the outputs
of each, adding one display per output until a call fails; a workaround display stands in
when the first output of the first adapter fails. What DXGI and the SDL core give is an
environment, and the state counts the COM references and heap blocks SDL holds.
-/

namespace SdlRender.Winrt

/-! ## Values from the Windows headers -/

/-- `DXGI_ERROR_NOT_FOUND`, as the 32-bit signed `HRESULT` it is. -/
def dxgiErrorNotFound : Int := 0x887A0002 - 0x100000000

/-- `DXGI_ERROR_NOT_CURRENTLY_AVAILABLE`. -/
def dxgiErrorNotCurrentlyAvailable : Int := 0x887A0022 - 0x100000000

def dxgiFormatB8g8r8a8Unorm : Nat := 87

def dxgiFormatB8g8r8x8Unorm : Nat := 88

/-- `D3D11_DXGIFormatToSDLPixelFormat`; `none` is `SDL_PIXELFORMAT_UNKNOWN`. -/
def d3d11DxgiFormatToSdlPixelFormat (dxgiFormat : Nat) : Option SDLPixelFormat :=
  if dxgiFormat = dxgiFormatB8g8r8a8Unorm then some .argb8888
  else if dxgiFormat = dxgiFormatB8g8r8x8Unorm then some .xrgb8888
  else none

/-- `(UINT)x` for a `LONG` `x`. -/
def uintOf (x : Int) : Nat :=
  (x % 0x100000000).toNat

/-! ## Modes and displays -/

/-- `DXGI_MODE_DESC`, the fields SDL writes and reads. -/
structure DXGIModeDesc where
  width : Nat
  height : Nat
  refreshRateNumerator : Nat
  refreshRateDenominator : Nat
  format : Nat
  deriving DecidableEq, Repr

/-- `SDL_DisplayMode`, the fields these functions write. -/
structure SDLDisplayMode where
  format : Option SDLPixelFormat
  w : Int
  h : Int
  refreshRateNumerator : Int
  refreshRateDenominator : Int
  deriving DecidableEq, Repr

/-- `WINRT_DXGIModeToSDLDisplayMode`. -/
def winrtDxgiModeToSdlDisplayMode (dxgiMode : DXGIModeDesc) : SDLDisplayMode :=
  ⟨d3d11DxgiFormatToSdlPixelFormat dxgiMode.format, dxgiMode.width, dxgiMode.height,
    dxgiMode.refreshRateNumerator, dxgiMode.refreshRateDenominator⟩

/-- The mode both fallbacks build. -/
def sizedMode (w h : Int) : SDLDisplayMode :=
  ⟨d3d11DxgiFormatToSdlPixelFormat dxgiFormatB8g8r8a8Unorm, w, h, 0, 0⟩

/-- `SDL_VideoDisplay`, its name `none` when it is `NULL`. -/
structure SDLVideoDisplay where
  name : Option String
  desktopMode : SDLDisplayMode
  fullscreenModes : List SDLDisplayMode
  deriving DecidableEq, Repr

/-! ## What DXGI gives -/

/-- `DXGI_OUTPUT_DESC`. -/
structure DXGIOutputDesc where
  deviceName : String
  left : Int
  top : Int
  right : Int
  bottom : Int

/-- The calls on one `IDXGIOutput`, and the SDL calls made for it. -/
structure OutputEnv where
  handle : Nat
  getDesc : Except Int DXGIOutputDesc
  findClosestMatchingMode : DXGIModeDesc → Except Int DXGIModeDesc
  displayModeCount : Except Int Nat
  displayModeList : Except Int (List DXGIModeDesc)
  callocSucceeds : Bool
  addVideoDisplay : Bool
  nameAllocates : Bool

/-- One `IDXGIAdapter1`: its outputs, then what `EnumOutputs` returns past them. -/
structure AdapterEnv where
  handle : Nat
  outputs : List OutputEnv
  outputsEnd : Int

/-- `IDXGIAdapter1::EnumOutputs`. -/
def AdapterEnv.enumOutputs (adapter : AdapterEnv) (outputIndex : Nat) : Except Int OutputEnv :=
  match adapter.outputs[outputIndex]? with
  | some output => .ok output
  | none => .error adapter.outputsEnd

/-- What `WINRT_InitModes` and the calls under it get from outside src/. -/
structure DxgiEnv where
  hresultMessage : Int → String
  createDxgiFactory1 : Except Int Nat
  adapters : List AdapterEnv
  adaptersEnd : Int
  workaroundWidth : Int
  workaroundHeight : Int
  addWorkaroundDisplay : Bool
  workaroundNameAllocates : Bool

/-- `IDXGIFactory2::EnumAdapters1`. -/
def DxgiEnv.enumAdapters1 (env : DxgiEnv) (adapterIndex : Nat) : Except Int AdapterEnv :=
  match env.adapters[adapterIndex]? with
  | some adapter => .ok adapter
  | none => .error env.adaptersEnd

/-! ## The state -/

/-- The displays added, the error, the COM references SDL holds and its heap blocks. -/
structure DisplaysState where
  displays : List SDLVideoDisplay
  error : String
  comHeld : Multiset Nat
  heapBlocks : Nat

namespace DisplaysState

/-- `WIN_SetErrorFromHRESULT(message, hr)`. -/
@[simp] def setErrorFromHresult (s : DisplaysState) (hresultMessage : Int → String)
    (message : String) (hr : Int) : DisplaysState :=
  { s with error := message ++ ": " ++ hresultMessage hr }

/-- A call that returns an interface with a reference to it. -/
@[simp] def acquire (s : DisplaysState) (handle : Nat) : DisplaysState :=
  { s with comHeld := handle ::ₘ s.comHeld }

/-- `->Release()`. -/
@[simp] def release (s : DisplaysState) (handle : Nat) : DisplaysState :=
  { s with comHeld := s.comHeld.erase handle }

/-- `SDL_calloc`. -/
@[simp] def alloc (s : DisplaysState) : DisplaysState :=
  { s with heapBlocks := s.heapBlocks + 1 }

/-- `SDL_free`. -/
@[simp] def free (s : DisplaysState) : DisplaysState :=
  { s with heapBlocks := s.heapBlocks - 1 }

/-- `SDL_strdup` or `WIN_StringToUTF8W`, which take a block unless they return `NULL`. -/
@[simp] def allocIf (s : DisplaysState) (allocated : Bool) : DisplaysState :=
  if allocated then s.alloc else s

/-- `if (display.name) SDL_free(display.name)`. -/
@[simp] def freeIf (s : DisplaysState) (allocated : Bool) : DisplaysState :=
  if allocated then s.free else s

/-- `SDL_AddVideoDisplay` that succeeds. -/
@[simp] def addDisplay (s : DisplaysState) (display : SDLVideoDisplay) : DisplaysState :=
  { s with displays := s.displays ++ [display] }

end DisplaysState

/-! ## The enumeration -/

section Enumeration

variable (env : DxgiEnv)

/-- The locals the `done:` label of `WINRT_AddDisplaysForOutput` reads. -/
structure OutputLocals where
  result : Bool
  dxgiModes : Bool
  named : Bool

/-- `modeToMatch`: the output's desktop size in `DXGI_FORMAT_B8G8R8A8_UNORM`. -/
def modeToMatch (desc : DXGIOutputDesc) : DXGIModeDesc :=
  ⟨uintOf (desc.right - desc.left), uintOf (desc.bottom - desc.top), 0, 0, dxgiFormatB8g8r8a8Unorm⟩

/-- The name `SDL_strdup` or `WIN_StringToUTF8W` returns. -/
def allocatedName (allocates : Bool) (name : String) : Option String :=
  if allocates then some name else none

/-- The display of the Windows Simulator branch. -/
def simulatorDisplay (output : OutputEnv) (desc : DXGIOutputDesc) : SDLVideoDisplay :=
  ⟨allocatedName output.nameAllocates "Windows Simulator / Terminal Services Display",
    sizedMode (desc.right - desc.left) (desc.bottom - desc.top), []⟩

/-- `if (SDL_AddVideoDisplay(&display, false) == 0) goto done; result = true;` -/
def addOutputDisplay (output : OutputEnv) (display : SDLVideoDisplay) (dxgiModes : Bool)
    (s : DisplaysState) : OutputLocals × DisplaysState :=
  if output.addVideoDisplay then (⟨true, dxgiModes, display.name.isSome⟩, s.addDisplay display)
  else (⟨false, dxgiModes, display.name.isSome⟩, s)

/-- `WINRT_AddDisplaysForOutput` from `GetDesc` to the `done:` label. -/
def outputBody (output : OutputEnv) (s : DisplaysState) : OutputLocals × DisplaysState :=
  match output.getDesc with
  | .error hr =>
      (⟨false, false, false⟩, s.setErrorFromHresult env.hresultMessage
        "WINRT_AddDisplaysForOutput, IDXGIOutput::GetDesc failed" hr)
  | .ok desc =>
      match output.findClosestMatchingMode (modeToMatch desc) with
      | .error hr =>
          if hr = dxgiErrorNotCurrentlyAvailable then
            addOutputDisplay output (simulatorDisplay output desc) false
              (s.allocIf output.nameAllocates)
          else
            (⟨false, false, false⟩, s.setErrorFromHresult env.hresultMessage
              "WINRT_AddDisplaysForOutput, IDXGIOutput::FindClosestMatchingMode failed" hr)
      | .ok closestMatch =>
          let s := s.allocIf output.nameAllocates
          match output.displayModeCount with
          | .error hr =>
              (⟨false, false, output.nameAllocates⟩, s.setErrorFromHresult env.hresultMessage
                ("WINRT_AddDisplaysForOutput, IDXGIOutput::GetDisplayModeList " ++
                  "[get mode list size] failed") hr)
          | .ok _ =>
              if !output.callocSucceeds then (⟨false, false, output.nameAllocates⟩, s)
              else
                let s := s.alloc
                match output.displayModeList with
                | .error hr =>
                    (⟨false, true, output.nameAllocates⟩, s.setErrorFromHresult env.hresultMessage
                      ("WINRT_AddDisplaysForOutput, IDXGIOutput::GetDisplayModeList " ++
                        "[get mode contents] failed") hr)
                | .ok dxgiModes =>
                    addOutputDisplay output
                      ⟨allocatedName output.nameAllocates desc.deviceName,
                        winrtDxgiModeToSdlDisplayMode closestMatch,
                        dxgiModes.map winrtDxgiModeToSdlDisplayMode⟩ true s

/-- The `done:` label: free `dxgiModes`, release the output, free `display.name`. -/
def outputDone (output : OutputEnv) : OutputLocals × DisplaysState → Bool × DisplaysState
  | (locals, s) =>
      let s := if locals.dxgiModes then s.free else s
      let s := s.release output.handle
      (locals.result, if locals.named then s.free else s)

/-- `WINRT_AddDisplaysForOutput`. -/
def winrtAddDisplaysForOutput (adapter : AdapterEnv) (outputIndex : Nat) (s : DisplaysState) :
    Bool × DisplaysState :=
  match adapter.enumOutputs outputIndex with
  | .error hr =>
      (false, if hr ≠ dxgiErrorNotFound then
          s.setErrorFromHresult env.hresultMessage
            "WINRT_AddDisplaysForOutput, IDXGIAdapter1::EnumOutputs failed" hr
        else s)
  | .ok output => outputDone output (outputBody env output (s.acquire output.handle))

/-- The output loop of `WINRT_AddDisplaysForAdapter`, with fuel: the index it stopped at. -/
def outputLoop (adapter : AdapterEnv) : Nat → Nat → DisplaysState → Nat × DisplaysState
  | 0, outputIndex, s => (outputIndex, s)
  | fuel + 1, outputIndex, s =>
      match winrtAddDisplaysForOutput env adapter outputIndex s with
      | (true, s) => outputLoop adapter fuel (outputIndex + 1) s
      | (false, s) => (outputIndex, s)

/-- The display the workaround adds when the first output of the first adapter fails. -/
def workaroundDisplay : SDLVideoDisplay :=
  ⟨allocatedName env.workaroundNameAllocates "DXGI Display-detection Workaround",
    sizedMode env.workaroundWidth env.workaroundHeight, []⟩

/-- `WINRT_AddDisplaysForAdapter`, with one round per output and one more. -/
def winrtAddDisplaysForAdapter (adapterIndex : Nat) (s : DisplaysState) : Bool × DisplaysState :=
  match env.enumAdapters1 adapterIndex with
  | .error hr =>
      (false, if hr ≠ dxgiErrorNotFound then
          s.setErrorFromHresult env.hresultMessage
            "WINRT_AddDisplaysForAdapter, IDXGIFactory1::EnumAdapters1() failed" hr
        else s)
  | .ok adapter =>
      let (outputIndex, s) :=
        outputLoop env adapter (adapter.outputs.length + 1) 0 (s.acquire adapter.handle)
      if adapterIndex = 0 ∧ outputIndex = 0 then
        let s := s.allocIf env.workaroundNameAllocates
        if env.addWorkaroundDisplay then
          (true, ((s.addDisplay (workaroundDisplay env)).freeIf env.workaroundNameAllocates).release
            adapter.handle)
        else
          (false, { s.freeIf env.workaroundNameAllocates with
            error := "Failed to apply DXGI Display-detection workaround" })
      else (true, s.release adapter.handle)

/-- The adapter loop of `WINRT_InitModes`, with fuel. -/
def adapterLoop : Nat → Nat → DisplaysState → DisplaysState
  | 0, _, s => s
  | fuel + 1, adapterIndex, s =>
      match winrtAddDisplaysForAdapter env adapterIndex s with
      | (true, s) => adapterLoop fuel (adapterIndex + 1) s
      | (false, s) => s

/-- `WINRT_InitModes`, the adapter loop run to its end. -/
def winrtInitModes (s : DisplaysState) : Bool × DisplaysState :=
  match env.createDxgiFactory1 with
  | .error hr =>
      (false, s.setErrorFromHresult env.hresultMessage "WINRT_InitModes, CreateDXGIFactory1() failed" hr)
  | .ok factory => (true, adapterLoop env (env.adapters.length + 1) 0 (s.acquire factory))

end Enumeration

/-! ## What the enumeration adds -/

/-- `display` when `SDL_AddVideoDisplay` takes it. -/
def addedIf (output : OutputEnv) (display : SDLVideoDisplay) : Option SDLVideoDisplay :=
  if output.addVideoDisplay then some display else none

/-- The display `WINRT_AddDisplaysForOutput` adds, `none` when it returns false. -/
def outputAdds (output : OutputEnv) : Option SDLVideoDisplay :=
  match output.getDesc with
  | .error _ => none
  | .ok desc =>
      match output.findClosestMatchingMode (modeToMatch desc) with
      | .error hr =>
          if hr = dxgiErrorNotCurrentlyAvailable then addedIf output (simulatorDisplay output desc)
          else none
      | .ok closestMatch =>
          match output.displayModeCount with
          | .error _ => none
          | .ok _ =>
              if !output.callocSucceeds then none
              else
                match output.displayModeList with
                | .error _ => none
                | .ok dxgiModes =>
                    addedIf output ⟨allocatedName output.nameAllocates desc.deviceName,
                      winrtDxgiModeToSdlDisplayMode closestMatch,
                      dxgiModes.map winrtDxgiModeToSdlDisplayMode⟩

/-- The displays the outputs add, up to the first that adds none. -/
def addedRun : List OutputEnv → List SDLVideoDisplay
  | [] => []
  | output :: outputs =>
      match outputAdds output with
      | some display => display :: addedRun outputs
      | none => []

/-- Whether `WINRT_AddDisplaysForAdapter` returns false for an adapter. -/
def workaroundFails (env : DxgiEnv) (adapterIndex : Nat) (adapter : AdapterEnv) : Prop :=
  adapterIndex = 0 ∧ addedRun adapter.outputs = [] ∧ env.addWorkaroundDisplay = false

instance (env : DxgiEnv) (adapterIndex : Nat) (adapter : AdapterEnv) :
    Decidable (workaroundFails env adapterIndex adapter) :=
  inferInstanceAs (Decidable (_ ∧ _ ∧ _))

/-- The displays `WINRT_AddDisplaysForAdapter` adds when it returns true. -/
def adapterDisplays (env : DxgiEnv) (adapterIndex : Nat) (adapter : AdapterEnv) :
    List SDLVideoDisplay :=
  if adapterIndex = 0 ∧ addedRun adapter.outputs = [] then [workaroundDisplay env]
  else addedRun adapter.outputs

/-- The displays the adapter loop adds from `adapterIndex` on. -/
def adaptersDisplays (env : DxgiEnv) : Nat → List AdapterEnv → List SDLVideoDisplay
  | _, [] => []
  | adapterIndex, adapter :: adapters =>
      if workaroundFails env adapterIndex adapter then []
      else adapterDisplays env adapterIndex adapter ++ adaptersDisplays env (adapterIndex + 1) adapters

/-- The adapter references the adapter loop keeps from `adapterIndex` on. -/
def adaptersKept (env : DxgiEnv) : Nat → List AdapterEnv → Multiset Nat
  | _, [] => 0
  | adapterIndex, adapter :: adapters =>
      if workaroundFails env adapterIndex adapter then {adapter.handle}
      else adaptersKept env (adapterIndex + 1) adapters

/-- The adapter reference kept when the workaround fails. -/
def workaroundKept (env : DxgiEnv) : Multiset Nat :=
  match env.adapters with
  | adapter :: _ => if workaroundFails env 0 adapter then {adapter.handle} else 0
  | [] => 0

/-- A call adds `added` to the displays and `kept` to the references, and frees its blocks. -/
def Effect (s s' : DisplaysState) (added : List SDLVideoDisplay) (kept : Multiset Nat) : Prop :=
  s'.displays = s.displays ++ added ∧ s'.comHeld = kept + s.comHeld ∧
    s'.heapBlocks = s.heapBlocks

theorem Effect.trans {s s' s'' : DisplaysState} {added added' : List SDLVideoDisplay}
    {kept kept' : Multiset Nat} (first : Effect s s' added kept)
    (second : Effect s' s'' added' kept') : Effect s s'' (added ++ added') (kept' + kept) := by
  obtain ⟨displays, comHeld, heapBlocks⟩ := first
  obtain ⟨displays', comHeld', heapBlocks'⟩ := second
  exact ⟨by rw [displays', displays, List.append_assoc], by rw [comHeld', comHeld, add_assoc],
    heapBlocks'.trans heapBlocks⟩

section Spec

variable (env : DxgiEnv)

theorem outputDone_outputBody (output : OutputEnv) (s : DisplaysState) :
    (outputDone output (outputBody env output (s.acquire output.handle))).1 =
        (outputAdds output).isSome ∧
      Effect s (outputDone output (outputBody env output (s.acquire output.handle))).2
        (outputAdds output).toList 0 := by
  obtain ⟨handle, getDesc, find, count, list, calloc, add, named⟩ := output
  unfold outputBody outputAdds addOutputDisplay addedIf simulatorDisplay allocatedName
  dsimp only
  cases getDesc with
  | error hr => simp [outputDone, Effect]
  | ok desc =>
    dsimp only
    generalize find (modeToMatch desc) = closest
    cases closest with
    | error hr =>
      by_cases simulated : hr = dxgiErrorNotCurrentlyAvailable <;> cases add <;> cases named <;>
        simp [simulated, outputDone, Effect]
    | ok closestMatch =>
      cases count with
      | error hr => cases named <;> simp [outputDone, Effect]
      | ok count =>
        cases calloc
        · cases named <;> simp [outputDone, Effect]
        · cases list <;> cases add <;> cases named <;> simp [outputDone, Effect]

theorem winrtAddDisplaysForOutput_eq (adapter : AdapterEnv) (outputIndex : Nat)
    (s : DisplaysState) :
    (winrtAddDisplaysForOutput env adapter outputIndex s).1 =
        (adapter.outputs[outputIndex]?.bind outputAdds).isSome ∧
      Effect s (winrtAddDisplaysForOutput env adapter outputIndex s).2
        (adapter.outputs[outputIndex]?.bind outputAdds).toList 0 := by
  unfold winrtAddDisplaysForOutput AdapterEnv.enumOutputs
  cases adapter.outputs[outputIndex]? with
  | none =>
    dsimp only
    split_ifs <;> simp [Effect]
  | some output => exact outputDone_outputBody env output s

theorem addedRun_drop (outputs : List OutputEnv) (outputIndex : Nat) :
    addedRun (outputs.drop outputIndex) =
      match outputs[outputIndex]?.bind outputAdds with
      | some display => display :: addedRun (outputs.drop (outputIndex + 1))
      | none => [] := by
  rcases found : outputs[outputIndex]? with _ | output
  · simp [List.drop_eq_nil_of_le (List.getElem?_eq_none_iff.1 found), addedRun]
  · obtain ⟨inside, rfl⟩ := List.getElem?_eq_some_iff.1 found
    rw [List.drop_eq_getElem_cons inside, addedRun, Option.some_bind]

theorem outputLoop_eq (adapter : AdapterEnv) (fuel outputIndex : Nat) (s : DisplaysState)
    (enough : adapter.outputs.length < outputIndex + fuel) :
    (outputLoop env adapter fuel outputIndex s).1 =
        outputIndex + (addedRun (adapter.outputs.drop outputIndex)).length ∧
      Effect s (outputLoop env adapter fuel outputIndex s).2
        (addedRun (adapter.outputs.drop outputIndex)) 0 := by
  induction fuel generalizing outputIndex s with
  | zero =>
    have past : adapter.outputs.length ≤ outputIndex := by omega
    simp [outputLoop, List.drop_eq_nil_of_le past, addedRun, Effect]
  | succ fuel ih =>
    have step := winrtAddDisplaysForOutput_eq env adapter outputIndex s
    rw [addedRun_drop]
    rcases called : winrtAddDisplaysForOutput env adapter outputIndex s with ⟨_ | _, s'⟩ <;>
      rw [called] at step <;> obtain ⟨result, effect⟩ := step <;>
      cases added : adapter.outputs[outputIndex]?.bind outputAdds <;>
      simp only [added, Option.isSome_none, Option.isSome_some] at result effect
    · exact ⟨by simp [outputLoop, called], by simpa [outputLoop, called] using effect⟩
    · cases result
    · cases result
    · obtain ⟨index, rest⟩ := ih (outputIndex + 1) s' (by omega)
      refine ⟨by simp [outputLoop, called, index]; omega, ?_⟩
      simpa [outputLoop, called] using effect.trans rest

theorem winrtAddDisplaysForAdapter_past {adapterIndex : Nat}
    (past : env.adapters[adapterIndex]? = none) (s : DisplaysState) :
    (winrtAddDisplaysForAdapter env adapterIndex s).1 = false ∧
      Effect s (winrtAddDisplaysForAdapter env adapterIndex s).2 [] 0 := by
  unfold winrtAddDisplaysForAdapter DxgiEnv.enumAdapters1
  rw [past]
  dsimp only
  split_ifs <;> simp [Effect]

theorem adapter_outputLoop (adapter : AdapterEnv) (s : DisplaysState) :
    ((outputLoop env adapter (adapter.outputs.length + 1) 0 (s.acquire adapter.handle)).1 = 0 ↔
        addedRun adapter.outputs = []) ∧
      Effect s (outputLoop env adapter (adapter.outputs.length + 1) 0 (s.acquire adapter.handle)).2
        (addedRun adapter.outputs) {adapter.handle} := by
  obtain ⟨index, displays, comHeld, heapBlocks⟩ :=
    outputLoop_eq env adapter (adapter.outputs.length + 1) 0 (s.acquire adapter.handle) (by omega)
  simp only [List.drop_zero, zero_add] at index displays comHeld heapBlocks
  exact ⟨by rw [index, List.length_eq_zero], displays,
    by rw [comHeld, Multiset.singleton_add]; rfl, heapBlocks⟩

theorem winrtAddDisplaysForAdapter_found {adapterIndex : Nat} {adapter : AdapterEnv}
    (found : env.adapters[adapterIndex]? = some adapter) (s : DisplaysState) :
    if workaroundFails env adapterIndex adapter then
      (winrtAddDisplaysForAdapter env adapterIndex s).1 = false ∧
        Effect s (winrtAddDisplaysForAdapter env adapterIndex s).2 [] {adapter.handle}
    else
      (winrtAddDisplaysForAdapter env adapterIndex s).1 = true ∧
        Effect s (winrtAddDisplaysForAdapter env adapterIndex s).2
          (adapterDisplays env adapterIndex adapter) 0 := by
  unfold winrtAddDisplaysForAdapter DxgiEnv.enumAdapters1
  rw [found]
  dsimp only
  obtain ⟨stops, effect⟩ := adapter_outputLoop env adapter s
  rcases ran : outputLoop env adapter (adapter.outputs.length + 1) 0 (s.acquire adapter.handle)
    with ⟨outputIndex, s'⟩
  rw [ran] at stops effect
  obtain ⟨displays, comHeld, heapBlocks⟩ := effect
  dsimp only at stops displays comHeld heapBlocks ⊢
  simp only [stops]
  by_cases first : adapterIndex = 0 ∧ addedRun adapter.outputs = []
  · obtain ⟨rfl, empty⟩ := first
    cases add : env.addWorkaroundDisplay <;> cases named : env.workaroundNameAllocates <;>
      simp [workaroundFails, adapterDisplays, add, named, empty, Effect, displays, comHeld,
        heapBlocks, Multiset.singleton_add]
  · have fine : ¬workaroundFails env adapterIndex adapter := fun ⟨zero, empty, _⟩ => first ⟨zero, empty⟩
    simp [first, fine, adapterDisplays, Effect, displays, comHeld, heapBlocks]

theorem adapterLoop_eq (fuel adapterIndex : Nat) (s : DisplaysState)
    (enough : env.adapters.length < adapterIndex + fuel) :
    Effect s (adapterLoop env fuel adapterIndex s)
      (adaptersDisplays env adapterIndex (env.adapters.drop adapterIndex))
      (adaptersKept env adapterIndex (env.adapters.drop adapterIndex)) := by
  induction fuel generalizing adapterIndex s with
  | zero =>
    have past : env.adapters.length ≤ adapterIndex := by omega
    simp [adapterLoop, List.drop_eq_nil_of_le past, adaptersDisplays, adaptersKept, Effect]
  | succ fuel ih =>
    rcases found : env.adapters[adapterIndex]? with _ | adapter
    · obtain ⟨result, effect⟩ := winrtAddDisplaysForAdapter_past env found s
      have past := List.drop_eq_nil_of_le (List.getElem?_eq_none_iff.1 found)
      rcases called : winrtAddDisplaysForAdapter env adapterIndex s with ⟨_ | _, s'⟩ <;>
        rw [called] at result effect
      · simpa [adapterLoop, called, past, adaptersDisplays, adaptersKept] using effect
      · cases result
    · have step := winrtAddDisplaysForAdapter_found env found s
      obtain ⟨inside, rfl⟩ := List.getElem?_eq_some_iff.1 found
      rw [List.drop_eq_getElem_cons inside]
      rcases called : winrtAddDisplaysForAdapter env adapterIndex s with ⟨_ | _, s'⟩ <;>
        rw [called] at step <;> simp only [adaptersDisplays, adaptersKept] <;>
        split_ifs at step ⊢ <;> obtain ⟨result, effect⟩ := step
      · simpa [adapterLoop, called] using effect
      · cases result
      · cases result
      · simpa [adapterLoop, called] using effect.trans (ih (adapterIndex + 1) s' (by omega))

theorem adaptersKept_succ (adapterIndex : Nat) (adapters : List AdapterEnv) :
    adaptersKept env (adapterIndex + 1) adapters = 0 := by
  induction adapters generalizing adapterIndex with
  | nil => rfl
  | cons adapter adapters ih => simp [adaptersKept, workaroundFails, ih]

theorem adaptersKept_zero : adaptersKept env 0 env.adapters = workaroundKept env := by
  unfold workaroundKept
  cases env.adapters <;> simp [adaptersKept, adaptersKept_succ]

theorem winrtInitModes_eq {s : DisplaysState} {factory : Nat}
    (created : env.createDxgiFactory1 = .ok factory) :
    (winrtInitModes env s).1 = true ∧
      Effect s (winrtInitModes env s).2 (adaptersDisplays env 0 env.adapters)
        (workaroundKept env + {factory}) := by
  unfold winrtInitModes
  rw [created]
  obtain ⟨displays, comHeld, heapBlocks⟩ :=
    adapterLoop_eq env (env.adapters.length + 1) 0 (s.acquire factory) (by omega)
  rw [List.drop_zero, adaptersKept_zero] at *
  exact ⟨rfl, displays, by rw [comHeld, add_assoc, Multiset.singleton_add]; rfl, heapBlocks⟩

/-! ### `WINRT_InitModes` -/

/-- A state with no display and nothing held. -/
def noDisplays : DisplaysState := ⟨[], "", 0, 0⟩

def noOutputEnv : DxgiEnv :=
  ⟨fun _ => "", .ok 1, [⟨10, [], dxgiErrorNotFound⟩], dxgiErrorNotFound, 800, 600, false, true⟩

/-- `WINRT_InitModes` keeps only the factory, and the first adapter when the workaround fails. -/
theorem winrtInitModes_references {s : DisplaysState} {factory : Nat}
    (created : env.createDxgiFactory1 = .ok factory) :
    (winrtInitModes env s).2.comHeld = workaroundKept env + factory ::ₘ s.comHeld ∧
      (winrtInitModes env s).2.heapBlocks = s.heapBlocks := by
  obtain ⟨-, -, comHeld, heapBlocks⟩ := winrtInitModes_eq env created
  exact ⟨by rw [comHeld, add_assoc, Multiset.singleton_add], heapBlocks⟩

theorem winrtInitModes_references_keeps_adapter :
    (winrtInitModes noOutputEnv noDisplays).2.comHeld = {10} + 1 ::ₘ 0 ∧
      (winrtInitModes noOutputEnv noDisplays).2.heapBlocks = 0 :=
  winrtInitModes_references noOutputEnv rfl

/-- Once the factory is created, `WINRT_InitModes` returns true and adds the displays found. -/
theorem winrtInitModes_displays {s : DisplaysState} {factory : Nat}
    (created : env.createDxgiFactory1 = .ok factory) :
    (winrtInitModes env s).1 = true ∧
      (winrtInitModes env s).2.displays = s.displays ++ adaptersDisplays env 0 env.adapters :=
  ⟨(winrtInitModes_eq env created).1, (winrtInitModes_eq env created).2.1⟩

theorem winrtInitModes_displays_none :
    (winrtInitModes noOutputEnv noDisplays).1 = true ∧
      (winrtInitModes noOutputEnv noDisplays).2.displays = [] :=
  winrtInitModes_displays noOutputEnv rfl

end Spec

end SdlRender.Winrt
