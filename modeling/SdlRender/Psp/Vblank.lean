import SdlRender.Psp.Queue

/-!
# Vertical sync on the PSP

The interrupt `psp_on_vblank` clears `vblank_not_reached`; `PSP_RenderPresent` waits for a
vertical blank while vsync is on and it is set, then sets it and swaps. The interrupt may run
between any two steps of the renderer thread, so a schedule is a list of `VblankTick`s, and
`sceDisplayWaitVblankStart` returns once the interrupt has run.
-/

namespace SdlRender.Psp

/-- The fields of `PSP_RenderData` the vertical sync reads and writes. -/
structure VblankState where
  vsync : Bool
  vblankNotReached : Bool
  deriving DecidableEq, Repr

def PSPRenderData.vblankState {σ : Type} (s : PSPRenderData σ) : VblankState :=
  ⟨s.vsync, s.vblankNotReached⟩

inductive PresentEvent where
  | vblank
  | swap (vsync : Bool)
  deriving DecidableEq, Repr

/-- Where the renderer thread is in `PSP_RenderPresent`. -/
inductive PresentPc where
  | idle
  | waiting
  | marking
  | swapping
  deriving DecidableEq, Repr

/-- The renderer's calls that touch the vertical-sync state. -/
inductive VblankCall where
  | setVSync (vsync : Bool)
  | renderPresent (displayListAvail : Bool)
  deriving DecidableEq, Repr

inductive VblankTick where
  | interrupt
  | renderer
  deriving DecidableEq, Repr

/-- The vertical-sync state, where the renderer thread is, and the calls it has yet to make. -/
structure VblankMachine where
  state : VblankState
  pc : PresentPc
  calls : List VblankCall
  deriving DecidableEq, Repr

/-- `psp_on_vblank`. -/
def pspOnVblank (v : VblankState) : VblankState :=
  { v with vblankNotReached := false }

/-- `PSP_SetVSync`. -/
def pspSetVSync (v : VblankState) (vsync : Bool) : VblankState :=
  { v with vsync }

/-- Where `PSP_RenderPresent` goes from its start. -/
def renderPresentBegin (v : VblankState) (displayListAvail : Bool) : PresentPc :=
  if !displayListAvail then .idle
  else if v.vsync && v.vblankNotReached then .waiting
  else .marking

/-- The interrupt: `psp_on_vblank`, and a thread blocked in the wait runs on. -/
def vblankInterrupt (m : VblankMachine) : VblankMachine :=
  { m with state := pspOnVblank m.state, pc := if m.pc = .waiting then .marking else m.pc }

/-- The renderer thread's next step, and the swap it shows. -/
def rendererStep (m : VblankMachine) : VblankMachine × List PresentEvent :=
  match m.pc, m.calls with
  | .idle, [] => (m, [])
  | .idle, .setVSync vsync :: calls => ({ m with state := pspSetVSync m.state vsync, calls }, [])
  | .idle, .renderPresent displayListAvail :: calls =>
      ({ m with pc := renderPresentBegin m.state displayListAvail, calls }, [])
  | .waiting, _ => (m, [])
  | .marking, _ =>
      ({ m with state := { m.state with vblankNotReached := true }, pc := .swapping }, [])
  | .swapping, _ => ({ m with pc := .idle }, [.swap m.state.vsync])

def vblankStep (m : VblankMachine) : VblankTick → VblankMachine × List PresentEvent
  | .interrupt => (vblankInterrupt m, [.vblank])
  | .renderer => rendererStep m

/-- A schedule of the interrupt and the renderer thread: the machine after it, and what it showed. -/
def vblankRun (m : VblankMachine) : List VblankTick → VblankMachine × List PresentEvent
  | [] => (m, [])
  | tick :: ticks =>
      let rest := vblankRun (vblankStep m tick).1 ticks
      (rest.1, (vblankStep m tick).2 ++ rest.2)

/-! ## Pacing -/

/-- A swap with vsync on needs a vertical blank since the swap before it. -/
def Paced : Bool → List PresentEvent → Prop
  | _, [] => True
  | _, .vblank :: events => Paced true events
  | blanked, .swap vsync :: events => (vsync = true → blanked = true) ∧ Paced false events

/-- A swap with vsync on needs a vertical blank since the swap before the last one. -/
def PacedTwice : Bool → Bool → List PresentEvent → Prop
  | _, _, [] => True
  | _, _, .vblank :: events => PacedTwice true true events
  | recent, earlier, .swap vsync :: events =>
      (vsync = true → earlier = true) ∧ PacedTwice false recent events

/-- What each point of the renderer thread guarantees the monitor of `PacedTwice`. -/
def PacingInvariant (m : VblankMachine) (recent earlier : Bool) : Prop :=
  match m.pc with
  | .idle => m.state.vblankNotReached = false → earlier = true
  | .waiting => True
  | .marking => m.state.vsync = true → earlier = true
  | .swapping =>
      (m.state.vsync = true → earlier = true) ∧
        (m.state.vblankNotReached = false → recent = true)

theorem vblankStep_pacedTwice {m : VblankMachine} {recent earlier : Bool}
    (inv : PacingInvariant m recent earlier) (tick : VblankTick) :
    ∃ recent' earlier', PacingInvariant (vblankStep m tick).1 recent' earlier' ∧
      ∀ rest, PacedTwice recent' earlier' rest →
        PacedTwice recent earlier ((vblankStep m tick).2 ++ rest) := by
  obtain ⟨⟨vsync, notReached⟩, pc, calls⟩ := m
  cases tick with
  | interrupt =>
    refine ⟨true, true, ?_, fun _ paced => paced⟩
    cases pc <;> simp [vblankStep, vblankInterrupt, PacingInvariant]
  | renderer =>
    cases pc with
    | idle =>
      rcases calls with _ | ⟨_ | displayListAvail, calls⟩
      · exact ⟨recent, earlier, inv, fun _ paced => paced⟩
      · exact ⟨recent, earlier, inv, fun _ paced => paced⟩
      · refine ⟨recent, earlier, ?_, fun _ paced => paced⟩
        cases displayListAvail <;> cases vsync <;> cases notReached <;>
          simp_all [vblankStep, rendererStep, renderPresentBegin, PacingInvariant]
    | waiting => exact ⟨recent, earlier, inv, fun _ paced => paced⟩
    | marking => exact ⟨recent, earlier, ⟨inv, nofun⟩, fun _ paced => paced⟩
    | swapping => exact ⟨false, recent, inv.2, fun _ paced => ⟨inv.1, paced⟩⟩

theorem vblankRun_pacedTwice {m : VblankMachine} {recent earlier : Bool}
    (inv : PacingInvariant m recent earlier) (ticks : List VblankTick) :
    PacedTwice recent earlier (vblankRun m ticks).2 := by
  induction ticks generalizing m recent earlier with
  | nil => trivial
  | cons tick ticks ih =>
    obtain ⟨recent', earlier', inv', continues⟩ := vblankStep_pacedTwice inv tick
    exact continues _ (ih inv')

/-- The interrupt comes between the first present's `vblank_not_reached = true` and its swap. -/
def raceTicks : List VblankTick :=
  [.interrupt, .renderer, .renderer, .interrupt, .renderer, .renderer, .renderer, .renderer]

theorem vblankRun_race {v : VblankState} (vsyncOn : v.vsync = true) (calls : List VblankCall) :
    vblankRun ⟨v, .idle, .renderPresent true :: .renderPresent true :: calls⟩ raceTicks =
      (⟨⟨true, true⟩, .idle, calls⟩, [.vblank, .vblank, .swap true, .swap true]) := by
  obtain ⟨vsync, notReached⟩ := v
  subst vsyncOn
  rfl

/-! ## The renderer's state -/

section Renderer

variable {σ : Type}

@[simp] theorem guAll_vsync (s : PSPRenderData σ) (calls : List GuCall) :
    (s.guAll calls).vsync = s.vsync := by
  induction calls generalizing s with
  | nil => rfl
  | cons call calls ih => exact ih (s.gu call)

@[simp] theorem guAll_vblankNotReached (s : PSPRenderData σ) (calls : List GuCall) :
    (s.guAll calls).vblankNotReached = s.vblankNotReached := by
  induction calls generalizing s with
  | nil => rfl
  | cons call calls ih => exact ih (s.gu call)

theorem pspCreateRenderer_vblankState (P : Platform σ) (frame : PspFrame) (memory : σ)
    (windowFormat : SDLPixelFormat) :
    ∀ s ∈ pspCreateRenderer P frame memory windowFormat, s.vblankState = ⟨false, true⟩ := by
  unfold pspCreateRenderer
  split
  · simp
  · simp [PSPRenderData.vblankState, resetBlendState]

/-- The ticks of a present the interrupt does not cut into. -/
def presentTicks (v : VblankState) (displayListAvail : Bool) : List VblankTick :=
  match renderPresentBegin v displayListAvail with
  | .idle => [.renderer]
  | .waiting => [.renderer, .interrupt, .renderer, .renderer]
  | _ => [.renderer, .renderer, .renderer]

theorem vblankRun_presentTicks (s : PSPRenderData σ) (calls : List VblankCall) :
    (vblankRun ⟨s.vblankState, .idle, .renderPresent s.displayListAvail :: calls⟩
        (presentTicks s.vblankState s.displayListAvail)).1 =
      ⟨(pspRenderPresent s).2.vblankState, .idle, calls⟩ := by
  obtain ⟨memory, bytes, textures, nextTexture, hot, target, boundTarget, displayListAvail,
    frontbuffer, backbuffer, psm, blendState, vsync, notReached, trace, error⟩ := s
  cases displayListAvail <;> cases vsync <;> cases notReached <;> rfl

end Renderer

/-- With vsync on, no vertical-blank period holds three swaps, whatever the interleaving;
two do fit. -/
theorem pspRenderer_vsync_pacing {σ : Type} (P : Platform σ) (frame : PspFrame) (memory : σ)
    (windowFormat : SDLPixelFormat) :
    ∀ s ∈ pspCreateRenderer P frame memory windowFormat,
      (∀ calls ticks,
          PacedTwice false false (vblankRun ⟨s.vblankState, .idle, calls⟩ ticks).2) ∧
        ¬ Paced false (vblankRun ⟨s.vblankState, .idle,
          [.setVSync true, .renderPresent true, .renderPresent true]⟩
          (.renderer :: raceTicks)).2 := by
  intro s created
  rw [pspCreateRenderer_vblankState P frame memory windowFormat s created]
  refine ⟨fun calls ticks => vblankRun_pacedTwice (by simp [PacingInvariant]) ticks, ?_⟩
  have race : (vblankRun ⟨⟨false, true⟩, .idle, [.setVSync true, .renderPresent true,
      .renderPresent true]⟩ (.renderer :: raceTicks)).2 =
        [.vblank, .vblank, .swap true, .swap true] :=
    congrArg Prod.snd (vblankRun_race (v := ⟨true, true⟩) rfl [])
  rw [race]
  simp [Paced]

theorem pspRenderer_vsync_pacing_stack :
    ∃ s, pspCreateRenderer stackPlatform sdlPspFrame (0, 0) .abgr8888 = some s ∧
      PacedTwice false false (vblankRun ⟨s.vblankState, .idle, [.setVSync true,
        .renderPresent true]⟩ [.renderer, .renderer, .renderer, .interrupt, .renderer]).2 :=
  ⟨_, rfl, (pspRenderer_vsync_pacing stackPlatform sdlPspFrame (0, 0) .abgr8888 _ rfl).1 _ _⟩

end SdlRender.Psp
