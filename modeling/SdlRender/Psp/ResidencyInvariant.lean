import SdlRender.Psp.ResidencyView

/-!
# The hot list is the list of VRAM-resident render targets

Over every run of texture calls, failing ones included, the hot list stays a well-formed
list of exactly the render targets in VRAM, most recently used first; those are unswizzled
and every other target is swizzled in system memory (`hotList_tracks_vram_targets`).
-/

namespace SdlRender.Psp

/-- The textures of a log of uses, most recent first, each at its most recent use. -/
def lastUseOrder : List TexId → List TexId
  | [] => []
  | t :: rest => t :: (lastUseOrder rest).erase t

theorem mem_lastUseOrder {t : TexId} : ∀ {log : List TexId}, t ∈ lastUseOrder log ↔ t ∈ log
  | [] => Iff.rfl
  | a :: rest => by
      by_cases same : t = a
      · simp [lastUseOrder, same]
      · simp [lastUseOrder, same, List.mem_erase_of_ne same, mem_lastUseOrder]

namespace ResidencyView

/-- `t` is a render target whose storage is in VRAM. -/
def Resident (v : ResidencyView) (t : TexId) : Prop :=
  ∃ p, v.placement t = some p ∧ p.access = .target ∧ p.inVram = true

/-- The hot list stands for `order`, the resident targets by last use in `log`. -/
structure Invariant (v : ResidencyView) (log order : List TexId) : Prop where
  represents : v.hot.Represents order
  listed : ∀ t, t ∈ order ↔ v.Resident t
  layout : ∀ t p, v.placement t = some p → p.access = .target → p.swizzled = !p.inVram
  recency : order.Sublist (lastUseOrder log)
  liveBelow : ∀ t, v.placement t ≠ none → t < v.nextTexture
  usedBelow : ∀ t ∈ log, t < v.nextTexture

variable {v v' : ResidencyView} {log order : List TexId} {t : TexId}

@[simp] theorem relocate_placement_self (inVram swizzled : Bool) :
    (v.relocate t inVram swizzled).placement t =
      (v.placement t).map fun p => { p with inVram, swizzled } := by
  simp [relocate]

@[simp] theorem relocate_placement_of_ne {u : TexId} (different : u ≠ t) (inVram swizzled : Bool) :
    (v.relocate t inVram swizzled).placement u = v.placement u := by
  simp [relocate, different]

theorem relocate_of_placed {p : Placement} (found : v.placement t = some p) :
    v.relocate t p.inVram p.swizzled = v := by
  ext1
  · funext u
    by_cases same : u = t
    · subst same
      simp [found]
    · simp [same]
  all_goals rfl

theorem not_resident_of_none (missing : v.placement t = none) : ¬ v.Resident t := by
  simp [Resident, missing]

namespace Invariant

theorem of_update (inv : v.Invariant log order) (t : TexId) {order' log' : List TexId}
    (represents : v'.hot.Represents order')
    (others : ∀ u, u ≠ t → v'.placement u = v.placement u)
    (memOthers : ∀ u, u ≠ t → (u ∈ order' ↔ u ∈ order))
    (listedSelf : t ∈ order' ↔ v'.Resident t)
    (layoutSelf : ∀ p, v'.placement t = some p → p.access = .target → p.swizzled = !p.inVram)
    (recency : order'.Sublist (lastUseOrder log'))
    (liveSelf : v'.placement t ≠ none → t < v'.nextTexture)
    (grows : v.nextTexture ≤ v'.nextTexture) (usedBelow : ∀ u ∈ log', u < v'.nextTexture) :
    v'.Invariant log' order' where
  represents := represents
  listed u := by
    by_cases same : u = t
    · exact same ▸ listedSelf
    · rw [memOthers u same, inv.listed u, Resident, Resident, others u same]
  layout u p := by
    by_cases same : u = t
    · exact same ▸ layoutSelf p
    · rw [others u same]
      exact inv.layout u p
  recency := recency
  liveBelow u alive := by
    by_cases same : u = t
    · subst same
      exact liveSelf alive
    · rw [others u same] at alive
      exact Nat.lt_of_lt_of_le (inv.liveBelow u alive) grows
  usedBelow := usedBelow

theorem spill (inv : v.Invariant log order) (lru : TexId) :
    (v.spill lru).Invariant log (order.erase lru) :=
  inv.of_update lru (inv.represents.remove lru)
    (fun _ different => relocate_placement_of_ne different false true)
    (fun _ different => List.mem_erase_of_ne different)
    (by simp [inv.represents.nodup.not_mem_erase, Resident, ResidencyView.spill])
    (by simp [ResidencyView.spill]) ((List.erase_sublist _ _).trans inv.recency)
    (fun alive => inv.liveBelow lru (by simpa [ResidencyView.spill] using alive)) le_rfl
    inv.usedBelow

theorem spillRun (inv : v.Invariant log order) (run : SpillRun v v') :
    ∃ order', v'.Invariant log order' := by
  induction run with
  | refl => exact ⟨order, inv⟩
  | tail _ step inductionHypothesis =>
      obtain ⟨order', inv'⟩ := inductionHypothesis
      obtain ⟨lru, -, rfl⟩ := step
      exact ⟨_, inv'.spill lru⟩

theorem bind (inv : v.Invariant log order) {p : Placement} (found : v.placement t = some p)
    (target : p.access = .target) :
    ((v.relocate t true false).bringFront t).Invariant (t :: log) (t :: order.erase t) :=
  inv.of_update t (inv.represents.bringFront t)
    (fun _ different => relocate_placement_of_ne different true false)
    (fun _ different => by simp [different, List.mem_erase_of_ne different])
    (by simp [ResidencyView.bringFront, Resident, found, target])
    (by simp [ResidencyView.bringFront, found])
    ((inv.recency.erase t).cons₂ t)
    (fun _ => inv.liveBelow t (by simp [found])) le_rfl
    (by
      rintro u (_ | ⟨_, used⟩)
      · exact inv.liveBelow t (by simp [found])
      · exact inv.usedBelow u used)

theorem bringFront_of_resident (inv : v.Invariant log order) {p : Placement}
    (found : v.placement t = some p) (target : p.access = .target) (inVram : p.inVram = true) :
    (v.bringFront t).Invariant (t :: log) (t :: order.erase t) := by
  have unswizzled : p.swizzled = false := by simpa [inVram] using inv.layout t p found target
  have same := relocate_of_placed found
  rw [inVram, unswizzled] at same
  simpa [same] using inv.bind found target

theorem createTarget (inv : v.Invariant log order) (fresh : v.placement t = none)
    (unused : t ∉ log) (below : t < v.nextTexture) (size : Nat) :
    (v.create t .target size).Invariant (t :: log) (t :: order) := by
  have absent : t ∉ order := fun member => not_resident_of_none fresh ((inv.listed t).mp member)
  refine inv.of_update t (inv.represents.pushFront absent)
    (fun _ different => by simp [ResidencyView.create, different])
    (fun _ different => by simp [different]) (by simp [ResidencyView.create, Resident])
    (by simp [ResidencyView.create]) ?_
    (fun _ => below) le_rfl ?_
  · rw [lastUseOrder, List.erase_of_not_mem (mt mem_lastUseOrder.mp unused)]
    exact inv.recency.cons₂ t
  · rintro u (_ | ⟨_, used⟩)
    · exact below
    · exact inv.usedBelow u used

theorem createOther (inv : v.Invariant log order) (fresh : v.placement t = none)
    (below : t < v.nextTexture) {access : SDLTextureAccess} (other : access ≠ .target)
    (size : Nat) : (v.create t access size).Invariant log order := by
  have absent : t ∉ order := fun member => not_resident_of_none fresh ((inv.listed t).mp member)
  exact inv.of_update t (by simpa [ResidencyView.create, other] using inv.represents)
    (fun _ different => by simp [ResidencyView.create, other, different]) (fun _ _ => Iff.rfl)
    (by simp [ResidencyView.create, other, Resident, absent])
    (by simp [ResidencyView.create, other]) inv.recency
    (fun _ => by simpa [ResidencyView.create, other] using below)
    (by simp [ResidencyView.create, other])
    (by simpa [ResidencyView.create, other] using inv.usedBelow)

theorem destroy (inv : v.Invariant log order) (t : TexId) :
    (v.destroy t).Invariant log (order.erase t) :=
  inv.of_update t (inv.represents.remove t)
    (fun _ different => by simp [ResidencyView.destroy, different])
    (fun _ different => List.mem_erase_of_ne different)
    (by simp [inv.represents.nodup.not_mem_erase, Resident, ResidencyView.destroy])
    (by simp [ResidencyView.destroy]) ((List.erase_sublist _ _).trans inv.recency)
    (by simp [ResidencyView.destroy]) le_rfl inv.usedBelow

theorem sample (inv : v.Invariant log order) (notResident : ¬ v.Resident t) :
    (v.relocate t false true).Invariant log order :=
  inv.of_update t inv.represents
    (fun _ different => relocate_placement_of_ne different false true) (fun _ _ => Iff.rfl)
    (iff_of_false (fun member => notResident ((inv.listed t).mp member)) (by simp [Resident]))
    (by simp) inv.recency
    (fun alive => inv.liveBelow t (by simpa using alive)) le_rfl inv.usedBelow

theorem bumpNext (inv : v.Invariant log order) :
    ({ v with nextTexture := v.nextTexture + 1 } : ResidencyView).Invariant log order where
  represents := inv.represents
  listed := inv.listed
  layout := inv.layout
  recency := inv.recency
  liveBelow t alive := Nat.lt_succ_of_lt (inv.liveBelow t alive)
  usedBelow t used := Nat.lt_succ_of_lt (inv.usedBelow t used)

theorem empty {v : ResidencyView} (empty : v.hot = HotList.empty)
    (noTextures : ∀ t, v.placement t = none) : v.Invariant [] [] where
  represents := by
    rw [empty]
    exact ⟨List.nodup_nil, rfl, rfl, fun _ => rfl, fun _ => rfl⟩
  listed t := by simp [Resident, noTextures]
  layout t p := by simp [noTextures]
  recency := List.Sublist.slnil
  liveBelow t := by simp [noTextures]
  usedBelow t := by simp

end Invariant

end ResidencyView

/-! ## Runs of texture calls -/

/-- A call of the core that reaches the residency code. -/
inductive TextureCall where
  | create (texture : SDLTexture)
  | destroy (t : TexId)
  | bindAsTarget (t : TexId)
  | activate (t : TexId)
  | update (t : TexId) (rect : SDLRect) (pixels pitch : Nat)
  | lock (t : TexId) (rect : SDLRect)
  | unlock (t : TexId)

namespace TextureCall

variable {σ : Type}

/-- The call's C result and the state after it; a `void` function succeeds. -/
def run (P : Platform σ) (s : PSPRenderData σ) : TextureCall → Bool × PSPRenderData σ
  | create texture => pspCreateTexture P s texture
  | destroy t => (true, pspDestroyTexture P s t)
  | bindAsTarget t => textureBindAsTarget P s t
  | activate t => (true, textureActivate P s t)
  | update t rect pixels pitch => pspUpdateTexture s t rect pixels pitch
  | lock t rect => (true, (pspLockTexture s t rect).2)
  | unlock t => (true, pspUnlockTexture s t)

/-- The render target a call used, if it succeeded. -/
def used (s : PSPRenderData σ) (ok : Bool) : TextureCall → List TexId
  | create texture => if ok = true ∧ texture.access = .target then [s.nextTexture] else []
  | bindAsTarget t => if ok = true then [t] else []
  | _ => []

/-- `SDL_SetRenderTarget` takes only textures created with `SDL_TEXTUREACCESS_TARGET`. -/
def Allowed (s : PSPRenderData σ) : TextureCall → Prop
  | bindAsTarget t => ∃ tex, s.textures t = some tex ∧ tex.texture.access = .target
  | _ => True

end TextureCall

/-- The states texture calls reach from `PSP_CreateRenderer`, with the log of used targets. -/
inductive ResidencyReachable {σ : Type} (P : Platform σ) : PSPRenderData σ → List TexId → Prop
  | init {s : PSPRenderData σ} (empty : s.hot = HotList.empty)
      (noTextures : ∀ t, s.textures t = none) : ResidencyReachable P s []
  | call {s : PSPRenderData σ} {log : List TexId} (call : TextureCall)
      (reach : ResidencyReachable P s log) (allowed : call.Allowed s) :
      ResidencyReachable P (call.run P s).2 (call.used s (call.run P s).1 ++ log)

section Runs

variable {σ : Type} {P : Platform σ} {s : PSPRenderData σ} {log order : List TexId}

theorem view_resident_iff {t : TexId} :
    s.view.Resident t ↔
      ∃ tex, s.textures t = some tex ∧ tex.texture.access = .target ∧ InVram tex.internal.data := by
  simp [ResidencyView.Resident, PSPRenderData.view, PSPTexture.placement]

theorem not_resident_of_shouldSwizzle {t : TexId} {tex : PSPTexture}
    (found : s.textures t = some tex) (should : textureShouldSwizzle tex.internal tex.texture = true) :
    ¬ s.view.Resident t := by
  rw [view_resident_iff]
  rintro ⟨_, refound, target, inVram⟩
  obtain rfl := Option.some.inj (found.symm.trans refound)
  simp [textureShouldSwizzle, target, inVram] at should

theorem TextureCall.invariant (sound : P.Sound) (inv : s.view.Invariant log order)
    (call : TextureCall) (allowed : call.Allowed s) :
    ∃ order', (call.run P s).2.view.Invariant (call.used s (call.run P s).1 ++ log) order' := by
  cases call with
  | create texture =>
      rcases created : pspCreateTexture P s texture with ⟨ok, created'⟩
      simp only [TextureCall.run, TextureCall.used, created]
      obtain ⟨v, run, outcome⟩ := pspCreateTexture_cases sound created
      obtain ⟨order₁, inv₁⟩ := inv.bumpNext.spillRun run
      have fresh : v.placement s.nextTexture = none := by
        have kind := run.kind s.nextTexture
        have missing : s.view.placement s.nextTexture = none :=
          Classical.not_not.mp fun alive => Nat.lt_irrefl _ (inv.liveBelow _ alive)
        simpa [missing] using kind
      have below : s.nextTexture < v.nextTexture := by
        rw [run.nextTexture]
        exact Nat.lt_succ_self _
      have unused : s.nextTexture ∉ log := fun used => Nat.lt_irrefl _ (inv.usedBelow _ used)
      rcases outcome with ⟨rfl, same⟩ | ⟨rfl, made⟩
      · exact ⟨order₁, by simpa [same] using inv₁⟩
      · rw [made]
        by_cases target : texture.access = .target
        · rw [target]
          exact ⟨_, by simpa [target] using inv₁.createTarget fresh unused below _⟩
        · exact ⟨order₁, by simpa [target] using inv₁.createOther fresh below target _⟩
  | destroy t =>
      rcases found : s.textures t with _ | tex
      · exact ⟨order, by simpa [TextureCall.run, TextureCall.used, pspDestroyTexture_of_none found]
          using inv⟩
      · exact ⟨_, by simpa [TextureCall.run, TextureCall.used, pspDestroyTexture_view found]
          using inv.destroy t⟩
  | bindAsTarget t =>
      obtain ⟨tex, found, target⟩ := allowed
      have placed : s.view.placement t = some tex.placement := by simp [PSPRenderData.view, found]
      rcases bound : textureBindAsTarget P s t with ⟨ok, bound'⟩
      simp only [TextureCall.run, TextureCall.used, bound]
      rcases textureBindAsTarget_cases sound found bound with
        ⟨inVram, rfl, moved⟩ | ⟨v, run, ⟨rfl, spilled⟩ | ⟨rfl, moved⟩⟩
      · have inVram' : tex.placement.inVram = true := by simpa [PSPTexture.placement] using inVram
        exact ⟨_, by simpa [moved] using inv.bringFront_of_resident placed target inVram'⟩
      · exact ⟨_, by simpa [spilled] using (inv.spillRun run).choose_spec⟩
      · obtain ⟨order₁, inv₁⟩ := inv.spillRun run
        obtain ⟨p, placed₁, access, -⟩ := exists_of_spillRun found run
        exact ⟨_, by simpa [moved] using inv₁.bind placed₁ (access.trans target)⟩
  | activate t =>
      rcases textureActivate_cases sound s t with same | ⟨tex, found, should, moved⟩
      · exact ⟨order, by simpa [TextureCall.run, TextureCall.used, same] using inv⟩
      · have sampled := inv.sample (not_resident_of_shouldSwizzle found should)
        exact ⟨order, by simpa [TextureCall.run, TextureCall.used, moved] using sampled⟩
  | update t rect pixels pitch =>
      exact ⟨order, by simpa [TextureCall.run, TextureCall.used] using inv⟩
  | lock t rect => exact ⟨order, by simpa [TextureCall.run, TextureCall.used] using inv⟩
  | unlock t => exact ⟨order, by simpa [TextureCall.run, TextureCall.used] using inv⟩

theorem ResidencyReachable.invariant (sound : P.Sound) (reach : ResidencyReachable P s log) :
    ∃ order, s.view.Invariant log order := by
  induction reach with
  | init empty noTextures =>
      exact ⟨[], ResidencyView.Invariant.empty empty (by simp [PSPRenderData.view, noTextures])⟩
  | call call _ allowed inductionHypothesis =>
      obtain ⟨order, inv⟩ := inductionHypothesis
      exact TextureCall.invariant sound inv call allowed

/-- The hot list of `s`, read through its pointers, lists exactly the VRAM-resident targets,
without repetition and by their last use in `log`. -/
def HotListTracksVramTargets (s : PSPRenderData σ) (log : List TexId) : Prop :=
  ∃ order : List TexId,
    order.Nodup ∧
    followLinks s.hot.nexthotw s.hot.mostRecentTarget (order.length + 1) = order ∧
    s.hot.leastRecentTarget = order.getLast? ∧
    followLinks s.hot.prevhotw s.hot.leastRecentTarget (order.length + 1) = order.reverse ∧
    (s.hot.mostRecentTarget = none ↔ order = []) ∧
    (s.hot.leastRecentTarget = none ↔ order = []) ∧
    (∀ t, t ∉ order → s.hot.prevhotw t = none ∧ s.hot.nexthotw t = none) ∧
    (∀ t, t ∈ order ↔
      ∃ tex, s.textures t = some tex ∧ tex.texture.access = .target ∧ InVram tex.internal.data) ∧
    (∀ t tex, s.textures t = some tex → tex.texture.access = .target →
      (tex.internal.swizzled = true ↔ ¬ InVram tex.internal.data)) ∧
    order.Sublist (lastUseOrder log)

theorem ResidencyView.Invariant.tracks (inv : s.view.Invariant log order) :
    HotListTracksVramTargets s log := by
  have represents : s.hot.Represents order := inv.represents
  refine ⟨order, represents.nodup, (represents.followLinks_eq 1).1, represents.least,
    (represents.followLinks_eq 1).2, represents.empty_iff, ?_,
    fun t absent => represents.links_of_not_mem absent,
    fun t => (inv.listed t).trans view_resident_iff, fun t tex found target => ?_, inv.recency⟩
  · rw [represents.least, List.getLast?_eq_none_iff]
  · have layout := inv.layout t tex.placement (by simp [PSPRenderData.view, found]) target
    simp only [PSPTexture.placement] at layout
    rw [layout]
    simp

/-- Every reachable state keeps its hot list the list of its VRAM-resident targets. -/
theorem hotList_tracks_vram_targets (sound : P.Sound) (reach : ResidencyReachable P s log) :
    HotListTracksVramTargets s log := by
  obtain ⟨order, inv⟩ := reach.invariant sound
  exact inv.tracks

end Runs

def roomyPlatform : Platform Unit where
  vramalloc _ _ := some (0x04000000, ())
  vfree _ _ := ()
  vlargestblock _ := 0x200000
  vmemavail _ := 0x200000
  malloc _ _ := some (0x08800000, ())
  free _ _ := ()
  sceGuGetMemory _ _ := some (0x08800000, ())

theorem roomyPlatform_sound : roomyPlatform.Sound where
  vramalloc_of_fits _ _ _ := rfl
  vramalloc_inVram _ _ _ _ allocated := by
    obtain ⟨rfl, rfl⟩ := Prod.mk.inj (Option.some.inj allocated)
    decide
  malloc_outside_vram _ _ _ _ allocated := by
    obtain ⟨rfl, rfl⟩ := Prod.mk.inj (Option.some.inj allocated)
    decide

/-- A renderer as `PSP_CreateRenderer` leaves it, before any texture. -/
def emptyRenderData : PSPRenderData Unit where
  memory := ()
  bytes _ := 0
  textures _ := none
  nextTexture := 0
  hot := HotList.empty
  target := none
  boundTarget := none
  displayListAvail := false
  frontbuffer := 0x04088000
  backbuffer := 0x04000000
  psm := .psm8888
  blendState := ⟨.invalid, 0, .smooth, none, .invalid, .invalid, .invalid⟩
  vsync := false
  vblankNotReached := true
  trace := []
  error := ""

theorem hotList_tracks_vram_targets_after_create :
    roomyPlatform.Sound ∧
      ResidencyReachable roomyPlatform
        ((TextureCall.create ⟨.abgr8888, .target, 16, 16⟩).run roomyPlatform emptyRenderData).2
        [0] ∧
      HotListTracksVramTargets
        ((TextureCall.create ⟨.abgr8888, .target, 16, 16⟩).run roomyPlatform emptyRenderData).2
        [0] :=
  have reach : ResidencyReachable roomyPlatform
      ((TextureCall.create ⟨.abgr8888, .target, 16, 16⟩).run roomyPlatform emptyRenderData).2
      [0] :=
    .call _ (.init rfl fun _ => rfl) trivial
  ⟨roomyPlatform_sound, reach, hotList_tracks_vram_targets roomyPlatform_sound reach⟩

end SdlRender.Psp
