import SdlRender.Psp.Residency
import Mathlib.Logic.Relation

/-!
# Where textures live

`ResidencyView` sees a renderer state as the access, placement and layout of each live
texture, the hot list and the next texture id. One lemma per backend function gives the view
after the call as an operation on the view before, on every path. `Platform.Sound` is what
the backend assumes of the PSP's memory.
-/

namespace SdlRender.Psp

structure Placement where
  access : SDLTextureAccess
  size : Nat
  inVram : Bool
  swizzled : Bool
  deriving DecidableEq, Repr

/-- What no migration changes. -/
def Placement.kind (p : Placement) : SDLTextureAccess × Nat :=
  (p.access, p.size)

def PSPTexture.placement (tex : PSPTexture) : Placement :=
  ⟨tex.texture.access, tex.internal.size, decide (InVram tex.internal.data), tex.internal.swizzled⟩

/-- A renderer state with pixel contents abstracted. -/
@[ext]
structure ResidencyView where
  placement : TexId → Option Placement
  hot : HotList
  nextTexture : TexId

def PSPRenderData.view {σ : Type} (s : PSPRenderData σ) : ResidencyView :=
  ⟨fun t => (s.textures t).map PSPTexture.placement, s.hot, s.nextTexture⟩

/-- The memory services behave as the PSP's. -/
structure Platform.Sound {σ : Type} (P : Platform σ) : Prop where
  vramalloc_of_fits : ∀ memory n, n ≤ P.vlargestblock memory → (P.vramalloc memory n).isSome
  vramalloc_inVram : ∀ memory n block memory', P.vramalloc memory n = some (block, memory') →
    0 < block ∧ InVram block
  malloc_outside_vram : ∀ memory n block memory', P.malloc memory n = some (block, memory') →
    ¬ InVram block

namespace ResidencyView

/-- The storage of `t` moves; its access stays. -/
def relocate (v : ResidencyView) (t : TexId) (inVram swizzled : Bool) : ResidencyView :=
  { v with
    placement := Function.update v.placement t ((v.placement t).map fun p => { p with inVram, swizzled }) }

/-- A round of `TextureSpillTargetsForSpace`. -/
def spill (v : ResidencyView) (lru : TexId) : ResidencyView :=
  { v.relocate lru false true with hot := lruTargetRemove v.hot lru }

def bringFront (v : ResidencyView) (t : TexId) : ResidencyView :=
  { v with hot := lruTargetBringFront v.hot t }

/-- A successful `PSP_CreateTexture` of texture `t`. -/
def create (v : ResidencyView) (t : TexId) (access : SDLTextureAccess) (size : Nat) :
    ResidencyView :=
  if access = .target then
    { v with
      placement := Function.update v.placement t (some ⟨.target, size, true, false⟩)
      hot := lruTargetPushFront v.hot t }
  else { v with placement := Function.update v.placement t (some ⟨access, size, false, false⟩) }

def destroy (v : ResidencyView) (t : TexId) : ResidencyView :=
  { v with placement := Function.update v.placement t none, hot := lruTargetRemove v.hot t }

/-- One round of the spill loop, which spills the least recent target. -/
def SpillStep (v v' : ResidencyView) : Prop :=
  ∃ lru, v.hot.leastRecentTarget = some lru ∧ v' = v.spill lru

/-- The spill loop: any number of rounds. -/
def SpillRun : ResidencyView → ResidencyView → Prop :=
  Relation.ReflTransGen SpillStep

@[simp] theorem relocate_hot (v : ResidencyView) (t : TexId) (inVram swizzled : Bool) :
    (v.relocate t inVram swizzled).hot = v.hot := rfl

@[simp] theorem relocate_nextTexture (v : ResidencyView) (t : TexId) (inVram swizzled : Bool) :
    (v.relocate t inVram swizzled).nextTexture = v.nextTexture := rfl

section Spilling

variable {v v' : ResidencyView}

theorem SpillStep.kind (step : SpillStep v v') (u : TexId) :
    (v'.placement u).map Placement.kind = (v.placement u).map Placement.kind := by
  obtain ⟨lru, -, rfl⟩ := step
  by_cases same : u = lru
  · subst same
    cases found : v.placement u <;> simp [spill, relocate, found, Placement.kind]
  · simp [spill, relocate, same]

theorem SpillRun.kind (run : SpillRun v v') (u : TexId) :
    (v'.placement u).map Placement.kind = (v.placement u).map Placement.kind := by
  induction run with
  | refl => rfl
  | tail _ step inductionHypothesis => rw [step.kind, inductionHypothesis]

theorem SpillRun.nextTexture (run : SpillRun v v') : v'.nextTexture = v.nextTexture := by
  induction run with
  | refl => rfl
  | tail _ step inductionHypothesis =>
      obtain ⟨lru, -, rfl⟩ := step
      exact inductionHypothesis

end Spilling

end ResidencyView

namespace PSPRenderData

variable {σ : Type} {s : PSPRenderData σ}

@[simp] theorem view_emit (event : PspEvent) : (s.emit event).view = s.view := rfl

@[simp] theorem view_gu (call : GuCall) : (s.gu call).view = s.view := rfl

theorem view_eq {v : ResidencyView}
    (placement : ∀ u, (s.textures u).map PSPTexture.placement = v.placement u)
    (hot : s.hot = v.hot) (nextTexture : s.nextTexture = v.nextTexture) : s.view = v :=
  ResidencyView.ext (funext placement) hot nextTexture

theorem view_setInternal {t : TexId} {tex : PSPTexture} (found : s.textures t = some tex)
    {internal : PSPTextureData} (sameSize : internal.size = tex.internal.size) :
    (s.setInternal t internal).view =
      s.view.relocate t (decide (InVram internal.data)) internal.swizzled := by
  refine view_eq (fun u => ?_) rfl rfl
  by_cases same : u = t
  · subst same
    simp [setInternal, view, ResidencyView.relocate, found, PSPTexture.placement, sameSize]
  · simp [setInternal, view, ResidencyView.relocate, same]

end PSPRenderData

section Spec

variable {σ : Type} {P : Platform σ} {s s' : PSPRenderData σ} {t : TexId} {tex : PSPTexture}
  {ok : Bool}

@[simp] theorem textureStorageFree_view (storage : Nat) :
    (textureStorageFree P s storage).view = s.view := rfl

@[simp] theorem textureStorageFree_textures (storage : Nat) :
    (textureStorageFree P s storage).textures = s.textures := rfl

theorem textureSwizzle_of_swizzled (found : s.textures t = some tex)
    (swizzled : tex.internal.swizzled = true) (dst : Nat) :
    textureSwizzle P s t dst = (true, s) := by
  simp [textureSwizzle, found, swizzled]

theorem textureSwizzle_cases (sound : P.Sound) (found : s.textures t = some tex)
    (unswizzled : tex.internal.swizzled = false) (swizzle : textureSwizzle P s t 0 = (ok, s')) :
    ok = false ∧ s' = s ∨ ok = true ∧ s'.view = s.view.relocate t false true := by
  unfold textureSwizzle codecDestination at swizzle
  rw [found] at swizzle
  simp only [unswizzled, Bool.false_eq_true, if_false, if_true] at swizzle
  rcases allocated : P.malloc s.memory tex.internal.size with _ | ⟨data, memory⟩ <;>
    rw [allocated] at swizzle <;> obtain ⟨rfl, rfl⟩ := Prod.mk.inj swizzle
  · exact .inl ⟨rfl, rfl⟩
  · refine .inr ⟨rfl, ?_⟩
    rw [PSPRenderData.view_setInternal (by exact found) (by rfl)]
    simp only [sound.malloc_outside_vram _ _ _ _ allocated, decide_False]
    rfl

theorem textureUnswizzle_view (found : s.textures t = some tex)
    (swizzled : tex.internal.swizzled = true) {dst : Nat} (notNull : 0 < dst)
    (inVram : InVram dst) :
    (textureUnswizzle P s t dst).1 = true ∧
      (textureUnswizzle P s t dst).2.view = s.view.relocate t true false := by
  unfold textureUnswizzle codecDestination
  rw [found]
  simp only [swizzled, Bool.not_true, Bool.false_eq_true, if_false,
    Nat.pos_iff_ne_zero.mp notNull]
  refine ⟨by trivial, ?_⟩
  rw [PSPRenderData.view_setInternal (by exact found) (by rfl)]
  simp only [inVram, decide_True]
  rfl

theorem texturePromoteToVram_view (sound : P.Sound) (found : s.textures t = some tex)
    (fits : tex.internal.size ≤ P.vlargestblock s.memory) :
    (texturePromoteToVram P s t true).1 = true ∧
      (texturePromoteToVram P s t true).2.view = s.view.relocate t true false := by
  obtain ⟨⟨block, memory⟩, allocated⟩ :=
    Option.isSome_iff_exists.mp (sound.vramalloc_of_fits _ _ fits)
  obtain ⟨notNull, inVram⟩ := sound.vramalloc_inVram _ _ _ _ allocated
  unfold texturePromoteToVram
  rw [found]
  simp only [allocated, Option.getD_some, Bool.and_true]
  cases swizzled : tex.internal.swizzled
  · simp only [Bool.false_eq_true, if_false]
    refine ⟨by trivial, ?_⟩
    rw [PSPRenderData.view_setInternal (by exact found) (by rfl)]
    simp only [inVram, decide_True, swizzled]
    rfl
  · simp only [if_true]
    exact textureUnswizzle_view (by exact found) swizzled notNull inVram

theorem textureSpillToSram_cases (sound : P.Sound)
    (spill : textureSpillToSram P s t = (ok, s')) :
    ok = false ∧ s' = s ∨ ok = true ∧ s'.view = s.view.relocate t false true := by
  unfold textureSpillToSram at spill
  rcases found : s.textures t with _ | tex <;> rw [found] at spill <;> dsimp only at spill
  · obtain ⟨rfl, rfl⟩ := Prod.mk.inj spill
    exact .inl ⟨rfl, rfl⟩
  · cases swizzled : tex.internal.swizzled
    · simp only [swizzled, Bool.false_eq_true, if_false] at spill
      exact textureSwizzle_cases sound found swizzled spill
    · simp only [swizzled, if_true] at spill
      rcases allocated : P.malloc s.memory tex.internal.size with _ | ⟨sdata, memory⟩ <;>
        rw [allocated] at spill <;> obtain ⟨rfl, rfl⟩ := Prod.mk.inj spill
      · exact .inl ⟨rfl, rfl⟩
      · refine .inr ⟨rfl, ?_⟩
        rw [PSPRenderData.view_setInternal (by exact found) (by rfl)]
        simp only [sound.malloc_outside_vram _ _ _ _ allocated, decide_False, swizzled]
        rfl

theorem textureSpillLRU_cases (sound : P.Sound) {wanted : Nat}
    (spill : textureSpillLRU P s wanted = (ok, s')) :
    ok = false ∧ s'.view = s.view ∨ ok = true ∧ ResidencyView.SpillStep s.view s'.view := by
  unfold textureSpillLRU at spill
  rcases least : s.hot.leastRecentTarget with _ | lru <;> rw [least] at spill <;>
    dsimp only at spill
  · obtain ⟨rfl, rfl⟩ := Prod.mk.inj spill
    exact .inl ⟨rfl, rfl⟩
  · rcases spilled : textureSpillToSram P s lru with ⟨spillOk, spilledState⟩
    rw [spilled] at spill
    rcases textureSpillToSram_cases sound spilled with ⟨rfl, rfl⟩ | ⟨rfl, moved⟩ <;>
      dsimp only at spill <;> obtain ⟨rfl, rfl⟩ := Prod.mk.inj spill
    · exact .inl ⟨rfl, rfl⟩
    · refine .inr ⟨rfl, lru, least, ?_⟩
      have sameHot : spilledState.hot = s.hot := congrArg ResidencyView.hot moved
      show ({ spilledState.view with hot := lruTargetRemove spilledState.hot lru } :
        ResidencyView) = _
      rw [moved, sameHot]
      rfl

theorem spillTargetsLoop_run (sound : P.Sound) (size : Nat) :
    ∀ fuel (s : PSPRenderData σ),
      ResidencyView.SpillRun s.view (spillTargetsLoop P size fuel s).2.view ∧
        ((spillTargetsLoop P size fuel s).1 = true →
          size ≤ P.vlargestblock (spillTargetsLoop P size fuel s).2.memory)
  | 0, _ => ⟨.refl, by simp [spillTargetsLoop]⟩
  | fuel + 1, s => by
      simp only [spillTargetsLoop]
      by_cases short : P.vlargestblock s.memory < size
      · rw [if_pos short]
        rcases spilled : textureSpillLRU P s size with ⟨ok, spilledState⟩
        rcases textureSpillLRU_cases sound spilled with ⟨rfl, same⟩ | ⟨rfl, step⟩ <;>
          dsimp only
        · exact ⟨same ▸ .refl, by simp⟩
        · obtain ⟨run, fits⟩ := spillTargetsLoop_run sound size fuel spilledState
          exact ⟨.head step run, fits⟩
      · rw [if_neg short]
        exact ⟨.refl, fun _ => Nat.le_of_not_lt short⟩

theorem textureSpillTargetsForSpace_run (sound : P.Sound) (s : PSPRenderData σ) (size : Nat) :
    ResidencyView.SpillRun s.view (textureSpillTargetsForSpace P s size).2.view ∧
      ((textureSpillTargetsForSpace P s size).1 = true →
        size ≤ P.vlargestblock (textureSpillTargetsForSpace P s size).2.memory) :=
  spillTargetsLoop_run sound size _ s

@[simp] theorem setDrawBuffer_view (s : PSPRenderData σ) (t : TexId) :
    (setDrawBuffer s t).view = s.view := by
  unfold setDrawBuffer
  split
  · rfl
  · dsimp only
    split <;> simp only [PSPRenderData.view_gu]

theorem exists_of_spillRun {v : ResidencyView} (found : s.textures t = some tex)
    (run : ResidencyView.SpillRun s.view v) :
    ∃ p, v.placement t = some p ∧ p.access = tex.texture.access ∧ p.size = tex.internal.size := by
  have kind := run.kind t
  simp only [PSPRenderData.view, found, Option.map_some'] at kind
  obtain ⟨p, moved, same⟩ := Option.map_eq_some'.mp kind
  exact ⟨p, moved, congrArg Prod.fst same, congrArg Prod.snd same⟩

theorem textureBindAsTarget_cases (sound : P.Sound) (found : s.textures t = some tex)
    (bind : textureBindAsTarget P s t = (ok, s')) :
    InVram tex.internal.data ∧ ok = true ∧ s'.view = s.view.bringFront t ∨
      ∃ v, ResidencyView.SpillRun s.view v ∧
        (ok = false ∧ s'.view = v ∨ ok = true ∧ s'.view = (v.relocate t true false).bringFront t) := by
  unfold textureBindAsTarget at bind
  rw [found] at bind
  dsimp only at bind
  by_cases resident : InVram tex.internal.data
  · rw [if_pos resident] at bind
    obtain ⟨rfl, rfl⟩ := Prod.mk.inj bind
    exact .inl ⟨resident, rfl, setDrawBuffer_view _ t⟩
  · rw [if_neg resident] at bind
    right
    rcases made : textureSpillTargetsForSpace P s tex.internal.size with ⟨madeOk, spilled⟩
    have ⟨run, fits⟩ := textureSpillTargetsForSpace_run sound s tex.internal.size
    rw [made] at bind run fits
    refine ⟨spilled.view, run, ?_⟩
    cases madeOk <;> dsimp only at bind
    · obtain ⟨rfl, rfl⟩ := Prod.mk.inj bind
      exact .inl ⟨rfl, rfl⟩
    · obtain ⟨p, moved, -, sameSize⟩ := exists_of_spillRun found run
      simp only [PSPRenderData.view, Option.map_eq_some'] at moved
      obtain ⟨tex₁, found₁, rfl⟩ := moved
      have ⟨promoted, relocated⟩ := texturePromoteToVram_view sound found₁
        (show tex₁.placement.size ≤ _ from sameSize ▸ fits rfl)
      rcases promote : texturePromoteToVram P spilled t true with ⟨promoteOk, promotedState⟩
      rw [promote] at bind promoted relocated
      subst promoted
      obtain ⟨rfl, rfl⟩ := Prod.mk.inj bind
      refine .inr ⟨rfl, ?_⟩
      have sameHot : promotedState.hot = spilled.hot := congrArg ResidencyView.hot relocated
      rw [setDrawBuffer_view]
      show ({ promotedState.view with hot := lruTargetBringFront promotedState.hot t } :
        ResidencyView) = _
      rw [relocated, sameHot]
      rfl

theorem allocateTextureStorage_cases (sound : P.Sound) {texture : SDLTexture} {record : Nat}
    (allocate : allocateTextureStorage P s t texture record = (ok, s')) :
    ∃ v, ResidencyView.SpillRun s.view v ∧
      (ok = false ∧ s'.view = v ∨
        ok = true ∧ s'.view = v.create t texture.access (pspTextureRecord texture).size) := by
  unfold allocateTextureStorage at allocate
  by_cases target : texture.access = .target
  · rw [if_pos target] at allocate
    rcases made : textureSpillTargetsForSpace P s (pspTextureRecord texture).size with
      ⟨madeOk, spilled⟩
    have run := (textureSpillTargetsForSpace_run sound s (pspTextureRecord texture).size).1
    rw [made] at allocate run
    refine ⟨spilled.view, run, ?_⟩
    cases madeOk <;> dsimp only at allocate
    · obtain ⟨rfl, rfl⟩ := Prod.mk.inj allocate
      exact .inl ⟨rfl, rfl⟩
    · rcases allocated : P.vramalloc spilled.memory (pspTextureRecord texture).size with
        _ | ⟨data, memory⟩ <;> rw [allocated] at allocate <;>
        obtain ⟨rfl, rfl⟩ := Prod.mk.inj allocate
      · exact .inl ⟨rfl, rfl⟩
      · have inVram := (sound.vramalloc_inVram _ _ _ _ allocated).2
        refine .inr ⟨rfl, ?_⟩
        rw [ResidencyView.create, if_pos target]
        refine PSPRenderData.view_eq (fun u => ?_) rfl rfl
        by_cases same : u = t
        · subst same
          simp [inVram, target, PSPTexture.placement, pspTextureRecord]
        · simp [same, PSPRenderData.view]
  · rw [if_neg target] at allocate
    refine ⟨s.view, .refl, ?_⟩
    rcases allocated : P.malloc s.memory (pspTextureRecord texture).size with
      _ | ⟨data, memory⟩ <;> rw [allocated] at allocate <;>
      obtain ⟨rfl, rfl⟩ := Prod.mk.inj allocate
    · exact .inl ⟨rfl, rfl⟩
    · have outside := sound.malloc_outside_vram _ _ _ _ allocated
      refine .inr ⟨rfl, ?_⟩
      rw [ResidencyView.create, if_neg target]
      refine PSPRenderData.view_eq (fun u => ?_) rfl rfl
      by_cases same : u = t
      · subst same
        simp [outside, PSPTexture.placement, pspTextureRecord]
      · simp [same, PSPRenderData.view]

theorem pspCreateTexture_cases (sound : P.Sound) {texture : SDLTexture}
    (create : pspCreateTexture P s texture = (ok, s')) :
    ∃ v, ResidencyView.SpillRun { s.view with nextTexture := s.nextTexture + 1 } v ∧
      (ok = false ∧ s'.view = v ∨
        ok = true ∧ s'.view = v.create s.nextTexture texture.access
          (pspTextureRecord texture).size) := by
  unfold pspCreateTexture at create
  dsimp only at create
  rcases allocated : P.malloc s.memory pspTextureDataSize with _ | ⟨record, memory⟩ <;>
    rw [allocated] at create <;> dsimp only at create
  · obtain ⟨rfl, rfl⟩ := Prod.mk.inj create
    exact ⟨_, .refl, .inl ⟨rfl, rfl⟩⟩
  · exact allocateTextureStorage_cases sound create

theorem pspDestroyTexture_view (found : s.textures t = some tex) :
    (pspDestroyTexture P s t).view = s.view.destroy t := by
  unfold pspDestroyTexture
  rw [found]
  refine PSPRenderData.view_eq (fun u => ?_) rfl rfl
  by_cases same : u = t
  · subst same
    simp [ResidencyView.destroy]
  · simp [same, ResidencyView.destroy, PSPRenderData.view]

theorem pspDestroyTexture_of_none (missing : s.textures t = none) :
    pspDestroyTexture P s t = s := by
  simp [pspDestroyTexture, missing]

@[simp] theorem textureSetImage_view (s : PSPRenderData σ) (t : TexId) :
    (textureSetImage s t).view = s.view := by
  unfold textureSetImage
  split <;> rfl

theorem textureActivate_cases (sound : P.Sound) (s : PSPRenderData σ) (t : TexId) :
    (textureActivate P s t).view = s.view ∨
      ∃ tex, s.textures t = some tex ∧ textureShouldSwizzle tex.internal tex.texture = true ∧
        (textureActivate P s t).view = s.view.relocate t false true := by
  unfold textureActivate
  rcases found : s.textures t with _ | tex
  · exact .inl rfl
  · dsimp only
    rw [textureSetImage_view]
    by_cases should : textureShouldSwizzle tex.internal tex.texture = true
    · rw [if_pos should]
      cases swizzled : tex.internal.swizzled
      · rcases swizzle : textureSwizzle P s t 0 with ⟨ok, swizzledState⟩
        rcases textureSwizzle_cases sound found swizzled swizzle with ⟨-, rfl⟩ | ⟨-, moved⟩
        · exact .inl rfl
        · exact .inr ⟨tex, rfl, should, moved⟩
      · rw [textureSwizzle_of_swizzled found swizzled]
        exact .inl rfl
    · rw [if_neg should]
      exact .inl rfl

@[simp] theorem pspLockTexture_view (s : PSPRenderData σ) (t : TexId) (rect : SDLRect) :
    (pspLockTexture s t rect).2.view = s.view := by
  unfold pspLockTexture
  split <;> rfl

@[simp] theorem pspUpdateTexture_view (s : PSPRenderData σ) (t : TexId) (rect : SDLRect)
    (pixels pitch : Nat) : (pspUpdateTexture s t rect pixels pitch).2.view = s.view := by
  unfold pspUpdateTexture
  split
  · rfl
  · have locked := pspLockTexture_view s t rect
    rcases lock : pspLockTexture s t rect with ⟨⟨dst, dpitch⟩, lockedState⟩
    rw [lock] at locked
    dsimp only
    split <;> exact locked

@[simp] theorem pspUnlockTexture_view (s : PSPRenderData σ) (t : TexId) :
    (pspUnlockTexture s t).view = s.view := by
  unfold pspUnlockTexture
  split
  · rfl
  · exact pspUpdateTexture_view _ _ _ _ _

end Spec

end SdlRender.Psp
