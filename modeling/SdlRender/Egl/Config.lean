import Mathlib.Data.List.Infix

/-!
# `SDL_EGL_PrivateChooseConfig`

Among the configs `eglChooseConfig` gives, SDL keeps the first of least "bitdiff", the sum of
how far each size exceeds the request, preferring an 8/8/8 config when at most 16 bits of
colour were asked for. The bitdiff is a C `int` sum, wrapping at 32 bits (`wrapInt`); the
choice it is meant to make is stated over the exact sum (`FirstLeast`).
-/

namespace SdlRender.Egl

/-! ## EGL names -/

def eglBufferSize : Int := 0x3020
def eglAlphaSize : Int := 0x3021
def eglBlueSize : Int := 0x3022
def eglGreenSize : Int := 0x3023
def eglRedSize : Int := 0x3024
def eglDepthSize : Int := 0x3025
def eglStencilSize : Int := 0x3026
def eglConfigCaveat : Int := 0x3027
def eglNativeVisualId : Int := 0x302E
def eglSamples : Int := 0x3031
def eglSampleBuffers : Int := 0x3032
def eglSurfaceType : Int := 0x3033
def eglNone : Int := 0x3038
def eglRenderableType : Int := 0x3040
def eglColorComponentTypeExt : Int := 0x3339
def eglColorComponentTypeFloatExt : Int := 0x333B
def eglDontCare : Int := -1
def eglPbufferBit : Int := 0x0001
def eglOpenglEsBit : Int := 0x0001
def eglOpenglEs2Bit : Int := 0x0004
def eglOpenglBit : Int := 0x0008
def eglOpenglEs3BitKhr : Int := 0x0040

/-- `SDL_GL_CONTEXT_PROFILE_ES`. -/
def sdlGlContextProfileEs : Int := 0x0004

/-- The fields of `_this->gl_config` the attribute list reads. -/
structure GLConfig where
  redSize : Int
  greenSize : Int
  blueSize : Int
  alphaSize : Int
  bufferSize : Int
  depthSize : Int
  stencilSize : Int
  multisamplebuffers : Int
  multisamplesamples : Int
  floatbuffers : Int
  profileMask : Int
  majorVersion : Int

/-- The fields of `_this->egl_data` the function reads, with its two EGL calls. -/
structure EGLData (κ : Type) where
  isOffscreen : Bool
  eglSurfacetype : Int
  eglRequiredVisualId : Int
  eglChooseConfig : List Int → Option (List κ)
  eglGetConfigAttrib : κ → Int → Int

/-- A C `int` result: the integer taken modulo `2 ^ 32` into `[-2 ^ 31, 2 ^ 31)`. -/
def wrapInt (x : Int) : Int :=
  (x + 0x80000000) % 0x100000000 - 0x80000000

/-! ## The function -/

/-- The `attribs` array, `EGL_NONE` last. -/
def attribList (gl : GLConfig) {κ : Type} (egl : EGLData κ)
    (setConfigCaveatNone khrCreateContext : Bool) : List Int :=
  [eglRedSize, gl.redSize, eglGreenSize, gl.greenSize, eglBlueSize, gl.blueSize] ++
    (if setConfigCaveatNone then [eglConfigCaveat, eglNone] else []) ++
    (if gl.alphaSize ≠ 0 then [eglAlphaSize, gl.alphaSize] else []) ++
    (if gl.bufferSize ≠ 0 then [eglBufferSize, gl.bufferSize] else []) ++
    (if gl.depthSize ≠ 0 then [eglDepthSize, gl.depthSize] else []) ++
    (if gl.stencilSize ≠ 0 then [eglStencilSize, gl.stencilSize] else []) ++
    (if gl.multisamplebuffers ≠ 0 then [eglSampleBuffers, gl.multisamplebuffers] else []) ++
    (if gl.multisamplesamples ≠ 0 then [eglSamples, gl.multisamplesamples] else []) ++
    (if gl.floatbuffers ≠ 0 then [eglColorComponentTypeExt, eglColorComponentTypeFloatExt]
      else []) ++
    (if egl.isOffscreen then [eglSurfaceType, eglPbufferBit] else []) ++
    [eglRenderableType,
      if gl.profileMask = sdlGlContextProfileEs then
        if gl.majorVersion ≥ 3 ∧ khrCreateContext then eglOpenglEs3BitKhr
        else if gl.majorVersion ≥ 2 then eglOpenglEs2Bit
        else eglOpenglEsBit
      else eglOpenglBit] ++
    (if egl.eglSurfacetype ≠ 0 then [eglSurfaceType, egl.eglSurfacetype] else []) ++
    [eglNone]

/-- The attributes the bitdiff sums: the colour, alpha, depth and stencil sizes. -/
def isSizeAttrib (key : Int) : Bool :=
  key = eglRedSize || key = eglGreenSize || key = eglBlueSize || key = eglAlphaSize ||
    key = eglDepthSize || key = eglStencilSize

/-- The bitdiff loop over the attribute pairs up to `EGL_NONE`. -/
def bitdiffLoop (value : Int → Int) : List Int → Int → Int
  | key :: requested :: rest, bitdiff =>
      if key = eglNone then bitdiff
      else bitdiffLoop value rest
        (if requested ≠ eglDontCare ∧ isSizeAttrib key then
          wrapInt (bitdiff + wrapInt (value key - requested))
        else bitdiff)
  | _, bitdiff => bitdiff

/-- The locals the config loop updates. -/
structure ChooseState (κ : Type) where
  eglConfig : Option κ
  bestBitdiff : Int
  bestTruecolorBitdiff : Int
  truecolorConfigIdx : Int

/-- Whether the config loop skips a config. -/
def skipsConfig {κ : Type} (egl : EGLData κ) (hasMatchingFormat : Bool) (config : κ) : Bool :=
  hasMatchingFormat && egl.eglRequiredVisualId ≠ 0 &&
    egl.eglRequiredVisualId ≠ egl.eglGetConfigAttrib config eglNativeVisualId

/-- Whether a config is 8/8/8. -/
def isTruecolor {κ : Type} (egl : EGLData κ) (config : κ) : Bool :=
  egl.eglGetConfigAttrib config eglRedSize = 8 && egl.eglGetConfigAttrib config eglGreenSize = 8 &&
    egl.eglGetConfigAttrib config eglBlueSize = 8

/-- One round of the config loop, for `configs[i]`. -/
def chooseStep {κ : Type} (egl : EGLData κ) (attribs : List Int) (hasMatchingFormat : Bool)
    (st : ChooseState κ) (i : Nat) (config : κ) : ChooseState κ :=
  if skipsConfig egl hasMatchingFormat config then st
  else
    let bitdiff := bitdiffLoop (egl.eglGetConfigAttrib config) attribs 0
    let st := if bitdiff < st.bestBitdiff ∨ st.bestBitdiff = -1 then
        { st with eglConfig := some config, bestBitdiff := bitdiff }
      else st
    if isTruecolor egl config ∧
        (bitdiff < st.bestTruecolorBitdiff ∨ st.bestTruecolorBitdiff = -1) then
      { st with truecolorConfigIdx := i, bestTruecolorBitdiff := bitdiff }
    else st

/-- The config loop from `configs[i]`. -/
def chooseLoop {κ : Type} (egl : EGLData κ) (attribs : List Int) (hasMatchingFormat : Bool) :
    Nat → List κ → ChooseState κ → ChooseState κ
  | _, [], st => st
  | i, config :: configs, st =>
      chooseLoop egl attribs hasMatchingFormat (i + 1) configs
        (chooseStep egl attribs hasMatchingFormat st i config)

/-- `has_matching_format`: `egl_required_visual_id` is set and some config has it. -/
def hasMatchingFormat {κ : Type} (egl : EGLData κ) (configs : List κ) : Bool :=
  egl.eglRequiredVisualId ≠ 0 &&
    configs.any fun config => egl.eglRequiredVisualId = egl.eglGetConfigAttrib config eglNativeVisualId

/-- `SDL_EGL_PrivateChooseConfig`, and the config it stores. -/
def sdlEglPrivateChooseConfig (gl : GLConfig) {κ : Type} (egl : EGLData κ)
    (setConfigCaveatNone khrCreateContext : Bool) : Bool × Option κ :=
  let attribs := attribList gl egl setConfigCaveatNone khrCreateContext
  match egl.eglChooseConfig attribs with
  | none => (false, none)
  | some [] => (false, none)
  | some configs =>
      let st := chooseLoop egl attribs (hasMatchingFormat egl configs) 0 configs
        ⟨none, -1, -1, -1⟩
      if wrapInt (wrapInt (gl.redSize + gl.blueSize) + gl.greenSize) ≤ 16 ∧
          st.truecolorConfigIdx ≠ -1 then
        (true, configs[st.truecolorConfigIdx.toNat]?)
      else (true, st.eglConfig)

/-! ## The choice the function is meant to make -/

/-- The bitdiff as an integer sum. -/
def exactBitdiff (value : Int → Int) : List Int → Int
  | key :: requested :: rest =>
      if key = eglNone then 0
      else (if requested ≠ eglDontCare ∧ isSizeAttrib key then value key - requested else 0) +
        exactBitdiff value rest
  | _ => 0

/-- Whether a config meets every size request other than `EGL_DONT_CARE`. -/
def meetsRequest (value : Int → Int) : List Int → Bool
  | key :: requested :: rest =>
      key = eglNone ||
        (requested = eglDontCare || !isSizeAttrib key || decide (requested ≤ value key)) &&
          meetsRequest value rest
  | _ => true

/-- The configs the choice is among. -/
def eligibleConfigs {κ : Type} (egl : EGLData κ) (configs : List κ) : List κ :=
  if egl.eglRequiredVisualId ≠ 0 ∧
      ∃ c ∈ configs, egl.eglRequiredVisualId = egl.eglGetConfigAttrib c eglNativeVisualId then
    configs.filter fun c => egl.eglRequiredVisualId = egl.eglGetConfigAttrib c eglNativeVisualId
  else configs

/-- `c` is the first element of `l` on which `f` is least. -/
def FirstLeast {α : Type} (f : α → Int) (l : List α) (c : α) : Prop :=
  ∃ pre post, l = pre ++ c :: post ∧ (∀ d ∈ pre, f c < f d) ∧ ∀ d ∈ post, f c ≤ f d

theorem FirstLeast.map {α β : Type} {f : β → Int} {h : α → β} {l : List α} {c : α}
    (least : FirstLeast (fun a => f (h a)) l c) : FirstLeast f (l.map h) (h c) := by
  obtain ⟨pre, post, rfl, before, after⟩ := least
  exact ⟨pre.map h, post.map h, by simp, List.forall_mem_map.mpr before,
    List.forall_mem_map.mpr after⟩

theorem FirstLeast.mem {α : Type} {f : α → Int} {l : List α} {c : α}
    (least : FirstLeast f l c) : c ∈ l := by
  obtain ⟨pre, post, rfl, -, -⟩ := least
  simp

theorem FirstLeast.le {α : Type} {f : α → Int} {l : List α} {c : α}
    (least : FirstLeast f l c) : ∀ d ∈ l, f c ≤ f d := by
  obtain ⟨pre, post, rfl, before, after⟩ := least
  simp only [List.mem_append, List.mem_cons]
  rintro d (mem | rfl | mem)
  · exact Int.le_of_lt (before d mem)
  · exact Int.le_refl _
  · exact after d mem

theorem FirstLeast.congr {α : Type} {f g : α → Int} {l : List α} {c : α}
    (same : ∀ d ∈ l, f d = g d) (least : FirstLeast f l c) : FirstLeast g l c := by
  obtain ⟨pre, post, rfl, before, after⟩ := least
  have atC := same c (by simp)
  refine ⟨pre, post, rfl, fun d mem => ?_, fun d mem => ?_⟩
  · rw [← atC, ← same d (by simp [mem])]; exact before d mem
  · rw [← atC, ← same d (by simp [mem])]; exact after d mem

/-! ## The two running minima -/

/-- One round of a running minimum with the `-1` sentinel. -/
def track {α β : Type} (f : α → Int) (g : α → β) (best : β × Int) (x : α) : β × Int :=
  if f x < best.2 ∨ best.2 = -1 then (g x, f x) else best

theorem foldl_track {α β : Type} (f : α → Int) (g : α → β) (init : β) (l : List α)
    (nonneg : ∀ x ∈ l, 0 ≤ f x) (nonempty : l ≠ []) :
    ∃ c, l.foldl (track f g) (init, -1) = (g c, f c) ∧ FirstLeast f l c := by
  induction l using List.reverseRecOn with
  | nil => exact absurd rfl nonempty
  | append_singleton l x ih =>
      have atX := nonneg x (by simp)
      rw [List.foldl_append, List.foldl_cons, List.foldl_nil]
      by_cases first : l = []
      · subst first
        exact ⟨x, if_pos (Or.inr rfl), [], [], rfl, by simp, by simp⟩
      obtain ⟨c, best, pre, post, rfl, before, after⟩ :=
        ih (fun y mem => nonneg y (by simp [mem])) first
      have atC := nonneg c (by simp)
      rw [best, track]
      by_cases lower : f x < f c
      · refine ⟨x, if_pos (Or.inl lower), pre ++ c :: post, [], by simp, ?_, by simp⟩
        simp only [List.mem_append, List.mem_cons]
        rintro d (mem | rfl | mem)
        · exact Int.lt_trans lower (before d mem)
        · exact lower
        · exact Int.lt_of_lt_of_le lower (after d mem)
      · refine ⟨c, if_neg (by omega), pre, post ++ [x], by simp, before, ?_⟩
        simp only [List.mem_append, List.mem_singleton]
        rintro d (mem | rfl)
        · exact after d mem
        · omega

/-! ## The loop's two bitdiffs -/

theorem wrapInt_of_fits (x : Int) (lo : -0x80000000 ≤ x) (hi : x < 0x80000000) :
    wrapInt x = x := by
  unfold wrapInt; omega

theorem wrapInt_add_wrapInt (x y : Int) : wrapInt (wrapInt x + y) = wrapInt (x + y) := by
  unfold wrapInt; omega

section Bitdiff

variable (value : Int → Int)

theorem meetsRequest_cons (key requested : Int) (rest : List Int) :
    meetsRequest value (key :: requested :: rest) = true ↔ key = eglNone ∨
      ((requested ≠ eglDontCare ∧ isSizeAttrib key → requested ≤ value key) ∧
        meetsRequest value rest = true) := by
  rw [meetsRequest]
  cases isSizeAttrib key <;> by_cases dc : requested = eglDontCare <;> simp [dc]

theorem exactBitdiff_nonneg :
    ∀ attribs, meetsRequest value attribs = true → 0 ≤ exactBitdiff value attribs
  | key :: requested :: rest, met => by
      rw [meetsRequest_cons] at met
      rw [exactBitdiff]
      split_ifs with stop counted
      · exact Int.le_refl 0
      · have := (met.resolve_left stop).1 counted
        have := exactBitdiff_nonneg rest (met.resolve_left stop).2
        omega
      · simpa using exactBitdiff_nonneg rest (met.resolve_left stop).2
  | [], _ => Int.le_refl 0
  | [_], _ => Int.le_refl 0

theorem bitdiffLoop_eq_exact : ∀ attribs bitdiff, meetsRequest value attribs = true →
    0 ≤ bitdiff → bitdiff + exactBitdiff value attribs < 0x80000000 →
    bitdiffLoop value attribs bitdiff = bitdiff + exactBitdiff value attribs
  | key :: requested :: rest, bitdiff, met, nonneg, fits => by
      rw [meetsRequest_cons] at met
      rw [exactBitdiff] at fits ⊢
      rw [bitdiffLoop]
      by_cases stop : key = eglNone
      · rw [if_pos stop, if_pos stop, Int.add_zero]
      obtain ⟨term, more⟩ := met.resolve_left stop
      have restNonneg := exactBitdiff_nonneg value rest more
      rw [if_neg stop] at fits ⊢
      rw [if_neg stop]
      split_ifs at fits ⊢ with counted
      · have := term counted
        rw [wrapInt_of_fits (value key - requested) (by omega) (by omega),
          wrapInt_of_fits _ (by omega) (by omega),
          bitdiffLoop_eq_exact rest _ more (by omega) (by omega)]
        omega
      · rw [bitdiffLoop_eq_exact rest _ more nonneg (by omega)]
        omega
  | [], _, _, _, _ => (Int.add_zero _).symm
  | [_], _, _, _, _ => (Int.add_zero _).symm

end Bitdiff

/-! ## The config loop keeps the two running minima -/

section Loop

variable {κ : Type} (egl : EGLData κ) (attribs : List Int) (matching : Bool)

/-- The bitdiff the loop computes for a config. -/
def configBitdiff (c : κ) : Int :=
  bitdiffLoop (egl.eglGetConfigAttrib c) attribs 0

theorem chooseStep_best (st : ChooseState κ) (i : Nat) (c : κ) :
    ((chooseStep egl attribs matching st i c).eglConfig,
        (chooseStep egl attribs matching st i c).bestBitdiff) =
      if skipsConfig egl matching c then (st.eglConfig, st.bestBitdiff)
      else track (configBitdiff egl attribs) some (st.eglConfig, st.bestBitdiff) c := by
  simp only [chooseStep, track, configBitdiff, apply_ite ChooseState.eglConfig,
    apply_ite ChooseState.bestBitdiff, ite_self]
  split_ifs <;> rfl

theorem chooseStep_truecolor (st : ChooseState κ) (i : Nat) (c : κ) :
    ((chooseStep egl attribs matching st i c).truecolorConfigIdx,
        (chooseStep egl attribs matching st i c).bestTruecolorBitdiff) =
      if isTruecolor egl c && !skipsConfig egl matching c then
        track (fun p : Nat × κ => configBitdiff egl attribs p.2) (fun p => (p.1 : Int))
          (st.truecolorConfigIdx, st.bestTruecolorBitdiff) (i, c)
      else (st.truecolorConfigIdx, st.bestTruecolorBitdiff) := by
  simp only [chooseStep, track, configBitdiff, apply_ite ChooseState.bestTruecolorBitdiff,
    apply_ite ChooseState.truecolorConfigIdx, ite_self]
  by_cases skip : skipsConfig egl matching c
  · simp [skip]
  · by_cases tc : isTruecolor egl c <;> simp [skip, tc]
    split_ifs <;> rfl

theorem chooseLoop_best : ∀ (i : Nat) (configs : List κ) (st : ChooseState κ),
    ((chooseLoop egl attribs matching i configs st).eglConfig,
        (chooseLoop egl attribs matching i configs st).bestBitdiff) =
      (configs.filter fun c => !skipsConfig egl matching c).foldl
        (track (configBitdiff egl attribs) some) (st.eglConfig, st.bestBitdiff)
  | _, [], _ => rfl
  | i, c :: configs, st => by
      rw [chooseLoop, chooseLoop_best (i + 1) configs, chooseStep_best, List.filter_cons]
      by_cases skip : skipsConfig egl matching c <;> simp [skip]

theorem chooseLoop_truecolor : ∀ (i : Nat) (configs : List κ) (st : ChooseState κ),
    ((chooseLoop egl attribs matching i configs st).truecolorConfigIdx,
        (chooseLoop egl attribs matching i configs st).bestTruecolorBitdiff) =
      ((configs.enumFrom i).filter fun p => isTruecolor egl p.2 && !skipsConfig egl matching p.2).foldl
        (track (fun p => configBitdiff egl attribs p.2) fun p => (p.1 : Int))
        (st.truecolorConfigIdx, st.bestTruecolorBitdiff)
  | _, [], _ => rfl
  | i, c :: configs, st => by
      rw [chooseLoop, chooseLoop_truecolor (i + 1) configs, chooseStep_truecolor,
        List.enumFrom_cons, List.filter_cons]
      by_cases pick : (isTruecolor egl c && !skipsConfig egl matching c) = true <;> simp [pick]

theorem hasMatchingFormat_eq (configs : List κ) :
    hasMatchingFormat egl configs = decide (egl.eglRequiredVisualId ≠ 0 ∧
      ∃ c ∈ configs, egl.eglRequiredVisualId = egl.eglGetConfigAttrib c eglNativeVisualId) := by
  simp only [hasMatchingFormat, Bool.decide_and, List.any_eq, decide_eq_true_eq]

theorem filter_not_skipsConfig (configs : List κ) :
    configs.filter (fun c => !skipsConfig egl (hasMatchingFormat egl configs) c) =
      eligibleConfigs egl configs := by
  rw [eligibleConfigs, hasMatchingFormat_eq]
  split_ifs with matching
  · rw [decide_eq_true matching]
    exact List.filter_congr fun c _ => by simp [skipsConfig, matching.1]
  · rw [decide_eq_false matching]
    simp [skipsConfig]

theorem mem_of_mem_eligibleConfigs {configs : List κ} {c : κ}
    (mem : c ∈ eligibleConfigs egl configs) : c ∈ configs := by
  unfold eligibleConfigs at mem
  split_ifs at mem
  · exact List.mem_of_mem_filter mem
  · exact mem

theorem eligibleConfigs_ne_nil {configs : List κ} (nonempty : configs ≠ []) :
    eligibleConfigs egl configs ≠ [] := by
  unfold eligibleConfigs
  split_ifs with matching
  · obtain ⟨c, mem, same⟩ := matching.2
    exact List.ne_nil_of_mem (List.mem_filter.mpr ⟨mem, by simpa using same⟩)
  · exact nonempty

theorem map_snd_filter_enumFrom {α : Type} (q : α → Bool) :
    ∀ (n : Nat) (l : List α), ((l.enumFrom n).filter fun p => q p.2).map Prod.snd = l.filter q
  | _, [] => rfl
  | n, a :: l => by
      rw [List.enumFrom_cons, List.filter_cons, List.filter_cons]
      split_ifs <;> simp [map_snd_filter_enumFrom q (n + 1) l]

theorem map_snd_truecolor (configs : List κ) :
    ((configs.enumFrom 0).filter fun p => isTruecolor egl p.2 && !skipsConfig egl matching p.2).map
      Prod.snd = (configs.filter fun c => !skipsConfig egl matching c).filter (isTruecolor egl) := by
  rw [List.filter_filter, map_snd_filter_enumFrom (fun c => isTruecolor egl c && !skipsConfig egl matching c)]

theorem getElem?_of_mem_enumFrom {configs : List κ} {p : Nat × κ}
    (mem : p ∈ configs.enumFrom 0) : configs[p.1]? = some p.2 :=
  List.mem_enum_iff_getElem?.mp (List.enum_eq_enumFrom ▸ mem)

variable (configs : List κ)

theorem map_snd_truecolor_eligible :
    ((configs.enumFrom 0).filter fun p =>
        isTruecolor egl p.2 && !skipsConfig egl (hasMatchingFormat egl configs) p.2).map Prod.snd =
      (eligibleConfigs egl configs).filter (isTruecolor egl) := by
  rw [map_snd_truecolor, filter_not_skipsConfig]

theorem chooseLoop_truecolor_none
    (noTruecolor : ¬ ∃ c ∈ eligibleConfigs egl configs, isTruecolor egl c) :
    (chooseLoop egl attribs (hasMatchingFormat egl configs) 0 configs
      ⟨none, -1, -1, -1⟩).truecolorConfigIdx = -1 := by
  have empty := map_snd_truecolor_eligible egl configs
  rw [List.filter_eq_nil_iff.mpr fun c mem tc => noTruecolor ⟨c, mem, tc⟩,
    List.map_eq_nil_iff] at empty
  have loop := chooseLoop_truecolor egl attribs (hasMatchingFormat egl configs) 0 configs
    ⟨none, -1, -1, -1⟩
  rw [empty, List.foldl_nil, Prod.mk.injEq] at loop
  exact loop.1

variable (nonneg : ∀ c ∈ configs, 0 ≤ configBitdiff egl attribs c)
include nonneg

theorem chooseLoop_eglConfig (nonempty : configs ≠ []) :
    ∃ c, (chooseLoop egl attribs (hasMatchingFormat egl configs) 0 configs
        ⟨none, -1, -1, -1⟩).eglConfig = some c ∧
      FirstLeast (configBitdiff egl attribs) (eligibleConfigs egl configs) c := by
  obtain ⟨c, tracked, least⟩ := foldl_track (configBitdiff egl attribs) some none _
    (fun c mem => nonneg c (mem_of_mem_eligibleConfigs egl mem))
    (eligibleConfigs_ne_nil egl nonempty)
  have loop := chooseLoop_best egl attribs (hasMatchingFormat egl configs) 0 configs
    ⟨none, -1, -1, -1⟩
  rw [filter_not_skipsConfig, tracked, Prod.mk.injEq] at loop
  exact ⟨c, loop.1, least⟩

theorem chooseLoop_truecolor_some
    (truecolor : ∃ c ∈ eligibleConfigs egl configs, isTruecolor egl c) :
    ∃ c, (chooseLoop egl attribs (hasMatchingFormat egl configs) 0 configs
          ⟨none, -1, -1, -1⟩).truecolorConfigIdx ≠ -1 ∧
      configs[(chooseLoop egl attribs (hasMatchingFormat egl configs) 0 configs
          ⟨none, -1, -1, -1⟩).truecolorConfigIdx.toNat]? = some c ∧
      FirstLeast (configBitdiff egl attribs)
        ((eligibleConfigs egl configs).filter (isTruecolor egl)) c := by
  have image := map_snd_truecolor_eligible egl configs
  have nonempty : (configs.enumFrom 0).filter (fun p =>
      isTruecolor egl p.2 && !skipsConfig egl (hasMatchingFormat egl configs) p.2) ≠ [] := by
    obtain ⟨c, mem, tc⟩ := truecolor
    intro empty
    rw [empty, List.map_nil] at image
    exact List.not_mem_nil c (image ▸ List.mem_filter.mpr ⟨mem, tc⟩)
  obtain ⟨p, tracked, least⟩ := foldl_track (fun p : Nat × κ => configBitdiff egl attribs p.2)
    (fun p => (p.1 : Int)) (-1) _
    (fun p mem => nonneg p.2 (List.mem_iff_getElem?.mpr
      ⟨p.1, getElem?_of_mem_enumFrom (List.mem_of_mem_filter mem)⟩)) nonempty
  have loop := chooseLoop_truecolor egl attribs (hasMatchingFormat egl configs) 0 configs
    ⟨none, -1, -1, -1⟩
  rw [tracked, Prod.mk.injEq] at loop
  refine ⟨p.2, by omega, ?_, image ▸ FirstLeast.map (h := Prod.snd) least⟩
  rw [loop.1, Int.toNat_ofNat]
  exact getElem?_of_mem_enumFrom (List.mem_of_mem_filter least.mem)

end Loop

/-! ## What the function stores -/

/-- Without overflow, `SDL_EGL_PrivateChooseConfig` stores the first eligible config
of least bitdiff, or of the 8/8/8 ones when at most 16 bits of colour were asked for. -/
theorem sdlEglPrivateChooseConfig_first_least (gl : GLConfig) {κ : Type} (egl : EGLData κ)
    (setConfigCaveatNone khrCreateContext : Bool) (configs : List κ)
    (returned : egl.eglChooseConfig (attribList gl egl setConfigCaveatNone khrCreateContext) =
      some configs)
    (nonempty : configs ≠ [])
    (met : ∀ c ∈ configs,
      meetsRequest (egl.eglGetConfigAttrib c) (attribList gl egl setConfigCaveatNone khrCreateContext))
    (bitdiffFits : ∀ c ∈ configs, exactBitdiff (egl.eglGetConfigAttrib c)
      (attribList gl egl setConfigCaveatNone khrCreateContext) < 0x80000000)
    (colourFits : -0x80000000 ≤ gl.redSize + gl.blueSize + gl.greenSize ∧
      gl.redSize + gl.blueSize + gl.greenSize < 0x80000000) :
    ∃ c, sdlEglPrivateChooseConfig gl egl setConfigCaveatNone khrCreateContext = (true, some c) ∧
      if gl.redSize + gl.greenSize + gl.blueSize ≤ 16 ∧
          ∃ d ∈ eligibleConfigs egl configs, isTruecolor egl d then
        FirstLeast (fun d => exactBitdiff (egl.eglGetConfigAttrib d)
            (attribList gl egl setConfigCaveatNone khrCreateContext))
          ((eligibleConfigs egl configs).filter (isTruecolor egl)) c
      else
        FirstLeast (fun d => exactBitdiff (egl.eglGetConfigAttrib d)
            (attribList gl egl setConfigCaveatNone khrCreateContext))
          (eligibleConfigs egl configs) c := by
  have agree : ∀ c ∈ configs, configBitdiff egl _ c = exactBitdiff (egl.eglGetConfigAttrib c)
      (attribList gl egl setConfigCaveatNone khrCreateContext) := fun c mem =>
    (bitdiffLoop_eq_exact _ _ 0 (met c mem) (Int.le_refl 0)
      (by simpa using bitdiffFits c mem)).trans (Int.zero_add _)
  have nonneg : ∀ c ∈ configs, 0 ≤ configBitdiff egl _ c := fun c mem =>
    (agree c mem).symm ▸ exactBitdiff_nonneg _ _ (met c mem)
  obtain ⟨best, stored, least⟩ := chooseLoop_eglConfig egl _ configs nonneg nonempty
  obtain ⟨c0, rest, rfl⟩ := List.exists_cons_of_ne_nil nonempty
  simp only [sdlEglPrivateChooseConfig, returned, wrapInt_add_wrapInt,
    wrapInt_of_fits _ colourFits.1 colourFits.2]
  by_cases favour : gl.redSize + gl.greenSize + gl.blueSize ≤ 16 ∧
      ∃ d ∈ eligibleConfigs egl (c0 :: rest), isTruecolor egl d
  · obtain ⟨c, found, stored, tcLeast⟩ := chooseLoop_truecolor_some egl _ _ nonneg favour.2
    refine ⟨c, by rw [if_pos ⟨by omega, found⟩, stored], ?_⟩
    rw [if_pos favour]
    exact tcLeast.congr fun d mem =>
      agree d (mem_of_mem_eligibleConfigs egl (List.mem_of_mem_filter mem))
  · refine ⟨best, ?_, ?_⟩
    · rw [if_neg, stored]
      rintro ⟨small, found⟩
      exact favour ⟨by omega, not_not.mp (mt (chooseLoop_truecolor_none egl _ _) found)⟩
    · rw [if_neg favour]
      exact least.congr fun d mem => agree d (mem_of_mem_eligibleConfigs egl mem)


/-! ## Two configs -/

def twoConfigs (first second : Int × Int × Int) : EGLData Nat where
  isOffscreen := false
  eglSurfacetype := 0
  eglRequiredVisualId := 0
  eglChooseConfig _ := some [0, 1]
  eglGetConfigAttrib c key :=
    let sizes := if c = 0 then first else second
    if key = eglRedSize then sizes.1
    else if key = eglGreenSize then sizes.2.1
    else if key = eglBlueSize then sizes.2.2
    else 0

/-- `_this->gl_config` asking for `r`, `g` and `b` colour bits and nothing else. -/
def colourRequest (r g b : Int) : GLConfig :=
  ⟨r, g, b, 0, 0, 0, 0, 0, 0, 0, sdlGlContextProfileEs, 2⟩

/-- With 5/6/5 asked for, the 8/8/8 config is preferred to the exact 5/6/5 one. -/
theorem sdlEglPrivateChooseConfig_prefers_truecolor :
    (twoConfigs (5, 6, 5) (8, 8, 8)).eglChooseConfig
        (attribList (colourRequest 5 6 5) (twoConfigs (5, 6, 5) (8, 8, 8)) false false) =
      some [0, 1] ∧
    (∀ c ∈ [0, 1], meetsRequest ((twoConfigs (5, 6, 5) (8, 8, 8)).eglGetConfigAttrib c)
      (attribList (colourRequest 5 6 5) (twoConfigs (5, 6, 5) (8, 8, 8)) false false)) ∧
    (∀ c ∈ [0, 1], exactBitdiff ((twoConfigs (5, 6, 5) (8, 8, 8)).eglGetConfigAttrib c)
      (attribList (colourRequest 5 6 5) (twoConfigs (5, 6, 5) (8, 8, 8)) false false) <
        0x80000000) ∧
    ∃ c, sdlEglPrivateChooseConfig (colourRequest 5 6 5) (twoConfigs (5, 6, 5) (8, 8, 8))
        false false = (true, some c) ∧
      FirstLeast (fun d => exactBitdiff ((twoConfigs (5, 6, 5) (8, 8, 8)).eglGetConfigAttrib d)
          (attribList (colourRequest 5 6 5) (twoConfigs (5, 6, 5) (8, 8, 8)) false false))
        ((eligibleConfigs (twoConfigs (5, 6, 5) (8, 8, 8)) [0, 1]).filter
          (isTruecolor (twoConfigs (5, 6, 5) (8, 8, 8)))) c := by
  obtain ⟨c, stored, least⟩ := sdlEglPrivateChooseConfig_first_least (colourRequest 5 6 5)
    (twoConfigs (5, 6, 5) (8, 8, 8)) false false [0, 1] rfl (by decide) (by decide) (by decide)
    (by decide)
  exact ⟨rfl, by decide, by decide, c, stored, by rwa [if_pos (by decide)] at least⟩

/-- A bitdiff of `2 ^ 31` wraps and beats an exact config. -/
theorem sdlEglPrivateChooseConfig_wrapped_bitdiff_wins :
    (twoConfigs (8, 8, 8) (0x7FFFFFFF, 17, 8)).eglChooseConfig
        (attribList (colourRequest 8 8 8) (twoConfigs (8, 8, 8) (0x7FFFFFFF, 17, 8)) false false) =
      some [0, 1] ∧
    (∀ c ∈ [0, 1], meetsRequest ((twoConfigs (8, 8, 8) (0x7FFFFFFF, 17, 8)).eglGetConfigAttrib c)
      (attribList (colourRequest 8 8 8) (twoConfigs (8, 8, 8) (0x7FFFFFFF, 17, 8)) false false)) ∧
    ¬ ∃ c, sdlEglPrivateChooseConfig (colourRequest 8 8 8) (twoConfigs (8, 8, 8) (0x7FFFFFFF, 17, 8))
        false false = (true, some c) ∧
      if (colourRequest 8 8 8).redSize + (colourRequest 8 8 8).greenSize +
            (colourRequest 8 8 8).blueSize ≤ 16 ∧
          ∃ d ∈ eligibleConfigs (twoConfigs (8, 8, 8) (0x7FFFFFFF, 17, 8)) [0, 1],
            isTruecolor (twoConfigs (8, 8, 8) (0x7FFFFFFF, 17, 8)) d then
        FirstLeast (fun d => exactBitdiff
            ((twoConfigs (8, 8, 8) (0x7FFFFFFF, 17, 8)).eglGetConfigAttrib d)
            (attribList (colourRequest 8 8 8) (twoConfigs (8, 8, 8) (0x7FFFFFFF, 17, 8)) false false))
          ((eligibleConfigs (twoConfigs (8, 8, 8) (0x7FFFFFFF, 17, 8)) [0, 1]).filter
            (isTruecolor (twoConfigs (8, 8, 8) (0x7FFFFFFF, 17, 8)))) c
      else
        FirstLeast (fun d => exactBitdiff
            ((twoConfigs (8, 8, 8) (0x7FFFFFFF, 17, 8)).eglGetConfigAttrib d)
            (attribList (colourRequest 8 8 8) (twoConfigs (8, 8, 8) (0x7FFFFFFF, 17, 8)) false false))
          (eligibleConfigs (twoConfigs (8, 8, 8) (0x7FFFFFFF, 17, 8)) [0, 1]) c := by
  refine ⟨rfl, by decide, ?_⟩
  rintro ⟨c, stored, least⟩
  have run : sdlEglPrivateChooseConfig (colourRequest 8 8 8)
      (twoConfigs (8, 8, 8) (0x7FFFFFFF, 17, 8)) false false = (true, some 1) := by decide
  obtain rfl : c = 1 := Option.some.inj (Prod.mk.inj (stored.symm.trans run)).2
  rw [if_neg (by decide)] at least
  exact absurd (least.le 0 (by decide)) (by decide)

end SdlRender.Egl
