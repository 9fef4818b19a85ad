import SdlRender.Egl.Config

/-!
# The attribute arrays of `SDL_EGL_CreateContext` and `SDL_EGL_CreateSurface`

Both functions fill `EGLint attribs[33]`: the pairs they choose, then the pairs of the
application's callback, testing `attr + 3 >= 33` before each, then `EGL_NONE`. `AttribFill`
keeps the words at every index, so that a write past the end can be stated; the callback's
list read past its end is `none`.
-/

namespace SdlRender.Egl

/-! ## EGL names, from `egl.h` and `eglext.h` -/

def eglContextClientVersion : Int := 0x3098
def eglContextMajorVersionKhr : Int := 0x3098
def eglContextMinorVersionKhr : Int := 0x30FB
def eglContextFlagsKhr : Int := 0x30FC
def eglContextOpenglProfileMaskKhr : Int := 0x30FD
def eglContextOpenglNoErrorKhr : Int := 0x31B3
def eglGlColorspaceKhr : Int := 0x309D
def eglGlColorspaceSrgbKhr : Int := 0x3089
def eglPresentOpaqueExt : Int := 0x31DF
def eglTrue : Int := 1
def eglFalse : Int := 0

/-- The length of `attribs`: 16 key and value pairs and the terminator. -/
def attribsLength : Nat := 33

/-! ## The array -/

/-- `attribs` as it is filled, with the indices written so far, in order. -/
structure AttribFill where
  attr : Nat
  attribs : Nat → Int
  written : List Nat

namespace AttribFill

/-- The array on entry, `attr = 0`, with whatever the stack held. -/
def start (init : Nat → Int) : AttribFill :=
  ⟨0, init, []⟩

/-- `attribs[attr++] = value`. -/
def push (a : AttribFill) (value : Int) : AttribFill :=
  ⟨a.attr + 1, Function.update a.attribs a.attr value, a.written ++ [a.attr]⟩

/-- `attribs[attr++] = value` for each of `values`, in order. -/
def pushAll (a : AttribFill) (values : List Int) : AttribFill :=
  values.foldl push a

/-- The words `attribs[0 .. attr - 1]`, what EGL reads. -/
def words (a : AttribFill) : List Int :=
  (List.range a.attr).map a.attribs

/-- Every index below `attr` was written once, in order, and no other. -/
def Sequential (a : AttribFill) : Prop :=
  a.written = List.range a.attr

@[simp] theorem push_attr (a : AttribFill) (value : Int) : (a.push value).attr = a.attr + 1 :=
  rfl

@[simp] theorem start_attr (init : Nat → Int) : (start init).attr = 0 :=
  rfl

theorem start_sequential (init : Nat → Int) : (start init).Sequential :=
  rfl

theorem Sequential.push {a : AttribFill} (sequential : a.Sequential) (value : Int) :
    (a.push value).Sequential := by
  rw [AttribFill.Sequential, push_attr, List.range_succ, ← sequential]
  rfl

theorem words_push (a : AttribFill) (value : Int) : (a.push value).words = a.words ++ [value] := by
  simp only [words, push, List.range_succ, List.map_append, List.map_cons, List.map_nil,
    Function.update_same]
  congr 1
  exact List.map_congr_left fun i mem =>
    Function.update_noteq (Nat.ne_of_lt (List.mem_range.mp mem)) _ _

@[simp] theorem start_words (init : Nat → Int) : (start init).words = [] :=
  rfl

theorem Sequential.written_lt {a : AttribFill} (sequential : a.Sequential) {bound : Nat}
    (fits : a.attr ≤ bound) : ∀ i ∈ a.written, i < bound := by
  rw [sequential]
  exact fun i mem => Nat.lt_of_lt_of_le (List.mem_range.mp mem) fits

theorem pushAll_spec (values : List Int) :
    ∀ a : AttribFill, a.Sequential → (a.pushAll values).Sequential ∧
      (a.pushAll values).attr = a.attr + values.length ∧
      (a.pushAll values).words = a.words ++ values := by
  induction values with
  | nil => exact fun a sequential => ⟨sequential, rfl, (List.append_nil _).symm⟩
  | cons value values ih =>
      intro a sequential
      obtain ⟨sequential', attr, words⟩ := ih (a.push value) (sequential.push value)
      refine ⟨sequential', ?_, ?_⟩
      · rw [pushAll, List.foldl_cons, ← pushAll, attr, push_attr, List.length_cons]
        omega
      · rw [pushAll, List.foldl_cons, ← pushAll, words, words_push, List.append_assoc,
          List.singleton_append]

end AttribFill

/-- The failure the attribute part returns with, if any, and every write it made. -/
structure AttribResult where
  fill : AttribFill
  failure : Option (String × Bool)

/-- The words of a list of key and value pairs. -/
def attribWords : List (Int × Int) → List Int
  | [] => []
  | (key, value) :: pairs => key :: value :: attribWords pairs

/-! ## The callback part -/

/-- The loop over the words the callback's list reads; `none` when it reads past them. -/
def userAttribLoop (tooMany : String) : AttribFill → List Int → Option AttribResult
  | _, [] => none
  | a, key :: rest =>
      if key = eglNone then some ⟨a, none⟩
      else if a.attr + 3 ≥ attribsLength then some ⟨a, some (tooMany, true)⟩
      else
        match rest with
        | [] => none
        | value :: rest => userAttribLoop tooMany ((a.push key).push value) rest

/-- The end of both functions' arrays: the callback's pairs, then `EGL_NONE`. -/
def appendUserAttribs (nullMessage tooMany : String) (a : AttribFill) :
    Option (Option (List Int)) → Option AttribResult
  | none => some ⟨a.push eglNone, none⟩
  | some none => some ⟨a, some (nullMessage, true)⟩
  | some (some user) =>
      (userAttribLoop tooMany a user).map fun r =>
        match r.failure with
        | none => ⟨r.fill.push eglNone, none⟩
        | some _ => r

/-! ## The two functions -/

/-- The fields of `_this->gl_config` the context attributes read. -/
structure GLContextConfig where
  profileMask : Int
  majorVersion : Int
  minorVersion : Int
  flags : Int
  noError : Int

/-- The words `SDL_EGL_CreateContext` writes itself, in order. -/
def contextWords (gl : GLContextConfig) (hasExtension : String → Bool) : Option (List Int) :=
  let profileEs := gl.profileMask = sdlGlContextProfileEs
  let versioned :=
    if (gl.majorVersion < 3 ∨ (gl.minorVersion = 0 ∧ profileEs)) ∧ gl.flags = 0 ∧
        (gl.profileMask = 0 ∨ profileEs) then
      some (if profileEs then [eglContextClientVersion, max gl.majorVersion 1] else [])
    else if hasExtension "EGL_KHR_create_context" then
      some ([eglContextMajorVersionKhr, gl.majorVersion, eglContextMinorVersionKhr,
          gl.minorVersion] ++
        (if gl.profileMask ≠ 0 ∧ gl.profileMask ≠ sdlGlContextProfileEs then
          [eglContextOpenglProfileMaskKhr, gl.profileMask] else []) ++
        (if gl.flags ≠ 0 then [eglContextFlagsKhr, gl.flags] else []))
    else none
  versioned.map fun words =>
    words ++
      if gl.noError ≠ 0 then
        if hasExtension "EGL_KHR_create_context_no_error" then
          [eglContextOpenglNoErrorKhr, gl.noError]
        else []
      else []

/-- The attribute part of `SDL_EGL_CreateContext`. -/
def sdlEglCreateContextAttribs (gl : GLContextConfig) (hasExtension : String → Bool)
    (init : Nat → Int) (callback : Option (Option (List Int))) : Option AttribResult :=
  match contextWords gl hasExtension with
  | none =>
      some ⟨AttribFill.start init,
        some ("Could not create EGL context (context attributes are not supported)", false)⟩
  | some words =>
      appendUserAttribs "EGL context attribute callback returned NULL pointer"
        "EGL context attribute callback returned too many attributes"
        ((AttribFill.start init).pushAll words) callback

/-- The words `SDL_EGL_CreateSurface` writes itself. -/
def surfaceWords (framebufferSrgbCapable transparent : Bool) (hasExtension : String → Bool) :
    Option (List Int) :=
  let colorspace :=
    if framebufferSrgbCapable then
      if hasExtension "EGL_KHR_gl_colorspace" then
        some [eglGlColorspaceKhr, eglGlColorspaceSrgbKhr]
      else none
    else some []
  colorspace.map fun words =>
    words ++
      if hasExtension "EGL_EXT_present_opaque" then
        [eglPresentOpaqueExt, if transparent then eglFalse else eglTrue]
      else []

/-- The attribute part of `SDL_EGL_CreateSurface`. -/
def sdlEglCreateSurfaceAttribs (framebufferSrgbCapable transparent : Bool)
    (hasExtension : String → Bool) (init : Nat → Int) (callback : Option (Option (List Int))) :
    Option AttribResult :=
  match surfaceWords framebufferSrgbCapable transparent hasExtension with
  | none =>
      some ⟨AttribFill.start init,
        some ("EGL implementation does not support sRGB system framebuffers", false)⟩
  | some words =>
      appendUserAttribs "EGL surface attribute callback returned NULL pointer"
        "EGL surface attribute callback returned too many attributes"
        ((AttribFill.start init).pushAll words) callback

/-! ## The array stays inside `attribs[33]` -/

section Loop

variable (tooMany : String) (rest : List Int)

theorem userAttribLoop_pairs : ∀ (pairs : List (Int × Int)) (a : AttribFill),
    (∀ p ∈ pairs, p.1 ≠ eglNone) → a.Sequential → a.attr ≤ 31 →
    ∃ r, userAttribLoop tooMany a (attribWords pairs ++ eglNone :: rest) = some r ∧
      r.fill.Sequential ∧ r.fill.attr ≤ 31 ∧
      (r.failure = none ∧ r.fill.words = a.words ++ attribWords pairs ∨
        r.failure = some (tooMany, true))
  | [], a, _, sequential, fits =>
      ⟨⟨a, none⟩, by cases rest <;> simp [attribWords, userAttribLoop], sequential, fits,
        .inl ⟨rfl, by simp [attribWords]⟩⟩
  | (key, value) :: pairs, a, keys, sequential, fits => by
      have notNone : key ≠ eglNone := keys (key, value) (List.mem_cons_self _ _)
      simp only [attribWords, List.cons_append, userAttribLoop, if_neg notNone]
      split_ifs with full
      · exact ⟨_, rfl, sequential, fits, .inr rfl⟩
      · obtain ⟨r, loop, sequential', fits', outcome⟩ := userAttribLoop_pairs pairs
          ((a.push key).push value) (fun p mem => keys p (List.mem_cons_of_mem _ mem))
          ((sequential.push key).push value) (by simp only [attribsLength] at full; simp; omega)
        refine ⟨r, loop, sequential', fits', ?_⟩
        rw [AttribFill.words_push, AttribFill.words_push] at outcome
        simpa [attribWords] using outcome

theorem appendUserAttribs_pairs (nullMessage : String) {a : AttribFill} (sequential : a.Sequential)
    (fits : a.attr ≤ 31) (pairs : List (Int × Int)) (keys : ∀ p ∈ pairs, p.1 ≠ eglNone) :
    ∃ r, appendUserAttribs nullMessage tooMany a
        (some (some (attribWords pairs ++ eglNone :: rest))) = some r ∧
      (∀ i ∈ r.fill.written, i < attribsLength) ∧
      (r.failure = none → r.fill.words = a.words ++ attribWords pairs ++ [eglNone]) := by
  obtain ⟨r, loop, sequential', fits', outcome⟩ :=
    userAttribLoop_pairs tooMany rest pairs a keys sequential fits
  rcases outcome with ⟨ok, words⟩ | failed
  · refine ⟨⟨r.fill.push eglNone, none⟩, by simp [appendUserAttribs, loop, ok],
      (sequential'.push eglNone).written_lt (by simp [attribsLength]; omega), fun _ => ?_⟩
    rw [AttribFill.words_push, words]
  · exact ⟨r, by simp [appendUserAttribs, loop, failed],
      sequential'.written_lt (by unfold attribsLength; omega), fun ok => by simp [failed] at ok⟩

end Loop

theorem contextWords_length {gl : GLContextConfig} {hasExtension : String → Bool}
    {words : List Int} (chosen : contextWords gl hasExtension = some words) :
    words.length ≤ 10 := by
  obtain ⟨versioned, chosenVersion, rfl⟩ := Option.map_eq_some'.1 chosen
  have front : versioned.length ≤ 8 := by
    split_ifs at chosenVersion <;> cases chosenVersion <;> simp
  rw [List.length_append]
  split_ifs <;> simp only [List.length_cons, List.length_nil] <;> omega

theorem surfaceWords_length {framebufferSrgbCapable transparent : Bool}
    {hasExtension : String → Bool} {words : List Int}
    (chosen : surfaceWords framebufferSrgbCapable transparent hasExtension = some words) :
    words.length ≤ 4 := by
  obtain ⟨colorspace, chosenSpace, rfl⟩ := Option.map_eq_some'.1 chosen
  have front : colorspace.length ≤ 2 := by
    split_ifs at chosenSpace <;> cases chosenSpace <;> simp
  rw [List.length_append]
  split_ifs <;> simp only [List.length_cons, List.length_nil] <;> omega

theorem pushAll_appendUserAttribs (nullMessage tooMany : String) (init : Nat → Int)
    {words : List Int} (short : words.length ≤ 10) (pairs : List (Int × Int))
    (keys : ∀ p ∈ pairs, p.1 ≠ eglNone) (rest : List Int) :
    ∃ r, appendUserAttribs nullMessage tooMany ((AttribFill.start init).pushAll words)
        (some (some (attribWords pairs ++ eglNone :: rest))) = some r ∧
      (∀ i ∈ r.fill.written, i < attribsLength) ∧
      (r.failure = none → r.fill.words = words ++ attribWords pairs ++ [eglNone]) := by
  obtain ⟨sequential, attr, written⟩ :=
    AttribFill.pushAll_spec words _ (AttribFill.start_sequential init)
  obtain ⟨r, appended, inside, passed⟩ := appendUserAttribs_pairs tooMany rest nullMessage
    sequential (by rw [attr]; simp; omega) pairs keys
  rw [written, AttribFill.start_words, List.nil_append] at passed
  exact ⟨r, appended, inside, passed⟩

/-- `SDL_EGL_CreateContext` and `SDL_EGL_CreateSurface` write `attribs` only at indices
0 to 32, whatever the callbacks return. -/
theorem sdlEglAttribs_within_array (gl : GLContextConfig)
    (framebufferSrgbCapable transparent : Bool) (hasExtension : String → Bool) (init : Nat → Int)
    (pairs : List (Int × Int)) (keys : ∀ p ∈ pairs, p.1 ≠ eglNone) (rest : List Int) :
    (∃ r, sdlEglCreateContextAttribs gl hasExtension init
        (some (some (attribWords pairs ++ eglNone :: rest))) = some r ∧
      (∀ i ∈ r.fill.written, i < attribsLength) ∧
      (r.failure = none → ∃ words, contextWords gl hasExtension = some words ∧
        r.fill.words = words ++ attribWords pairs ++ [eglNone])) ∧
    (∃ r, sdlEglCreateSurfaceAttribs framebufferSrgbCapable transparent hasExtension init
        (some (some (attribWords pairs ++ eglNone :: rest))) = some r ∧
      (∀ i ∈ r.fill.written, i < attribsLength) ∧
      (r.failure = none → ∃ words,
        surfaceWords framebufferSrgbCapable transparent hasExtension = some words ∧
        r.fill.words = words ++ attribWords pairs ++ [eglNone])) := by
  constructor
  · rcases chosen : contextWords gl hasExtension with _ | words
    · exact ⟨_, by rw [sdlEglCreateContextAttribs, chosen], by simp [AttribFill.start],
        fun failed => by simp at failed⟩
    · obtain ⟨r, appended, inside, passed⟩ := pushAll_appendUserAttribs _ _ init
        (contextWords_length chosen) pairs keys rest
      exact ⟨r, by rw [sdlEglCreateContextAttribs, chosen]; exact appended, inside,
        fun ok => ⟨words, rfl, passed ok⟩⟩
  · rcases chosen : surfaceWords framebufferSrgbCapable transparent hasExtension with _ | words
    · exact ⟨_, by rw [sdlEglCreateSurfaceAttribs, chosen], by simp [AttribFill.start],
        fun failed => by simp at failed⟩
    · obtain ⟨r, appended, inside, passed⟩ := pushAll_appendUserAttribs _ _ init
        (Nat.le_trans (surfaceWords_length chosen) (by decide)) pairs keys rest
      exact ⟨r, by rw [sdlEglCreateSurfaceAttribs, chosen]; exact appended, inside,
        fun ok => ⟨words, rfl, passed ok⟩⟩

theorem sdlEglAttribs_within_array_gles3 :
    (∀ p ∈ [((0x3100 : Int), (1 : Int))], p.1 ≠ eglNone) ∧
      ∃ r, sdlEglCreateContextAttribs ⟨sdlGlContextProfileEs, 3, 0, 0, 0⟩ (fun _ => true)
          (fun _ => 0) (some (some (attribWords [(0x3100, 1)] ++ [eglNone]))) = some r ∧
        ∀ i ∈ r.fill.written, i < attribsLength := by
  obtain ⟨⟨r, built, inside, -⟩, -⟩ := sdlEglAttribs_within_array ⟨sdlGlContextProfileEs, 3, 0, 0, 0⟩
    false false (fun _ => true) (fun _ => 0) [(0x3100, 1)] (by decide) []
  exact ⟨by decide, r, built, inside⟩

end SdlRender.Egl
