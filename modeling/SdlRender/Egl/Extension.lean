import Mathlib.Data.List.Infix

/-!
# `SDL_EGL_HasExtension`

The extension string is a list of names separated by spaces. `SDL_EGL_HasExtension` finds the
name with `SDL_strstr`, accepts a match bounded by spaces or the ends of the string, and
otherwise skips past the name it landed in. A C string is read through `readAt`, and a read
past the terminator, or running out of fuel, is `none`.
-/

namespace SdlRender.Egl

/-- A NUL-terminated string: its characters before the terminator. -/
structure CString where
  chars : List Char
  noNul : '\x00' ∉ chars

/-- `SDL_EGL_ExtensionType`. -/
inductive SDLEGLExtensionType where
  | display
  | client
  deriving DecidableEq, Repr

/-- `s[i]`: a character, the terminator at `s.chars.length`, `none` past it. -/
def readAt (s : CString) (i : Nat) : Option Char :=
  if i = s.chars.length then some '\x00' else s.chars[i]?

/-- `SDL_strstr(s + start, needle)`. -/
def strstr (s needle : List Char) (start : Nat) : Option Nat :=
  (List.range (s.length + 1)).find? fun p => start ≤ p && needle.isPrefixOf (s.drop p)

/-- `while (*ext_start != ' ' && *ext_start != 0) ext_start++`. -/
def skipName (s : CString) : Nat → Nat → Option Nat
  | 0, _ => none
  | fuel + 1, i =>
      (readAt s i).bind fun c =>
        if c ≠ ' ' ∧ c ≠ '\x00' then skipName s fuel (i + 1) else some i

/-- The `while (*ext_start)` loop from `ext_start = egl_extstr + i`. -/
def scanExtensions (s : CString) (ext : List Char) : Nat → Nat → Option Bool
  | 0, _ => none
  | fuel + 1, i =>
      (readAt s i).bind fun c =>
        if c = '\x00' then some false
        else
          match strstr s.chars ext i with
          | none => some false
          | some p =>
              let startsName := if p = 0 then some true else (readAt s (p - 1)).map (· == ' ')
              startsName.bind fun startsName =>
                let endsName := if startsName then
                    (readAt s (p + ext.length)).map fun c => c == ' ' || c == '\x00'
                  else some false
                endsName.bind fun endsName =>
                  if endsName then some true
                  else (skipName s (s.chars.length + 1) (p + ext.length)).bind
                    (scanExtensions s ext fuel)

/-- `SDL_EGL_HasExtension`. -/
def sdlEglHasExtension (query : SDLEGLExtensionType → Option CString)
    (hint : List Char → Option Int) (type : SDLEGLExtensionType) (ext : Option CString) :
    Option Bool :=
  match ext with
  | none => some false
  | some ext =>
      if ext.chars = [] ∨ ' ' ∈ ext.chars then some false
      else
        let masked : Bool := match hint ext.chars with
          | some disableExt =>
              (disableExt % 2 = 1 && type = .display) || (disableExt / 2 % 2 = 1 && type = .client)
          | none => false
        if masked then some false
        else
          match query type with
          | none => some false
          | some s => scanExtensions s ext.chars (s.chars.length + 1) 0

/-! ## Names in the extension string -/

/-- `t` is one of the space-separated names of `s`. -/
def IsName (s t : List Char) : Prop :=
  t ≠ [] ∧ ' ' ∉ t ∧ ∃ pre post, s = pre ++ t ++ post ∧
    (pre = [] ∨ pre.getLast? = some ' ') ∧ (post = [] ∨ post.head? = some ' ')

/-- `ext` occurs at `q` as a whole name. -/
def NameAt (s ext : List Char) (q : Nat) : Prop :=
  ext <+: s.drop q ∧ (q = 0 ∨ s[q - 1]? = some ' ') ∧
    (s[q + ext.length]? = none ∨ s[q + ext.length]? = some ' ')

instance (s ext : List Char) (q : Nat) : Decidable (NameAt s ext q) :=
  inferInstanceAs (Decidable (ext <+: s.drop q ∧ (q = 0 ∨ s[q - 1]? = some ' ') ∧
    (s[q + ext.length]? = none ∨ s[q + ext.length]? = some ' ')))

/-! ## Reads, `SDL_strstr` and the skip loop -/

namespace CString

variable (s : CString)

theorem readAt_length : readAt s s.chars.length = some '\x00' :=
  if_pos rfl

theorem readAt_of_lt {i : Nat} (inside : i < s.chars.length) :
    readAt s i = some s.chars[i] := by
  rw [readAt, if_neg (by omega), List.getElem?_eq_getElem inside]

theorem getElem_ne_nul {i : Nat} (inside : i < s.chars.length) : s.chars[i] ≠ '\x00' :=
  fun nul => s.noNul (nul ▸ List.getElem_mem inside)

end CString

theorem strstr_spec (s needle : List Char) (start : Nat) :
    (∃ p, strstr s needle start = some p ∧ start ≤ p ∧ needle <+: s.drop p ∧
      ∀ q, start ≤ q → q < p → ¬ needle <+: s.drop q) ∨
    (strstr s needle start = none ∧ ∀ q, start ≤ q → ¬ needle <+: s.drop q ∨ s.length < q) := by
  unfold strstr
  cases found : (List.range (s.length + 1)).find?
      (fun p => start ≤ p && needle.isPrefixOf (s.drop p)) with
  | some p =>
      obtain ⟨holds, -, before⟩ := List.find?_range_eq_some.mp found
      simp only [Bool.and_eq_true, decide_eq_true_eq, List.isPrefixOf_iff_prefix] at holds
      refine .inl ⟨p, rfl, holds.1, holds.2, fun q after below => ?_⟩
      have := before q below
      intro occurs
      simp [after, List.isPrefixOf_iff_prefix.mpr occurs] at this
  | none =>
      refine .inr ⟨rfl, fun q after => ?_⟩
      by_cases beyond : s.length < q
      · exact .inr beyond
      · have := List.find?_eq_none.mp found q (List.mem_range.mpr (by omega))
        simp only [Bool.and_eq_true, decide_eq_true_eq, List.isPrefixOf_iff_prefix, not_and] at this
        exact .inl (this after)

theorem skipName_spec (s : CString) :
    ∀ fuel j, j ≤ s.chars.length → s.chars.length - j < fuel →
      ∃ k, skipName s fuel j = some k ∧ j ≤ k ∧ k ≤ s.chars.length ∧
        (∀ m, j ≤ m → m < k → s.chars[m]? ≠ some ' ') ∧
        (k = s.chars.length ∨ s.chars[k]? = some ' ')
  | 0, _, _, enough => absurd enough (Nat.not_lt_zero _)
  | fuel + 1, j, inside, enough => by
      rw [skipName]
      rcases Nat.lt_or_eq_of_le inside with before | atEnd
      · rw [s.readAt_of_lt before, Option.some_bind]
        by_cases space : s.chars[j] = ' '
        · rw [if_neg (fun other => other.1 space)]
          exact ⟨j, rfl, le_rfl, inside, fun m _ _ => by omega,
            .inr (by rw [List.getElem?_eq_getElem before, space])⟩
        · rw [if_pos ⟨space, s.getElem_ne_nul before⟩]
          obtain ⟨k, skipped, after, bound, names, stop⟩ :=
            skipName_spec s fuel (j + 1) before (by omega)
          refine ⟨k, skipped, by omega, bound, fun m first below => ?_, stop⟩
          rcases Nat.lt_or_eq_of_le first with later | rfl
          · exact names m later below
          · rw [List.getElem?_eq_getElem before]
            exact fun same => space (Option.some.inj same)
      · subst atEnd
        rw [s.readAt_length, Option.some_bind, if_neg (fun other => other.2 rfl)]
        exact ⟨_, rfl, le_rfl, le_rfl, fun m _ _ => by omega, .inl rfl⟩

theorem add_length_le_of_prefix {s ext : List Char} {p : Nat} (nonempty : ext ≠ [])
    (occurs : ext <+: s.drop p) : p + ext.length ≤ s.length := by
  have := occurs.length_le
  rw [List.length_drop] at this
  have : p < s.length := by
    by_contra beyond
    rw [List.drop_eq_nil_of_le (by omega), List.prefix_nil] at occurs
    exact nonempty occurs
  omega

theorem nameChecks_eq (s : CString) {ext : List Char} {p : Nat} (nonempty : ext ≠ [])
    (occurs : ext <+: s.chars.drop p) (rest : Option Bool) :
    ((if p = 0 then some true else (readAt s (p - 1)).map (· == ' ')).bind fun startsName =>
        (if startsName then (readAt s (p + ext.length)).map fun c => c == ' ' || c == '\x00'
          else some false).bind fun endsName => if endsName then some true else rest) =
      if NameAt s.chars ext p then some true else rest := by
  have bound := add_length_le_of_prefix nonempty occurs
  have startCheck : (if p = 0 then some true else (readAt s (p - 1)).map (· == ' ')) =
      some (decide (p = 0 ∨ s.chars[p - 1]? = some ' ')) := by
    split_ifs with first
    · simp [first]
    · rw [s.readAt_of_lt (by omega), List.getElem?_eq_getElem (by omega), Option.map_some']
      congr 1
      rw [Bool.eq_iff_iff]
      simp [first]
  have endCheck : ((readAt s (p + ext.length)).map fun c => c == ' ' || c == '\x00') =
      some (decide (s.chars[p + ext.length]? = none ∨ s.chars[p + ext.length]? = some ' ')) := by
    rcases Nat.lt_or_eq_of_le bound with inside | atEnd
    · rw [s.readAt_of_lt inside, List.getElem?_eq_getElem inside, Option.map_some']
      congr 1
      rw [Bool.eq_iff_iff]
      simp [s.getElem_ne_nul inside]
    · rw [atEnd, s.readAt_length]
      simp
  rw [startCheck, Option.some_bind]
  by_cases starts : p = 0 ∨ s.chars[p - 1]? = some ' '
  · rw [decide_eq_true starts, if_pos rfl, endCheck, Option.some_bind]
    simp only [NameAt, occurs, starts, true_and, decide_eq_true_eq]
  · rw [decide_eq_false starts, if_neg Bool.false_ne_true, Option.some_bind, if_neg Bool.false_ne_true,
      if_neg fun name => starts name.2.1]

theorem getElem?_of_prefix_drop {s ext : List Char} {p m : Nat} (occurs : ext <+: s.drop p)
    (short : m < ext.length) : s[p + m]? = ext[m]? := by
  rw [← List.getElem?_drop, List.getElem?_eq_getElem short,
    List.getElem?_eq_getElem (lt_of_lt_of_le short occurs.length_le), occurs.getElem short]

theorem not_nameAt_of_skipped {s : List Char} {ext : List Char} (noSpace : ' ' ∉ ext)
    {i p k : Nat} (before : ∀ q < i, ¬ NameAt s ext q)
    (first : ∀ q, i ≤ q → q < p → ¬ ext <+: s.drop q) (occurs : ext <+: s.drop p)
    (notName : ¬ NameAt s ext p) (names : ∀ m, p + ext.length ≤ m → m < k → s[m]? ≠ some ' ') :
    ∀ q < k, ¬ NameAt s ext q := by
  intro q below name
  rcases Nat.lt_or_ge q p with early | late
  · exact if earlier : q < i then before q earlier name else first q (by omega) early name.1
  rcases Nat.lt_or_eq_of_le late with later | rfl
  · have space := name.2.1.resolve_left (by omega)
    by_cases inMatch : q - 1 < p + ext.length
    · rw [show q - 1 = p + (q - 1 - p) by omega, getElem?_of_prefix_drop occurs (by omega)] at space
      exact noSpace (List.mem_iff_getElem?.mpr ⟨_, space⟩)
    · exact names (q - 1) (by omega) (by omega) space
  · exact notName name

theorem scanExtensions_spec (s : CString) {ext : List Char} (nonempty : ext ≠ [])
    (noSpace : ' ' ∉ ext) :
    ∀ fuel i, i ≤ s.chars.length → s.chars.length - i < fuel →
      (∀ q < i, ¬ NameAt s.chars ext q) →
      ∃ b, scanExtensions s ext fuel i = some b ∧ (b = true ↔ ∃ q, NameAt s.chars ext q)
  | 0, _, _, enough, _ => absurd enough (Nat.not_lt_zero _)
  | fuel + 1, i, inside, enough, before => by
      have long := List.length_pos.mpr nonempty
      have noneFrom : (∀ q, i ≤ q → ¬ ext <+: s.chars.drop q) → ¬ ∃ q, NameAt s.chars ext q :=
        fun absent ⟨q, name⟩ => if early : q < i then before q early name
          else absent q (by omega) name.1
      rw [scanExtensions]
      rcases Nat.lt_or_eq_of_le inside with inString | atEnd
      · rw [s.readAt_of_lt inString, Option.some_bind, if_neg (s.getElem_ne_nul inString)]
        rcases strstr_spec s.chars ext i with ⟨p, found, after, occurs, first⟩ | ⟨notFound, absent⟩
        · simp only [found]
          rw [nameChecks_eq s nonempty occurs]
          split_ifs with name
          · exact ⟨true, rfl, iff_of_true rfl ⟨p, name⟩⟩
          · have bound := add_length_le_of_prefix nonempty occurs
            obtain ⟨k, skipped, fromEnd, inString', names, -⟩ :=
              skipName_spec s (s.chars.length + 1) (p + ext.length) bound (by omega)
            rw [skipped, Option.some_bind]
            exact scanExtensions_spec s nonempty noSpace fuel k inString' (by omega)
              (not_nameAt_of_skipped noSpace before first occurs name names)
        · simp only [notFound]
          exact ⟨false, rfl, iff_of_false Bool.false_ne_true (noneFrom fun q after occurs =>
            (absent q after).elim (· occurs) fun beyond =>
              by have := add_length_le_of_prefix nonempty occurs; omega)⟩
      · subst atEnd
        rw [s.readAt_length, Option.some_bind, if_pos rfl]
        exact ⟨false, rfl, iff_of_false Bool.false_ne_true (noneFrom fun q after occurs =>
          by have := add_length_le_of_prefix nonempty occurs; omega)⟩

theorem isName_iff (s t : List Char) :
    IsName s t ↔ t ≠ [] ∧ ' ' ∉ t ∧ ∃ q, NameAt s t q := by
  refine and_congr_right fun nonempty => and_congr_right fun _ => ⟨?_, ?_⟩
  · rintro ⟨pre, post, rfl, starts, ends⟩
    refine ⟨pre.length, ?_, ?_, ?_⟩
    · rw [List.append_assoc, List.drop_left]
      exact List.prefix_append t post
    · rcases starts with rfl | last
      · exact .inl rfl
      · have : pre ≠ [] := by
          rintro rfl
          cases last
        rw [List.getLast?_eq_getElem?] at last
        have := List.length_pos.mpr this
        rw [List.append_assoc, List.getElem?_append_left (by omega)]
        exact .inr last
    · rw [List.append_assoc, List.getElem?_append_right (by omega),
        List.getElem?_append_right (by omega), show pre.length + t.length - pre.length -
          t.length = 0 by omega, ← List.head?_eq_getElem?]
      exact ends.imp List.head?_eq_none_iff.mpr id
  · rintro ⟨q, occurs, starts, ends⟩
    have within : q ≤ s.length := by
      have := add_length_le_of_prefix nonempty occurs
      omega
    refine ⟨s.take q, s.drop (q + t.length), ?_, ?_, ?_⟩
    · conv_lhs => rw [← List.take_append_drop q s]
      rw [List.append_assoc, ← List.take_append_drop t.length (s.drop q), List.drop_drop,
        ← List.prefix_iff_eq_take.mp occurs]
    · by_cases first : q = 0
      · exact .inl (by rw [first, List.take_zero])
      · refine .inr ?_
        rw [List.getLast?_eq_getElem?, List.length_take_of_le within,
          List.getElem?_take_of_lt (by omega), starts.resolve_left first]
    · rw [← List.head?_eq_none_iff, List.head?_eq_getElem?, List.getElem?_drop, Nat.add_zero]
      exact ends

/-! ## `SDL_EGL_HasExtension` -/

/-- Unmasked, `SDL_EGL_HasExtension` reads within the string and holds exactly when
`ext` is one of its names. -/
theorem sdlEglHasExtension_iff_name (query : SDLEGLExtensionType → Option CString)
    (hint : List Char → Option Int) (type : SDLEGLExtensionType) (s ext : CString)
    (queried : query type = some s)
    (unmasked : ∀ disableExt, hint ext.chars = some disableExt →
      ¬ ((disableExt % 2 = 1 ∧ type = .display) ∨ (disableExt / 2 % 2 = 1 ∧ type = .client))) :
    ∃ b, sdlEglHasExtension query hint type (some ext) = some b ∧
      (b = true ↔ IsName s.chars ext.chars) := by
  by_cases invalid : ext.chars = [] ∨ ' ' ∈ ext.chars
  · refine ⟨false, by rw [sdlEglHasExtension, if_pos invalid],
      iff_of_false Bool.false_ne_true fun name => ?_⟩
    exact invalid.elim name.1 name.2.1
  · rw [not_or] at invalid
    obtain ⟨b, scan, found⟩ := scanExtensions_spec s invalid.1 invalid.2 (s.chars.length + 1) 0
      (Nat.zero_le _) (by omega) fun q early => absurd early (Nat.not_lt_zero q)
    refine ⟨b, ?_, found.trans (by rw [isName_iff]; exact ⟨fun occurs => ⟨invalid.1, invalid.2,
      occurs⟩, fun name => name.2.2⟩)⟩
    rw [sdlEglHasExtension, if_neg (not_or.mpr invalid)]
    cases hinted : hint ext.chars with
    | none => simp [queried, scan]
    | some disableExt =>
        simp [queried, scan]
        exact fun masked => absurd masked (unmasked disableExt hinted)

/-- An extension string whose first `EGL_KHR_image` is the start of a longer name. -/
def khrImageExtensions : CString :=
  ⟨"EGL_KHR_image_base EGL_KHR_image".toList, by decide⟩

def khrImage : CString :=
  ⟨"EGL_KHR_image".toList, by decide⟩

example :
    sdlEglHasExtension (fun _ => some khrImageExtensions) (fun _ => none) .display
      (some khrImage) = some true := by
  decide

theorem sdlEglHasExtension_finds_later_name :
    (fun _ => some khrImageExtensions : SDLEGLExtensionType → Option CString) .display =
        some khrImageExtensions ∧
      (∀ disableExt, (fun _ => none : List Char → Option Int) khrImage.chars = some disableExt →
        ¬ ((disableExt % 2 = 1 ∧ SDLEGLExtensionType.display = .display) ∨
          (disableExt / 2 % 2 = 1 ∧ SDLEGLExtensionType.display = .client))) ∧
      ∃ b, sdlEglHasExtension (fun _ => some khrImageExtensions) (fun _ => none) .display
          (some khrImage) = some b ∧ (b = true ↔ IsName khrImageExtensions.chars khrImage.chars) :=
  ⟨rfl, fun _ unset => Option.noConfusion unset,
    sdlEglHasExtension_iff_name _ _ .display khrImageExtensions khrImage rfl
      fun _ unset => Option.noConfusion unset⟩

end SdlRender.Egl
