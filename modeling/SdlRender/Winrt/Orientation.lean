import Mathlib.Data.List.Basic
import SdlRender.Winrt.Window

/-!
# `SDL_HINT_ORIENTATIONS` on WinRT

`WINRT_SetDisplayOrientationsPreference` reads the hint as names separated by spaces, the
pieces `std::getline` gives (`List.splitOn`), and sets the OR of the orientations it knows,
or all four when it knows none.
-/

namespace SdlRender.Winrt

/-- The `DisplayOrientations` a name of the hint stands for, `0` for any other name. -/
def orientationFlag (orientationName : String) : Nat :=
  if orientationName = "LandscapeLeft" then displayOrientationsLandscapeFlipped
  else if orientationName = "LandscapeRight" then displayOrientationsLandscape
  else if orientationName = "Portrait" then displayOrientationsPortrait
  else if orientationName = "PortraitUpsideDown" then displayOrientationsPortraitFlipped
  else 0

/-- The defaults: all four orientations. -/
def allOrientations : Nat :=
  displayOrientationsLandscape ||| displayOrientationsLandscapeFlipped |||
    displayOrientationsPortrait ||| displayOrientationsPortraitFlipped

/-- The names the `std::istringstream` loop reads from the hint's value. -/
def orientationTokens (newValue : String) : List String :=
  (newValue.toList.splitOn ' ').map String.mk

/-- `WINRT_SetDisplayOrientationsPreference`; `none` when it returns early. -/
def winrtSetDisplayOrientationsPreference (oldValue newValue : Option String) : Option Nat :=
  if oldValue.isNone && newValue.isNone then none
  else
    let orientationFlags :=
      match newValue with
      | some value =>
          (orientationTokens value).foldl (fun flags name => flags ||| orientationFlag name) 0
      | none => 0
    some (if orientationFlags = 0 then allOrientations else orientationFlags)

/-! ## The hint's names -/

/-- The orientations the hint names. -/
inductive HintOrientation where
  | landscapeLeft
  | landscapeRight
  | portrait
  | portraitUpsideDown
  deriving DecidableEq, Repr

namespace HintOrientation

/-- The name the hint gives an orientation. -/
def hintName : HintOrientation → String
  | .landscapeLeft => "LandscapeLeft"
  | .landscapeRight => "LandscapeRight"
  | .portrait => "Portrait"
  | .portraitUpsideDown => "PortraitUpsideDown"

/-- The `DisplayOrientations` value it stands for. -/
def flag : HintOrientation → Nat
  | .landscapeLeft => displayOrientationsLandscapeFlipped
  | .landscapeRight => displayOrientationsLandscape
  | .portrait => displayOrientationsPortrait
  | .portraitUpsideDown => displayOrientationsPortraitFlipped

theorem orientationFlag_hintName (o : HintOrientation) : orientationFlag o.hintName = o.flag := by
  cases o <;> rfl

theorem space_not_mem_hintName (o : HintOrientation) : ' ' ∉ o.hintName.toList := by
  cases o <;> decide

theorem flag_pos (o : HintOrientation) : 0 < o.flag := by
  cases o <;> decide

end HintOrientation

/-- The hint naming `orientations`, separated by single spaces. -/
def orientationsHint (orientations : List HintOrientation) : String :=
  String.mk ([' '].intercalate (orientations.map fun o => o.hintName.toList))

/-! ## What the callback sets -/

theorem right_le_or (x y : Nat) : y ≤ x ||| y :=
  Nat.le_of_testBit fun i set => by simp [set]

theorem foldl_orientationFlag_lt (names : List String) {flags : Nat} (below : flags < 16) :
    names.foldl (fun flags name => flags ||| orientationFlag name) flags < 16 := by
  induction names generalizing flags with
  | nil => exact below
  | cons name names ih =>
    have named : orientationFlag name < 16 := by unfold orientationFlag; split_ifs <;> decide
    exact ih (Nat.or_lt_two_pow (n := 4) below named)

theorem foldl_flag_pos (orientations : List HintOrientation) {flags : Nat}
    (named : 0 < flags ∨ orientations ≠ []) :
    0 < orientations.foldl (fun flags o => flags ||| o.flag) flags := by
  induction orientations generalizing flags with
  | nil => simpa using named
  | cons o orientations ih => exact ih (.inl ((o.flag_pos).trans_le (right_le_or _ _)))

/-- A hint naming orientations sets exactly those. -/
theorem winrtSetDisplayOrientationsPreference_round_trip (oldValue : Option String)
    {orientations : List HintOrientation} (named : orientations ≠ []) :
    winrtSetDisplayOrientationsPreference oldValue (some (orientationsHint orientations)) =
      some (orientations.foldl (fun flags o => flags ||| o.flag) 0) := by
  have tokens : orientationTokens (orientationsHint orientations) =
      orientations.map HintOrientation.hintName := by
    simp only [orientationTokens, orientationsHint, String.toList]
    rw [List.splitOn_intercalate]
    · simp [Function.comp_def]
    · simpa using fun o _ => o.space_not_mem_hintName
    · simpa using named
  have parsed : (orientationTokens (orientationsHint orientations)).foldl
      (fun flags name => flags ||| orientationFlag name) 0 =
        orientations.foldl (fun flags o => flags ||| o.flag) 0 := by
    simp [tokens, List.foldl_map, HintOrientation.orientationFlag_hintName]
  have nonzero : 0 < orientations.foldl (fun flags o => flags ||| o.flag) 0 :=
    foldl_flag_pos orientations (.inr named)
  simp only [winrtSetDisplayOrientationsPreference, Option.isNone_some, Bool.and_false,
    Bool.false_eq_true, if_false, parsed]
  rw [if_neg (by omega)]

theorem winrtSetDisplayOrientationsPreference_round_trip_two :
    [HintOrientation.portrait, .landscapeLeft] ≠ [] ∧
      winrtSetDisplayOrientationsPreference none
          (some (orientationsHint [.portrait, .landscapeLeft])) =
        some ([HintOrientation.portrait, .landscapeLeft].foldl (fun flags o => flags ||| o.flag) 0) :=
  ⟨by decide, winrtSetDisplayOrientationsPreference_round_trip none (by decide)⟩

/-- The callback sets a nonempty set of orientations, or nothing for an unset hint. -/
theorem winrtSetDisplayOrientationsPreference_range (oldValue newValue : Option String) :
    (winrtSetDisplayOrientationsPreference oldValue newValue = none ↔
        oldValue = none ∧ newValue = none) ∧
      ∀ flags ∈ winrtSetDisplayOrientationsPreference oldValue newValue, 0 < flags ∧ flags < 16 := by
  have bounded : (match newValue with
      | some value =>
          (orientationTokens value).foldl (fun flags name => flags ||| orientationFlag name) 0
      | none => 0) < 16 := by
    cases newValue
    · decide
    · exact foldl_orientationFlag_lt _ (by decide)
  unfold winrtSetDisplayOrientationsPreference
  constructor
  · cases oldValue <;> cases newValue <;> simp
  · intro flags set
    split_ifs at set with early
    · cases set
    · obtain rfl := Option.mem_some_iff.1 set
      split_ifs
      · decide
      · omega

end SdlRender.Winrt
