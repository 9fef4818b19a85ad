import SdlRender.Psp.ResidencyInvariant

/-!
# The spill loop ends

`TextureSpillTargetsForSpace` calls `TextureSpillLRU` `while (vlargestblock() < size)`. The
allocator may answer anything; each round that does not end the loop takes the least recent
target off the hot list, and a round on an empty list fails. `SpillLoop` is the loop as the
source runs it, with no fuel.
-/

namespace SdlRender.Psp

theorem erase_eq_dropLast {order : List TexId} {lru : TexId} (distinct : order.Nodup)
    (last : order.getLast? = some lru) : order.erase lru = order.dropLast := by
  have split := List.dropLast_append_getLast? lru last
  have absent : lru ∉ order.dropLast := by
    rw [← split] at distinct
    exact fun mem => (List.nodup_append.mp distinct).2.2 mem (List.mem_singleton_self lru)
  conv_lhs => rw [← split]
  rw [List.erase_append_right _ absent, List.erase_cons_head, List.append_nil]

section Rounds

variable {σ : Type} (P : Platform σ) {s s' : PSPRenderData σ} {t : TexId}

theorem textureSwizzle_hot (dst : Nat) : (textureSwizzle P s t dst).2.hot = s.hot := by
  unfold textureSwizzle
  split
  · rfl
  · dsimp only
    split
    · rfl
    · split <;> rfl

theorem textureSpillToSram_hot : (textureSpillToSram P s t).2.hot = s.hot := by
  unfold textureSpillToSram
  split
  · rfl
  · dsimp only
    split
    · split <;> rfl
    · exact textureSwizzle_hot P 0

theorem textureSwizzle_of_false {dst : Nat} (failed : textureSwizzle P s t dst = (false, s')) :
    s' = s := by
  unfold textureSwizzle at failed
  split at failed
  · exact (Prod.mk.inj failed).2.symm
  · dsimp only at failed
    split at failed
    · cases failed
    · split at failed
      · exact (Prod.mk.inj failed).2.symm
      · cases failed

theorem textureSpillToSram_of_false (failed : textureSpillToSram P s t = (false, s')) : s' = s := by
  unfold textureSpillToSram at failed
  split at failed
  · exact (Prod.mk.inj failed).2.symm
  · dsimp only at failed
    split at failed
    · split at failed
      · exact (Prod.mk.inj failed).2.symm
      · cases failed
    · exact textureSwizzle_of_false P failed

variable {order : List TexId}

theorem textureSpillLRU_removes_least (wellFormed : s.hot.Represents order) {wanted : Nat}
    (spilled : textureSpillLRU P s wanted = (true, s')) :
    ∃ lru, s.hot.leastRecentTarget = some lru ∧ order = order.dropLast ++ [lru] ∧
      s'.hot = lruTargetRemove s.hot lru ∧ s'.hot.Represents order.dropLast := by
  unfold textureSpillLRU at spilled
  cases least : s.hot.leastRecentTarget with
  | none => simp [least] at spilled
  | some lru =>
      have last : order.getLast? = some lru := wellFormed.least.symm.trans least
      rcases copied : textureSpillToSram P s lru with ⟨ok, s₁⟩
      simp only [least, copied] at spilled
      cases ok
      · cases spilled
      obtain rfl := (Prod.mk.inj spilled).2
      have kept : s₁.hot = s.hot := by
        simpa only [copied] using textureSpillToSram_hot P (s := s) (t := lru)
      refine ⟨lru, rfl, (List.dropLast_append_getLast? lru last).symm, by rw [kept], ?_⟩
      rw [kept, ← erase_eq_dropLast wellFormed.nodup last]
      exact wellFormed.remove lru

theorem textureSpillLRU_of_nil (wellFormed : s.hot.Represents []) (wanted : Nat) :
    textureSpillLRU P s wanted = (false, { s with
      error := spillErrorMessage (P.vmemavail s.memory) (P.vlargestblock s.memory) wanted }) := by
  rw [textureSpillLRU, wellFormed.least]
  rfl

theorem textureSpillLRU_of_false (wellFormed : s.hot.Represents order) {wanted : Nat}
    (failed : textureSpillLRU P s wanted = (false, s')) :
    (order = [] ∧ s' = { s with
      error := spillErrorMessage (P.vmemavail s.memory) (P.vlargestblock s.memory) wanted }) ∨
    ∃ lru, order.getLast? = some lru ∧ (textureSpillToSram P s lru).1 = false ∧ s' = s := by
  unfold textureSpillLRU at failed
  cases least : s.hot.leastRecentTarget with
  | none =>
      simp only [least] at failed
      exact .inl ⟨List.getLast?_eq_none_iff.mp (wellFormed.least.symm.trans least),
        (Prod.mk.inj failed).2.symm⟩
  | some lru =>
      rcases copied : textureSpillToSram P s lru with ⟨ok, s₁⟩
      simp only [least, copied] at failed
      cases ok
      · obtain rfl := (Prod.mk.inj failed).2
        exact .inr ⟨lru, wellFormed.least.symm.trans least, by rw [copied],
          textureSpillToSram_of_false P copied⟩
      · cases failed

end Rounds

/-! ## The loop -/

section Loop

variable {σ : Type} (P : Platform σ)

/-- The loop of `TextureSpillTargetsForSpace` as the source runs it, with its round count. -/
inductive SpillLoop (size : Nat) : PSPRenderData σ → Nat → Bool × PSPRenderData σ → Prop
  | fits {s : PSPRenderData σ} : size ≤ P.vlargestblock s.memory → SpillLoop size s 0 (true, s)
  | failed {s s' : PSPRenderData σ} : P.vlargestblock s.memory < size →
      textureSpillLRU P s size = (false, s') → SpillLoop size s 1 (false, s')
  | spilled {s s' : PSPRenderData σ} {rounds : Nat} {r : Bool × PSPRenderData σ} :
      P.vlargestblock s.memory < size → textureSpillLRU P s size = (true, s') →
      SpillLoop size s' rounds r → SpillLoop size s (rounds + 1) r

/-- How a loop over `order` can end in failure with `s'`. -/
def SpillFailed (size : Nat) (order : List TexId) (s' : PSPRenderData σ) : Prop :=
  ∃ s₀ order₀, s₀.hot.Represents order₀ ∧ order₀ <+: order ∧ P.vlargestblock s₀.memory < size ∧
    ((order₀ = [] ∧ s' = { s₀ with
        error := spillErrorMessage (P.vmemavail s₀.memory) (P.vlargestblock s₀.memory) size }) ∨
      ∃ lru, order₀.getLast? = some lru ∧ (textureSpillToSram P s₀ lru).1 = false ∧ s' = s₀)

variable {P} {size : Nat}

theorem spillLoop_exists (order : List TexId) :
    ∀ s : PSPRenderData σ, s.hot.Represents order →
      ∃ rounds r, rounds + (if r.1 then 1 else 0) ≤ order.length + 1 ∧
        SpillLoop P size s rounds r := by
  induction order using List.reverseRecOn with
  | nil =>
      intro s wellFormed
      by_cases short : P.vlargestblock s.memory < size
      · exact ⟨1, (false, _), by simp, .failed short (textureSpillLRU_of_nil P wellFormed size)⟩
      · exact ⟨0, (true, s), by simp, .fits (by omega)⟩
  | append_singleton init lru ih =>
      intro s wellFormed
      by_cases short : P.vlargestblock s.memory < size
      · rcases spilled : textureSpillLRU P s size with ⟨ok, s'⟩
        cases ok
        · exact ⟨1, (false, s'), by simp, .failed short spilled⟩
        · obtain ⟨-, -, -, -, wellFormed'⟩ := textureSpillLRU_removes_least P wellFormed spilled
          rw [List.dropLast_concat] at wellFormed'
          obtain ⟨rounds, r, bound, loop⟩ := ih s' wellFormed'
          refine ⟨rounds + 1, r, ?_, .spilled short spilled loop⟩
          rw [List.length_append, List.length_singleton]
          omega
      · exact ⟨0, (true, s), by simp, .fits (by omega)⟩

variable {s : PSPRenderData σ} {rounds : Nat} {r : Bool × PSPRenderData σ}

theorem spillTargetsLoop_of_spillLoop (loop : SpillLoop P size s rounds r) :
    ∀ fuel, rounds + (if r.1 then 1 else 0) ≤ fuel → spillTargetsLoop P size fuel s = r := by
  induction loop with
  | fits fits =>
      rintro (_ | fuel) more
      · simp at more
      · rw [spillTargetsLoop, if_neg (by omega)]
  | failed short failed =>
      rintro (_ | fuel) more
      · simp at more
      · simp only [spillTargetsLoop, if_pos short, failed]
  | spilled short spilled _ ih =>
      rintro (_ | fuel) more
      · simp at more
      · simp only [spillTargetsLoop, if_pos short, spilled]
        exact ih fuel (by omega)

theorem SpillLoop.result_eq (loop : SpillLoop P size s rounds r) :
    ∀ {rounds' r'}, SpillLoop P size s rounds' r' → r' = r := by
  induction loop with
  | fits fits =>
      intro _ _ loop'
      cases loop' with
      | fits => rfl
      | failed short => omega
      | spilled short => omega
  | failed short failed =>
      intro _ _ loop'
      cases loop' with
      | fits fits => omega
      | failed _ failed' => rw [failed] at failed'; cases failed'; rfl
      | spilled _ spilled => rw [failed] at spilled; cases spilled
  | spilled short spilled _ ih =>
      intro _ _ loop'
      cases loop' with
      | fits fits => omega
      | failed _ failed => rw [spilled] at failed; cases failed
      | spilled _ spilled' rest => rw [spilled] at spilled'; cases spilled'; exact ih rest

theorem SpillLoop.fits_of_true (loop : SpillLoop P size s rounds r) (ok : r.1 = true) :
    size ≤ P.vlargestblock r.2.memory := by
  induction loop with
  | fits fits => exact fits
  | failed => cases ok
  | spilled _ _ _ ih => exact ih ok

theorem SpillLoop.failed_of_false (loop : SpillLoop P size s rounds r) :
    ∀ {order : List TexId}, s.hot.Represents order → r.1 = false → SpillFailed P size order r.2 := by
  induction loop with
  | fits => intro _ _ ok; cases ok
  | @failed s _ short failed =>
      intro order wellFormed _
      exact ⟨s, order, wellFormed, ⟨[], List.append_nil order⟩, short,
        textureSpillLRU_of_false P wellFormed failed⟩
  | spilled _ spilled _ ih =>
      intro order wellFormed ok
      obtain ⟨lru, -, split, -, wellFormed'⟩ := textureSpillLRU_removes_least P wellFormed spilled
      obtain ⟨s₀, order₀, represents, front, short, how⟩ := ih wellFormed' ok
      exact ⟨s₀, order₀, represents, front.trans ⟨[lru], split.symm⟩, short, how⟩

end Loop

/-! ## The function of the model -/

section Function

variable {σ : Type} {P : Platform σ} {s : PSPRenderData σ} {log order : List TexId}

theorem length_le_nextTexture (inv : s.view.Invariant log order) :
    order.length ≤ s.nextTexture := by
  have below : ∀ t ∈ order, t ∈ List.range s.nextTexture := fun t mem => by
    obtain ⟨p, placed, -, -⟩ := (inv.listed t).mp mem
    exact List.mem_range.mpr (inv.liveBelow t (by rw [placed]; exact Option.some_ne_none p))
  simpa using (List.subperm_of_subset inv.represents.nodup below).length_le

theorem textureSpillTargetsForSpace_spillLoop (inv : s.view.Invariant log order) (size : Nat) :
    ∃ rounds, rounds ≤ order.length + 1 ∧
      SpillLoop P size s rounds (textureSpillTargetsForSpace P s size) := by
  obtain ⟨rounds, r, tests, loop⟩ := spillLoop_exists order s inv.represents
  have fewer := length_le_nextTexture inv
  rw [textureSpillTargetsForSpace, spillTargetsLoop_of_spillLoop loop _ (by omega)]
  exact ⟨rounds, le_trans (Nat.le_add_right _ _) tests, loop⟩

theorem ResidencyReachable.spillLoop (sound : P.Sound) (reach : ResidencyReachable P s log)
    (size : Nat) : ∃ order rounds, s.hot.Represents order ∧ rounds ≤ order.length + 1 ∧
      SpillLoop P size s rounds (textureSpillTargetsForSpace P s size) := by
  obtain ⟨order, inv⟩ := reach.invariant sound
  obtain ⟨rounds, bound, loop⟩ := textureSpillTargetsForSpace_spillLoop inv size
  exact ⟨order, rounds, inv.represents, bound, loop⟩

end Function

/-- `TextureSpillTargetsForSpace` ends after at most one round more than the hot list is
long, and the model returns what the loop does. -/
theorem textureSpillTargetsForSpace_ends {σ : Type} (P : Platform σ) (s : PSPRenderData σ)
    (order : List TexId) (wellFormed : s.hot.Represents order) (size : Nat) :
    (∀ wanted s', textureSpillLRU P s wanted = (true, s') →
      ∃ lru, s.hot.leastRecentTarget = some lru ∧ order = order.dropLast ++ [lru] ∧
        s'.hot = lruTargetRemove s.hot lru ∧ s'.hot.Represents order.dropLast) ∧
    (order = [] → ∀ wanted, (textureSpillLRU P s wanted).1 = false) ∧
    ∃ rounds r, rounds ≤ order.length + 1 ∧ SpillLoop P size s rounds r ∧
      (∀ fuel, rounds < fuel → spillTargetsLoop P size fuel s = r) ∧
      (r.1 = true → size ≤ P.vlargestblock r.2.memory) ∧
      (r.1 = false → SpillFailed P size order r.2) ∧
      (P.Sound → ∀ log, ResidencyReachable P s log → textureSpillTargetsForSpace P s size = r) := by
  obtain ⟨rounds, r, tests, loop⟩ := spillLoop_exists order s wellFormed
  refine ⟨fun _ _ spilled => textureSpillLRU_removes_least P wellFormed spilled, ?_,
    rounds, r, le_trans (Nat.le_add_right _ _) tests, loop,
    fun fuel more => spillTargetsLoop_of_spillLoop loop fuel (by split <;> omega),
    loop.fits_of_true, loop.failed_of_false wellFormed, fun sound log reach => ?_⟩
  · rintro rfl wanted
    rw [textureSpillLRU_of_nil P wellFormed]
  · obtain ⟨_, _, _, _, reached⟩ := reach.spillLoop sound size
    exact loop.result_eq reached

/-- One target on the list, and a request larger than VRAM: the loop ends. -/
theorem textureSpillTargetsForSpace_ends_one_target :
    (lruTargetPushFront HotList.empty 0).Represents [0] ∧
      ∃ rounds r, rounds ≤ 2 ∧ SpillLoop roomyPlatform 0x300000
        { emptyRenderData with hot := lruTargetPushFront HotList.empty 0 } rounds r := by
  have one : (lruTargetPushFront HotList.empty 0).Represents [0] :=
    HotList.Represents.pushFront ⟨List.nodup_nil, rfl, rfl, fun _ => rfl, fun _ => rfl⟩
      (List.not_mem_nil 0)
  obtain ⟨-, -, rounds, r, bound, loop, -⟩ := textureSpillTargetsForSpace_ends roomyPlatform
    { emptyRenderData with hot := lruTargetPushFront HotList.empty 0 } [0] one 0x300000
  exact ⟨one, rounds, r, bound, loop⟩

end SdlRender.Psp
