import SdlRender.Vita.Pool

/-!
# The frame cycle of the Vita backend

`VITA_GXM_RenderPresent` queues the back buffer for display, moves the back buffer on to
the next of `VITA_GXM_BUFFERS` and gives the next frame the other vertex arena, waiting for
neither display nor GPU. `gxm_init`, which lets `VITA_GXM_PENDING_SWAPS` entries wait, is not
under src/.
-/

namespace SdlRender.Vita

/-- `VITA_GXM_BUFFERS`. -/
def vitaGxmBuffers : Nat := 3

/-- `VITA_GXM_PENDING_SWAPS`. -/
def vitaGxmPendingSwaps : Nat := 2

/-- The fields of `VITA_GXM_RenderData` the frame cycle reads and writes. -/
structure VitaFrames where
  backBufferIndex : Nat
  frontBufferIndex : Nat
  poolAddr : Fin 2 → Nat
  poolIndex : Nat
  currentPool : Nat
  displayQueue : List (Nat × Nat)
  backFits : backBufferIndex < vitaGxmBuffers
  poolFits : currentPool < 2
  addrPos : ∀ i, 0 < poolAddr i
  indexFits : poolIndex ≤ vitaGxmPoolSize

namespace VitaFrames

/-- The arena `pool_malloc` takes from: `pool_addr[current_pool]` from `pool_index` on. -/
def pool (f : VitaFrames) : VertexPool :=
  ⟨f.poolAddr ⟨f.currentPool, f.poolFits⟩, f.poolIndex, f.addrPos _, f.indexFits⟩

/-- The state after queue functions took blocks from the arena, up to `pool.poolIndex`. -/
def withPool (f : VitaFrames) (pool : VertexPool) : VitaFrames :=
  { f with poolIndex := pool.poolIndex, indexFits := pool.indexFits }

/-- `VITA_GXM_RenderPresent`. -/
def vitaGxmRenderPresent (f : VitaFrames) : VitaFrames :=
  { f with
    displayQueue := f.displayQueue ++ [(f.frontBufferIndex, f.backBufferIndex)]
    frontBufferIndex := f.backBufferIndex
    backBufferIndex := (f.backBufferIndex + 1) % vitaGxmBuffers
    backFits := Nat.mod_lt _ (by decide)
    poolIndex := 0
    indexFits := Nat.zero_le _
    currentPool := (f.currentPool + 1) % 2
    poolFits := Nat.mod_lt _ (by decide) }

end VitaFrames

namespace VertexPool

/-- The pool a frame's queue calls leave. -/
def queueAllPool (pool : VertexPool) : List QueueCall → VertexPool
  | [] => pool
  | call :: calls => (pool.queue call).pool.queueAllPool calls

end VertexPool

/-- What a frame leaves. -/
structure Frame where
  queued : List Queued
  drawnInto : Nat
  after : VitaFrames

namespace VitaFrames

/-- A frame: its queue calls, its scenes, then `VITA_GXM_RenderPresent`. -/
def frame (f : VitaFrames) (calls : List QueueCall) : Frame :=
  ⟨f.pool.queueAll calls, f.backBufferIndex,
    (f.withPool (f.pool.queueAllPool calls)).vitaGxmRenderPresent⟩

/-- Frame after frame, each from the state the one before left. -/
def framesRun (f : VitaFrames) : List (List QueueCall) → List Frame
  | [] => []
  | calls :: frames => f.frame calls :: (f.frame calls).after.framesRun frames

/-- The state after the frames. -/
def afterFrames (f : VitaFrames) : List (List QueueCall) → VitaFrames
  | [] => f
  | calls :: frames => (f.frame calls).after.afterFrames frames

/-! ## Frame after frame -/

variable (f : VitaFrames) (frames : List (List QueueCall))

@[simp] theorem frame_after (calls : List QueueCall) :
    (f.frame calls).after = f.vitaGxmRenderPresent := rfl

theorem framesRun_getElem? {j : Nat} {fr : Frame} (found : (f.framesRun frames)[j]? = some fr) :
    ∃ g : VitaFrames, ∃ calls, frames[j]? = some calls ∧ fr = g.frame calls ∧
      g.backBufferIndex = (f.backBufferIndex + j) % vitaGxmBuffers ∧
      g.currentPool = (f.currentPool + j) % 2 ∧ g.poolAddr = f.poolAddr ∧
      g.poolIndex = if j = 0 then f.poolIndex else 0 := by
  induction frames generalizing f j with
  | nil => simp [framesRun] at found
  | cons calls frames ih =>
    cases j with
    | zero =>
      simp only [framesRun, List.getElem?_cons_zero, Option.some.injEq] at found
      exact ⟨f, calls, by simp, found.symm, (Nat.mod_eq_of_lt f.backFits).symm,
        (Nat.mod_eq_of_lt f.poolFits).symm, rfl, rfl⟩
    | succ j =>
      simp only [framesRun, List.getElem?_cons_succ] at found
      obtain ⟨g, calls', listed, rfl, back, pool, addr, fromStart⟩ := ih _ found
      refine ⟨g, calls', by simpa using listed, rfl, ?_, ?_, addr, ?_⟩
      · rw [back, frame_after, vitaGxmRenderPresent, Nat.mod_add_mod, Nat.add_right_comm,
          Nat.add_assoc]
      · rw [pool, frame_after, vitaGxmRenderPresent, Nat.mod_add_mod, Nat.add_right_comm,
          Nat.add_assoc]
      · simp [fromStart, vitaGxmRenderPresent]

theorem framesRun_drawnInto :
    (f.framesRun frames).map Frame.drawnInto =
      (List.range frames.length).map fun j => (f.backBufferIndex + j) % vitaGxmBuffers := by
  induction frames generalizing f with
  | nil => rfl
  | cons calls frames ih =>
    rw [framesRun, List.map_cons, frame_after, ih, List.length_cons, List.range_succ_eq_map,
      List.map_cons, List.map_map]
    congr 1
    · exact (Nat.mod_eq_of_lt f.backFits).symm
    · refine List.map_congr_left fun j _ => ?_
      simp only [Function.comp, vitaGxmRenderPresent, Nat.mod_add_mod, Nat.add_right_comm,
        Nat.add_assoc]

/-! ### A sample state -/

def sampleFrames : VitaFrames :=
  ⟨0, 0, fun i => 0x100000 + 0x200000 * i.val, 0, 0, [], by decide, by decide,
    fun _ => Nat.add_pos_left (by decide) _, Nat.zero_le _⟩

def samplePoints : List QueueCall :=
  [.drawPoints { command := .drawPoints } 4]

/-- No frame draws into the buffer of one of the `VITA_GXM_PENDING_SWAPS` frames before it. -/
theorem framesRun_buffers_apart {i j : Nat} (earlier : i < j)
    (close : j ≤ i + vitaGxmPendingSwaps) (inRun : j < frames.length) :
    ((f.framesRun frames).map Frame.drawnInto)[i]? ≠
      ((f.framesRun frames).map Frame.drawnInto)[j]? := by
  rw [framesRun_drawnInto, List.getElem?_map, List.getElem?_map, List.getElem?_range inRun,
    List.getElem?_range (by omega)]
  simp only [Option.map_some', ne_eq, Option.some.injEq, vitaGxmBuffers]
  simp only [vitaGxmPendingSwaps] at close
  omega

theorem framesRun_buffers_apart_third :
    ((sampleFrames.framesRun [[], [], []]).map Frame.drawnInto)[0]? ≠
      ((sampleFrames.framesRun [[], [], []]).map Frame.drawnInto)[2]? :=
  sampleFrames.framesRun_buffers_apart [[], [], []] (by decide) (by decide) (by decide)

theorem framesRun_displayQueue :
    (f.afterFrames frames).displayQueue =
      f.displayQueue ++ (f.frontBufferIndex :: (f.framesRun frames).map Frame.drawnInto).zip
        ((f.framesRun frames).map Frame.drawnInto) := by
  induction frames generalizing f with
  | nil => simp [afterFrames, framesRun]
  | cons calls frames ih =>
    rw [afterFrames, framesRun, ih, frame_after, List.map_cons, List.zip_cons_cons]
    simp [vitaGxmRenderPresent, frame]

theorem poolAddr_mod_two (k : Nat) :
    f.poolAddr ⟨k % 2, Nat.mod_lt _ Nat.zero_lt_two⟩ =
      if k % 2 = 0 then f.poolAddr 0 else f.poolAddr 1 := by
  rcases Nat.mod_two_eq_zero_or_one k with parity | parity
  · rw [if_pos parity]
    exact congrArg f.poolAddr (Fin.ext parity)
  · rw [if_neg (by omega)]
    exact congrArg f.poolAddr (Fin.ext parity)

theorem framesRun_blocks_in_arena {j : Nat} {fr : Frame}
    (found : (f.framesRun frames)[j]? = some fr) :
    ∀ q ∈ fr.queued, ∀ b ∈ q.block,
      f.poolAddr ⟨(f.currentPool + j) % 2, Nat.mod_lt _ Nat.zero_lt_two⟩ ≤ b.1 ∧
        b.1 + b.2 ≤ f.poolAddr ⟨(f.currentPool + j) % 2, Nat.mod_lt _ Nat.zero_lt_two⟩ + vitaGxmPoolSize := by
  obtain ⟨g, calls, -, rfl, -, pool, addr, -⟩ := f.framesRun_getElem? frames found
  intro q queued b given
  have inside := g.pool.queueAll_block_bounds calls q queued b given
  have arena : g.pool.poolAddr = f.poolAddr ⟨(f.currentPool + j) % 2, Nat.mod_lt _ Nat.zero_lt_two⟩ := by
    rw [← addr]
    exact congrArg g.poolAddr (Fin.ext pool)
  omega

/-- The vertex blocks of two frames in a row do not overlap when the arenas do not. -/
theorem framesRun_consecutive_blocks_apart
    (apart : f.poolAddr 0 + vitaGxmPoolSize ≤ f.poolAddr 1 ∨
      f.poolAddr 1 + vitaGxmPoolSize ≤ f.poolAddr 0)
    {j : Nat} {fr fr' : Frame} (found : (f.framesRun frames)[j]? = some fr)
    (next : (f.framesRun frames)[j + 1]? = some fr') :
    ∀ q ∈ fr.queued, ∀ b ∈ q.block, ∀ q' ∈ fr'.queued, ∀ b' ∈ q'.block,
      b.1 + b.2 ≤ b'.1 ∨ b'.1 + b'.2 ≤ b.1 := by
  intro q queued b given q' queued' b' given'
  have inside := f.framesRun_blocks_in_arena frames found q queued b given
  have inside' := f.framesRun_blocks_in_arena frames next q' queued' b' given'
  rw [poolAddr_mod_two] at inside inside'
  have flips : (f.currentPool + (j + 1)) % 2 ≠ (f.currentPool + j) % 2 := by omega
  split_ifs at inside inside' <;> omega

theorem framesRun_consecutive_blocks_apart_points :
    ∃ q ∈ (sampleFrames.frame samplePoints).queued, ∃ b ∈ q.block,
      ∃ q' ∈ (sampleFrames.vitaGxmRenderPresent.frame samplePoints).queued, ∃ b' ∈ q'.block,
        b.1 + b.2 ≤ b'.1 ∨ b'.1 + b'.2 ≤ b.1 := by
  refine ⟨_, List.mem_singleton_self _, _, rfl, _, List.mem_singleton_self _, _, rfl, ?_⟩
  exact sampleFrames.framesRun_consecutive_blocks_apart [samplePoints, samplePoints] (by decide)
    (show (sampleFrames.framesRun [samplePoints, samplePoints])[0]? = some _ from rfl) rfl
    _ (List.mem_singleton_self _) _ rfl _ (List.mem_singleton_self _) _ rfl

end VitaFrames

end SdlRender.Vita
