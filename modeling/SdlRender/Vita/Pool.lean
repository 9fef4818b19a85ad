import SdlRender.Vita.Queue

/-!
# The vertex pool of the Vita backend

The queue functions take each draw's vertices from a per-frame arena of `VITA_GXM_POOL_SIZE`
bytes through `pool_malloc`, which is not under src/: it is modelled as a bump allocator that
returns `NULL` when a request does not fit. The byte size `count * sizeof(vertex)` is a
32-bit `size_t`.
-/

namespace SdlRender.Vita

/-- `VITA_GXM_POOL_SIZE`. -/
def vitaGxmPoolSize : Nat := 2 * 1024 * 1024

/-- `sizeof(color_vertex)`: `x`, `y` and an `SDL_FColor`. -/
def colorVertexSize : Nat := 24

/-- `sizeof(texture_vertex)`: `x`, `y`, `u`, `v` and an `SDL_FColor`. -/
def textureVertexSize : Nat := 32

/-- The arena of the frame and `pool_index`. -/
structure VertexPool where
  poolAddr : Nat
  poolIndex : Nat
  addrPos : 0 < poolAddr
  indexFits : poolIndex ≤ vitaGxmPoolSize

/-- The byte size of `count` vertices of `size` bytes, a 32-bit `size_t`. -/
def vertexBytes (count size : Nat) : Nat :=
  count * size % 0x100000000

/-- The vertices `for (i = 0; i < count; i++) vertex[i] = ...` writes. -/
def vertexWrites (vertex count size : Nat) : List (Nat × Nat) :=
  (List.range count).map fun i => (vertex + i * size, size)

/-- What a queue function leaves. -/
structure Queued where
  ok : Bool
  pool : VertexPool
  cmd : SDLRenderCommand
  block : Option (Nat × Nat)
  writes : List (Nat × Nat)

/-- The draw a queue function records: `cmd->data.draw.first` and `cmd->data.draw.count`. -/
def recordDraw (cmd : SDLRenderCommand) (first count : Nat) : SDLRenderCommand :=
  { cmd with draw := { cmd.draw with first, count } }

/-- A call of a queue function, with the command SDL made for it and the `count` it passes. -/
inductive QueueCall where
  | drawPoints (cmd : SDLRenderCommand) (count : Nat)
  | drawLines (cmd : SDLRenderCommand) (count : Nat)
  | geometry (cmd : SDLRenderCommand) (count : Nat)

namespace VertexPool

/-- The arena as `VITA_GXM_RenderPresent` hands it to the next frame. -/
def fresh (poolAddr : Nat) (addrPos : 0 < poolAddr) : VertexPool :=
  ⟨poolAddr, 0, addrPos, Nat.zero_le _⟩

/-- `pool_malloc`. -/
def poolMalloc (pool : VertexPool) (size : Nat) : Option Nat × VertexPool :=
  if fits : pool.poolIndex + size ≤ vitaGxmPoolSize then
    (some (pool.poolAddr + pool.poolIndex),
      { pool with poolIndex := pool.poolIndex + size, indexFits := fits })
  else (none, pool)

/-- `VITA_GXM_QueueDrawPoints`, which uses `pool_malloc`'s result without a check. -/
def queueDrawPoints (pool : VertexPool) (cmd : SDLRenderCommand) (count : Nat) : Queued :=
  let size := vertexBytes count colorVertexSize
  let vertex := pool.poolMalloc size
  { ok := true, pool := vertex.2, cmd := recordDraw cmd (vertex.1.getD 0) count
    block := vertex.1.map (·, size)
    writes := vertexWrites (vertex.1.getD 0) count colorVertexSize }

/-- `VITA_GXM_QueueDrawLines`, one vertex pair per segment and no check of the block. -/
def queueDrawLines (pool : VertexPool) (cmd : SDLRenderCommand) (count : Nat) : Queued :=
  let vertices := (count - 1) * 2
  let size := vertexBytes vertices colorVertexSize
  let vertex := pool.poolMalloc size
  { ok := true, pool := vertex.2, cmd := recordDraw cmd (vertex.1.getD 0) vertices
    block := vertex.1.map (·, size)
    writes := vertexWrites (vertex.1.getD 0) vertices colorVertexSize }

/-- `VITA_GXM_QueueGeometry`, `count` being `num_indices` or `num_vertices`. -/
def queueGeometry (pool : VertexPool) (cmd : SDLRenderCommand) (count : Nat) : Queued :=
  let cmd := { cmd with draw := { cmd.draw with count } }
  let vertexSize := if cmd.draw.texture.isSome then textureVertexSize else colorVertexSize
  let size := vertexBytes count vertexSize
  let vertices := pool.poolMalloc size
  match vertices.1 with
  | none => { ok := false, pool := vertices.2, cmd, block := none, writes := [] }
  | some first =>
      { ok := true, pool := vertices.2, cmd := recordDraw cmd first count
        block := some (first, size), writes := vertexWrites first count vertexSize }

/-- The queue function a call runs. -/
def queue (pool : VertexPool) : QueueCall → Queued
  | .drawPoints cmd count => pool.queueDrawPoints cmd count
  | .drawLines cmd count => pool.queueDrawLines cmd count
  | .geometry cmd count => pool.queueGeometry cmd count

/-- A frame's queue calls, each on the pool the one before left. -/
def queueAll (pool : VertexPool) : List QueueCall → List Queued
  | [] => []
  | call :: calls => pool.queue call :: (pool.queue call).pool.queueAll calls

end VertexPool

/-! ## `pool_malloc` -/

namespace VertexPool

variable {pool : VertexPool} {size : Nat}

theorem poolMalloc_cases (pool : VertexPool) (size : Nat) :
    (pool.poolIndex + size ≤ vitaGxmPoolSize ∧
      (pool.poolMalloc size).1 = some (pool.poolAddr + pool.poolIndex) ∧
      (pool.poolMalloc size).2.poolAddr = pool.poolAddr ∧
      (pool.poolMalloc size).2.poolIndex = pool.poolIndex + size) ∨
    (vitaGxmPoolSize < pool.poolIndex + size ∧ pool.poolMalloc size = (none, pool)) := by
  unfold poolMalloc
  split_ifs with fits
  · exact .inl ⟨fits, rfl, rfl, rfl⟩
  · exact .inr ⟨by omega, rfl⟩

@[simp] theorem poolMalloc_poolAddr : (pool.poolMalloc size).2.poolAddr = pool.poolAddr := by
  rcases poolMalloc_cases pool size with ⟨-, -, same, -⟩ | ⟨-, same⟩
  · exact same
  · rw [same]

theorem poolIndex_le_poolMalloc : pool.poolIndex ≤ (pool.poolMalloc size).2.poolIndex := by
  rcases poolMalloc_cases pool size with ⟨-, -, -, moved⟩ | ⟨-, same⟩
  · omega
  · rw [same]

theorem poolMalloc_some {vertex : Nat} (given : (pool.poolMalloc size).1 = some vertex) :
    vertex = pool.poolAddr + pool.poolIndex ∧
      vertex + size = pool.poolAddr + (pool.poolMalloc size).2.poolIndex ∧
      vertex + size ≤ pool.poolAddr + vitaGxmPoolSize := by
  rcases poolMalloc_cases pool size with ⟨fits, block, -, moved⟩ | ⟨-, null⟩
  · rw [block] at given
    cases given
    omega
  · rw [null] at given
    cases given

end VertexPool

/-! ## Queue functions -/

namespace VertexPool

variable (pool : VertexPool)

theorem queue_eq (call : QueueCall) : ∃ size,
    (pool.queue call).pool = (pool.poolMalloc size).2 ∧
      (pool.queue call).block = (pool.poolMalloc size).1.map (·, size) := by
  cases call with
  | drawPoints => exact ⟨_, rfl, rfl⟩
  | drawLines => exact ⟨_, rfl, rfl⟩
  | geometry =>
      simp only [queue, queueGeometry]
      split <;> rename_i null <;> exact ⟨_, rfl, by rw [null]; rfl⟩

theorem queue_spec (call : QueueCall) :
    (pool.queue call).pool.poolAddr = pool.poolAddr ∧
      pool.poolIndex ≤ (pool.queue call).pool.poolIndex ∧
      ∀ b ∈ (pool.queue call).block, b.1 = pool.poolAddr + pool.poolIndex ∧
        b.1 + b.2 = pool.poolAddr + (pool.queue call).pool.poolIndex := by
  obtain ⟨size, after, block⟩ := pool.queue_eq call
  rw [after, block]
  refine ⟨poolMalloc_poolAddr, poolIndex_le_poolMalloc, ?_⟩
  simp only [Option.mem_def, Option.map_eq_some']
  rintro _ ⟨vertex, given, rfl⟩
  exact ⟨(poolMalloc_some given).1, (poolMalloc_some given).2.1⟩

theorem queueAll_block_bounds (calls : List QueueCall) :
    ∀ q ∈ pool.queueAll calls, ∀ b ∈ q.block,
      pool.poolAddr + pool.poolIndex ≤ b.1 ∧ b.1 + b.2 ≤ pool.poolAddr + vitaGxmPoolSize := by
  induction calls generalizing pool with
  | nil => simp [queueAll]
  | cons call calls ih =>
      obtain ⟨sameAddr, forward, blocks⟩ := pool.queue_spec call
      simp only [queueAll, List.mem_cons]
      rintro q (rfl | later) b given
      · have := (pool.queue call).pool.indexFits
        have := blocks b given
        omega
      · have := ih _ q later b given
        omega

end VertexPool

/-! ## Draws from a frame's pool -/

/-- A command may hold more vertices than 16-bit indices address, or none. -/
theorem queued_draw_counts_out_of_range :
    ((VertexPool.fresh 0x81000000 (by decide)).queueAll
        [.drawPoints { command := .drawPoints } 70000, .geometry { command := .geometry } 0]).map
        (fun q => (q.ok, q.pool.poolIndex)) = [(true, 1680000), (true, 1680000)] ∧
      (gxmDraws (vitaGxmRunCommandQueue (createdRenderData 960 544)
          (((VertexPool.fresh 0x81000000 (by decide)).queueAll
            [.drawPoints { command := .drawPoints } 70000,
              .geometry { command := .geometry } 0]).map Queued.cmd)).trace).map
        (fun draw => (draw.1, draw.2.1)) = [(.points, 70000), (.triangles, 0)] := by
  decide

/-- `VITA_GXM_QueueDrawPoints` writes through a `NULL` block. -/
theorem queueDrawPoints_writes_through_null :
    ((VertexPool.fresh 0x81000000 (by decide)).queueAll
        [.geometry { command := .geometry } 87381, .drawPoints { command := .drawPoints } 1]).map
        (fun q => (q.ok, q.block)) = [(true, some (0x81000000, 2097144)), (true, none)] ∧
      (((VertexPool.fresh 0x81000000 (by decide)).queueAll
        [.geometry { command := .geometry } 87381,
          .drawPoints { command := .drawPoints } 1]).getLast?.map Queued.writes) =
        some [(0, 24)] ∧
      (((VertexPool.fresh 0x81000000 (by decide)).queueAll
        [.geometry { command := .geometry } 87381,
          .geometry { command := .geometry } 1]).getLast?.map fun q => (q.ok, q.writes)) =
        some (false, []) := by
  decide

end SdlRender.Vita
