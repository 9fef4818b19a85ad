import SdlRender.Vita.Queue
import Mathlib.Data.List.SplitBy
import Mathlib.Data.List.Infix
import Mathlib.Tactic.Ring

/-!
# Draw batching of the Vita backend

What `VITA_GXM_RunCommandQueue` draws, without its loop: the queue split into maximal runs
of draw commands of one type, texture and blend mode, one `sceGxmDraw` per run, in the
context `SetDrawState` of the run's first command leaves.
-/

namespace SdlRender.Vita

/-! ## The runs -/

section SplitBy

variable {α : Type} {r : α → α → Bool}

theorem splitBy_loop_eq (congr : ∀ a b, r a b = true → ∀ c, r b c = r a c) (l : List α) :
    ∀ (head last : α) (g : List α) (gs : List (List α)), (∀ c, r last c = r head c) →
      List.splitBy.loop r l last g gs =
        gs.reverse ++ (g.reverse ++ last :: l.takeWhile (r head)) ::
          (l.dropWhile (r head)).splitBy r := by
  induction l with
  | nil => intro head last g gs _; simp [List.splitBy.loop]
  | cons a l ih =>
    intro head last g gs same
    rw [List.splitBy.loop]
    cases related : r last a
    · rw [ih a a [] _ fun _ => rfl]
      simp [List.takeWhile_cons, List.dropWhile_cons, ← same, related, List.splitBy,
        ih a a [] [] fun _ => rfl]
    · rw [ih head a (last :: g) gs fun c => (congr last a related c).trans (same c)]
      simp [List.takeWhile_cons, List.dropWhile_cons, ← same, related]

theorem splitBy_cons_eq (congr : ∀ a b, r a b = true → ∀ c, r b c = r a c) (a : α)
    (l : List α) :
    (a :: l).splitBy r = (a :: l.takeWhile (r a)) :: (l.dropWhile (r a)).splitBy r := by
  simpa using splitBy_loop_eq congr l a a [] [] fun _ => rfl

end SplitBy

/-- Whether the loop draws `next` in the run that `first` begins. -/
def batchesWith (first next : SDLRenderCommand) : Bool :=
  isBatched first && mergeable first next

/-- The maximal runs of draw commands of one type, texture and blend mode; other commands alone. -/
def batchRuns (cmds : List SDLRenderCommand) : List (List SDLRenderCommand) :=
  cmds.splitBy batchesWith

theorem isBatched_congr {a b : SDLRenderCommand} (same : b.command = a.command) :
    isBatched b = isBatched a := by
  simp only [isBatched, same]

theorem batchesWith_congr {a b : SDLRenderCommand} (h : batchesWith a b = true)
    (c : SDLRenderCommand) : batchesWith b c = batchesWith a c := by
  simp only [batchesWith, mergeable, Bool.and_eq_true, decide_eq_true_eq] at h
  obtain ⟨batched, command, texture, blend⟩ := h
  simp only [batchesWith, mergeable, isBatched_congr command, command, texture, blend]

theorem batchRuns_cons (cmd : SDLRenderCommand) (rest : List SDLRenderCommand) :
    batchRuns (cmd :: rest) =
      (cmd :: rest.takeWhile (batchesWith cmd)) :: batchRuns (rest.dropWhile (batchesWith cmd)) :=
  splitBy_cons_eq (fun _ _ h => batchesWith_congr h) cmd rest

theorem mem_of_mem_batchRuns {cmds run : List SDLRenderCommand} (mem : run ∈ batchRuns cmds)
    {cmd : SDLRenderCommand} (inRun : cmd ∈ run) : cmd ∈ cmds :=
  List.flatten_splitBy batchesWith cmds ▸ List.mem_flatten.mpr ⟨run, mem, inRun⟩

theorem exists_suffix_of_mem_batchRuns :
    ∀ {cmds run : List SDLRenderCommand}, run ∈ batchRuns cmds →
      ∃ cmd rest, cmd :: rest <:+ cmds ∧ run = cmd :: rest.takeWhile (batchesWith cmd)
  | [], _, mem => by simp [batchRuns] at mem
  | cmd :: rest, run, mem => by
    rw [batchRuns_cons, List.mem_cons] at mem
    obtain rfl | mem := mem
    · exact ⟨cmd, rest, List.suffix_refl _, rfl⟩
    · obtain ⟨c, rest', suffix, rfl⟩ := exists_suffix_of_mem_batchRuns mem
      exact ⟨c, rest', suffix.trans ((List.dropWhile_suffix _).trans (List.suffix_cons _ _)),
        rfl⟩
termination_by cmds => cmds.length
decreasing_by exact Nat.lt_succ_of_le (List.dropWhile_suffix _).length_le

/-! ## The loop refines the fold over the runs -/

/-- What the loop does for one run. -/
def runBatch (s : VitaRenderData) : List SDLRenderCommand → VitaRenderData
  | [] => s
  | cmd :: merged =>
      if isBatched cmd then drawBatch s cmd ((cmd :: merged).map fun c => c.draw.count).sum
      else runCommand s cmd

theorem foldl_count_eq_sum (merged : List SDLRenderCommand) (count : Nat) :
    merged.foldl (fun count next => count + next.draw.count) count =
      count + (merged.map fun c => c.draw.count).sum := by
  induction merged generalizing count with
  | nil => simp
  | cons next merged ih => simp [ih, Nat.add_assoc]

theorem runQueue_eq_foldl (fuel : Nat) (s : VitaRenderData) (cmds : List SDLRenderCommand)
    (enough : cmds.length ≤ fuel) : runQueue fuel s cmds = (batchRuns cmds).foldl runBatch s := by
  induction fuel generalizing s cmds with
  | zero => rw [List.eq_nil_of_length_eq_zero (Nat.le_zero.mp enough)]; rfl
  | succ fuel ih =>
    match cmds with
    | [] => rfl
    | cmd :: rest =>
      have shorter : (rest.dropWhile (batchesWith cmd)).length ≤ fuel :=
        (List.dropWhile_suffix _).length_le.trans (Nat.le_of_succ_le_succ enough)
      rw [batchRuns_cons, List.foldl_cons, runQueue]
      by_cases batched : isBatched cmd
      · have scan : batchesWith cmd = mergeable cmd :=
          funext fun c => by simp [batchesWith, batched]
        rw [if_pos batched, ← scan, List.span_eq_take_drop, ih _ _ shorter]
        simp only [runBatch, batched, if_true, foldl_count_eq_sum, List.map_cons, List.sum_cons]
      · have scan : batchesWith cmd = fun _ => false :=
          funext fun c => by simp [batchesWith, batched]
        have taken : rest.takeWhile (batchesWith cmd) = [] := by rw [scan]; cases rest <;> rfl
        have dropped : rest.dropWhile (batchesWith cmd) = rest := by rw [scan]; cases rest <;> rfl
        rw [if_neg batched, ih _ _ (Nat.le_of_succ_le_succ enough), taken, dropped]
        simp [runBatch, batched]

/-! ## The draws from the vertex pool -/

/-- The draws a trace makes from the vertex pool; the clear triangle is not one of them. -/
def poolDraws (draws : List (GxmPrimitive × Nat × GxmContext)) :
    List ((GxmPrimitive × Nat × Nat) × GxmContext) :=
  draws.filterMap fun draw =>
    match draw.2.2.vertexStream with
    | some (.pool address) => some ((draw.1, address, draw.2.1), draw.2.2)
    | _ => none

/-- The draw the loop makes for a run, none for a command it does not merge. -/
def runDraw : List SDLRenderCommand → Option (GxmPrimitive × Nat × Nat)
  | [] => none
  | cmd :: merged =>
      if isBatched cmd then
        some (primitiveOf cmd.command, cmd.draw.first,
          ((cmd :: merged).map fun c => c.draw.count).sum)
      else none

theorem drawCalls_draws (g : GxmContext) (command : SDLRenderCommandType) (count : Nat) :
    ∃ mode, gxmDrawsFrom g (drawCalls command count) =
      [(primitiveOf command, count, { g with polygonMode := mode })] := by
  cases command <;> exact ⟨_, rfl⟩

theorem runCommand_poolDraws (s : VitaRenderData) (cmd : SDLRenderCommand) :
    ∃ calls, (runCommand s cmd).trace = s.trace ++ calls ∧
      poolDraws (gxmDrawsFrom s.context calls) = [] := by
  unfold runCommand
  split
  · exact ⟨[], by simp, rfl⟩
  · exact ⟨[], by simp, rfl⟩
  · exact ⟨[.unsetClipRectangle, .setVertexProgram .clear, .setFragmentProgram .clear,
      .setClearColor cmd.color, .setVertexStream .clearVertices, .draw .triangles 3],
      by simp [vitaGxmRenderClear], rfl⟩
  · exact ⟨[], by simp, rfl⟩

/-- What one run adds to the pool draws. -/
def RunDraws (s : VitaRenderData) (run : List SDLRenderCommand)
    (draws : List ((GxmPrimitive × Nat × Nat) × GxmContext)) : Prop :=
  (runDraw run = none ∧ draws = []) ∨
    ∃ draw cmd merged mode, runDraw run = some draw ∧ run = cmd :: merged ∧
      draws = [(draw, { (setDrawState s cmd).context with polygonMode := mode })]

theorem runBatch_poolDraws (s : VitaRenderData) (run : List SDLRenderCommand) :
    ∃ calls, (runBatch s run).trace = s.trace ++ calls ∧
      RunDraws s run (poolDraws (gxmDrawsFrom s.context calls)) := by
  match run with
  | [] => exact ⟨[], by simp [runBatch], .inl ⟨rfl, rfl⟩⟩
  | cmd :: merged =>
    by_cases batched : isBatched cmd
    · let count := ((cmd :: merged).map fun c => c.draw.count).sum
      obtain ⟨calls, trace, draws⟩ :=
        (setDrawState_addsNoDraw s cmd).draws (drawCalls cmd.command count)
      obtain ⟨mode, drawn⟩ := drawCalls_draws (setDrawState s cmd).context cmd.command count
      refine ⟨calls, by rw [← trace]; simp [runBatch, batched, drawBatch, count], .inr ?_⟩
      rw [draws, drawn]
      exact ⟨(primitiveOf cmd.command, cmd.draw.first, count), cmd, merged, mode,
        by simp [runDraw, batched, count], rfl,
        by simp [poolDraws, setDrawState_vertexStream]⟩
    · obtain ⟨calls, trace, draws⟩ := runCommand_poolDraws s cmd
      exact ⟨calls, by simp [runBatch, batched, trace],
        .inl ⟨by simp [runDraw, batched], draws⟩⟩

theorem foldl_runBatch_poolDraws (Inv : VitaRenderData → Prop)
    (Q : List SDLRenderCommand → GxmContext → Prop) (runs : List (List SDLRenderCommand))
    (step : ∀ s, ∀ run ∈ runs, Inv s → Inv (runBatch s run) ∧
      ∀ cmd merged mode, run = cmd :: merged → isBatched cmd = true →
        Q run { (setDrawState s cmd).context with polygonMode := mode })
    (s : VitaRenderData) (inv : Inv s) :
    Inv (runs.foldl runBatch s) ∧ ∃ calls, (runs.foldl runBatch s).trace = s.trace ++ calls ∧
      List.Forall₂ (fun run draw => runDraw run = some draw.1 ∧ Q run draw.2)
        (runs.filter fun run => (runDraw run).isSome)
        (poolDraws (gxmDrawsFrom s.context calls)) := by
  induction runs generalizing s with
  | nil => exact ⟨inv, [], by simp, by simp [poolDraws]⟩
  | cons run runs ih =>
    obtain ⟨kept, drawn⟩ := step s run (List.mem_cons_self _ _) inv
    obtain ⟨calls₁, trace₁, draws₁⟩ := runBatch_poolDraws s run
    obtain ⟨inv', calls₂, trace₂, draws₂⟩ :=
      ih (fun s run mem => step s run (List.mem_cons_of_mem _ mem)) _ kept
    refine ⟨inv', calls₁ ++ calls₂, by simp [trace₂, trace₁], ?_⟩
    have split : (run :: runs).filter (fun run => (runDraw run).isSome) =
        (if (runDraw run).isSome then [run] else []) ++
          runs.filter fun run => (runDraw run).isSome := by
      rw [List.filter_cons]; split_ifs <;> rfl
    rw [gxmDrawsFrom_append, ← VitaRenderData.context_eq_of_trace trace₁, poolDraws,
      List.filterMap_append, ← poolDraws, ← poolDraws, split]
    refine List.rel_append ?_ draws₂
    obtain ⟨none, empty⟩ | ⟨draw, cmd, merged, mode, isDraw, rfl, only⟩ := draws₁
    · simp [none, empty]
    · have batched : isBatched cmd = true := by
        by_contra notBatched
        simp [runDraw, notBatched] at isDraw
      simpa [isDraw, only] using drawn cmd merged mode rfl batched

theorem map_fst_of_forall₂ {Q : List SDLRenderCommand → GxmContext → Prop} :
    ∀ {runs : List (List SDLRenderCommand)}
      {draws : List ((GxmPrimitive × Nat × Nat) × GxmContext)},
      List.Forall₂ (fun run draw => runDraw run = some draw.1 ∧ Q run draw.2)
        (runs.filter fun run => (runDraw run).isSome) draws →
      draws.map Prod.fst = runs.filterMap runDraw
  | [], _, forall₂ => by simpa using forall₂
  | run :: runs, draws, forall₂ => by
    cases isDraw : runDraw run with
    | none =>
      simp only [List.filter_cons, isDraw, Option.isSome_none] at forall₂
      simpa [isDraw] using map_fst_of_forall₂ forall₂
    | some draw =>
      simp only [List.filter_cons, isDraw, Option.isSome_some, if_true,
        List.forall₂_cons_left_iff] at forall₂
      obtain ⟨first, rest, ⟨same, -⟩, forall₂, rfl⟩ := forall₂
      simp [isDraw, Option.some_inj.mp same, map_fst_of_forall₂ forall₂]

/-! ## The primitives of a merged draw -/

/-- The vertices each primitive of a type reads. -/
def GxmPrimitive.arity : GxmPrimitive → Nat
  | .triangles => 3
  | .points => 1
  | .lines => 2

/-- The vertex addresses of the primitives a draw of `count` vertices rasterises. -/
def primitiveVertices (primitive : GxmPrimitive) (address count size : Nat) : List (List Nat) :=
  (List.range (count / primitive.arity)).map fun k =>
    (List.range primitive.arity).map fun j => address + (primitive.arity * k + j) * size

/-- The primitives of a command drawn on its own. -/
def commandPrimitives (cmd : SDLRenderCommand) : List (List Nat) :=
  primitiveVertices (primitiveOf cmd.command) cmd.draw.first cmd.draw.count (vertexSize cmd)

/-- `next`'s vertices start where `cmd`'s end, as the per-frame bump pool hands them out. -/
def BackToBack (cmd next : SDLRenderCommand) : Prop :=
  cmd.draw.first + cmd.draw.count * vertexSize cmd = next.draw.first

instance : DecidableRel BackToBack := fun _ _ => inferInstanceAs (Decidable (_ = _))

theorem primitiveVertices_add (primitive : GxmPrimitive) (address first second size : Nat)
    (whole : primitive.arity ∣ first) :
    primitiveVertices primitive address (first + second) size =
      primitiveVertices primitive address first size ++
        primitiveVertices primitive (address + first * size) second size := by
  obtain ⟨k, rfl⟩ := whole
  have positive : 0 < primitive.arity := by cases primitive <;> decide
  simp only [primitiveVertices, Nat.mul_add_div positive, Nat.mul_div_cancel_left k positive,
    List.range_add, List.map_append, List.map_map]
  congr 1
  refine List.map_congr_left fun i _ => List.map_congr_left fun j _ => ?_
  simp only [Function.comp]
  ring

theorem batchesWith_eq_true {cmd next : SDLRenderCommand} :
    batchesWith cmd next = true ↔ isBatched cmd = true ∧ next.command = cmd.command ∧
      next.draw.texture = cmd.draw.texture ∧ next.draw.blend = cmd.draw.blend := by
  simp [batchesWith, mergeable]

theorem primitiveVertices_run (cmd : SDLRenderCommand) (merged : List SDLRenderCommand)
    (same : ∀ c ∈ merged, batchesWith cmd c = true)
    (backToBack : (cmd :: merged).Chain' BackToBack)
    (whole : ∀ c ∈ cmd :: merged, (primitiveOf c.command).arity ∣ c.draw.count) :
    primitiveVertices (primitiveOf cmd.command) cmd.draw.first
        ((cmd :: merged).map fun c => c.draw.count).sum (vertexSize cmd) =
      (cmd :: merged).flatMap commandPrimitives := by
  induction merged generalizing cmd with
  | nil => simp [commandPrimitives]
  | cons next merged ih =>
    have batches := same next (List.mem_cons_self _ _)
    obtain ⟨-, command, texture, -⟩ := batchesWith_eq_true.mp batches
    have sameSize : vertexSize next = vertexSize cmd := by simp [vertexSize, command, texture]
    rw [List.chain'_cons] at backToBack
    have rest := ih next
      (fun c mem => (batchesWith_congr batches c).trans (same c (List.mem_cons_of_mem _ mem)))
      backToBack.2 (fun c mem => whole c (List.mem_cons_of_mem _ mem))
    rw [command, sameSize, ← backToBack.1] at rest
    rw [List.map_cons, List.sum_cons,
      primitiveVertices_add _ _ _ _ _ (whole cmd (List.mem_cons_self _ _)), rest]
    rfl

theorem takeWhile_prefix_filter {α : Type} {p q : α → Bool}
    (imp : ∀ a, p a = true → q a = true)
    (l : List α) : l.takeWhile p <+: l.filter q := by
  induction l with
  | nil => exact List.nil_prefix
  | cons a l ih =>
    by_cases pa : p a
    · rw [List.takeWhile_cons_of_pos pa, List.filter_cons_of_pos (imp a pa)]
      exact (List.prefix_cons_inj a).2 ih
    · rw [List.takeWhile_cons_of_neg pa]
      exact List.nil_prefix

theorem backToBack_of_mem_batchRuns {cmds : List SDLRenderCommand}
    (backToBack : (cmds.filter isBatched).Chain' BackToBack) {cmd : SDLRenderCommand}
    {merged : List SDLRenderCommand} (mem : cmd :: merged ∈ batchRuns cmds)
    (batched : isBatched cmd = true) :
    (cmd :: merged).Chain' BackToBack := by
  obtain ⟨c, rest, suffix, run⟩ := exists_suffix_of_mem_batchRuns mem
  obtain ⟨rfl, rfl⟩ := List.cons_eq_cons.mp run
  have taken : rest.takeWhile (batchesWith cmd) <+: rest.filter isBatched :=
    takeWhile_prefix_filter (fun a h => by
      obtain ⟨batched, command, -⟩ := batchesWith_eq_true.mp h
      rwa [isBatched_congr command]) rest
  have inside : cmd :: rest.takeWhile (batchesWith cmd) <:+: cmds.filter isBatched := by
    refine ((List.prefix_cons_inj cmd).2 taken).isInfix.trans ?_
    simpa [List.filter_cons_of_pos batched] using (suffix.filter isBatched).isInfix
  exact backToBack.infix inside

theorem arity_dvd_count {c : SDLRenderCommand} (batched : isBatched c = true)
    (geometryWhole : c.command = .geometry → c.draw.count % 3 = 0)
    (linesWhole : c.command = .drawLines → c.draw.count % 2 = 0) :
    (primitiveOf c.command).arity ∣ c.draw.count := by
  cases command : c.command <;>
    simp_all [isBatched, primitiveOf, GxmPrimitive.arity, Nat.dvd_of_mod_eq_zero]

/-! ## Polylines -/

/-- The segments `SCE_GXM_PRIMITIVE_LINES` draws from a list of vertices: each pair in turn. -/
def lineSegments {α : Type} : List α → List (α × α)
  | a :: b :: rest => (a, b) :: lineSegments rest
  | _ => []

theorem vitaGxmQueueDrawLines_segments {α : Type} :
    ∀ points : List α, lineSegments (vitaGxmQueueDrawLines points) = points.zip points.tail
  | [] => rfl
  | [_] => rfl
  | a :: b :: rest => by
    show (a, b) :: lineSegments (vitaGxmQueueDrawLines (b :: rest)) = (a, b) :: (b :: rest).zip rest
    rw [vitaGxmQueueDrawLines_segments (b :: rest)]
    rfl

theorem vitaGxmQueueDrawLines_length {α : Type} :
    ∀ points : List α, (vitaGxmQueueDrawLines points).length = (points.length - 1) * 2
  | [] => rfl
  | [_] => rfl
  | a :: b :: rest => by
    show (vitaGxmQueueDrawLines (b :: rest)).length + 2 = _
    rw [vitaGxmQueueDrawLines_length (b :: rest)]
    simp only [List.length_cons]
    omega

/-! ## The draws of `VITA_GXM_RunCommandQueue` -/

theorem vitaGxmRunCommandQueue_poolDraws (s : VitaRenderData) (cmds : List SDLRenderCommand)
    {loopCalls : List GxmCall}
    (loop : ((batchRuns cmds).foldl runBatch (beginQueue s)).trace =
      (beginQueue s).trace ++ loopCalls) :
    ∃ calls, (vitaGxmRunCommandQueue s cmds).trace = s.trace ++ calls ∧
      poolDraws (gxmDrawsFrom s.context calls) =
        poolDraws (gxmDrawsFrom (beginQueue s).context loopCalls) := by
  obtain ⟨calls, trace, draws⟩ := (beginQueue_addsNoDraw s).draws (loopCalls ++ [.endScene])
  have endScene : ∀ call ∈ [GxmCall.endScene], call.isDraw = false := by simp [GxmCall.isDraw]
  refine ⟨calls, ?_, ?_⟩
  · show (runQueue cmds.length (beginQueue s) cmds).trace ++ [.endScene] = _
    rw [runQueue_eq_foldl _ _ _ le_rfl, loop, List.append_assoc, trace]
  · rw [draws, gxmDrawsFrom_append, gxmDrawsFrom_of_not_isDraw endScene, List.append_nil]

/-- `VITA_GXM_RunCommandQueue` draws each maximal run with one `sceGxmDraw` of the first
command's vertices, which rasterises the commands' own primitives when their arrays are back to back. -/
theorem vitaGxmRunCommandQueue_draws_runs (s : VitaRenderData) (cmds : List SDLRenderCommand)
    (backToBack : (cmds.filter isBatched).Chain' BackToBack)
    (geometryWhole : ∀ c ∈ cmds, c.command = .geometry → c.draw.count % 3 = 0)
    (linesWhole : ∀ c ∈ cmds, c.command = .drawLines → c.draw.count % 2 = 0) :
    (batchRuns cmds).flatten = cmds ∧
    (∀ run ∈ batchRuns cmds, run ≠ [] ∧ run.Chain' fun a b => batchesWith a b = true) ∧
    (batchRuns cmds).Chain'
      (fun a b => ∃ ha hb, batchesWith (a.getLast ha) (b.head hb) = false) ∧
    runQueue cmds.length (beginQueue s) cmds = (batchRuns cmds).foldl runBatch (beginQueue s) ∧
    (∃ calls, (vitaGxmRunCommandQueue s cmds).trace = s.trace ++ calls ∧
      (poolDraws (gxmDrawsFrom s.context calls)).map Prod.fst =
        (batchRuns cmds).filterMap runDraw) ∧
    (∀ cmd merged, cmd :: merged ∈ batchRuns cmds → isBatched cmd = true →
      primitiveVertices (primitiveOf cmd.command) cmd.draw.first
          ((cmd :: merged).map fun c => c.draw.count).sum (vertexSize cmd) =
        (cmd :: merged).flatMap commandPrimitives) ∧
    ∀ {α : Type} (points : List α),
      lineSegments (vitaGxmQueueDrawLines points) = points.zip points.tail ∧
        (vitaGxmQueueDrawLines points).length = (points.length - 1) * 2 := by
  refine ⟨List.flatten_splitBy _ _,
    fun run mem => ⟨List.ne_nil_of_mem_splitBy _ mem, List.chain'_of_mem_splitBy mem⟩,
    List.chain'_getLast_head_splitBy _ _, runQueue_eq_foldl _ _ _ le_rfl, ?_, ?_,
    fun points =>
      ⟨vitaGxmQueueDrawLines_segments points, vitaGxmQueueDrawLines_length points⟩⟩
  · obtain ⟨-, loopCalls, loopTrace, draws⟩ :=
      foldl_runBatch_poolDraws (fun _ => True) (fun _ _ => True) (batchRuns cmds)
        (fun _ _ _ _ => ⟨trivial, fun _ _ _ _ _ => trivial⟩) (beginQueue s) trivial
    obtain ⟨calls, trace, drawsEq⟩ := vitaGxmRunCommandQueue_poolDraws s cmds loopTrace
    exact ⟨calls, trace, drawsEq ▸ @map_fst_of_forall₂ (fun _ _ => True) _ _ draws⟩
  · intro cmd merged mem batched
    obtain ⟨c, rest, suffix, run⟩ := exists_suffix_of_mem_batchRuns mem
    obtain ⟨rfl, rfl⟩ := List.cons_eq_cons.mp run
    refine primitiveVertices_run cmd _ (fun c mem => List.mem_takeWhile_imp mem)
      (backToBack_of_mem_batchRuns backToBack mem batched) fun c mem' => ?_
    have inQueue : c ∈ cmds :=
      suffix.subset (List.mem_cons.mpr ((List.mem_cons.mp mem').imp_right fun h =>
        List.takeWhile_subset _ h))
    have batchedC : isBatched c = true := by
      obtain rfl | taken := List.mem_cons.mp mem'
      · exact batched
      · obtain ⟨-, command, -⟩ := batchesWith_eq_true.mp (List.mem_takeWhile_imp taken)
        rwa [isBatched_congr command]
    exact arity_dvd_count batchedC (geometryWhole c inQueue) (linesWhole c inQueue)

/-- Two polylines of two and three points, queued back to back from the pool at `0x100`. -/
def twoPolylines : List SDLRenderCommand :=
  [{ command := .drawLines, draw := { first := 0x100, count := 2, blend := .blend } },
   { command := .drawLines, draw := { first := 0x100 + 2 * 24, count := 4, blend := .blend } }]

/-- The two polylines are one draw of `2 + 4` line vertices. -/
theorem vitaGxmRunCommandQueue_draws_two_polylines :
    ∃ calls, (vitaGxmRunCommandQueue (createdRenderData 960 544) twoPolylines).trace =
        (createdRenderData 960 544).trace ++ calls ∧
      (poolDraws (gxmDrawsFrom (createdRenderData 960 544).context calls)).map Prod.fst =
        [(.lines, 0x100, 6)] := by
  obtain ⟨-, -, -, -, ⟨calls, trace, draws⟩, -⟩ :=
    vitaGxmRunCommandQueue_draws_runs (createdRenderData 960 544) twoPolylines
      (by simp [twoPolylines, isBatched, BackToBack, vertexSize]) (by decide) (by decide)
  exact ⟨calls, trace, draws.trans (by decide)⟩

/-! ## What merging leaves out -/

/-- A 64 by 64 texture `1` whose control words `create_gxm_texture` leaves at point filters. -/
def oneTextureRenderData : VitaRenderData :=
  vitaGxmCreateTexture (createdRenderData 960 544) 1 ⟨.abgr8888, .static, 64, 64⟩
    ⟨.point, .point, .clamp, .clamp⟩

/-- A triangle of texture `1` at `first`, with a scale mode. -/
def texturedTriangle (first : Nat) (scaleMode : SDLScaleMode) : SDLRenderCommand :=
  { command := .geometry
    draw := { first, count := 3, blend := .blend, texture := some 1
              textureScaleMode := scaleMode, textureAddressModeU := .clamp
              textureAddressModeV := .clamp } }

/-- A merged run samples with its first command's scale mode. -/
theorem merged_draw_takes_first_scale_mode :
    (gxmDraws (vitaGxmRunCommandQueue oneTextureRenderData
        [texturedTriangle 0x100 .nearest, texturedTriangle (0x100 + 3 * 32) .linear]).trace).map
        (fun draw => (draw.1, draw.2.1, draw.2.2.fragmentTexture)) =
      [(.triangles, 6, some (1, ⟨.point, .point, .clamp, .clamp⟩))] ∧
    (gxmDraws (vitaGxmRunCommandQueue oneTextureRenderData
        [texturedTriangle (0x100 + 3 * 32) .linear]).trace).map
        (fun draw => (draw.1, draw.2.1, draw.2.2.fragmentTexture)) =
      [(.triangles, 3, some (1, ⟨.linear, .linear, .clamp, .clamp⟩))] := by
  decide

end SdlRender.Vita
