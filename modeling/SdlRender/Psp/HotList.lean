import SdlRender.Sysrender
import Mathlib.Data.List.Nodup

/-!
# The render-target hot list

The VRAM-resident render targets form a doubly linked list, most recently bound first, with
the anchors `most_recent_target` and `least_recent_target` and the links `prevhotw` and
`nexthotw`. `HotList.Represents l order` says the links of `l` are those of `order`; each
helper of the source acts on `order` as its list operation.
-/

namespace SdlRender.Psp

/-- The anchors of the list and the link fields of every texture, one map per field. -/
structure HotList where
  mostRecentTarget : Option TexId
  leastRecentTarget : Option TexId
  prevhotw : TexId → Option TexId
  nexthotw : TexId → Option TexId

/-- The empty list of `PSP_CreateRenderer`; `SDL_calloc` gives every texture `NULL` links. -/
def HotList.empty : HotList :=
  ⟨none, none, fun _ => none, fun _ => none⟩

/-- `p->field = value` behind an `if (p)` test. -/
def writeLink (field : TexId → Option TexId) (p value : Option TexId) : TexId → Option TexId :=
  match p with
  | some q => Function.update field q value
  | none => field

/-- `LRUTargetRelink`: the neighbours of `t` are linked to each other. -/
def lruTargetRelink (l : HotList) (t : TexId) : HotList :=
  let nexthotw := writeLink l.nexthotw (l.prevhotw t) (l.nexthotw t)
  { l with
    nexthotw := nexthotw
    prevhotw := writeLink l.prevhotw (nexthotw t) (l.prevhotw t) }

/-- `LRUTargetPushFront`. It does not write `t->prevhotw`, which its callers leave `NULL`. -/
def lruTargetPushFront (l : HotList) (t : TexId) : HotList :=
  { mostRecentTarget := some t
    leastRecentTarget := if l.leastRecentTarget = none then some t else l.leastRecentTarget
    prevhotw := writeLink l.prevhotw l.mostRecentTarget (some t)
    nexthotw := Function.update l.nexthotw t l.mostRecentTarget }

/-- `LRUTargetRemove`. -/
def lruTargetRemove (l : HotList) (t : TexId) : HotList :=
  let relinked := lruTargetRelink l t
  { mostRecentTarget :=
      if relinked.mostRecentTarget = some t then relinked.nexthotw t
      else relinked.mostRecentTarget
    leastRecentTarget :=
      if relinked.leastRecentTarget = some t then relinked.prevhotw t
      else relinked.leastRecentTarget
    prevhotw := Function.update relinked.prevhotw t none
    nexthotw := Function.update relinked.nexthotw t none }

/-- `LRUTargetBringFront`. -/
def lruTargetBringFront (l : HotList) (t : TexId) : HotList :=
  if l.mostRecentTarget = some t then l else lruTargetPushFront (lruTargetRemove l t) t

/-! ## The list a hot list stands for -/

/-- The successor of `t` in `order`, `none` for the last element and for a non-member. -/
def nextIn : List TexId → TexId → Option TexId
  | [], _ => none
  | a :: rest, t => if t = a then rest.head? else nextIn rest t

/-- The nodes met by following `next` from `start`, at most `fuel` of them. -/
def followLinks (next : TexId → Option TexId) : Option TexId → Nat → List TexId
  | none, _ => []
  | some _, 0 => []
  | some t, fuel + 1 => t :: followLinks next (next t) fuel

/-- `l` is the doubly linked list `order`, most recent first. -/
structure HotList.Represents (l : HotList) (order : List TexId) : Prop where
  nodup : order.Nodup
  most : l.mostRecentTarget = order.head?
  least : l.leastRecentTarget = order.getLast?
  next : ∀ t, l.nexthotw t = nextIn order t
  prev : ∀ t, l.prevhotw t = nextIn order.reverse t

section NextIn

theorem nextIn_of_not_mem {order : List TexId} {t : TexId} (absent : t ∉ order) :
    nextIn order t = none := by
  induction order with
  | nil => rfl
  | cons a rest inductionHypothesis =>
      simp only [List.mem_cons, not_or] at absent
      simp [nextIn, absent.1, inductionHypothesis absent.2]

theorem nextIn_append {front back : List TexId} (distinct : front.Nodup) (t : TexId) :
    nextIn (front ++ back) t =
      if front.getLast? = some t then back.head?
      else if t ∈ front then nextIn front t else nextIn back t := by
  induction front with
  | nil => simp
  | cons a rest inductionHypothesis =>
      rw [List.nodup_cons] at distinct
      by_cases head : t = a
      · subst head
        cases rest with
        | nil => simp [nextIn]
        | cons b rest' =>
            have last : (b :: rest').getLast? ≠ some t := fun last =>
              distinct.1 (List.mem_of_getLast?_eq_some last)
            simp [nextIn, List.getLast?_cons_cons, last]
      · rw [List.cons_append, nextIn, if_neg head, inductionHypothesis distinct.2]
        cases rest with
        | nil => simp [nextIn, Ne.symm head, head]
        | cons b rest' => simp [nextIn, List.getLast?_cons_cons, head]

theorem nextIn_cons_self (t : TexId) (rest : List TexId) :
    nextIn (t :: rest) t = rest.head? := by
  simp [nextIn]

theorem nextIn_cons_of_ne {t x : TexId} (different : x ≠ t) (rest : List TexId) :
    nextIn (t :: rest) x = nextIn rest x := by
  simp [nextIn, different]

theorem not_mem_of_nodup_middle {front back : List TexId} {t : TexId}
    (distinct : (front ++ t :: back).Nodup) : t ∉ front ∧ t ∉ back := by
  simpa [not_or] using (List.nodup_cons.mp (List.nodup_middle.mp distinct)).1

theorem nextIn_middle {front back : List TexId} {t : TexId}
    (distinct : (front ++ t :: back).Nodup) :
    nextIn (front ++ t :: back) t = back.head? := by
  have notFront := (not_mem_of_nodup_middle distinct).1
  rw [nextIn_append (List.nodup_append.mp distinct).1,
    if_neg fun last => notFront (List.mem_of_getLast?_eq_some last), if_neg notFront,
    nextIn_cons_self]

theorem reverse_middle (front back : List TexId) (t : TexId) :
    (front ++ t :: back).reverse = back.reverse ++ t :: front.reverse := by
  simp

theorem nextIn_unlink {front back : List TexId} {t : TexId}
    (distinct : (front ++ t :: back).Nodup) (x : TexId) :
    Function.update (writeLink (nextIn (front ++ t :: back)) front.getLast? back.head?) t none x =
      nextIn (front ++ back) x := by
  have frontNodup := (List.nodup_append.mp distinct).1
  have outside : t ∉ front ++ back := (List.nodup_cons.mp (List.nodup_middle.mp distinct)).1
  by_cases same : x = t
  · subst same
    rw [Function.update_same, nextIn_of_not_mem outside]
  have expand := @nextIn_append front (t :: back) frontNodup x
  rw [nextIn_cons_of_ne same] at expand
  rw [Function.update_noteq same, nextIn_append frontNodup]
  cases last : front.getLast? with
  | none =>
      rw [last] at expand
      simpa [writeLink] using expand
  | some p =>
      rw [last] at expand
      by_cases predecessor : p = x
      · subst predecessor
        simp [writeLink]
      · simp [writeLink, Function.update_noteq (Ne.symm predecessor), expand, predecessor]

theorem followLinks_suffix {order : List TexId} (distinct : order.Nodup) :
    ∀ (suffix before : List TexId), order = before ++ suffix → ∀ extra,
      followLinks (nextIn order) suffix.head? (suffix.length + extra) = suffix
  | [], _, _, _ => by simp [followLinks]
  | b :: rest, before, split, extra => by
      have step : nextIn order b = rest.head? := by
        rw [split] at distinct ⊢
        have notBefore := (not_mem_of_nodup_middle distinct).1
        have lastBefore : before.getLast? ≠ some b := fun last =>
          notBefore (List.mem_of_getLast?_eq_some last)
        rw [nextIn_append (List.nodup_append.mp distinct).1, if_neg lastBefore,
          if_neg notBefore, nextIn_cons_self]
      rw [List.head?_cons, List.length_cons, Nat.add_right_comm, followLinks, step,
        followLinks_suffix distinct rest (before ++ [b]) (by simp [split]) extra]

end NextIn

theorem writeLink_of_ne {field : TexId → Option TexId} {p : Option TexId} {x : TexId}
    (different : p ≠ some x) (value : Option TexId) :
    writeLink field p value x = field x := by
  cases p with
  | none => rfl
  | some q => exact Function.update_noteq (fun same => different (by rw [same])) _ _

theorem lruTargetRemove_of_links {l : HotList} {t : TexId} (noPrev : l.prevhotw t = none)
    (noNext : l.nexthotw t = none) (notMost : l.mostRecentTarget ≠ some t)
    (notLeast : l.leastRecentTarget ≠ some t) :
    lruTargetRemove l t = l := by
  have relinked : lruTargetRelink l t = l := by
    simp [lruTargetRelink, noPrev, noNext, writeLink]
  have clearedPrev : Function.update l.prevhotw t none = l.prevhotw :=
    Function.update_eq_self_iff.mpr noPrev.symm
  have clearedNext : Function.update l.nexthotw t none = l.nexthotw :=
    Function.update_eq_self_iff.mpr noNext.symm
  simp only [lruTargetRemove, relinked, if_neg notMost, if_neg notLeast, clearedPrev,
    clearedNext]

/-! ## The helpers act on the represented list -/

namespace HotList.Represents

variable {l : HotList} {order : List TexId}

theorem nexthotw_eq (represents : l.Represents order) : l.nexthotw = nextIn order :=
  funext represents.next

theorem prevhotw_eq (represents : l.Represents order) : l.prevhotw = nextIn order.reverse :=
  funext represents.prev

theorem links_of_not_mem (represents : l.Represents order) {t : TexId} (absent : t ∉ order) :
    l.prevhotw t = none ∧ l.nexthotw t = none :=
  ⟨by rw [represents.prev, nextIn_of_not_mem (by simpa using absent)],
    by rw [represents.next, nextIn_of_not_mem absent]⟩

theorem followLinks_eq (represents : l.Represents order) (extra : Nat) :
    followLinks l.nexthotw l.mostRecentTarget (order.length + extra) = order ∧
      followLinks l.prevhotw l.leastRecentTarget (order.length + extra) = order.reverse := by
  constructor
  · rw [represents.nexthotw_eq, represents.most]
    exact followLinks_suffix represents.nodup order [] rfl extra
  · rw [represents.prevhotw_eq, represents.least, ← List.head?_reverse, ← List.length_reverse]
    exact followLinks_suffix (List.nodup_reverse.mpr represents.nodup) order.reverse [] rfl
      extra

theorem relink_middle {front back : List TexId} {t : TexId}
    (represents : l.Represents (front ++ t :: back)) :
    (lruTargetRelink l t).nexthotw =
        writeLink (nextIn (front ++ t :: back)) front.getLast? back.head? ∧
      (lruTargetRelink l t).prevhotw =
        writeLink (nextIn (back.reverse ++ t :: front.reverse)) back.reverse.getLast?
          front.reverse.head? ∧
      (lruTargetRelink l t).nexthotw t = back.head? ∧
      (lruTargetRelink l t).prevhotw t = front.getLast? := by
  have distinct := represents.nodup
  have reverseDistinct : (back.reverse ++ t :: front.reverse).Nodup :=
    reverse_middle front back t ▸ List.nodup_reverse.mpr distinct
  obtain ⟨notFront, notBack⟩ := not_mem_of_nodup_middle distinct
  have nextT : l.nexthotw t = back.head? := by rw [represents.next, nextIn_middle distinct]
  have prevT : l.prevhotw t = front.getLast? := by
    rw [represents.prev, reverse_middle, nextIn_middle reverseDistinct, List.head?_reverse]
  have relinkedNext : (lruTargetRelink l t).nexthotw =
      writeLink (nextIn (front ++ t :: back)) front.getLast? back.head? := by
    simp only [lruTargetRelink, prevT, nextT, represents.nexthotw_eq]
  have relinkedNextT : (lruTargetRelink l t).nexthotw t = back.head? := by
    rw [relinkedNext, writeLink_of_ne fun last => notFront (List.mem_of_getLast?_eq_some last),
      nextIn_middle distinct]
  have relinkedPrev : (lruTargetRelink l t).prevhotw =
      writeLink (nextIn (back.reverse ++ t :: front.reverse)) back.reverse.getLast?
        front.reverse.head? := by
    have step : (lruTargetRelink l t).prevhotw =
        writeLink l.prevhotw ((lruTargetRelink l t).nexthotw t) (l.prevhotw t) := rfl
    rw [step, relinkedNextT, prevT, represents.prevhotw_eq, reverse_middle,
      List.getLast?_reverse, List.head?_reverse]
  refine ⟨relinkedNext, relinkedPrev, relinkedNextT, ?_⟩
  rw [relinkedPrev, List.getLast?_reverse, writeLink_of_ne fun first =>
    notBack (List.mem_of_mem_head? first), nextIn_middle reverseDistinct, List.head?_reverse]

theorem empty_iff (represents : l.Represents order) :
    l.mostRecentTarget = none ↔ order = [] := by
  rw [represents.most, List.head?_eq_none_iff]

theorem pushFront (represents : l.Represents order) {t : TexId} (absent : t ∉ order) :
    (lruTargetPushFront l t).Represents (t :: order) := by
  have reverseNodup := List.nodup_reverse.mpr represents.nodup
  refine ⟨List.nodup_cons.mpr ⟨absent, represents.nodup⟩, rfl, ?_, ?_, ?_⟩
  · cases order with
    | nil => simp [lruTargetPushFront, represents.least]
    | cons a rest => simp [lruTargetPushFront, represents.least, List.getLast?_cons_cons]
  · intro x
    by_cases same : x = t
    · subst same
      simp [lruTargetPushFront, represents.most, nextIn_cons_self]
    · simp [lruTargetPushFront, Function.update_noteq same, represents.next,
        nextIn_cons_of_ne same]
  · intro x
    rw [List.reverse_cons, nextIn_append reverseNodup, List.getLast?_reverse]
    simp only [lruTargetPushFront, represents.most, List.head?_cons, List.mem_reverse]
    cases first : order.head? with
    | none =>
        obtain rfl := List.head?_eq_none_iff.mp first
        simp [writeLink, represents.prev, nextIn]
    | some a =>
        by_cases same : a = x
        · subst same
          simp [writeLink]
        · have : nextIn [t] x = none := by simp [nextIn]
          by_cases member : x ∈ order
          · simp [writeLink, Function.update_noteq (Ne.symm same), represents.prev, same,
              member]
          · simp [writeLink, Function.update_noteq (Ne.symm same), represents.prev, same,
              member, this, nextIn_of_not_mem (by simpa using member : x ∉ order.reverse)]

theorem remove (represents : l.Represents order) (t : TexId) :
    (lruTargetRemove l t).Represents (order.erase t) := by
  by_cases member : t ∉ order
  · obtain ⟨noPrev, noNext⟩ := represents.links_of_not_mem member
    have notMost : l.mostRecentTarget ≠ some t := fun most =>
      member (List.mem_of_mem_head? (represents.most ▸ most))
    have notLeast : l.leastRecentTarget ≠ some t := fun least =>
      member (List.mem_of_getLast?_eq_some (represents.least ▸ least))
    rw [lruTargetRemove_of_links noPrev noNext notMost notLeast, List.erase_of_not_mem member]
    exact represents
  rw [not_not] at member
  obtain ⟨front, back, rfl⟩ := List.append_of_mem member
  have distinct := represents.nodup
  obtain ⟨notFront, notBack⟩ := not_mem_of_nodup_middle distinct
  obtain ⟨relinkedNext, relinkedPrev, relinkedNextT, relinkedPrevT⟩ := represents.relink_middle
  have relinkedMost : (lruTargetRelink l t).mostRecentTarget = (front ++ t :: back).head? :=
    represents.most
  have relinkedLeast :
      (lruTargetRelink l t).leastRecentTarget = (front ++ t :: back).getLast? :=
    represents.least
  rw [List.erase_append_right _ notFront, List.erase_cons_head]
  refine ⟨List.nodup_middle.mp distinct |> List.nodup_cons.mp |>.2, ?_, ?_, fun x => ?_,
    fun x => ?_⟩
  · simp only [lruTargetRemove, relinkedMost, relinkedNextT]
    cases front with
    | nil => simp
    | cons a rest =>
        have different : a ≠ t := fun same => notFront (same ▸ List.mem_cons_self a rest)
        simp [different]
  · simp only [lruTargetRemove, relinkedLeast, relinkedPrevT]
    cases back with
    | nil => simp
    | cons b rest =>
        have different : (b :: rest).getLast? ≠ some t := fun last =>
          notBack (List.mem_of_getLast?_eq_some last)
        simp only [List.getLast?_append, List.getLast?_cons_cons] at different ⊢
        simp [different]
  · simp only [lruTargetRemove]
    rw [relinkedNext, nextIn_unlink distinct]
  · simp only [lruTargetRemove]
    rw [relinkedPrev,
      nextIn_unlink (reverse_middle front back t ▸ List.nodup_reverse.mpr distinct),
      List.reverse_append]

theorem bringFront (represents : l.Represents order) (t : TexId) :
    (lruTargetBringFront l t).Represents (t :: order.erase t) := by
  unfold lruTargetBringFront
  split
  · rename_i front
    rw [represents.most] at front
    obtain ⟨rest, rfl⟩ : ∃ rest, order = t :: rest := by
      cases order with
      | nil => simp at front
      | cons a rest => exact ⟨rest, by simpa using front⟩
    rw [List.erase_cons_head]
    exact represents
  · exact (represents.remove t).pushFront represents.nodup.not_mem_erase

end HotList.Represents

end SdlRender.Psp
