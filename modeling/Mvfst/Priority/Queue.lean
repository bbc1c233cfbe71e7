import Mvfst.Priority.Refinement
import Mathlib.Data.List.Rotate

/-!
# The scheduler serves a rotating queue

What `RoundRobin` is for, with the cursor taken away as well: the identifiers
in the order they will be served from now on.  `insert` puts an identifier at
the back of that order, `erase` takes one out, and `getNext` serves the front
and, once the front has had its budget, moves it to the back.

`Scheduler` holds the same order as its list read from the cursor on,
cyclically (`Scheduler.toQueue`); every step of `Scheduler` is the same step of
this queue (`Scheduler.step_toQueue`).  With the code's refinement of
`Scheduler`, every trace from a reachable scheduler that the queue accepts
returns in the code what the queue returns (`RoundRobin.reachable_run_queue`).

## Main Definitions

* `RotatingQueue` — the service order, with the counter, its mode and budget.
* `RotatingQueue.step`, `RotatingQueue.run` — the operations of `Op` on it.
* `Scheduler.toQueue` — the queue a scheduler implements.

## Design Notes

Each operation of `Scheduler` is matched with the queue by one lemma on lists
(`rotate_insertAtCursor`, `Scheduler.remove_toQueue`,
`Scheduler.consume_toQueue`); the trace theorem only composes them with
`RoundRobin.Inv.simulates`.
-/

namespace Quic

/-- The round-robin scheduler as a queue: the identifiers in the order they
will be served from now on, and the counter with its mode and budget. -/
structure RotatingQueue (Id : Type) where
  order : List Id
  current : UInt64
  advanceType : AdvanceType
  advanceAfter : UInt64

namespace RotatingQueue

variable {Id : Type} [DecidableEq Id]

/-- The empty queue. -/
def fresh (advanceType : AdvanceType) (advanceAfter current : UInt64) : RotatingQueue Id :=
  ⟨[], current, advanceType, advanceAfter⟩

/-- Count one call, or `bytes` (absent: 0) in byte mode; once the budget is
reached the front goes to the back and the count restarts. -/
def consume (q : RotatingQueue Id) (bytes : Option UInt64) : RotatingQueue Id :=
  let current := if q.advanceType = .Bytes then q.current + bytes.getD 0 else q.current + 1
  if q.advanceAfter ≤ current then { q with order := q.order.rotate 1, current := 0 }
  else { q with current := current }

/-- One operation on the queue; `none` outside the callers' contract.  Erasing
the front restarts the count. -/
def step (q : RotatingQueue Id) : Op Id → Option (Out Id × RotatingQueue Id)
  | .advanceAfterNext n => some (.unit,
      { q with current := if q.advanceType = .Bytes then 0 else q.current,
               advanceType := .Nexts, advanceAfter := n })
  | .advanceAfterBytes bytes => some (.unit,
      { q with current := if q.advanceType = .Nexts then 0 else q.current,
               advanceType := .Bytes, advanceAfter := bytes })
  | .empty => some (.bool q.order.isEmpty, q)
  | .insert value =>
      if value ∈ q.order then none else some (.unit, { q with order := q.order ++ [value] })
  | .erase value =>
      some (if value ∈ q.order then
          (.bool true, { q with order := q.order.erase value,
                                current := if q.order.head? = some value then 0 else q.current })
        else (.bool false, q))
  | .getNext bytes => q.order.head?.map fun value => (.id value, q.consume bytes)
  | .peekNext => q.order.head?.map fun value => (.id value, q)
  | .consume bytes => if q.order = [] then none else some (.unit, q.consume bytes)
  | .clear => some (.unit, { q with order := [], current := 0 })

/-- Everything a trace returns, or `none` if it breaks the callers' contract. -/
def run (q : RotatingQueue Id) : List (Op Id) → Option (List (Out Id))
  | [] => some []
  | op :: ops => (q.step op).bind fun r => (run r.2 ops).map (r.1 :: ·)

@[simp] theorem run_nil (q : RotatingQueue Id) : q.run [] = some [] := rfl

theorem run_cons (q : RotatingQueue Id) (op : Op Id) (ops : List (Op Id)) :
    q.run (op :: ops) = (q.step op).bind fun r => (run r.2 ops).map (r.1 :: ·) := rfl

/-- The queue's step is defined exactly on the operations the callers may
issue. -/
theorem step_isSome_iff (q : RotatingQueue Id) (op : Op Id) :
    (q.step op).isSome ↔ op.Allowed q.order := by
  cases op with
  | insert value => by_cases mem : value ∈ q.order <;> simp [step, Op.Allowed, mem]
  | getNext _ | peekNext => cases order : q.order <;> simp [step, Op.Allowed, order]
  | consume _ => by_cases none : q.order = [] <;> simp [step, Op.Allowed, none]
  | _ => simp [step, Op.Allowed]

end RotatingQueue

variable {Id : Type} [DecidableEq Id]

omit [DecidableEq Id] in
/-- Reading the identifiers from another place changes none of the callers'
obligations. -/
theorem Op.allowed_rotate (op : Op Id) (ids : List Id) (n : Nat) :
    op.Allowed (ids.rotate n) ↔ op.Allowed ids := by
  cases op <;> simp [Op.Allowed, List.mem_rotate, List.rotate_eq_nil_iff]

/-- An identifier inserted at the cursor, with the cursor kept on its
identifier, is served last. -/
theorem rotate_insertAtCursor {ids : List Id} {c : Nat} (inRange : ids ≠ [] → c < ids.length)
    (value : Id) :
    (ids.take c ++ value :: ids.drop c).rotate (if ids = [] then 0 else c + 1) =
      ids.rotate c ++ [value] := by
  by_cases empty : ids = []
  · simp [empty]
  have before : (ids.take c ++ [value]).length = c + 1 := by
    simp only [List.length_append, List.length_take, List.length_singleton]
    have := inRange empty
    omega
  calc (ids.take c ++ value :: ids.drop c).rotate (if ids = [] then 0 else c + 1)
      = ((ids.take c ++ [value]) ++ ids.drop c).rotate (ids.take c ++ [value]).length := by
        rw [if_neg empty, before]; simp
    _ = ids.drop c ++ (ids.take c ++ [value]) := List.rotate_append_length_eq _ _
    _ = ids.rotate c ++ [value] := by
        rw [List.rotate_eq_drop_append_take (inRange empty).le, List.append_assoc]

namespace Scheduler

/-- The queue a scheduler implements: its identifiers read from the cursor
on, cyclically. -/
def toQueue (a : Scheduler Id) : RotatingQueue Id :=
  ⟨a.ids.rotate a.cursor, a.current, a.advanceType, a.advanceAfter⟩

omit [DecidableEq Id] in
@[simp] theorem toQueue_order (a : Scheduler Id) : a.toQueue.order = a.ids.rotate a.cursor := rfl

omit [DecidableEq Id] in
/-- Moving the cursor on by one, cyclically, moves the front to the back. -/
theorem consume_toQueue (a : Scheduler Id) (bytes : Option UInt64) :
    (a.consume bytes).toQueue = a.toQueue.consume bytes := by
  simp only [consume, RotatingQueue.consume, toQueue]
  split_ifs <;> simp [List.rotate_mod, List.rotate_rotate]

/-- Removing an identifier takes it out of the service order; removing the
front restarts the count. -/
theorem remove_toQueue {a : Scheduler Id} (nodup : a.ids.Nodup) (inRange : a.cursor < a.ids.length)
    {value : Id} (mem : value ∈ a.ids) :
    (a.remove value).toQueue =
      { a.toQueue with
        order := a.toQueue.order.erase value
        current := if a.toQueue.order.head? = some value then 0 else a.current } := by
  obtain ⟨A, b, B, split, len⟩ : ∃ A b B, a.ids = A ++ b :: B ∧ A.length = a.cursor :=
    ⟨_, _, _, by rw [List.getElem_cons_drop _ _ inRange, List.take_append_drop],
      by simp only [List.length_take]; omega⟩
  rw [split] at nodup mem
  have apart := List.disjoint_of_nodup_append nodup
  simp only [toQueue, remove, split, ← len, List.rotate_append_length_eq]
  rcases List.mem_append.mp mem with inA | inRest
  · have index : (A ++ b :: B).indexOf value < A.length := by
      rw [List.indexOf_append_of_mem inA]; exact List.indexOf_lt_length.mpr inA
    have other : b ≠ value := fun same => apart inA (same ▸ List.mem_cons_self _ _)
    have later : value ∉ B := fun inB => apart inA (List.mem_cons_of_mem _ inB)
    rw [if_pos index, List.erase_append_left _ inA, ← List.length_erase_of_mem inA]
    simp [List.rotate_append_length_eq, List.erase_cons, other, List.erase_append_right _ later]
  have notInA : value ∉ A := fun inA => apart inA inRest
  rcases List.mem_cons.mp inRest with rfl | inB
  · rw [List.indexOf_append_of_not_mem notInA, List.indexOf_cons_self, if_neg (by omega),
      if_pos (by omega), List.erase_append_right _ notInA, List.erase_cons_head]
    by_cases last : B = []
    · simp [last]
    · simp [last, List.rotate_append_length_eq]
  · have other : b ≠ value := fun same => (List.nodup_cons.mp (List.nodup_append.mp nodup).2.1).1
      (same ▸ inB)
    rw [List.indexOf_append_of_not_mem notInA, List.indexOf_cons_ne _ other, if_neg (by omega),
      if_neg (by omega), List.erase_append_right _ notInA]
    simp [List.rotate_append_length_eq, List.erase_cons, other, List.erase_append_left _ inB]

/-- **One operation, on the queue.**  A step of a scheduler whose identifiers
are distinct and whose cursor is in range is the same step of the queue it
implements. -/
theorem step_toQueue {a a' : Scheduler Id} (nodup : a.ids.Nodup)
    (inRange : a.ids ≠ [] → a.cursor < a.ids.length) {op : Op Id} {out : Out Id}
    (stepped : a.step op = some (out, a')) : a.toQueue.step op = some (out, a'.toQueue) := by
  cases op with
  | advanceAfterNext n | advanceAfterBytes bytes | clear => cases stepped; rfl
  | empty =>
    cases stepped
    cases ids : a.ids <;> simp [RotatingQueue.step, toQueue, ids, List.rotate_eq_nil_iff]
  | insert value =>
    by_cases mem : value ∈ a.ids
    · simp [step, mem] at stepped
    rw [step, if_neg mem] at stepped
    cases stepped
    simp [RotatingQueue.step, toQueue, List.mem_rotate, mem, rotate_insertAtCursor inRange]
  | erase value =>
    simp only [step] at stepped
    split_ifs at stepped with mem <;> cases stepped
    · rw [remove_toQueue nodup (inRange (List.ne_nil_of_mem mem)) mem]
      simp [RotatingQueue.step, toQueue, List.mem_rotate, mem]
    · simp [RotatingQueue.step, toQueue, List.mem_rotate, mem]
  | getNext bytes =>
    obtain ⟨value, found, same⟩ := Option.map_eq_some'.mp stepped
    cases same
    have inRange := (List.getElem?_eq_some_iff.mp found).1
    simp [RotatingQueue.step, List.head?_rotate inRange, found, consume_toQueue]
  | peekNext =>
    obtain ⟨value, found, same⟩ := Option.map_eq_some'.mp stepped
    cases same
    have inRange := (List.getElem?_eq_some_iff.mp found).1
    simp [RotatingQueue.step, toQueue, List.head?_rotate inRange, found]
  | consume bytes =>
    simp only [step] at stepped
    split_ifs at stepped with empty
    cases stepped
    simp [RotatingQueue.step, List.rotate_eq_nil_iff, empty, consume_toQueue]

end Scheduler

namespace RoundRobin

/-- **The code serves a rotating queue.**  From every reachable scheduler,
every trace the queue of its identifiers accepts (one keeping the callers'
contract) returns in the code exactly what the queue returns: `insert` puts
the identifier at the back of the service order, `erase` takes it out, and
`getNext` serves the front and moves it to the back once it has had its
budget. -/
theorem reachable_run_queue {s : RoundRobin Id} (reach : s.Reachable) (ops : List (Op Id))
    (outs : List (Out Id)) (accepted : s.view.toQueue.run ops = some outs) :
    s.run ops = some outs := by
  induction ops generalizing s outs with
  | nil => simpa using accepted
  | cons op ops ih =>
    rw [RotatingQueue.run_cons] at accepted
    obtain ⟨⟨out, q'⟩, queued, rest⟩ := Option.bind_eq_some.mp accepted
    have allowed : op.Allowed s.ids := (Op.allowed_rotate op s.ids s.cursorIndex).mp
      ((RotatingQueue.step_isSome_iff s.view.toQueue op).mp (by simp [queued]))
    have inv := reach.inv
    obtain ⟨out', s', concrete, -, simulated⟩ := inv.simulates allowed
    rw [Scheduler.step_toQueue inv.nodup inv.view_cursor simulated, Option.some.injEq,
      Prod.mk.injEq] at queued
    obtain ⟨rfl, rfl⟩ := queued
    obtain ⟨outs', tail, rfl⟩ := Option.map_eq_some'.mp rest
    simp [run_cons, concrete, ih (.step op reach allowed concrete) _ tail]

theorem reachable_run_queue_fresh :
    (fresh .Nexts 1 0 : RoundRobin Nat).Reachable ∧
      (fresh .Nexts 1 0 : RoundRobin Nat).view.toQueue.run
          [.insert 1, .insert 2, .insert 3, .getNext none, .insert 4, .erase 2, .getNext none,
            .getNext none, .getNext none] =
        some [.unit, .unit, .unit, .id 1, .unit, .bool true, .id 3, .id 1, .id 4] ∧
      (fresh .Nexts 1 0 : RoundRobin Nat).run
          [.insert 1, .insert 2, .insert 3, .getNext none, .insert 4, .erase 2, .getNext none,
            .getNext none, .getNext none] =
        some [.unit, .unit, .unit, .id 1, .unit, .bool true, .id 3, .id 1, .id 4] :=
  ⟨.fresh .Nexts 1 0, by decide, reachable_run_queue (.fresh .Nexts 1 0) _ _ (by decide)⟩

end RoundRobin

end Quic
