import Mvfst.Priority.RoundRobin

/-!
# The round-robin scheduler, abstractly

What `RoundRobin` is for, with the list nodes, the iterators and the side index
taken away: a sequence of distinct identifiers in service order, the index of
the identifier served next, and the counter `current` with its budget
`advanceAfter`.  Nothing here depends on whether an index table exists.

* `insert v` places `v` at the cursor's index, just before the cursor's
  identifier, so `v` is served last in the current cycle; the cursor keeps its
  identifier.
* `erase v` removes `v`; the cursor keeps its identifier, or, if `v` was the
  cursor's, moves to the following identifier (the first one after the last)
  and the count restarts.
* `getNext` returns the cursor's identifier and counts one call, or the bytes
  in byte mode; at the budget the cursor moves to the next index cyclically and
  the count restarts.

The counter has the width of the code's `uint64_t current_`.

`Scheduler.step` is partial exactly where the callers' contract `Op.Allowed`
is broken: a duplicate `insert`, or `getNext`, `peekNext` or `consume` with no
identifier.
-/

namespace Quic

/-- The abstract scheduler: identifiers in service order, the index of the one
served next, and the consumption counter with its mode and budget. -/
structure Scheduler (Id : Type) where
  ids : List Id
  cursor : Nat
  current : UInt64
  advanceType : AdvanceType
  advanceAfter : UInt64

namespace Scheduler

variable {Id : Type} [DecidableEq Id]

/-- The empty scheduler. -/
def fresh (advanceType : AdvanceType) (advanceAfter current : UInt64) : Scheduler Id :=
  ⟨[], 0, current, advanceType, advanceAfter⟩

/-- Count one call, or `bytes` (absent: 0) in byte mode; at the budget the
cursor moves to the next index, cyclically, and the count restarts. -/
def consume (a : Scheduler Id) (bytes : Option UInt64) : Scheduler Id :=
  let current := if a.advanceType = .Bytes then a.current + bytes.getD 0 else a.current + 1
  if a.advanceAfter ≤ current then { a with cursor := (a.cursor + 1) % a.ids.length, current := 0 }
  else { a with current := current }

section Consume

omit [DecidableEq Id]

variable (a : Scheduler Id) (bytes : Option UInt64)

@[simp] theorem consume_advanceType : (a.consume bytes).advanceType = a.advanceType := by
  simp only [consume]; split_ifs <;> rfl

@[simp] theorem consume_advanceAfter : (a.consume bytes).advanceAfter = a.advanceAfter := by
  simp only [consume]; split_ifs <;> rfl

end Consume

/-- Remove `value`, which is at index `ids.indexOf value`.  An identifier
before the cursor shifts it down by one; the cursor's own identifier hands the
cursor to its successor, the first identifier if it was the last, and restarts
the count. -/
def remove (a : Scheduler Id) (value : Id) : Scheduler Id :=
  let j := a.ids.indexOf value
  let ids := a.ids.erase value
  if j < a.cursor then { a with ids := ids, cursor := a.cursor - 1 }
  else if j = a.cursor then
    { a with ids := ids, cursor := if a.cursor = ids.length then 0 else a.cursor, current := 0 }
  else { a with ids := ids }

/-- One operation of the abstract scheduler; `none` outside the callers'
contract. -/
def step (a : Scheduler Id) : Op Id → Option (Out Id × Scheduler Id)
  | .advanceAfterNext n => some (.unit,
      { a with current := if a.advanceType = .Bytes then 0 else a.current,
               advanceType := .Nexts, advanceAfter := n })
  | .advanceAfterBytes bytes => some (.unit,
      { a with current := if a.advanceType = .Nexts then 0 else a.current,
               advanceType := .Bytes, advanceAfter := bytes })
  | .empty => some (.bool a.ids.isEmpty, a)
  | .insert value =>
      if value ∈ a.ids then none
      else some (.unit, { a with ids := a.ids.take a.cursor ++ value :: a.ids.drop a.cursor,
                                 cursor := if a.ids = [] then 0 else a.cursor + 1 })
  | .erase value =>
      some (if value ∈ a.ids then (.bool true, a.remove value) else (.bool false, a))
  | .getNext bytes => a.ids[a.cursor]?.map fun value => (.id value, a.consume bytes)
  | .peekNext => a.ids[a.cursor]?.map fun value => (.id value, a)
  | .consume bytes => if a.ids = [] then none else some (.unit, a.consume bytes)
  | .clear => some (.unit, { a with ids := [], cursor := 0, current := 0 })

/-- Everything a trace returns, or `none` if it breaks the callers' contract. -/
def run (a : Scheduler Id) : List (Op Id) → Option (List (Out Id))
  | [] => some []
  | op :: ops => (a.step op).bind fun r => (run r.2 ops).map (r.1 :: ·)

@[simp] theorem run_nil (a : Scheduler Id) : a.run [] = some [] := rfl

theorem run_cons (a : Scheduler Id) (op : Op Id) (ops : List (Op Id)) :
    a.run (op :: ops) = (a.step op).bind fun r => (run r.2 ops).map (r.1 :: ·) := rfl

/-- The abstract step is defined exactly on the operations the callers may
issue, as long as the cursor indexes an identifier. -/
theorem step_isSome_iff {a : Scheduler Id} (cursor : a.ids ≠ [] → a.cursor < a.ids.length)
    (op : Op Id) : (a.step op).isSome ↔ op.Allowed a.ids := by
  cases op with
  | insert value => by_cases mem : value ∈ a.ids <;> simp [step, Op.Allowed, mem]
  | getNext _ | peekNext =>
    by_cases none : a.ids = []
    · simp [step, Op.Allowed, none]
    · simp [step, Op.Allowed, none, cursor none]
  | consume _ => by_cases none : a.ids = [] <;> simp [step, Op.Allowed, none]
  | _ => simp [step, Op.Allowed]

end Scheduler

end Quic
