import Mvfst.Priority.NodeList

/-!
# `quic::RoundRobin`

The round-robin stream scheduler of `quic/priority/RoundRobin.cpp`, method by
method.  The identifiers sit in a `std::list`, `nextIt_` is the cursor, and
`current_` counts what was consumed from the cursor's identifier since it last
moved: calls to `getNext` in `Nexts` mode, bytes in `Bytes` mode.  Once
`current_` reaches `advanceAfter_` the cursor moves to the next node, wrapping
to the front.

From `kBuildIndexThreshold` identifiers on, `insert` builds `indexMap_`, a
table from identifier to list node, and `erase` looks the node up there; when an
erase leaves fewer than `kDestroyIndexThreshold` identifiers the table is
dropped.  Without the table `erase` checks the cursor's node, then searches
backwards from the cursor, then forwards.

## Main Definitions

* `RoundRobin` — the members of the class, plus the allocator's next address.
* `RoundRobin.insert`, `RoundRobin.erase`, `RoundRobin.eraseIt`,
  `RoundRobin.getNext`, `RoundRobin.peekNext`, `RoundRobin.consume`,
  `RoundRobin.maybeAdvance`, `RoundRobin.clear`, `RoundRobin.buildIndex` —
  the methods, one definition each.
* `RoundRobin.step`, `RoundRobin.run`, `RoundRobin.Reachable` — the public
  operations as a step function, traces, and the states traces reach.
* `RoundRobin.after` — the scheduler a trace the callers may issue leads to.

## Design Notes

A failed `CHECK`, and any undefined use of an iterator (see
`Mvfst.Priority.NodeList`), makes a method return `none`.  `insert` is modelled
as in a release build, where its `DCHECK(!erase(value))` is not evaluated; for
an identifier that is not already scheduled that `erase` changes nothing, so
the two builds agree under the callers' contract `Op.Allowed`.

`RoundRobin.h`, with the member initialisers, is not under `src/`: the mode and
the two counters of a fresh scheduler are parameters of `RoundRobin.fresh`.
-/

namespace Quic

/-- `kBuildIndexThreshold`: the size from which `insert` builds the index. -/
def kBuildIndexThreshold : Nat := 30

/-- `kDestroyIndexThreshold`: `erase` drops the index below this size. -/
def kDestroyIndexThreshold : Nat := 10

/-- `RoundRobin::AdvanceType`: what `current_` counts. -/
inductive AdvanceType
  | Bytes
  | Nexts
deriving DecidableEq, Repr

/-- The members of `RoundRobin`.  `nextIt` and the values of `indexMap` are
node addresses, `none` being `list_.end()`; `nextAddr` is where the allocator
puts the next node. -/
structure RoundRobin (Id : Type) where
  list : List (Node Id)
  nextIt : Option Nat
  indexMap : Id → Option Nat
  useIndexMap : Bool
  advanceType : AdvanceType
  advanceAfter : UInt64
  current : UInt64
  nextAddr : Nat

/-- The scheduler's public operations. -/
inductive Op (Id : Type)
  | advanceAfterNext (n : UInt64)
  | advanceAfterBytes (bytes : UInt64)
  | empty
  | insert (value : Id)
  | erase (value : Id)
  | getNext (bytes : Option UInt64)
  | peekNext
  | consume (bytes : Option UInt64)
  | clear

/-- What an operation returns: nothing, the `bool` of `erase` or `empty`, or
the identifier of `getNext` or `peekNext`. -/
inductive Out (Id : Type)
  | unit
  | bool (b : Bool)
  | id (value : Id)
deriving DecidableEq, Repr

/-- The callers' contract: `insert` only an identifier that is not scheduled
("The caller needs to verify it never inserts a duplicate"), and `getNext`,
`peekNext` and `consume` only on a non-empty scheduler (their `CHECK`s). -/
def Op.Allowed {Id : Type} (ids : List Id) : Op Id → Prop
  | .insert value => value ∉ ids
  | .getNext _ | .peekNext | .consume _ => ids ≠ []
  | _ => True

instance {Id : Type} [DecidableEq Id] (ids : List Id) : (op : Op Id) → Decidable (op.Allowed ids)
  | .advanceAfterNext _ | .advanceAfterBytes _ | .empty | .erase _ | .clear =>
      inferInstanceAs (Decidable True)
  | .insert value => inferInstanceAs (Decidable (value ∉ ids))
  | .getNext _ | .peekNext | .consume _ => inferInstanceAs (Decidable (ids ≠ []))

namespace RoundRobin

variable {Id : Type}

/-- A scheduler as constructed: no identifiers, the cursor at `end()`, no
index.  The mode and counters come from `RoundRobin.h`. -/
def fresh (advanceType : AdvanceType) (advanceAfter current : UInt64) : RoundRobin Id where
  list := []
  nextIt := none
  indexMap := fun _ => none
  useIndexMap := false
  advanceType := advanceType
  advanceAfter := advanceAfter
  current := current
  nextAddr := 0

/-- The identifiers, in list order. -/
def ids (s : RoundRobin Id) : List Id :=
  s.list.map Node.value

/-- `advanceAfterNext(n)`; leaving byte mode restarts the count. -/
def advanceAfterNext (s : RoundRobin Id) (n : UInt64) : RoundRobin Id :=
  { s with current := if s.advanceType = .Bytes then 0 else s.current,
           advanceType := .Nexts, advanceAfter := n }

/-- `advanceAfterBytes(bytes)`; leaving `Nexts` mode restarts the count. -/
def advanceAfterBytes (s : RoundRobin Id) (bytes : UInt64) : RoundRobin Id :=
  { s with current := if s.advanceType = .Nexts then 0 else s.current,
           advanceType := .Bytes, advanceAfter := bytes }

/-- `empty()`. -/
def empty (s : RoundRobin Id) : Bool :=
  s.list.isEmpty

/-- `maybeAdvance()`: once `current_` reaches `advanceAfter_`, move the cursor
on, wrapping to the front, and restart the count. -/
def maybeAdvance (s : RoundRobin Id) : Option (RoundRobin Id) :=
  if s.list.isEmpty then none
  else if s.advanceAfter ≤ s.current then do
    let it ← s.nextIt
    let next ← NodeList.next s.list it
    pure { s with nextIt := if next = none then NodeList.begin s.list else next, current := 0 }
  else some s

/-- `consume(bytes)`: count one call, or `bytes` (absent: 0) in byte mode. -/
def consume (s : RoundRobin Id) (bytes : Option UInt64) : Option (RoundRobin Id) :=
  maybeAdvance { s with current :=
    if s.advanceType = .Bytes then s.current + bytes.getD 0 else s.current + 1 }

/-- `peekNext()`: the cursor's identifier. -/
def peekNext (s : RoundRobin Id) : Option Id :=
  if s.list.isEmpty then none else s.nextIt.bind (NodeList.deref s.list)

/-- `getNext(bytes)`: the cursor's identifier, then `consume(bytes)`. -/
def getNext (s : RoundRobin Id) (bytes : Option UInt64) : Option (Id × RoundRobin Id) := do
  let ret ← s.peekNext
  let s ← s.consume bytes
  pure (ret, s)

/-- `clear()`. -/
def clear (s : RoundRobin Id) : RoundRobin Id :=
  let s := { s with list := [] }
  let s := if s.useIndexMap then { s with indexMap := fun _ => none, useIndexMap := false } else s
  { s with nextIt := none, current := 0 }

section Clear

variable (s : RoundRobin Id)

@[simp] theorem clear_list : s.clear.list = [] := by
  cases use : s.useIndexMap <;> simp [clear, use]
@[simp] theorem clear_nextIt : s.clear.nextIt = none := by
  cases use : s.useIndexMap <;> simp [clear, use]
@[simp] theorem clear_current : s.clear.current = 0 := by
  cases use : s.useIndexMap <;> simp [clear, use]
@[simp] theorem clear_useIndexMap : s.clear.useIndexMap = false := by
  cases use : s.useIndexMap <;> simp [clear, use]
@[simp] theorem clear_indexMap :
    s.clear.indexMap = if s.useIndexMap then fun _ => none else s.indexMap := by
  cases use : s.useIndexMap <;> simp [clear, use]
@[simp] theorem clear_nextAddr : s.clear.nextAddr = s.nextAddr := by
  cases use : s.useIndexMap <;> simp [clear, use]
@[simp] theorem clear_advanceType : s.clear.advanceType = s.advanceType := by
  cases use : s.useIndexMap <;> simp [clear, use]
@[simp] theorem clear_advanceAfter : s.clear.advanceAfter = s.advanceAfter := by
  cases use : s.useIndexMap <;> simp [clear, use]

end Clear

variable [DecidableEq Id]

/-- `buildIndex()`: map every node's identifier to the node. -/
def buildIndex (s : RoundRobin Id) : RoundRobin Id :=
  { s with
    indexMap := s.list.foldl (fun m it => Function.update m it.value (some it.addr)) s.indexMap }

/-- The opening of `insert(value)`: without an index, a list that has reached
`kBuildIndexThreshold` gets one. -/
def prepareIndex (s : RoundRobin Id) : RoundRobin Id :=
  if !s.useIndexMap && kBuildIndexThreshold ≤ s.list.length then
    buildIndex { s with useIndexMap := true }
  else s

section PrepareIndex

variable (s : RoundRobin Id)

@[simp] theorem prepareIndex_list : s.prepareIndex.list = s.list := by
  unfold prepareIndex; split <;> rfl
@[simp] theorem prepareIndex_nextIt : s.prepareIndex.nextIt = s.nextIt := by
  unfold prepareIndex; split <;> rfl
@[simp] theorem prepareIndex_nextAddr : s.prepareIndex.nextAddr = s.nextAddr := by
  unfold prepareIndex; split <;> rfl
@[simp] theorem prepareIndex_current : s.prepareIndex.current = s.current := by
  unfold prepareIndex; split <;> rfl
@[simp] theorem prepareIndex_advanceType : s.prepareIndex.advanceType = s.advanceType := by
  unfold prepareIndex; split <;> rfl
@[simp] theorem prepareIndex_advanceAfter : s.prepareIndex.advanceAfter = s.advanceAfter := by
  unfold prepareIndex; split <;> rfl

end PrepareIndex

/-- `insert(value)`: build the index first if the list has reached
`kBuildIndexThreshold`, then put the new node just before the cursor.  The
code's comment says "at the tail of the list": the node is the last one the
cursor reaches, the tail of the service order, but the list's tail only when
the cursor is `list_.end()`. -/
def insert (s : RoundRobin Id) (value : Id) : Option (RoundRobin Id) := do
  let s := s.prepareIndex
  let insertIt := s.nextAddr
  let list ← NodeList.insert ⟨insertIt, value⟩ s.list s.nextIt
  let s := { s with list := list, nextAddr := insertIt + 1 }
  let s := if list.length = 1 then { s with nextIt := NodeList.begin list } else s
  pure <| if s.useIndexMap then
      { s with indexMap := Function.update s.indexMap value (some insertIt) } else s

/-- `erase(ListType::iterator eraseIt)`: erasing the cursor's node moves the
cursor to the following node, wrapping to the front, and restarts the count. -/
def eraseIt (s : RoundRobin Id) (eraseIt : Nat) : Option (RoundRobin Id) := do
  let (list, next) ← NodeList.erase s.list eraseIt
  let s := if s.nextIt = some eraseIt then
      { s with list := list, nextIt := if next = none then NodeList.begin list else next,
               current := 0 }
    else { s with list := list }
  pure <| if list.length < kDestroyIndexThreshold then
      { s with useIndexMap := false, indexMap := fun _ => none } else s

/-- The unindexed half of `erase(value)`: the cursor's node, then a backward
search from the node before the cursor, then a forward search after it. -/
def eraseLinear (s : RoundRobin Id) (value : Id) : Option (Bool × RoundRobin Id) := do
  let it ← s.nextIt
  let cur ← NodeList.deref s.list it
  if cur = value then
    let s ← s.eraseIt it
    return (true, { s with current := 0 })
  match (NodeList.before s.list it).reverse.find? (·.value = value) with
  | some rpos => return (true, ← s.eraseIt rpos.addr)
  | none =>
    match (NodeList.after s.list it).find? (·.value = value) with
    | some pos => return (true, ← s.eraseIt pos.addr)
    | none => return (false, s)

/-- `erase(value)`: whether `value` was found and erased. -/
def erase (s : RoundRobin Id) (value : Id) : Option (Bool × RoundRobin Id) :=
  if s.list.isEmpty then some (false, s)
  else if s.useIndexMap then
    match s.indexMap value with
    | none => some (false, s)
    | some listIt =>
      (eraseIt { s with indexMap := Function.update s.indexMap value none } listIt).map
        ((true, ·))
  else s.eraseLinear value

/-- One public operation: what it returns and the scheduler after it. -/
def step (s : RoundRobin Id) : Op Id → Option (Out Id × RoundRobin Id)
  | .advanceAfterNext n => some (.unit, s.advanceAfterNext n)
  | .advanceAfterBytes bytes => some (.unit, s.advanceAfterBytes bytes)
  | .empty => some (.bool s.empty, s)
  | .insert value => (s.insert value).map ((.unit, ·))
  | .erase value => (s.erase value).map fun r => (.bool r.1, r.2)
  | .getNext bytes => (s.getNext bytes).map fun r => (.id r.1, r.2)
  | .peekNext => s.peekNext.map ((.id ·, s))
  | .consume bytes => (s.consume bytes).map ((.unit, ·))
  | .clear => some (.unit, s.clear)

/-- A trace of operations: everything they return, or `none` if one of them
fails a `CHECK` or uses an iterator undefinedly. -/
def run (s : RoundRobin Id) : List (Op Id) → Option (List (Out Id))
  | [] => some []
  | op :: ops => (s.step op).bind fun r => (run r.2 ops).map (r.1 :: ·)

@[simp] theorem run_nil (s : RoundRobin Id) : s.run [] = some [] := rfl

theorem run_cons (s : RoundRobin Id) (op : Op Id) (ops : List (Op Id)) :
    s.run (op :: ops) = (s.step op).bind fun r => (run r.2 ops).map (r.1 :: ·) := rfl

/-- The states a fresh scheduler reaches through operations its callers may
issue. -/
inductive Reachable : RoundRobin Id → Prop
  | fresh (advanceType : AdvanceType) (advanceAfter current : UInt64) :
      Reachable (RoundRobin.fresh advanceType advanceAfter current)
  | step {s s' : RoundRobin Id} {out : Out Id} (op : Op Id) :
      Reachable s → op.Allowed s.ids → s.step op = some (out, s') → Reachable s'

/-- The scheduler after a trace, or `none` if an operation breaks the callers'
contract or fails. -/
def after (s : RoundRobin Id) : List (Op Id) → Option (RoundRobin Id)
  | [] => some s
  | op :: ops => if op.Allowed s.ids then (s.step op).bind fun r => r.2.after ops else none

/-- Walking a trace the callers may issue from a reachable scheduler reaches
only reachable schedulers. -/
theorem Reachable.of_after {s s' : RoundRobin Id} {ops : List (Op Id)} (reach : s.Reachable)
    (ran : s.after ops = some s') : s'.Reachable := by
  induction ops generalizing s with
  | nil => cases ran; exact reach
  | cons op ops ih =>
    simp only [after] at ran
    split_ifs at ran with allowed
    obtain ⟨⟨out, s₁⟩, stepped, rest⟩ := Option.bind_eq_some.mp ran
    exact ih (reach.step op allowed stepped) rest

end RoundRobin

end Quic
