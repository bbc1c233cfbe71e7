import Mvfst.Priority.Operations

/-!
# The scheduler refines its abstract model, over whole traces

`RoundRobin.Inv.simulates` matches one operation of the code with one of
`Scheduler`.  This file closes the induction over traces:

* `RoundRobin.reachable_inv` — every state a fresh scheduler reaches through
  operations its callers may issue satisfies the invariant, and every
  operation the callers may issue from it returns: no reachable state fails a
  `CHECK` or dereferences or advances `list_.end()`;
* `RoundRobin.fresh_run_refines` — on every trace the abstract scheduler
  accepts, the code returns exactly what the abstract scheduler returns.  The
  abstract scheduler accepts exactly the traces that keep the callers'
  contract (`Scheduler.step_isSome_iff`), and it never looks at the index, so
  the ids `getNext` returns do not depend on whether the index is in use.

## Design Notes

The run lemma is stated from any state satisfying the invariant, with the
abstraction `view` relating it to the abstract state; the statements from the
fresh scheduler are its instances.
-/

namespace Quic

namespace RoundRobin

variable {Id : Type} [DecidableEq Id]

omit [DecidableEq Id] in
/-- The fresh scheduler satisfies the invariant. -/
theorem fresh_inv (advanceType : AdvanceType) (advanceAfter current : UInt64) :
    (fresh advanceType advanceAfter current : RoundRobin Id).Inv where
  nodup := by simp [ids, fresh]
  addrs := by simp [fresh]
  bounded := by simp [fresh]
  endIff := by simp [fresh]
  nextMem := by simp [fresh]
  indexed := by simp [fresh]
  unindexed := by simp [fresh]

omit [DecidableEq Id] in
@[simp] theorem view_fresh (advanceType : AdvanceType) (advanceAfter current : UInt64) :
    (fresh advanceType advanceAfter current : RoundRobin Id).view =
      Scheduler.fresh advanceType advanceAfter current := rfl

/-- Every operation the callers may issue keeps the invariant, so every
reachable state satisfies it. -/
theorem Reachable.inv {s : RoundRobin Id} (reach : s.Reachable) : s.Inv := by
  induction reach with
  | fresh advanceType advanceAfter current => exact fresh_inv advanceType advanceAfter current
  | step op _ allowed stepped inv =>
    obtain ⟨out, s', stepped', inv', -⟩ := inv.simulates allowed
    rw [stepped] at stepped'
    cases stepped'
    exact inv'

/-- In a reachable state every operation the callers may issue is defined: no
`CHECK` fails and no iterator use is undefined. -/
theorem Reachable.step_isSome {s : RoundRobin Id} (reach : s.Reachable) {op : Op Id}
    (allowed : op.Allowed s.ids) : (s.step op).isSome := by
  obtain ⟨out, s', stepped, -⟩ := reach.inv.simulates allowed
  simp [stepped]

/-- **The invariant holds in every reachable state**, so there no operation the
callers may issue fails a `CHECK` or dereferences `list_.end()`. -/
theorem reachable_inv {s : RoundRobin Id} (reach : s.Reachable) :
    s.Inv ∧ ∀ op : Op Id, op.Allowed s.ids → (s.step op).isSome :=
  ⟨reach.inv, fun _ allowed => reach.step_isSome allowed⟩

/-- Thirty-one insertions build the index, with the first identifier at the
cursor; erasing it through the index moves the cursor on to the next. -/
theorem reachable_inv_indexed :
    ∃ s s' : RoundRobin Nat, s.Reachable ∧ s.step (.erase 0) = some (.bool true, s') ∧
      s'.Reachable ∧
      (s.useIndexMap = true ∧ s.peekNext = some 0 ∧ s'.useIndexMap = true ∧ s'.peekNext = some 1) ∧
      (s'.Inv ∧ ∀ op : Op Nat, op.Allowed s'.ids → (s'.step op).isSome) := by
  have reach := @Reachable.of_after Nat _ _ _ ((List.range 31).map Op.insert)
    (.fresh .Nexts 1 0) rfl
  have reach' := reach.step (.erase 0) trivial rfl
  exact ⟨_, _, reach, rfl, reach', by decide, reachable_inv reach'⟩

omit [DecidableEq Id] in
/-- The abstract cursor indexes an identifier whenever there is one. -/
theorem Inv.view_cursor {s : RoundRobin Id} (inv : s.Inv) (nonempty : s.view.ids ≠ []) :
    s.view.cursor < s.view.ids.length := by
  obtain ⟨pre, n, post, cur⟩ := inv.atCursor (by simpa [view, ids] using nonempty)
  simp [view, cur.cursorIndex_eq, cur.ids_eq]

/-- **Refinement, whole runs.**  From a state satisfying the invariant, every
trace the abstract scheduler accepts runs in the code with the same results. -/
theorem Inv.run_of_view_run {s : RoundRobin Id} (inv : s.Inv) {ops : List (Op Id)}
    {outs : List (Out Id)} (accepted : s.view.run ops = some outs) : s.run ops = some outs := by
  induction ops generalizing s outs with
  | nil => simpa using accepted
  | cons op ops ih =>
    rw [Scheduler.run_cons] at accepted
    obtain ⟨⟨out, a'⟩, abstract, rest⟩ := Option.bind_eq_some.mp accepted
    have allowed : op.Allowed s.ids :=
      (Scheduler.step_isSome_iff inv.view_cursor op).mp (by simp [abstract])
    obtain ⟨out', s', concrete, inv', simulated⟩ := inv.simulates allowed
    rw [abstract, Option.some.injEq, Prod.mk.injEq] at simulated
    obtain ⟨rfl, rfl⟩ := simulated
    obtain ⟨outs', tail, rfl⟩ := Option.map_eq_some'.mp rest
    simp [run_cons, concrete, ih inv' tail]

/-- **The code computes the abstract scheduler.**  For every trace from the
empty scheduler that the abstract scheduler accepts — one keeping the callers'
contract — the code returns the same values. -/
theorem fresh_run_refines (advanceType : AdvanceType) (advanceAfter current : UInt64)
    (ops : List (Op Id)) (outs : List (Out Id))
    (accepted : (Scheduler.fresh advanceType advanceAfter current).run ops = some outs) :
    (fresh advanceType advanceAfter current : RoundRobin Id).run ops = some outs :=
  (fresh_inv advanceType advanceAfter current).run_of_view_run (by simpa using accepted)

theorem fresh_run_refines_nexts :
    (Scheduler.fresh .Nexts 2 0).run
        [.insert 1, .insert 2, .getNext none, .getNext none, .getNext none, .erase 1,
          .getNext none] = some [.unit, .unit, .id 1, .id 1, .id 2, .bool true, .id 2] ∧
      (fresh .Nexts 2 0 : RoundRobin Nat).run
        [.insert 1, .insert 2, .getNext none, .getNext none, .getNext none, .erase 1,
          .getNext none] = some [.unit, .unit, .id 1, .id 1, .id 2, .bool true, .id 2] :=
  ⟨by decide, fresh_run_refines .Nexts 2 0 _ _ (by decide)⟩

end RoundRobin

end Quic
