import Mvfst.Priority.Refinement

/-!
# The index is only an optimisation

`RoundRobin` keeps `indexMap_` so that `erase(value)` finds the node without a
search.  This file shows that the index changes no result, and that it is in
place where the search would be long:

* `RoundRobin.erase_agrees_eraseLinear` — in every reachable scheduler with
  identifiers, `erase(value)` returns what the linear search from the cursor
  returns and leaves the same schedule, whether the index is in use or not;
* `RoundRobin.useIndexMap_of_long` — every reachable scheduler holding more
  than `kBuildIndexThreshold` identifiers uses the index, so the linear search
  only ever runs on lists of at most that length.

## Design Notes

The second result is an invariant of its own, not part of `Inv`: one lemma
per method says how it changes the list's length and `useIndexMap_`, and
`step_indexed_of_long` combines them for one operation.
-/

namespace Quic

namespace RoundRobin

variable {Id : Type} [DecidableEq Id] {s s' : RoundRobin Id}

/-! ### How each method changes the length and the index flag -/

omit [DecidableEq Id] in
/-- `maybeAdvance` moves the cursor and the count only. -/
theorem maybeAdvance_frame (advanced : s.maybeAdvance = some s') :
    s'.list = s.list ∧ s'.useIndexMap = s.useIndexMap := by
  unfold maybeAdvance at advanced
  split_ifs at advanced
  · simp only [Option.bind_eq_bind, Option.bind_eq_some, Option.pure_def,
      Option.some.injEq] at advanced
    obtain ⟨_, -, _, -, rfl⟩ := advanced
    exact ⟨rfl, rfl⟩
  · cases advanced
    exact ⟨rfl, rfl⟩

omit [DecidableEq Id] in
theorem consume_frame {bytes : Option UInt64} (consumed : s.consume bytes = some s') :
    s'.list = s.list ∧ s'.useIndexMap = s.useIndexMap := by
  unfold consume at consumed
  have frame := maybeAdvance_frame consumed
  exact frame

omit [DecidableEq Id] in
theorem getNext_frame {bytes : Option UInt64} {value : Id}
    (got : s.getNext bytes = some (value, s')) :
    s'.list = s.list ∧ s'.useIndexMap = s.useIndexMap := by
  simp only [getNext, Option.bind_eq_bind, Option.bind_eq_some, Option.pure_def,
    Option.some.injEq, Prod.mk.injEq] at got
  obtain ⟨_, -, _, consumed, -, rfl⟩ := got
  exact consume_frame consumed

theorem prepareIndex_useIndexMap (s : RoundRobin Id) :
    s.prepareIndex.useIndexMap =
      (s.useIndexMap || decide (kBuildIndexThreshold ≤ s.list.length)) := by
  unfold prepareIndex
  split_ifs with build
  · simp only [Bool.and_eq_true, Bool.not_eq_true', decide_eq_true_eq] at build
    simp [buildIndex, build.2]
  · simp only [Bool.and_eq_true, Bool.not_eq_true', decide_eq_true_eq, not_and] at build
    cases use : s.useIndexMap <;> simp_all

/-- `insert` adds one node, and builds the index once the list has reached
`kBuildIndexThreshold`. -/
theorem insert_length_useIndexMap {value : Id} (inserted : s.insert value = some s') :
    s'.list.length = s.list.length + 1 ∧
      s'.useIndexMap = (s.useIndexMap || decide (kBuildIndexThreshold ≤ s.list.length)) := by
  simp only [insert, Option.bind_eq_bind, Option.bind_eq_some, Option.pure_def,
    Option.some.injEq] at inserted
  obtain ⟨list, added, rfl⟩ := inserted
  have length := NodeList.length_insert added
  rw [prepareIndex_list] at length
  rw [← prepareIndex_useIndexMap]
  split_ifs <;> exact ⟨length, rfl⟩

omit [DecidableEq Id] in
/-- `erase(iterator)` removes one node, and drops the index below
`kDestroyIndexThreshold`. -/
theorem eraseIt_length_useIndexMap {a : Nat} (erased : s.eraseIt a = some s') :
    s'.list.length + 1 = s.list.length ∧
      s'.useIndexMap = (s.useIndexMap && decide (kDestroyIndexThreshold ≤ s'.list.length)) := by
  simp only [eraseIt, Option.bind_eq_bind, Option.bind_eq_some, Option.pure_def,
    Option.some.injEq] at erased
  obtain ⟨⟨list, next⟩, removed, rfl⟩ := erased
  have length := NodeList.length_erase removed
  split_ifs with small <;> simp [length, small, Nat.not_lt.mp]

/-- The linear search erases one node through `erase(iterator)`, or finds
nothing and changes nothing. -/
theorem eraseLinear_cases {value : Id} {found : Bool}
    (erased : s.eraseLinear value = some (found, s')) :
    s' = s ∨ ∃ a r, s.eraseIt a = some r ∧ s'.list = r.list ∧ s'.useIndexMap = r.useIndexMap := by
  simp only [eraseLinear, Option.bind_eq_bind, Option.bind_eq_some] at erased
  obtain ⟨it, -, cur, -, erased⟩ := erased
  split_ifs at erased
  · simp only [Option.bind_eq_bind, Option.bind_eq_some, Option.pure_def,
      Option.some.injEq, Prod.mk.injEq] at erased
    obtain ⟨r, removed, -, rfl⟩ := erased
    exact .inr ⟨it, r, removed, rfl, rfl⟩
  split at erased
  · simp only [Option.bind_eq_bind, Option.bind_eq_some, Option.pure_def,
      Option.some.injEq, Prod.mk.injEq] at erased
    obtain ⟨-, -, r, removed, -, rfl⟩ := erased
    exact .inr ⟨_, r, removed, rfl, rfl⟩
  split at erased
  · simp only [Option.bind_eq_bind, Option.bind_eq_some, Option.pure_def,
      Option.some.injEq, Prod.mk.injEq] at erased
    obtain ⟨-, -, r, removed, -, rfl⟩ := erased
    exact .inr ⟨_, r, removed, rfl, rfl⟩
  · cases erased
    exact .inl rfl

/-- `erase(value)` removes one node, dropping the index below
`kDestroyIndexThreshold`, or changes neither the list nor the flag. -/
theorem erase_length_useIndexMap {value : Id} {found : Bool}
    (erased : s.erase value = some (found, s')) :
    (s'.list = s.list ∧ s'.useIndexMap = s.useIndexMap) ∨
      (s'.list.length + 1 = s.list.length ∧
        s'.useIndexMap = (s.useIndexMap && decide (kDestroyIndexThreshold ≤ s'.list.length))) := by
  unfold erase at erased
  split_ifs at erased
  · cases erased
    exact .inl ⟨rfl, rfl⟩
  · split at erased
    · cases erased
      exact .inl ⟨rfl, rfl⟩
    · obtain ⟨r, removed, same⟩ := Option.map_eq_some'.mp erased
      cases same
      have erasedIt := eraseIt_length_useIndexMap removed
      exact .inr erasedIt
  · rcases eraseLinear_cases erased with rfl | ⟨a, r, removed, list, use⟩
    · exact .inl ⟨rfl, rfl⟩
    · have erasedIt := eraseIt_length_useIndexMap removed
      rw [list, use]
      exact .inr erasedIt

/-! ### Long lists are indexed -/

/-- One operation keeps every list longer than `kBuildIndexThreshold`
indexed. -/
theorem step_indexed_of_long {op : Op Id} {out : Out Id} (stepped : s.step op = some (out, s'))
    (indexed : kBuildIndexThreshold < s.list.length → s.useIndexMap = true) :
    kBuildIndexThreshold < s'.list.length → s'.useIndexMap = true := by
  cases op with
  | advanceAfterNext _ | advanceAfterBytes _ | empty => cases stepped; exact indexed
  | peekNext =>
    obtain ⟨_, -, same⟩ := Option.map_eq_some'.mp stepped
    cases same
    exact indexed
  | clear => cases stepped; simp [kBuildIndexThreshold]
  | consume bytes =>
    obtain ⟨r, consumed, same⟩ := Option.map_eq_some'.mp stepped
    cases same
    rw [(consume_frame consumed).1, (consume_frame consumed).2]
    exact indexed
  | getNext bytes =>
    obtain ⟨⟨_, r⟩, got, same⟩ := Option.map_eq_some'.mp stepped
    cases same
    rw [(getNext_frame got).1, (getNext_frame got).2]
    exact indexed
  | insert value =>
    obtain ⟨r, inserted, same⟩ := Option.map_eq_some'.mp stepped
    cases same
    obtain ⟨length, use⟩ := insert_length_useIndexMap inserted
    intro long
    simp only [use, Bool.or_eq_true, decide_eq_true_eq]
    exact .inr (by omega)
  | erase value =>
    obtain ⟨⟨_, r⟩, erased, same⟩ := Option.map_eq_some'.mp stepped
    cases same
    dsimp only
    rcases erase_length_useIndexMap erased with ⟨list, use⟩ | ⟨length, use⟩
    · rw [list, use]
      exact indexed
    · intro long
      simp only [use, Bool.and_eq_true, decide_eq_true_eq]
      simp only [kDestroyIndexThreshold, kBuildIndexThreshold] at long indexed ⊢
      exact ⟨indexed (by omega), by omega⟩

/-- **Long lists are always indexed.**  Every reachable scheduler holding
more than `kBuildIndexThreshold` identifiers uses the index, so `erase` never
searches such a list. -/
theorem useIndexMap_of_long (reach : s.Reachable) (long : kBuildIndexThreshold < s.list.length) :
    s.useIndexMap = true := by
  induction reach with
  | fresh => simp [fresh] at long
  | step op _ _ stepped indexed => exact step_indexed_of_long stepped indexed long

theorem useIndexMap_of_long_thirtyOne :
    ∃ s : RoundRobin Nat, s.Reachable ∧ kBuildIndexThreshold < s.list.length ∧
      s.useIndexMap = true := by
  have reach := @Reachable.of_after Nat _ _ _ ((List.range 31).map Op.insert)
    (.fresh .Nexts 1 0) rfl
  refine ⟨_, reach, ?long, useIndexMap_of_long reach ?long⟩
  decide

/-! ### The indexed erase agrees with the linear search -/

omit [DecidableEq Id] in
/-- `erase(iterator)` does not read the index: replacing it changes nothing of
the schedule. -/
theorem eraseIt_view_indexMap (s : RoundRobin Id) (indexMap : Id → Option Nat) (a : Nat) :
    ({ s with indexMap := indexMap }.eraseIt a).map view = (s.eraseIt a).map view := by
  unfold eraseIt
  cases NodeList.erase s.list a <;> simp only [Option.bind_eq_bind, Option.none_bind,
    Option.some_bind, Option.map_none', Option.pure_def, Option.map_some']
  split_ifs <;> rfl

/-- **The index is exact.**  In every reachable scheduler with identifiers,
`erase(value)` returns what the linear search from the cursor returns, and
leaves the same schedule, whether or not the index is in use. -/
theorem erase_agrees_eraseLinear (reach : s.Reachable) (nonempty : s.list ≠ []) (value : Id) :
    ∃ found r r', s.erase value = some (found, r) ∧ s.eraseLinear value = some (found, r') ∧
      r.view = r'.view := by
  have inv := reach.inv
  by_cases mem : value ∈ s.ids
  · obtain ⟨k, memK, rfl⟩ := List.mem_map.mp mem
    obtain ⟨r, erased, -, -⟩ := inv.eraseIt_ready memK
    have same : (s.eraseIt k.addr).map view = some r.view := by
      by_cases use : s.useIndexMap
      · rw [if_pos use] at erased
        rw [← eraseIt_view_indexMap s (Function.update s.indexMap k.value none), erased]
        rfl
      · rw [if_neg use] at erased
        simp [erased]
    obtain ⟨r', linear, views⟩ := Option.map_eq_some'.mp same
    exact ⟨true, r, r', by simp [inv.erase_of_mem memK, erased],
      by simp [inv.eraseLinear_of_mem memK, linear], views.symm⟩
  · exact ⟨false, s, s, inv.erase_of_not_mem mem, inv.eraseLinear_of_not_mem nonempty mem, rfl⟩

theorem erase_agrees_eraseLinear_indexed :
    ∃ s : RoundRobin Nat, s.Reachable ∧ s.useIndexMap = true ∧ s.list ≠ [] ∧
      ∃ found r r', s.erase 5 = some (found, r) ∧ s.eraseLinear 5 = some (found, r') ∧
        r.view = r'.view := by
  have reach := @Reachable.of_after Nat _ _ _ ((List.range 31).map Op.insert)
    (.fresh .Nexts 1 0) rfl
  refine ⟨_, reach, ?indexed, ?nonempty, erase_agrees_eraseLinear reach ?nonempty 5⟩
  all_goals decide

end RoundRobin

end Quic
