import Mvfst.Priority.Invariant

/-!
# One operation at a time

For every public operation the callers may issue, from a state satisfying
`RoundRobin.Inv`: the operation succeeds, keeps the invariant, and returns what
the abstract `Scheduler` returns from the state's `view`, which it moves to the
`view` of the new state (`RoundRobin.simulates`).

The abstraction function `view` keeps the identifiers in list order and turns
the cursor into an index, the number of nodes before `nextIt_`'s node; the
index table does not appear in it.

Each operation is computed on `AtCursor`, the list split at the cursor's node;
`erase` is computed on a second split, at the node holding the erased
identifier, and the three positions of that node (before the cursor, at it,
after it) are the three cases of its proof.
-/

namespace Quic

namespace RoundRobin

variable {Id : Type} [DecidableEq Id]

/-- Where the cursor is, as an index: the number of nodes before `nextIt_`'s
node, and 0 at `end()`. -/
def cursorIndex (s : RoundRobin Id) : Nat :=
  match s.nextIt with
  | none => 0
  | some a => (NodeList.before s.list a).length

/-- **The abstraction function**: the abstract scheduler `s` implements. -/
def view (s : RoundRobin Id) : Scheduler Id :=
  ⟨s.ids, s.cursorIndex, s.current, s.advanceType, s.advanceAfter⟩

/-- `s` seen at its cursor's node `n`, with `pre` before it and `post` after. -/
structure AtCursor (s : RoundRobin Id) (pre : List (Node Id)) (n : Node Id)
    (post : List (Node Id)) : Prop where
  split : s.list = pre ++ n :: post
  cursor : s.nextIt = some n.addr
  fresh : n.addr ∉ pre.map Node.addr

/-- The node after `n` in the cycle `pre ++ n :: post`: the first of `post`,
or the first node of all after the last. -/
def cycleNext (pre : List (Node Id)) (n : Node Id) : List (Node Id) → Node Id
  | m :: _ => m
  | [] => (pre ++ [n]).head (by simp)

/-- `s` steps by `op` to a state that keeps the invariant, returning what the
abstract scheduler returns from `s.view` and moving it to the new `view`. -/
def Simulates (s : RoundRobin Id) (op : Op Id) : Prop :=
  ∃ out s', s.step op = some (out, s') ∧ s'.Inv ∧ s.view.step op = some (out, s'.view)

section Cursor

variable {s : RoundRobin Id} {pre post : List (Node Id)} {n : Node Id}

omit [DecidableEq Id] in
theorem Inv.atCursor (inv : s.Inv) (nonempty : s.list ≠ []) :
    ∃ pre n post, s.AtCursor pre n post := by
  obtain ⟨pre, n, post, split, cursor, fresh⟩ := inv.split nonempty
  exact ⟨pre, n, post, ⟨split, cursor, fresh⟩⟩

omit [DecidableEq Id] in
theorem AtCursor.cursorIndex_eq (cur : s.AtCursor pre n post) : s.cursorIndex = pre.length := by
  simp [cursorIndex, cur.cursor, cur.split, NodeList.before_split cur.fresh]

omit [DecidableEq Id] in
theorem AtCursor.ids_eq (cur : s.AtCursor pre n post) :
    s.ids = pre.map Node.value ++ n.value :: post.map Node.value := by
  simp [ids, cur.split]

omit [DecidableEq Id] in
/-- The cursor's identifier sits at the cursor's index. -/
theorem AtCursor.getElem?_ids (cur : s.AtCursor pre n post) : s.ids[pre.length]? = some n.value := by
  rw [cur.ids_eq, List.getElem?_append_right (by simp)]
  simp

omit [DecidableEq Id] in
theorem AtCursor.view_getElem? (cur : s.AtCursor pre n post) :
    s.view.ids[s.view.cursor]? = some n.value := by
  simpa [view, cur.cursorIndex_eq] using cur.getElem?_ids

omit [DecidableEq Id] in
theorem cycleNext_mem : cycleNext pre n post ∈ pre ++ n :: post := by
  cases post with
  | cons m _ => simp [cycleNext]
  | nil => cases pre <;> simp [cycleNext]

omit [DecidableEq Id] in
/-- `maybeAdvance`'s wrap: the node after the cursor's, or the first node. -/
theorem AtCursor.wrap_eq (cur : s.AtCursor pre n post) :
    (if NodeList.begin post = none then NodeList.begin s.list else NodeList.begin post) =
      some (cycleNext pre n post).addr := by
  cases post with
  | cons m _ => simp [NodeList.begin, cycleNext]
  | nil => cases pre <;> simp [NodeList.begin, cycleNext, cur.split]

omit [DecidableEq Id] in
/-- The successor's index is the cursor's plus one, cyclically. -/
theorem before_cycleNext (addrs : ((pre ++ n :: post).map Node.addr).Nodup) :
    (NodeList.before (pre ++ n :: post) (cycleNext pre n post).addr).length =
      (pre.length + 1) % (pre ++ n :: post).length := by
  cases post with
  | cons m post =>
    have shape : pre ++ n :: m :: post = (pre ++ [n]) ++ m :: post := by simp
    rw [shape] at addrs ⊢
    rw [cycleNext, NodeList.before_split (fresh_of_nodup addrs), Nat.mod_eq_of_lt (by simp)]
    simp
  | nil => cases pre <;> simp [cycleNext, NodeList.before]

omit [DecidableEq Id] in
theorem AtCursor.peekNext_eq (cur : s.AtCursor pre n post) : s.peekNext = some n.value := by
  simp [peekNext, cur.split, cur.cursor, NodeList.deref_split cur.fresh]

omit [DecidableEq Id] in
/-- **`maybeAdvance` at the cursor**: at the budget the cursor moves to the
cyclic successor and the count restarts. -/
theorem AtCursor.maybeAdvance_eq (cur : s.AtCursor pre n post) :
    s.maybeAdvance = some (if s.advanceAfter ≤ s.current then
      { s with nextIt := some (cycleNext pre n post).addr, current := 0 } else s) := by
  have next : NodeList.next s.list n.addr = some (NodeList.begin post) := by
    rw [cur.split]
    exact NodeList.next_split cur.fresh
  rw [maybeAdvance, if_neg (by simp [cur.split])]
  split_ifs
  · simp [cur.cursor, next, cur.wrap_eq]
  · rfl

end Cursor

/-! ### Operations that keep the list -/

section Counters

variable {s : RoundRobin Id}

omit [DecidableEq Id] in
/-- The invariant reads only the list, the cursor, the allocator and the index. -/
theorem Inv.congr (inv : s.Inv) {s' : RoundRobin Id} (list : s'.list = s.list)
    (nextIt : s'.nextIt = s.nextIt) (nextAddr : s'.nextAddr = s.nextAddr)
    (use : s'.useIndexMap = s.useIndexMap) (index : s'.indexMap = s.indexMap) : s'.Inv where
  nodup := by simpa [ids, list] using inv.nodup
  addrs := list ▸ inv.addrs
  bounded := by simpa [list, nextAddr] using inv.bounded
  endIff := by simpa [list, nextIt] using inv.endIff
  nextMem := by simpa [list, nextIt] using inv.nextMem
  indexed := by simpa [list, use, index] using inv.indexed
  unindexed := by simpa [use, index] using inv.unindexed

omit [DecidableEq Id] in
/-- Moving the cursor to a node of a non-empty list keeps the invariant. -/
theorem Inv.moveCursor (inv : s.Inv) (nonempty : s.list ≠ []) {a : Nat}
    (mem : a ∈ s.list.map Node.addr) (current : UInt64) :
    { s with nextIt := some a, current := current }.Inv where
  __ := (inv.congr rfl rfl rfl rfl rfl : ({ s with nextIt := s.nextIt } : RoundRobin Id).Inv)
  endIff := by simpa using nonempty
  nextMem := by simpa using mem

theorem advanceAfterNext_simulates (inv : s.Inv) (n : UInt64) :
    s.Simulates (.advanceAfterNext n) :=
  ⟨_, _, rfl, inv.congr rfl rfl rfl rfl rfl, rfl⟩

theorem advanceAfterBytes_simulates (inv : s.Inv) (bytes : UInt64) :
    s.Simulates (.advanceAfterBytes bytes) :=
  ⟨_, _, rfl, inv.congr rfl rfl rfl rfl rfl, rfl⟩

theorem empty_simulates (inv : s.Inv) : s.Simulates .empty :=
  ⟨_, _, rfl, inv, by cases list : s.list <;> simp [Scheduler.step, view, ids, empty, list]⟩

theorem clear_simulates (inv : s.Inv) : s.Simulates .clear := by
  have index : ∀ value, s.clear.indexMap value = none := by
    cases use : s.useIndexMap <;> simp [use, inv.unindexed]
  exact ⟨_, _, rfl,
    { nodup := by simp [ids], addrs := by simp, bounded := by simp, endIff := by simp,
      nextMem := by simp, indexed := by simp, unindexed := fun _ => index },
    by simp [Scheduler.step, view, ids, cursorIndex]⟩

end Counters

section Cursor

variable {s : RoundRobin Id} {pre post : List (Node Id)} {n : Node Id}

omit [DecidableEq Id] in
/-- `consume(bytes)` at the cursor, in closed form. -/
theorem AtCursor.consume_eq (cur : s.AtCursor pre n post) (bytes : Option UInt64) :
    s.consume bytes = some
      (let current := if s.advanceType = .Bytes then s.current + bytes.getD 0 else s.current + 1
       if s.advanceAfter ≤ current then
         { s with nextIt := some (cycleNext pre n post).addr, current := 0 }
       else { s with current := current }) := by
  rw [consume]
  exact AtCursor.maybeAdvance_eq ⟨cur.split, cur.cursor, cur.fresh⟩

omit [DecidableEq Id] in
theorem AtCursor.consume_simulates (inv : s.Inv) (cur : s.AtCursor pre n post)
    (bytes : Option UInt64) :
    ∃ s', s.consume bytes = some s' ∧ s'.Inv ∧ s'.view = s.view.consume bytes := by
  have nonempty : s.list ≠ [] := by simp [cur.split]
  refine ⟨_, cur.consume_eq bytes, ?_, ?_⟩
  · dsimp only
    split_ifs <;> first
      | exact inv.moveCursor nonempty (List.mem_map_of_mem _ (cur.split ▸ cycleNext_mem)) 0
      | exact inv.congr rfl rfl rfl rfl rfl
  · have index : (NodeList.before s.list (cycleNext pre n post).addr).length =
        (s.cursorIndex + 1) % s.ids.length := by
      rw [cur.cursorIndex_eq, ids, List.length_map, cur.split]
      exact before_cycleNext (cur.split ▸ inv.addrs)
    simp only [Scheduler.consume, view]
    split_ifs <;> simp [cursorIndex, index, ids]

theorem peekNext_simulates (inv : s.Inv) (nonempty : s.ids ≠ []) : s.Simulates .peekNext := by
  obtain ⟨pre, n, post, cur⟩ := inv.atCursor (by simpa [ids] using nonempty)
  refine ⟨.id n.value, s, by simp [step, cur.peekNext_eq], inv, ?_⟩
  simp [Scheduler.step, cur.view_getElem?]

theorem consume_simulates (inv : s.Inv) (nonempty : s.ids ≠ []) (bytes : Option UInt64) :
    s.Simulates (.consume bytes) := by
  obtain ⟨pre, n, post, cur⟩ := inv.atCursor (by simpa [ids] using nonempty)
  obtain ⟨s', consumed, inv', view'⟩ := cur.consume_simulates inv bytes
  refine ⟨.unit, s', by simp [step, consumed], inv', ?_⟩
  simp [Scheduler.step, view'] at nonempty ⊢
  simpa [view] using nonempty

theorem getNext_simulates (inv : s.Inv) (nonempty : s.ids ≠ []) (bytes : Option UInt64) :
    s.Simulates (.getNext bytes) := by
  obtain ⟨pre, n, post, cur⟩ := inv.atCursor (by simpa [ids] using nonempty)
  obtain ⟨s', consumed, inv', view'⟩ := cur.consume_simulates inv bytes
  refine ⟨.id n.value, s', by simp [step, getNext, cur.peekNext_eq, consumed], inv', ?_⟩
  simp [Scheduler.step, view', cur.view_getElem?]

end Cursor

/-! ### `insert` -/

section Insert

variable {s : RoundRobin Id} {pre post : List (Node Id)} {n : Node Id} {value : Id}

/-- `insert` into an empty scheduler: the one node becomes the cursor. -/
theorem insert_simulates_of_nil (inv : s.Inv) (nil : s.list = []) (value : Id) :
    s.Simulates (.insert value) := by
  have cursor : s.nextIt = none := inv.endIff.mpr nil
  have use : s.useIndexMap = false := by
    cases use : s.useIndexMap
    · rfl
    · have := (inv.indexed use).2
      simp [nil, kDestroyIndexThreshold] at this
  have inserted : s.insert value = some
      { s with list := [⟨s.nextAddr, value⟩], nextAddr := s.nextAddr + 1,
               nextIt := some s.nextAddr } := by
    simp [insert, prepareIndex, nil, cursor, use, kBuildIndexThreshold, NodeList.insert,
      NodeList.begin]
  refine ⟨.unit, _, by simp only [step, inserted, Option.map_some']; rfl, ?_, ?_⟩
  · exact { nodup := by simp [ids], addrs := by simp, bounded := by simp,
            endIff := by simp, nextMem := by simp, indexed := by simp [use],
            unindexed := fun _ => inv.unindexed use }
  · simp [Scheduler.step, view, ids, nil, cursorIndex, NodeList.before]

omit [DecidableEq Id] in
theorem Inv.indexMap_eq (inv : s.Inv) (use : s.useIndexMap = false) :
    s.indexMap = fun _ => none :=
  funext (inv.unindexed use)

/-- After `prepareIndex`, an index on a scheduler satisfying the invariant
indexes its list, which then has at least `kDestroyIndexThreshold` nodes. -/
theorem Inv.prepareIndex_indexed (inv : s.Inv) (use : s.prepareIndex.useIndexMap = true) :
    IndexFor s.prepareIndex.indexMap s.list ∧ kDestroyIndexThreshold ≤ s.list.length := by
  by_cases build : (!s.useIndexMap && decide (kBuildIndexThreshold ≤ s.list.length)) = true
  · rw [prepareIndex, if_pos build]
    simp only [Bool.and_eq_true, Bool.not_eq_eq_eq_not, Bool.not_true, decide_eq_true_eq] at build
    refine ⟨?_, le_trans (by decide) build.2⟩
    simpa [buildIndex, inv.indexMap_eq build.1] using indexFor_foldl inv.nodup
  · rw [prepareIndex, if_neg build] at use ⊢
    exact inv.indexed use

theorem Inv.prepareIndex_unindexed (inv : s.Inv) (use : s.prepareIndex.useIndexMap = false)
    (v : Id) : s.prepareIndex.indexMap v = none := by
  by_cases build : (!s.useIndexMap && decide (kBuildIndexThreshold ≤ s.list.length)) = true
  · rw [prepareIndex, if_pos build] at use
    simp [buildIndex] at use
  · rw [prepareIndex, if_neg build] at use ⊢
    exact inv.unindexed use v

/-- **`insert` at the cursor**, in closed form up to the index: the new node
goes just before the cursor's, the cursor stays, and the index, if there is one
(just built at `kBuildIndexThreshold`, or kept), records the new node. -/
theorem AtCursor.insert_spec (inv : s.Inv) (cur : s.AtCursor pre n post)
    (absent : value ∉ s.ids) :
    ∃ s', s.insert value = some s' ∧ s'.list = pre ++ ⟨s.nextAddr, value⟩ :: n :: post ∧
      s'.nextIt = s.nextIt ∧ s'.nextAddr = s.nextAddr + 1 ∧ s'.current = s.current ∧
      s'.advanceType = s.advanceType ∧ s'.advanceAfter = s.advanceAfter ∧
      (s'.useIndexMap = true →
        IndexFor s'.indexMap s'.list ∧ kDestroyIndexThreshold ≤ s'.list.length) ∧
      (s'.useIndexMap = false → ∀ v, s'.indexMap v = none) := by
  have ins : NodeList.insert ⟨s.nextAddr, value⟩ s.list s.nextIt =
      some (pre ++ ⟨s.nextAddr, value⟩ :: n :: post) := by
    rw [cur.split, cur.cursor]
    exact NodeList.insert_split _ cur.fresh
  have long : (pre ++ (⟨s.nextAddr, value⟩ : Node Id) :: n :: post).length ≠ 1 := by
    simp only [List.length_append, List.length_cons]; omega
  have mem : ∀ k, k ∈ pre ++ ⟨s.nextAddr, value⟩ :: n :: post ↔
      k = ⟨s.nextAddr, value⟩ ∨ k ∈ s.list := by
    intro k; rw [cur.split]; simp only [List.mem_append, List.mem_cons, or_left_comm]
  have absent' : (⟨s.nextAddr, value⟩ : Node Id).value ∉ s.list.map Node.value := absent
  have inserted : s.insert value = some (if s.prepareIndex.useIndexMap then
      { s.prepareIndex with list := pre ++ ⟨s.nextAddr, value⟩ :: n :: post,
                            nextAddr := s.nextAddr + 1,
                            indexMap := Function.update s.prepareIndex.indexMap value
                              (some s.nextAddr) }
      else { s.prepareIndex with list := pre ++ ⟨s.nextAddr, value⟩ :: n :: post,
                                 nextAddr := s.nextAddr + 1 }) := by
    simp only [insert, prepareIndex_list, prepareIndex_nextIt, prepareIndex_nextAddr, ins,
      Option.bind_eq_bind, Option.some_bind, if_neg long]
    split <;> rfl
  refine ⟨_, inserted, ?_, ?_, ?_, ?_, ?_, ?_, ?_, ?_⟩
  all_goals cases use : s.prepareIndex.useIndexMap <;> simp [use]
  · obtain ⟨index, size⟩ := inv.prepareIndex_indexed use
    refine ⟨index.update_insert absent' mem, ?_⟩
    rw [cur.split] at size
    simp only [List.length_append, List.length_cons] at size ⊢
    omega
  · exact inv.prepareIndex_unindexed use

theorem AtCursor.insert_simulates (inv : s.Inv) (cur : s.AtCursor pre n post)
    (absent : value ∉ s.ids) : s.Simulates (.insert value) := by
  obtain ⟨s', inserted, list, nextIt, nextAddr, current, advanceType, advanceAfter, indexed,
    unindexed⟩ := cur.insert_spec inv absent
  have bounded : ∀ k ∈ s.list, k.addr < s.nextAddr := inv.bounded
  have cursor' : s'.AtCursor (pre ++ [⟨s.nextAddr, value⟩]) n post := by
    refine ⟨by simp [list], by rw [nextIt, cur.cursor], ?_⟩
    have below := bounded n (by simp [cur.split])
    simpa [cur.fresh] using below.ne
  refine ⟨.unit, _, by simp only [step, inserted, Option.map_some']; rfl, ?_, ?_⟩
  · refine { nodup := ?_, addrs := ?_, bounded := ?_, endIff := ?_, nextMem := ?_,
             indexed := indexed, unindexed := unindexed }
    · have nodup := inv.nodup
      rw [cur.ids_eq] at nodup absent
      simp only [ids, list, List.map_append, List.map_cons] at nodup absent ⊢
      exact List.nodup_middle.mpr (List.nodup_cons.mpr ⟨absent, nodup⟩)
    · have addrs := inv.addrs
      have above : s.nextAddr ∉ s.list.map Node.addr := fun mem => by
        obtain ⟨k, memK, same⟩ := List.mem_map.mp mem
        exact absurd (bounded k memK) (by omega)
      rw [cur.split] at addrs above
      simp only [list, List.map_append, List.map_cons] at addrs above ⊢
      exact List.nodup_middle.mpr (List.nodup_cons.mpr ⟨above, addrs⟩)
    · intro k memK
      rw [list] at memK
      rw [nextAddr]
      rcases List.mem_append.mp memK with inPre | inRest
      · exact Nat.lt_succ_of_lt (bounded k (by simp [cur.split, inPre]))
      · rcases List.mem_cons.mp inRest with new | old
        · simp [new]
        · exact Nat.lt_succ_of_lt (bounded k (by simp [cur.split, old]))
    · simp [cursor'.split, cursor'.cursor]
    · intro a cursorA
      rw [cursor'.cursor] at cursorA
      cases cursorA
      simp [cursor'.split]
  · have nonempty : s.view.ids ≠ [] := by simp [view, cur.ids_eq]
    simp only [Scheduler.step, view, cursor'.cursorIndex_eq, cur.cursorIndex_eq, cur.ids_eq] at absent ⊢
    rw [if_neg absent]
    simp [ids, list, current, advanceType, advanceAfter]

theorem insert_simulates (inv : s.Inv) (absent : value ∉ s.ids) : s.Simulates (.insert value) := by
  by_cases nil : s.list = []
  · exact insert_simulates_of_nil inv nil value
  · obtain ⟨pre, n, post, cur⟩ := inv.atCursor nil
    exact cur.insert_simulates inv absent

end Insert

/-! ### `erase` -/

section Erase

variable {s : RoundRobin Id} {P Q : List (Node Id)} {k : Node Id}

omit [DecidableEq Id] in
/-- **`erase(ListType::iterator)` in closed form**, at a node `k` splitting the
list as `P ++ k :: Q`. -/
theorem eraseIt_split (split : s.list = P ++ k :: Q) (fresh : k.addr ∉ P.map Node.addr) :
    s.eraseIt k.addr = some
      (let s' := if s.nextIt = some k.addr then
          { s with list := P ++ Q, current := 0,
                   nextIt := if NodeList.begin Q = none then NodeList.begin (P ++ Q)
                     else NodeList.begin Q }
        else { s with list := P ++ Q }
       if (P ++ Q).length < kDestroyIndexThreshold then
         { s' with useIndexMap := false, indexMap := fun _ => none }
       else s') := by
  simp only [eraseIt, split, NodeList.erase_split fresh, Option.bind_eq_bind, Option.some_bind]
  split <;> rfl

omit [DecidableEq Id] in
/-- Dropping the index does not change what the scheduler implements. -/
@[simp] theorem view_dropIndex (s : RoundRobin Id) (use : Bool) (m : Id → Option Nat) :
    { s with useIndexMap := use, indexMap := m }.view = s.view := rfl

omit [DecidableEq Id] in
/-- The cursor's index after erasing its own node: the erased node's index,
or 0 when that was past the end. -/
theorem cursorIndex_wrap (addrs : ((P ++ Q).map Node.addr).Nodup) {s : RoundRobin Id}
    (list : s.list = P ++ Q)
    (nextIt : s.nextIt =
      if NodeList.begin Q = none then NodeList.begin (P ++ Q) else NodeList.begin Q) :
    s.cursorIndex = if P.length = (P ++ Q).length then 0 else P.length := by
  cases Q with
  | cons m Q =>
    simp only [cursorIndex, nextIt, list, NodeList.begin, reduceCtorEq, if_false,
      NodeList.before_split (fresh_of_nodup addrs)]
    simp
  | nil => cases P <;> simp [cursorIndex, nextIt, list, NodeList.begin, NodeList.before]

omit [DecidableEq Id] in
/-- The same cursor designates a node of `P ++ Q`, or `end()` when it is empty. -/
theorem wrap_mem (Q : List (Node Id)) :
    (if NodeList.begin Q = none then NodeList.begin (P ++ Q) else NodeList.begin Q) = none ∧
        P ++ Q = [] ∨
      ∃ m ∈ P ++ Q,
        (if NodeList.begin Q = none then NodeList.begin (P ++ Q) else NodeList.begin Q) =
          some m.addr := by
  cases Q with
  | cons m Q => exact .inr ⟨m, by simp, by simp [NodeList.begin]⟩
  | nil => cases P <;> simp [NodeList.begin]

omit [DecidableEq Id] in
/-- The invariant from its parts, with the cursor condition as one case split. -/
theorem Inv.mk' {r : RoundRobin Id} (nodup : r.ids.Nodup) (addrs : (r.list.map Node.addr).Nodup)
    (bounded : ∀ m ∈ r.list, m.addr < r.nextAddr)
    (cursor : r.nextIt = none ∧ r.list = [] ∨ ∃ m ∈ r.list, r.nextIt = some m.addr)
    (indexed : r.useIndexMap = true →
      IndexFor r.indexMap r.list ∧ kDestroyIndexThreshold ≤ r.list.length)
    (unindexed : r.useIndexMap = false → ∀ v, r.indexMap v = none) : r.Inv where
  nodup := nodup
  addrs := addrs
  bounded := bounded
  endIff := by
    rcases cursor with ⟨none, nil⟩ | ⟨m, mem, some⟩
    · simp [none, nil]
    · simp only [some, reduceCtorEq, false_iff]
      exact List.ne_nil_of_mem mem
  nextMem := by
    rcases cursor with ⟨none, -⟩ | ⟨m, mem, some⟩
    · simp [none]
    · intro a cur
      rw [some, Option.some.injEq] at cur
      exact cur ▸ List.mem_map_of_mem _ mem
  indexed := indexed
  unindexed := unindexed

omit [DecidableEq Id] in
/-- **Erasing a node keeps the invariant**, provided the index (if any) has
already stopped listing it. -/
theorem eraseIt_inv (split : s.list = P ++ k :: Q) (nodup : s.ids.Nodup)
    (addrs : (s.list.map Node.addr).Nodup) (bounded : ∀ m ∈ s.list, m.addr < s.nextAddr)
    (cursor : ∃ m ∈ s.list, s.nextIt = some m.addr)
    (indexed : s.useIndexMap = true → IndexFor s.indexMap (P ++ Q))
    (unindexed : s.useIndexMap = false → ∀ v, s.indexMap v = none) :
    ∃ s', s.eraseIt k.addr = some s' ∧ s'.Inv := by
  rw [ids, split] at nodup
  rw [split] at addrs bounded cursor
  refine ⟨_, eraseIt_split split (fresh_of_nodup addrs), ?_⟩
  have sub : (P ++ Q).Sublist (P ++ k :: Q) := List.Sublist.append_left (by simp) P
  have nodup' : ((P ++ Q).map Node.value).Nodup := (nodup.sublist (sub.map _))
  have addrs' : ((P ++ Q).map Node.addr).Nodup := (addrs.sublist (sub.map _))
  have bounded' : ∀ m ∈ P ++ Q, m.addr < s.nextAddr := fun m mem => bounded m (sub.subset mem)
  have moved : s.nextIt ≠ some k.addr →
      ∃ m ∈ P ++ Q, s.nextIt = some m.addr := by
    intro other
    obtain ⟨m, mem, cur⟩ := cursor
    refine ⟨m, ?_, cur⟩
    have ne : m ≠ k := fun same => other (same ▸ cur)
    simpa [ne] using mem
  dsimp only
  by_cases atCursor : s.nextIt = some k.addr <;>
    by_cases small : (P ++ Q).length < kDestroyIndexThreshold <;>
    simp only [atCursor, small, if_true, if_false]
  · exact Inv.mk' nodup' addrs' bounded' (wrap_mem Q) (by simp) (by simp)
  · exact Inv.mk' nodup' addrs' bounded' (wrap_mem Q)
      (fun use => ⟨indexed use, by simpa using small⟩) unindexed
  · exact Inv.mk' nodup' addrs' bounded' (.inr (moved atCursor)) (by simp) (by simp)
  · exact Inv.mk' nodup' addrs' bounded' (.inr (moved atCursor))
      (fun use => ⟨indexed use, by simpa using small⟩) unindexed

/-- The identifier of the node at a split sits at the split's index. -/
theorem indexOf_split (absent : k.value ∉ P.map Node.value) :
    ((P ++ k :: Q).map Node.value).indexOf k.value = P.length := by
  rw [List.map_append, List.indexOf_append_of_not_mem absent, List.map_cons,
    List.indexOf_cons_self, List.length_map, Nat.add_zero]

theorem erase_split_values (absent : k.value ∉ P.map Node.value) :
    ((P ++ k :: Q).map Node.value).erase k.value = (P ++ Q).map Node.value := by
  rw [List.map_append, List.erase_append_right _ absent, List.map_cons, List.erase_cons_head,
    List.map_append]

/-- **Erasing a node removes its identifier from the abstract scheduler.** -/
theorem eraseIt_view (split : s.list = P ++ k :: Q) (nodup : s.ids.Nodup)
    (addrs : (s.list.map Node.addr).Nodup) (cursor : ∃ m ∈ s.list, s.nextIt = some m.addr)
    {r : RoundRobin Id} (erased : s.eraseIt k.addr = some r) :
    r.view = s.view.remove k.value := by
  rw [split] at addrs cursor
  rw [eraseIt_split split (fresh_of_nodup addrs), Option.some.injEq] at erased
  subst erased
  rw [ids, split, List.map_append, List.map_cons] at nodup
  have absent : k.value ∉ P.map Node.value := fun mem =>
    (List.nodup_append.mp nodup).2.2 mem (List.mem_cons_self _ _)
  have addrs' : ((P ++ Q).map Node.addr).Nodup :=
    addrs.sublist ((List.Sublist.append_left (by simp) P).map _)
  dsimp only
  rw [apply_ite view, view_dropIndex, ite_self]
  simp only [view, Scheduler.remove, ids, split, indexOf_split absent, erase_split_values absent]
  by_cases atCursor : s.nextIt = some k.addr
  · have index : s.cursorIndex = P.length :=
      AtCursor.cursorIndex_eq ⟨split, atCursor, fresh_of_nodup addrs⟩
    simp [atCursor, index, cursorIndex_wrap addrs']
  obtain ⟨m, mem, cur⟩ := cursor
  have other : m ≠ k := fun same => atCursor (same ▸ cur)
  simp only [atCursor, if_false]
  rcases List.mem_append.mp (by simpa [other] using mem : m ∈ P ++ Q) with inP | inQ
  · obtain ⟨A, B, rfl⟩ := List.append_of_mem inP
    have fresh : m.addr ∉ A.map Node.addr :=
      fresh_of_nodup (by simpa using addrs : ((A ++ m :: (B ++ k :: Q)).map Node.addr).Nodup)
    have before : s.cursorIndex = A.length :=
      (⟨by simp [split], cur, fresh⟩ : s.AtCursor A m (B ++ k :: Q)).cursorIndex_eq
    have after : ({ s with list := A ++ m :: B ++ Q } : RoundRobin Id).cursorIndex = A.length :=
      (⟨by simp, cur, fresh⟩ : AtCursor { s with list := A ++ m :: B ++ Q } A m (B ++ Q)).cursorIndex_eq
    rw [before, after, if_neg (by simp), if_neg (by simp)]
  · obtain ⟨A, B, rfl⟩ := List.append_of_mem inQ
    have fresh : m.addr ∉ (P ++ k :: A).map Node.addr :=
      fresh_of_nodup (by simpa using addrs : ((P ++ k :: A ++ m :: B).map Node.addr).Nodup)
    have before : s.cursorIndex = (P ++ k :: A).length :=
      (⟨by simp [split], cur, fresh⟩ : s.AtCursor (P ++ k :: A) m B).cursorIndex_eq
    have after : ({ s with list := P ++ (A ++ m :: B) } : RoundRobin Id).cursorIndex =
        (P ++ A).length :=
      (⟨by simp, cur, fun inPA =>
        fresh ((((List.sublist_cons_self k A).append_left P).map Node.addr).subset inPA)⟩ :
        AtCursor { s with list := P ++ (A ++ m :: B) } (P ++ A) m B).cursorIndex_eq
    rw [before, after, if_pos (by simp)]
    simp only [List.length_append, List.length_cons]
    congr 1

omit [DecidableEq Id] in
theorem IndexFor.apply_of_mem {m : Id → Option Nat} {l : List (Node Id)} (index : IndexFor m l)
    (mem : k ∈ l) : m k.value = some k.addr :=
  (index _ _).mpr mem

omit [DecidableEq Id] in
theorem IndexFor.apply_of_not_mem {m : Id → Option Nat} {l : List (Node Id)} (index : IndexFor m l)
    {v : Id} (absent : v ∉ l.map Node.value) : m v = none := by
  cases found : m v with
  | none => rfl
  | some a => exact absurd (List.mem_map_of_mem Node.value ((index v a).mp found)) absent

/-- The search for an identifier held by a node of a list without duplicate
identifiers finds that node. -/
theorem find?_value_of_mem {l : List (Node Id)} (nodup : (l.map Node.value).Nodup)
    (mem : k ∈ l) : l.find? (·.value = k.value) = some k := by
  induction l with
  | nil => simp at mem
  | cons x l ih =>
    rw [List.map_cons, List.nodup_cons] at nodup
    by_cases same : x.value = k.value
    · have : x = k := by
        rcases List.mem_cons.mp mem with rfl | inL
        · rfl
        · exact absurd (same ▸ List.mem_map_of_mem Node.value inL) nodup.1
      simp [List.find?_cons, same, this]
    · have inL : k ∈ l := by
        rcases List.mem_cons.mp mem with rfl | inL
        · exact absurd rfl same
        · exact inL
      simp [List.find?_cons, same, ih nodup.2 inL]

theorem find?_value_of_not_mem {l : List (Node Id)} {v : Id} (absent : v ∉ l.map Node.value) :
    l.find? (·.value = v) = none :=
  List.find?_eq_none.mpr fun m mem same =>
    absent (List.mem_map.mpr ⟨m, mem, by simpa using same⟩)

/-- `eraseLinear` at the cursor's node `n`: `n` itself, then `pre` from its
end, then `post`. -/
theorem AtCursor.eraseLinear_eq {pre post : List (Node Id)} {n : Node Id}
    (cur : s.AtCursor pre n post) (v : Id) :
    s.eraseLinear v =
      if n.value = v then (s.eraseIt n.addr).bind fun s => some (true, { s with current := 0 })
      else match pre.reverse.find? (·.value = v) with
        | some rpos => (s.eraseIt rpos.addr).bind fun s => some (true, s)
        | none => match post.find? (·.value = v) with
          | some pos => (s.eraseIt pos.addr).bind fun s => some (true, s)
          | none => some (false, s) := by
  simp only [eraseLinear, cur.cursor, Option.bind_eq_bind, Option.some_bind]
  rw [cur.split, NodeList.deref_split cur.fresh, NodeList.before_split cur.fresh,
    NodeList.after_split cur.fresh]
  rfl

/-- The linear search from the cursor finds the node holding `k.value` and
erases it. -/
theorem Inv.eraseLinear_of_mem (inv : s.Inv) (mem : k ∈ s.list) :
    s.eraseLinear k.value = (s.eraseIt k.addr).map ((true, ·)) := by
  obtain ⟨pre, n, post, cur⟩ := inv.atCursor (List.ne_nil_of_mem mem)
  have nodup := inv.nodup
  rw [ids, cur.split] at nodup
  rw [cur.eraseLinear_eq]
  have distinct : ∀ m ∈ pre ++ n :: post, m.value = k.value → m = k := fun m memM same =>
    eq_of_value_eq nodup memM (cur.split ▸ mem) same
  rw [List.map_append, List.map_cons] at nodup
  rw [cur.split] at mem
  rcases List.mem_append.mp mem with inPre | inRest
  · have other : n.value ≠ k.value := fun same =>
      cur.fresh (distinct n (by simp) same ▸ List.mem_map_of_mem _ inPre)
    have found : pre.reverse.find? (·.value = k.value) = some k :=
      find?_value_of_mem (by simpa using (List.nodup_append.mp nodup).1) (by simpa using inPre)
    cases erased : s.eraseIt k.addr <;> simp [other, found, erased]
  rcases List.mem_cons.mp inRest with rfl | inPost
  · simp only [if_true, Option.some_bind]
    rw [eraseIt_split cur.split cur.fresh]
    simp only [cur.cursor, if_true, Option.map_some', Option.some_bind]
    split <;> rfl
  · have other : n.value ≠ k.value := fun same => by
      have := distinct n (by simp) same
      subst this
      exact (List.nodup_cons.mp (List.nodup_append.mp nodup).2.1).1
        (List.mem_map_of_mem _ inPost)
    have missing : pre.reverse.find? (·.value = k.value) = none := by
      refine find?_value_of_not_mem fun inPre => ?_
      obtain ⟨m, memM, same⟩ := List.mem_map.mp (by simpa using inPre)
      have := distinct m (by simp [memM]) same
      subst this
      exact (List.nodup_append.mp nodup).2.2 (List.mem_map_of_mem _ memM)
        (List.mem_cons_of_mem _ (List.mem_map_of_mem _ inPost))
    have found : post.find? (·.value = k.value) = some k :=
      find?_value_of_mem (List.nodup_cons.mp (List.nodup_append.mp nodup).2.1).2 inPost
    cases erased : s.eraseIt k.addr <;> simp [other, missing, found, erased]

/-- The linear search from the cursor finds no node for an identifier that is
not scheduled, and changes nothing. -/
theorem Inv.eraseLinear_of_not_mem (inv : s.Inv) (nonempty : s.list ≠ []) {v : Id}
    (absent : v ∉ s.ids) : s.eraseLinear v = some (false, s) := by
  obtain ⟨pre, n, post, cur⟩ := inv.atCursor nonempty
  rw [ids, cur.split] at absent
  rw [cur.eraseLinear_eq]
  have other : n.value ≠ v := fun same => absent (by simp [same])
  simp only [List.map_append, List.map_cons, List.mem_append, List.mem_cons, not_or] at absent
  simp [other, find?_value_of_not_mem (l := pre.reverse) (by simpa using absent.1),
    find?_value_of_not_mem absent.2.2]

/-- **Both halves of `erase(value)` erase the node holding `value`**: through
the index, whose entry goes first, or through the linear search. -/
theorem Inv.erase_of_mem (inv : s.Inv) (mem : k ∈ s.list) :
    s.erase k.value = ((if s.useIndexMap then
      { s with indexMap := Function.update s.indexMap k.value none } else s).eraseIt k.addr).map
        ((true, ·)) := by
  have notEmpty : s.list.isEmpty = false := by simpa using List.ne_nil_of_mem mem
  cases use : s.useIndexMap
  · simpa [erase, notEmpty, use] using inv.eraseLinear_of_mem mem
  · simp [erase, notEmpty, use, (inv.indexed use).1.apply_of_mem mem]

theorem Inv.erase_of_not_mem (inv : s.Inv) {v : Id} (absent : v ∉ s.ids) :
    s.erase v = some (false, s) := by
  by_cases nonempty : s.list = []
  · simp [erase, nonempty]
  have notEmpty : s.list.isEmpty = false := by simpa using nonempty
  cases use : s.useIndexMap
  · simpa [erase, notEmpty, use] using inv.eraseLinear_of_not_mem nonempty absent
  · simp [erase, notEmpty, use, (inv.indexed use).1.apply_of_not_mem absent]

/-- What `erase(value)` hands to `erase(iterator)` erases the node, keeps the
invariant and removes `value` from the abstract scheduler; with the index, the
identifier's entry is gone first. -/
theorem Inv.eraseIt_ready (inv : s.Inv) (mem : k ∈ s.list) :
    ∃ r, (if s.useIndexMap then { s with indexMap := Function.update s.indexMap k.value none }
      else s).eraseIt k.addr = some r ∧ r.Inv ∧ r.view = s.view.remove k.value := by
  obtain ⟨P, Q, split, -⟩ := split_of_mem inv.addrs mem
  have cursor : ∃ m ∈ s.list, s.nextIt = some m.addr := by
    obtain ⟨pre, n, post, cur⟩ := inv.atCursor (List.ne_nil_of_mem mem)
    exact ⟨n, by simp [cur.split], cur.cursor⟩
  by_cases use : s.useIndexMap = true
  · have nodup := inv.nodup
    have index := (inv.indexed use).1
    rw [ids, split] at nodup
    rw [split] at index
    rw [if_pos use]
    let dropped := { s with indexMap := Function.update s.indexMap k.value none }
    obtain ⟨r, erased, rInv⟩ := eraseIt_inv (s := dropped) split inv.nodup inv.addrs inv.bounded
      cursor (fun _ => index.update_erase nodup) (by simp [dropped, use])
    exact ⟨r, erased, rInv, eraseIt_view (s := dropped) split inv.nodup inv.addrs cursor erased⟩
  · rw [if_neg use]
    obtain ⟨r, erased, rInv⟩ :=
      eraseIt_inv split inv.nodup inv.addrs inv.bounded cursor (absurd · use) inv.unindexed
    exact ⟨r, erased, rInv, eraseIt_view split inv.nodup inv.addrs cursor erased⟩

theorem erase_simulates (inv : s.Inv) (value : Id) : s.Simulates (.erase value) := by
  by_cases mem : value ∈ s.ids
  · obtain ⟨k, memK, rfl⟩ := List.mem_map.mp mem
    obtain ⟨r, erased, rInv, rView⟩ := inv.eraseIt_ready memK
    refine ⟨.bool true, r, by simp [step, inv.erase_of_mem memK, erased], rInv, ?_⟩
    simp only [Scheduler.step, rView]
    exact congrArg some (if_pos mem)
  · refine ⟨.bool false, s, by simp [step, inv.erase_of_not_mem mem], inv, ?_⟩
    simp only [Scheduler.step]
    exact congrArg some (if_neg mem)

end Erase

/-! ### Every operation -/

/-- **Refinement, one step.**  Every operation the callers may issue on a
scheduler satisfying the invariant is defined, keeps the invariant, and does
what the abstract scheduler does. -/
theorem Inv.simulates {s : RoundRobin Id} (inv : s.Inv) {op : Op Id} (allowed : op.Allowed s.ids) :
    s.Simulates op := by
  cases op with
  | advanceAfterNext n => exact advanceAfterNext_simulates inv n
  | advanceAfterBytes bytes => exact advanceAfterBytes_simulates inv bytes
  | empty => exact empty_simulates inv
  | insert value => exact insert_simulates inv allowed
  | erase value => exact erase_simulates inv value
  | getNext bytes => exact getNext_simulates inv allowed bytes
  | peekNext => exact peekNext_simulates inv allowed
  | consume bytes => exact consume_simulates inv allowed bytes
  | clear => exact clear_simulates inv

end RoundRobin

end Quic
