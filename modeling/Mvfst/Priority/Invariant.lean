import Mvfst.Priority.Scheduler

/-!
# The scheduler's invariant

Every state a fresh `RoundRobin` reaches through operations its callers may
issue satisfies `RoundRobin.Inv`:

* no identifier is scheduled twice, no two nodes share an address, and every
  address is below the allocator's next one;
* `nextIt_` is `end()` exactly when the list is empty, and otherwise it is the
  address of a node of the list, so no method dereferences or advances `end()`;
* with `useIndexMap_` set, `indexMap_` maps exactly the scheduled identifiers,
  each to the node holding it, and the list has at least
  `kDestroyIndexThreshold` nodes; without it, `indexMap_` is empty.

`RoundRobin.reachable_inv` is the statement for whole traces; it rests on one
lemma per operation, each proved on a split `pre ++ n :: post` of the list at
the cursor's node `n`.  The operation lemmas give the operation's result in
closed form, so that `Mvfst.Priority.Refinement` can reuse them.
-/

namespace Quic

namespace RoundRobin

variable {Id : Type} [DecidableEq Id]

/-- `indexMap` maps exactly the identifiers held in `list`, each to the
address of the node holding it. -/
def IndexFor (indexMap : Id → Option Nat) (list : List (Node Id)) : Prop :=
  ∀ value addr, indexMap value = some addr ↔ ⟨addr, value⟩ ∈ list

/-- **The invariant of a reachable scheduler.** -/
structure Inv (s : RoundRobin Id) : Prop where
  nodup : s.ids.Nodup
  addrs : (s.list.map Node.addr).Nodup
  bounded : ∀ n ∈ s.list, n.addr < s.nextAddr
  endIff : s.nextIt = none ↔ s.list = []
  nextMem : ∀ a, s.nextIt = some a → a ∈ s.list.map Node.addr
  indexed : s.useIndexMap = true → IndexFor s.indexMap s.list ∧ kDestroyIndexThreshold ≤ s.list.length
  unindexed : s.useIndexMap = false → ∀ value, s.indexMap value = none

/-! ### Splitting the list at a node -/

omit [DecidableEq Id] in
/-- In a list with distinct addresses, a node's address is absent before it. -/
theorem fresh_of_nodup {pre post : List (Node Id)} {k : Node Id}
    (addrs : ((pre ++ k :: post).map Node.addr).Nodup) : k.addr ∉ pre.map Node.addr := by
  rw [List.map_append, List.map_cons] at addrs
  exact fun inPre => (List.nodup_append.mp addrs).2.2 inPre (List.mem_cons_self _ _)

omit [DecidableEq Id] in
/-- A node of a list with distinct addresses splits it, with its address absent
before it. -/
theorem split_of_mem {l : List (Node Id)} {k : Node Id} (addrs : (l.map Node.addr).Nodup)
    (mem : k ∈ l) : ∃ pre post, l = pre ++ k :: post ∧ k.addr ∉ pre.map Node.addr := by
  obtain ⟨pre, post, rfl⟩ := List.append_of_mem mem
  exact ⟨pre, post, rfl, fresh_of_nodup addrs⟩

omit [DecidableEq Id] in
/-- **The cursor's node.**  A non-empty scheduler satisfying the invariant
splits at the node `nextIt_` designates. -/
theorem Inv.split {s : RoundRobin Id} (inv : s.Inv) (nonempty : s.list ≠ []) :
    ∃ pre n post, s.list = pre ++ n :: post ∧ s.nextIt = some n.addr ∧
      n.addr ∉ pre.map Node.addr := by
  obtain ⟨a, cur⟩ := Option.ne_none_iff_exists'.mp (mt inv.endIff.mp nonempty)
  obtain ⟨n, mem, rfl⟩ := List.mem_map.mp (inv.nextMem a cur)
  obtain ⟨pre, post, split, fresh⟩ := split_of_mem inv.addrs mem
  exact ⟨pre, n, post, split, cur, fresh⟩

omit [DecidableEq Id] in
/-- Two nodes holding the same identifier in a list without duplicate
identifiers are the same node. -/
theorem eq_of_value_eq {l : List (Node Id)} (nodup : (l.map Node.value).Nodup) {m k : Node Id}
    (memM : m ∈ l) (memK : k ∈ l) (same : m.value = k.value) : m = k :=
  List.inj_on_of_nodup_map nodup memM memK same

/-! ### The index -/

/-- The table `buildIndex` folds over a list with distinct identifiers: each
identifier of the list goes to its node, every other key keeps its entry. -/
theorem foldl_index_apply {l : List (Node Id)} (nodup : (l.map Node.value).Nodup)
    (m : Id → Option Nat) (value : Id) (addr : Nat) :
    l.foldl (fun (m : Id → Option Nat) (it : Node Id) => Function.update m it.value (some it.addr))
        m value = some addr ↔
      ⟨addr, value⟩ ∈ l ∨ (value ∉ l.map Node.value ∧ m value = some addr) := by
  induction l generalizing m with
  | nil => simp
  | cons x l ih =>
    rw [List.map_cons, List.nodup_cons] at nodup
    rw [List.foldl_cons, ih nodup.2, Function.update_apply]
    by_cases same : value = x.value
    · subst same
      have absent : ∀ a, (⟨a, x.value⟩ : Node Id) ∉ l := fun a mem =>
        nodup.1 (List.mem_map.mpr ⟨_, mem, rfl⟩)
      cases x
      simp [absent, nodup.1, eq_comm]
    · have other : ∀ a, (⟨a, value⟩ : Node Id) ≠ x := fun a eq => same (by rw [← eq])
      simp [same, other]

/-- `buildIndex` on an empty table indexes the list exactly. -/
theorem indexFor_foldl {l : List (Node Id)} (nodup : (l.map Node.value).Nodup) :
    IndexFor (l.foldl (fun (m : Id → Option Nat) (it : Node Id) =>
      Function.update m it.value (some it.addr)) fun _ => none) l :=
  fun value addr => by simp [foldl_index_apply nodup]

/-- Recording a new node under an identifier that was not indexed. -/
theorem IndexFor.update_insert {m : Id → Option Nat} {l l' : List (Node Id)}
    (index : IndexFor m l) {node : Node Id} (absent : node.value ∉ l.map Node.value)
    (mem : ∀ k, k ∈ l' ↔ k = node ∨ k ∈ l) :
    IndexFor (Function.update m node.value (some node.addr)) l' := by
  intro value addr
  rw [Function.update_apply, mem]
  by_cases same : value = node.value
  · subst same
    have notIn : (⟨addr, node.value⟩ : Node Id) ∉ l := fun inL =>
      absent (List.mem_map.mpr ⟨_, inL, rfl⟩)
    cases node
    simp [notIn, eq_comm]
  · have other : (⟨addr, value⟩ : Node Id) ≠ node := fun eq => same (by rw [← eq])
    simp [same, other, index value addr]

/-- Dropping an identifier's entry and its node. -/
theorem IndexFor.update_erase {m : Id → Option Nat} {pre post : List (Node Id)} {k : Node Id}
    (nodup : ((pre ++ k :: post).map Node.value).Nodup) (index : IndexFor m (pre ++ k :: post)) :
    IndexFor (Function.update m k.value none) (pre ++ post) := by
  intro value addr
  rw [Function.update_apply]
  by_cases same : value = k.value
  · subst same
    have absent : k.value ∉ (pre ++ post).map Node.value := by
      simp only [List.map_append, List.map_cons] at nodup
      simpa using (List.nodup_cons.mp (List.nodup_middle.mp nodup)).1
    simp only [reduceIte, reduceCtorEq, false_iff]
    exact fun mem => absent (List.mem_map.mpr ⟨_, mem, rfl⟩)
  · have other : (⟨addr, value⟩ : Node Id) ≠ k := fun eq => same (by rw [← eq])
    simp [same, index value addr, other]

end RoundRobin

end Quic
