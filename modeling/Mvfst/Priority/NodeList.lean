import Mathlib.Data.List.Basic
import Mathlib.Data.List.Nodup

/-!
# The scheduler's `std::list`, node by node

`RoundRobin` keeps its identifiers in a `std::list` and points into it with
iterators: the cursor `nextIt_`, and the values of the side index `indexMap_`.
An iterator names a *node*, not a position, so it survives insertions and
erasures elsewhere in the list and dangles once its own node is erased.  To say
anything about the index we therefore need node identity, and this file gives
each node the address the allocator handed out for it.

## Main Definitions

* `Node` — a list node: its address and the identifier it holds.
* `NodeList.begin`, `NodeList.next`, `NodeList.deref`, `NodeList.insert`,
  `NodeList.erase` — `begin()`, `std::next`, `*it`, `insert(pos, v)` and
  `erase(it)`, with `none` for `end()`.
* `NodeList.before`, `NodeList.after` — the nodes strictly before and after an
  iterator, the ranges the scheduler's two `std::find` calls scan.

## Design Notes

Dereferencing or advancing `end()`, and using an iterator whose node is gone,
is undefined behaviour; every such use returns `none` here, so the scheduler
model can only produce a result when the code's iterator use is defined.

All lemmas are stated on a split `pre ++ n :: post` of the list with `n`'s
address absent from `pre`, which is how the cursor is located once addresses
are known to be distinct.
-/

namespace Quic

/-- A node of `std::list<Identifier>`: the address the allocator gave it and
the identifier it holds. -/
structure Node (Id : Type) where
  addr : Nat
  value : Id
deriving DecidableEq, Repr

namespace NodeList

variable {Id : Type}

/-- `list.begin()`: the first node's address; `none` is `list.end()`. -/
def begin : List (Node Id) → Option Nat
  | [] => none
  | n :: _ => some n.addr

/-- `*it`: the identifier in the node at address `a`; `none` when no node of
the list has that address. -/
def deref (l : List (Node Id)) (a : Nat) : Option Id :=
  (l.find? (·.addr = a)).map Node.value

/-- `std::next(it)` for the node at address `a`: the next node, or `end()`
after the last one; `none` when `a` is not in the list. -/
def next : List (Node Id) → Nat → Option (Option Nat)
  | [], _ => none
  | n :: rest, a => if n.addr = a then some (begin rest) else next rest a

/-- `list.insert(pos, node)`: `node` goes just before the node at `pos`, or at
the back when `pos` is `end()`. -/
def insert (node : Node Id) : List (Node Id) → Option Nat → Option (List (Node Id))
  | l, none => some (l ++ [node])
  | [], some _ => none
  | n :: rest, some a =>
      if n.addr = a then some (node :: n :: rest)
      else (insert node rest (some a)).map (n :: ·)

/-- `list.erase(it)` for the node at address `a`: the list without it, and the
iterator `erase` returns, to the node that followed it. -/
def erase : List (Node Id) → Nat → Option (List (Node Id) × Option Nat)
  | [], _ => none
  | n :: rest, a =>
      if n.addr = a then some (rest, begin rest)
      else (erase rest a).map fun r => (n :: r.1, r.2)

/-- The nodes strictly before the node at address `a`, nearest last. -/
def before (l : List (Node Id)) (a : Nat) : List (Node Id) :=
  l.takeWhile (·.addr ≠ a)

/-- The nodes strictly after the node at address `a`. -/
def after (l : List (Node Id)) (a : Nat) : List (Node Id) :=
  (l.dropWhile (·.addr ≠ a)).drop 1

/-! ### The node at a known split -/

section Split

variable {pre post : List (Node Id)} {n : Node Id}

private theorem ne_of_not_mem (fresh : n.addr ∉ pre.map Node.addr) :
    ∀ m ∈ pre, (decide (m.addr ≠ n.addr)) = true := by
  intro m mem
  simpa using fun same => fresh (List.mem_map.mpr ⟨m, mem, same⟩)

theorem deref_split (fresh : n.addr ∉ pre.map Node.addr) :
    deref (pre ++ n :: post) n.addr = some n.value := by
  induction pre with
  | nil => simp [deref]
  | cons m pre ih =>
    have other : m.addr ≠ n.addr := fun same => fresh (by simp [same])
    simpa [deref, List.find?_cons, other] using ih (fun mem => fresh (by simp [mem]))

theorem next_split (fresh : n.addr ∉ pre.map Node.addr) :
    next (pre ++ n :: post) n.addr = some (begin post) := by
  induction pre with
  | nil => simp [next]
  | cons m pre ih =>
    have other : m.addr ≠ n.addr := fun same => fresh (by simp [same])
    simpa [next, other] using ih (fun mem => fresh (by simp [mem]))

theorem insert_split (node : Node Id) (fresh : n.addr ∉ pre.map Node.addr) :
    insert node (pre ++ n :: post) (some n.addr) = some (pre ++ node :: n :: post) := by
  induction pre with
  | nil => simp [insert]
  | cons m pre ih =>
    have other : m.addr ≠ n.addr := fun same => fresh (by simp [same])
    simp [insert, other, ih (fun mem => fresh (by simp [mem]))]

theorem erase_split (fresh : n.addr ∉ pre.map Node.addr) :
    erase (pre ++ n :: post) n.addr = some (pre ++ post, begin post) := by
  induction pre with
  | nil => simp [erase]
  | cons m pre ih =>
    have other : m.addr ≠ n.addr := fun same => fresh (by simp [same])
    simp [erase, other, ih (fun mem => fresh (by simp [mem]))]

theorem before_split (fresh : n.addr ∉ pre.map Node.addr) :
    before (pre ++ n :: post) n.addr = pre := by
  rw [before, List.takeWhile_append_of_pos (ne_of_not_mem fresh)]
  simp

theorem after_split (fresh : n.addr ∉ pre.map Node.addr) :
    after (pre ++ n :: post) n.addr = post := by
  rw [after, List.dropWhile_append_of_pos (ne_of_not_mem fresh)]
  simp

end Split

/-! ### Lengths -/

theorem length_insert {node : Node Id} {l l' : List (Node Id)} {pos : Option Nat}
    (inserted : insert node l pos = some l') : l'.length = l.length + 1 := by
  cases pos with
  | none =>
    simp only [insert, Option.some.injEq] at inserted
    simp [← inserted]
  | some a =>
    induction l generalizing l' with
    | nil => cases inserted
    | cons n rest ih =>
      simp only [insert] at inserted
      split_ifs at inserted
      · cases inserted; rfl
      · obtain ⟨r, rest', rfl⟩ := Option.map_eq_some'.mp inserted
        simp [ih rest']

theorem length_erase {l l' : List (Node Id)} {a : Nat} {next : Option Nat}
    (erased : erase l a = some (l', next)) : l'.length + 1 = l.length := by
  induction l generalizing l' next with
  | nil => cases erased
  | cons n rest ih =>
    simp only [erase] at erased
    split_ifs at erased
    · cases erased; rfl
    · obtain ⟨r, rest', same⟩ := Option.map_eq_some'.mp erased
      cases same
      simp [ih rest']

end NodeList

end Quic
