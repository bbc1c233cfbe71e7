import Mvfst.Stream.Transitions

/-!
# Closing a reset send side

After `sendRstSMHandler` has moved a send side to `ResetSent`, acks of stream
frames and acks of the reset arrive in any order.  The send side closes at the
first event after which either every byte through FIN is acknowledged (checked
only by stream-frame acks) or some reset is acknowledged and every byte below
the smallest acknowledged reliable size is.

Both conditions only grow as acks arrive: acknowledged intervals are only
added, and the smallest acknowledged reliable size only shrinks.  So whether a
run of acks closes the send side is decided by the acks it contains, not by
their order: `QuicStreamState.closesAfter` computes it from the multiset.

## Main Definitions

* `SendEvent.ackedInterval` — the interval an ack adds, read from the buffers
  before the run.
* `SendEvent.minAfter` — `minReliableSizeAcked` after an event.
* `QuicStreamState.afterAcks` — the stream with every ack of a run recorded
  and nothing closed.
* `QuicStreamState.closesAfter` — whether a run of acks closes the send side.
* `BufferDropsOnlyAcked`, `QuicStreamState.DropsOnlyAcked` — a buffer, and
  both retransmission buffers, losing only acknowledged chunks.
* `QuicStreamState.AckChecks` — the `CHECK_EQ`s an ack of a stream frame makes
  on the chunk it finds.

## Design Notes

The code stops the process when an ack's frame disagrees with the chunk at its
offset; `run_acks_returns` shows that this is the only way a run of acks from
`ResetSent` can fail to return.  The checks are stated against the buffers at
the start of the run: chunks only leave the buffers, so checks that pass there
pass at every later ack.  The two retransmission buffers differ only in their
chunk type, so one relation, `BufferDropsOnlyAcked`, with the chunk's interval
as a parameter, serves both.
-/

namespace Quic

namespace SendEvent

/-- Whether an event acknowledges something: a stream frame or a reset. -/
def isAckEvent : SendEvent → Bool
  | .ack _ | .rstAck _ => true
  | _ => false

/-- Whether an event is the ack of a stream frame. -/
def isAck : SendEvent → Bool
  | .ack _ => true
  | _ => false

/-- The reliable size a reset ack reports, an absent one counting as 0. -/
def rstAckSize : SendEvent → Option Nat
  | .rstAck reliableSize => some (reliableSize.getD 0)
  | _ => none

/-- The interval an ack of a stream frame adds when it finds its chunk in
`s`'s buffers. -/
def ackedInterval (s : QuicStreamState) : SendEvent → Option (Nat × Nat)
  | .ack f =>
      if f.fromBufMeta then
        (s.buffers.retransmissionBufMetas f.offset).bind fun b => chunkInterval b.offset b.length b.eof
      else (s.buffers.retransmissionBuffer f.offset).bind fun b => chunkInterval b.offset b.len b.eof
  | _ => none

/-- `minReliableSizeAcked` after an event: a reset ack lowers it to the size it
reports. -/
def minAfter (m : Option Nat) : SendEvent → Option Nat
  | .rstAck reliableSize => some <|
      match m with
      | none => reliableSize.getD 0
      | some m => min m (reliableSize.getD 0)
  | _ => m

theorem minAfter_comm (m : Option Nat) (a b : SendEvent) :
    minAfter (minAfter m a) b = minAfter (minAfter m b) a := by
  cases a <;> cases b <;> cases m <;> simp [minAfter, Nat.min_comm, Nat.min_left_comm]

/-- Folding `minAfter` from a known size keeps the minimum of it and every
reported size. -/
theorem foldl_minAfter_some (es : List SendEvent) (k : Nat) :
    es.foldl minAfter (some k) = some ((es.filterMap rstAckSize).foldl min k) := by
  induction es generalizing k with
  | nil => rfl
  | cons e es ih => cases e <;> simp [minAfter, rstAckSize, ih]

/-- From no acknowledged reset, the smallest size the reset acks report. -/
theorem foldl_minAfter_none (es : List SendEvent) :
    es.foldl minAfter none = (es.filterMap rstAckSize).min? := by
  induction es with
  | nil => rfl
  | cons e es ih => cases e <;> simp [minAfter, rstAckSize, ih, foldl_minAfter_some, List.min?]

end SendEvent

open SendEvent

namespace QuicStreamState

/-- The stream as it would be with every ack of `es` recorded and nothing
closed. -/
def afterAcks (s : QuicStreamState) (es : List SendEvent) : QuicStreamState :=
  { s with ackedIntervals := s.ackedIntervals ++ es.filterMap (ackedInterval s),
           minReliableSizeAcked := es.foldl minAfter s.minReliableSizeAcked }

/-- Whether a run of acks closes a send side in `ResetSent`: all reliable data
is delivered once some event is in, or all bytes through FIN once some ack of a
stream frame is in. -/
def closesAfter (s : QuicStreamState) (es : List SendEvent) : Bool :=
  (!es.isEmpty && (s.afterAcks es).allReliableDataDelivered) ||
    (es.any isAck && (s.afterAcks es).allBytesTillFinAcked)

/-! ### Both closing conditions only grow -/

/-- `t` knows every acknowledgement `s` knows: at least its intervals, at most
its smallest acknowledged reset size, and the same final offset. -/
structure AckedAtLeast (s t : QuicStreamState) : Prop where
  intervals : ∀ iv ∈ s.ackedIntervals, iv ∈ t.ackedIntervals
  minSize : ∀ k, s.minReliableSizeAcked = some k → ∃ k' ≤ k, t.minReliableSizeAcked = some k'
  final : t.finalWriteOffset = s.finalWriteOffset

theorem allBytesAckedTill_mono {s t : QuicStreamState}
    (intervals : ∀ iv ∈ s.ackedIntervals, iv ∈ t.ackedIntervals) {x x' : Nat} (below : x' ≤ x)
    (acked : s.allBytesAckedTill x) : t.allBytesAckedTill x' := by
  simp only [allBytesAckedTill, List.all_eq_true, List.mem_range, List.any_eq_true] at acked ⊢
  intro b inRange
  obtain ⟨iv, mem, covers⟩ := acked b (by omega)
  exact ⟨iv, intervals iv mem, covers⟩

theorem AckedAtLeast.allBytesTillFinAcked {s t : QuicStreamState} (more : AckedAtLeast s t)
    (acked : s.allBytesTillFinAcked) : t.allBytesTillFinAcked := by
  unfold QuicStreamState.allBytesTillFinAcked at acked ⊢
  rw [more.final]
  split at acked
  · exact allBytesAckedTill_mono more.intervals le_rfl acked
  · exact absurd acked Bool.false_ne_true

theorem AckedAtLeast.allReliableDataDelivered {s t : QuicStreamState} (more : AckedAtLeast s t)
    (delivered : s.allReliableDataDelivered) : t.allReliableDataDelivered := by
  unfold QuicStreamState.allReliableDataDelivered at delivered ⊢
  split at delivered
  · rename_i k size
    obtain ⟨k', below, size'⟩ := more.minSize k size
    rw [size']
    rcases Nat.eq_zero_or_pos k' with zero | pos
    · simp [zero]
    · simp only [Bool.or_eq_true, beq_iff_eq] at delivered ⊢
      rcases delivered with zero | acked
      · omega
      · exact .inr (allBytesAckedTill_mono more.intervals (by omega) acked)
  · exact absurd delivered Bool.false_ne_true

/-- Same acknowledgements both ways: the closing conditions agree. -/
theorem AckedAtLeast.closing_eq {s t : QuicStreamState} (more : AckedAtLeast s t)
    (less : AckedAtLeast t s) :
    t.allReliableDataDelivered = s.allReliableDataDelivered ∧
      t.allBytesTillFinAcked = s.allBytesTillFinAcked :=
  ⟨Bool.eq_iff_iff.mpr ⟨less.allReliableDataDelivered, more.allReliableDataDelivered⟩,
    Bool.eq_iff_iff.mpr ⟨less.allBytesTillFinAcked, more.allBytesTillFinAcked⟩⟩

theorem foldl_minAfter_le (es : List SendEvent) (m : Option Nat) :
    ∀ k, m = some k → ∃ k' ≤ k, es.foldl minAfter m = some k' := by
  intro k known
  subst known
  rw [foldl_minAfter_some]
  refine ⟨_, ?_, rfl⟩
  induction es.filterMap rstAckSize generalizing k with
  | nil => exact le_rfl
  | cons size sizes ih => exact (ih _).trans (Nat.min_le_left _ _)

/-! ### One ack in `ResetSent` -/

/-- The stream after acknowledging a chunk in `ResetSent`, before the closing
check: the ack's interval added, its chunk gone from the buffers. -/
theorem ackRetransmission_resetSent {s s' : QuicStreamState} {f : WriteStreamFrame}
    (acked : s.ackRetransmission f = some s') :
    s' = { s with ackedIntervals := s.ackedIntervals ++ ((SendEvent.ack f).ackedInterval s).toList,
                  buffers := s'.buffers } ∧
      ∀ e : SendEvent, e.ackedInterval s' = e.ackedInterval s ∨
        (e.ackedInterval s' = none ∧ e.ackedInterval s = (SendEvent.ack f).ackedInterval s) := by
  unfold ackRetransmission at acked
  cases meta : f.fromBufMeta <;>
    simp only [meta, Bool.not_true, Bool.not_false, Bool.false_eq_true, if_true, if_false]
      at acked
  · cases found : s.buffers.retransmissionBuffer f.offset <;> rw [found] at acked
    · cases acked
      exact ⟨by simp [ackedInterval, meta, found], fun e => .inl rfl⟩
    · simp only [Option.bind_eq_bind, Option.bind_eq_some, Option.guard_eq_some',
        Option.pure_def, Option.some.injEq] at acked
      obtain ⟨_, -, _, -, _, -, rfl⟩ := acked
      refine ⟨by simp [ackedInterval, meta, found, updateAckedIntervals], fun e => ?_⟩
      cases e with
      | ack f' =>
        by_cases same : f'.offset = f.offset
        · cases meta' : f'.fromBufMeta
          · exact .inr ⟨by simp [ackedInterval, meta', same, updateAckedIntervals,
                Function.update_apply],
              by simp [ackedInterval, meta, meta', same, found]⟩
          · exact .inl (by simp [ackedInterval, meta', updateAckedIntervals])
        · exact .inl (by simp [ackedInterval, same, updateAckedIntervals])
      | _ => exact .inl rfl
  · cases found : s.buffers.retransmissionBufMetas f.offset <;> rw [found] at acked
    · cases acked
      exact ⟨by simp [ackedInterval, meta, found], fun e => .inl rfl⟩
    · simp only [Option.bind_eq_bind, Option.bind_eq_some, Option.guard_eq_some',
        Option.pure_def, Option.some.injEq] at acked
      obtain ⟨_, -, _, -, _, -, rfl⟩ := acked
      refine ⟨by simp [ackedInterval, meta, found, updateAckedIntervals], fun e => ?_⟩
      cases e with
      | ack f' =>
        by_cases same : f'.offset = f.offset
        · cases meta' : f'.fromBufMeta
          · exact .inl (by simp [ackedInterval, meta', updateAckedIntervals])
          · exact .inr ⟨by simp [ackedInterval, meta', same, updateAckedIntervals,
                Function.update_apply],
              by simp [ackedInterval, meta, meta', same, found]⟩
        · exact .inl (by simp [ackedInterval, same, updateAckedIntervals])
      | _ => exact .inl rfl

/-- **What one acknowledgement does in `ResetSent`.**  It succeeds; it records
its interval and its reset size, drops its chunk, and closes the send side
exactly when the closing check passes. -/
theorem handle_resetSent {resetQuicStream : ResetQuicStream} {s s' : QuicStreamState}
    {e : SendEvent} {r : Except QuicError Unit} (resetSent : s.sendState = .ResetSent)
    (ackEvent : e.isAckEvent) (handled : e.handle resetQuicStream s = some (r, s')) :
    r = .ok () ∧ ∃ v : QuicStreamState,
      v.sendState = .ResetSent ∧ v.finalWriteOffset = s.finalWriteOffset ∧
      v.minReliableSizeAcked = minAfter s.minReliableSizeAcked e ∧
      v.ackedIntervals = s.ackedIntervals ++ (e.ackedInterval s).toList ∧
      (∀ e' : SendEvent, e'.ackedInterval v = e'.ackedInterval s ∨
        (e'.ackedInterval v = none ∧ e'.ackedInterval s = e.ackedInterval s)) ∧
      s' = if (e.isAck && v.allBytesTillFinAcked) || v.allReliableDataDelivered then v.closeSend
        else v := by
  cases e with
  | ack f =>
    simp only [SendEvent.handle, sendAckSMHandler, resetSent, Option.bind_eq_bind,
      Option.bind_eq_some] at handled
    obtain ⟨acked, ackedIn, handled⟩ := handled
    obtain ⟨shape, intervals⟩ := ackRetransmission_resetSent ackedIn
    have closing : s' = if (isAck (.ack f) && acked.addDeliverable.allBytesTillFinAcked) ||
        acked.addDeliverable.allReliableDataDelivered then acked.addDeliverable.closeSend
        else acked.addDeliverable := by
      split at handled <;> rename_i closes <;> cases handled
      · rw [if_pos (by simpa only [isAck, Bool.true_and] using closes)]
      · rw [if_neg (by simpa only [isAck, Bool.true_and] using closes)]
    refine ⟨by split at handled <;> cases handled <;> rfl, acked.addDeliverable,
      ?_, ?_, ?_, ?_, intervals, closing⟩ <;> rw [shape]
    exacts [resetSent, rfl, rfl, rfl]
  | rstAck size =>
    simp only [SendEvent.handle, sendRstAckSMHandler, resetSent] at handled
    refine ⟨by split at handled <;> cases handled <;> rfl,
      { s with sendState := .ResetSent,
               minReliableSizeAcked := minAfter s.minReliableSizeAcked (.rstAck size) },
      rfl, rfl, rfl, by simp [ackedInterval], fun e' => .inl (by cases e' <;> rfl), ?_⟩
    simp only [isAck, Bool.false_and, Bool.false_or]
    split at handled <;> rename_i closes <;> cases handled
    · exact (if_pos closes).symm
    · exact (if_neg closes).symm
  | _ => simp [isAckEvent] at ackEvent

/-! ### A run of acknowledgements -/

/-- From `Closed`, a run changes nothing. -/
theorem run_closed {resetQuicStream : ResetQuicStream} {s s' : QuicStreamState}
    {es : List SendEvent} {rs : List (Except QuicError Unit)} (closed : s.sendState = .Closed)
    (ran : runSendEvents resetQuicStream s es = some (rs, s')) : s' = s := by
  induction es generalizing rs with
  | nil => cases ran; rfl
  | cons e es ih =>
    simp only [runSendEvents, Option.bind_eq_bind, Option.bind_eq_some] at ran
    obtain ⟨⟨r, s₁⟩, handled, ⟨rs', s₂⟩, rest, result⟩ := ran
    dsimp only at rest result
    cases result
    rw [SendEvent.handle_closed resetQuicStream closed, Option.some.injEq, Prod.mk.injEq] at handled
    obtain ⟨-, rfl⟩ := handled
    exact ih rest

theorem afterAcks_nil (s : QuicStreamState) : s.afterAcks [] = s := by
  simp [afterAcks]

theorem mem_afterAcks {s : QuicStreamState} {es : List SendEvent} {iv : Nat × Nat} :
    iv ∈ (s.afterAcks es).ackedIntervals ↔
      iv ∈ s.ackedIntervals ∨ ∃ e ∈ es, e.ackedInterval s = some iv := by
  simp [afterAcks, List.mem_filterMap]

/-- Recording the acks `e :: es` from `s` is recording `es` from `s` after
`e`, up to repeated intervals. -/
theorem afterAcks_step {s v : QuicStreamState} {e : SendEvent} (es : List SendEvent)
    (final : v.finalWriteOffset = s.finalWriteOffset)
    (minSize : v.minReliableSizeAcked = minAfter s.minReliableSizeAcked e)
    (intervals : v.ackedIntervals = s.ackedIntervals ++ (e.ackedInterval s).toList)
    (dropped : ∀ e' : SendEvent, e'.ackedInterval v = e'.ackedInterval s ∨
      (e'.ackedInterval v = none ∧ e'.ackedInterval s = e.ackedInterval s)) :
    AckedAtLeast (v.afterAcks es) (s.afterAcks (e :: es)) ∧
      AckedAtLeast (s.afterAcks (e :: es)) (v.afterAcks es) := by
  have sameMin : (v.afterAcks es).minReliableSizeAcked =
      (s.afterAcks (e :: es)).minReliableSizeAcked := by
    simp [afterAcks, minSize]
  have sameFinal : (v.afterAcks es).finalWriteOffset = (s.afterAcks (e :: es)).finalWriteOffset :=
    final
  refine ⟨⟨fun iv mem => ?_, fun k known => ⟨k, le_rfl, sameMin ▸ known⟩, sameFinal.symm⟩,
    ⟨fun iv mem => ?_, fun k known => ⟨k, le_rfl, sameMin.symm ▸ known⟩, sameFinal⟩⟩
  · rw [mem_afterAcks, intervals, List.mem_append, Option.mem_toList] at mem
    rw [mem_afterAcks]
    rcases mem with (old | added) | ⟨e', mem', found⟩
    · exact .inl old
    · exact .inr ⟨e, List.mem_cons_self _ _, added⟩
    · rcases dropped e' with same | ⟨none, -⟩
      · exact .inr ⟨e', List.mem_cons_of_mem _ mem', same ▸ found⟩
      · simp_all
  · rw [mem_afterAcks] at mem
    rw [mem_afterAcks, intervals, List.mem_append, Option.mem_toList]
    rcases mem with old | ⟨e', mem', found⟩
    · exact .inl (.inl old)
    rcases List.mem_cons.mp mem' with rfl | later
    · exact .inl (.inr found)
    rcases dropped e' with same | ⟨-, earlier⟩
    · exact .inr ⟨e', later, same.trans found⟩
    · exact .inl (.inr (earlier ▸ found))

theorem AckedAtLeast.afterAcks (s : QuicStreamState) (es : List SendEvent) :
    AckedAtLeast s (s.afterAcks es) :=
  ⟨fun _ mem => List.mem_append_left _ mem, foldl_minAfter_le es _, rfl⟩

theorem ackedInterval_of_not_isAck {e : SendEvent} (notAck : e.isAck = false)
    (s : QuicStreamState) : e.ackedInterval s = none := by
  cases e <;> simp_all [isAck, ackedInterval]

/-- Acks of resets add no interval, so they leave the FIN check as it was. -/
theorem afterAcks_allBytesTillFinAcked {s : QuicStreamState} {es : List SendEvent}
    (noAck : es.any isAck = false) :
    (s.afterAcks es).allBytesTillFinAcked = s.allBytesTillFinAcked := by
  have none : es.filterMap (ackedInterval s) = [] := List.filterMap_eq_nil_iff.mpr
    fun e mem => ackedInterval_of_not_isAck (by simpa using List.any_eq_false.mp noAck e mem) s
  simp [afterAcks, none, allBytesTillFinAcked, allBytesAckedTill]

@[simp] theorem closeSend_allReliableDataDelivered (s : QuicStreamState) :
    s.closeSend.allReliableDataDelivered = s.allReliableDataDelivered := by
  simp [allReliableDataDelivered, allBytesAckedTill]

@[simp] theorem closeSend_allBytesTillFinAcked (s : QuicStreamState) :
    s.closeSend.allBytesTillFinAcked = s.allBytesTillFinAcked := by
  simp [allBytesTillFinAcked, allBytesAckedTill]

/-- A run whose first ack already closes the send side is one the
characterization closes. -/
theorem closesAfter_of_closes {s v : QuicStreamState} {e : SendEvent} {es : List SendEvent}
    (rel : (s.afterAcks (e :: es)).allReliableDataDelivered =
      (v.afterAcks es).allReliableDataDelivered)
    (fin : (s.afterAcks (e :: es)).allBytesTillFinAcked = (v.afterAcks es).allBytesTillFinAcked)
    (closes : ((e.isAck && v.allBytesTillFinAcked) || v.allReliableDataDelivered) = true) :
    s.closesAfter (e :: es) = true := by
  have more := AckedAtLeast.afterAcks v es
  simp only [closesAfter, rel, fin, List.any_cons, List.isEmpty_cons, Bool.not_false,
    Bool.true_and, Bool.or_eq_true, Bool.and_eq_true] at closes ⊢
  rcases closes with ⟨isAck, finAcked⟩ | delivered
  · exact .inr ⟨.inl isAck, more.allBytesTillFinAcked finAcked⟩
  · exact .inl (more.allReliableDataDelivered delivered)

/-- A run whose first ack leaves the send side open closes exactly when the
rest of the run does, from the stream after that ack. -/
theorem closesAfter_of_stays {s v : QuicStreamState} {e : SendEvent} {es : List SendEvent}
    (rel : (s.afterAcks (e :: es)).allReliableDataDelivered =
      (v.afterAcks es).allReliableDataDelivered)
    (fin : (s.afterAcks (e :: es)).allBytesTillFinAcked = (v.afterAcks es).allBytesTillFinAcked)
    (stays : ((e.isAck && v.allBytesTillFinAcked) || v.allReliableDataDelivered) = false) :
    s.closesAfter (e :: es) = v.closesAfter es := by
  obtain ⟨noFin, undelivered⟩ := Bool.or_eq_false_iff.mp stays
  simp only [closesAfter, rel, fin, List.any_cons, List.isEmpty_cons, Bool.not_false,
    Bool.true_and]
  cases noAck : es.any isAck <;> cases es
  · simpa [afterAcks_nil, undelivered] using noFin
  · simp [afterAcks_allBytesTillFinAcked noAck, noFin]
  · simp at noAck
  · simp

/-- **A run of acks from `ResetSent`.**  The send side ends `Closed` exactly
when `closesAfter` says so; while it stays `ResetSent`, every reset ack's size
is folded into `minReliableSizeAcked` and the reliable data is not all
delivered. -/
theorem run_resetSent {resetQuicStream : ResetQuicStream} {s s' : QuicStreamState}
    {es : List SendEvent} {rs : List (Except QuicError Unit)}
    (resetSent : s.sendState = .ResetSent) (undelivered : s.allReliableDataDelivered = false)
    (acks : ∀ e ∈ es, e.isAckEvent) (ran : runSendEvents resetQuicStream s es = some (rs, s')) :
    s'.sendState = (if s.closesAfter es then .Closed else .ResetSent) ∧
      (s'.sendState = .ResetSent →
        s'.minReliableSizeAcked = es.foldl minAfter s.minReliableSizeAcked ∧
          s'.allReliableDataDelivered = false) := by
  induction es generalizing s rs with
  | nil =>
    cases ran
    simp [closesAfter, resetSent, undelivered]
  | cons e es ih =>
    simp only [runSendEvents, Option.bind_eq_bind, Option.bind_eq_some] at ran
    obtain ⟨⟨r, s₁⟩, handled, ⟨rs', s₂⟩, rest, result⟩ := ran
    dsimp only at rest result
    cases result
    obtain ⟨-, v, vState, vFinal, vMin, vIntervals, vDropped, shape⟩ :=
      handle_resetSent resetSent (acks e (List.mem_cons_self _ _)) handled
    obtain ⟨rel, fin⟩ := (afterAcks_step es vFinal vMin vIntervals vDropped).elim AckedAtLeast.closing_eq
    by_cases closes : ((e.isAck && v.allBytesTillFinAcked) || v.allReliableDataDelivered) = true
    · rw [if_pos closes] at shape
      subst shape
      have closed := run_closed v.closeSend_sendState rest
      subst closed
      simp [closesAfter_of_closes rel fin closes]
    · rw [if_neg closes] at shape
      subst shape
      rw [Bool.not_eq_true] at closes
      have stays := closesAfter_of_stays rel fin closes
      rw [stays, List.foldl_cons, ← vMin]
      exact ih vState (by simp_all) (fun e' mem => acks e' (List.mem_cons_of_mem _ mem)) rest

/-! ### Order does not matter -/

theorem afterAcks_perm (s : QuicStreamState) {es es' : List SendEvent} (perm : es.Perm es') :
    AckedAtLeast (s.afterAcks es) (s.afterAcks es') := by
  refine ⟨fun iv mem => ?_, fun k known => ⟨k, le_rfl, ?_⟩, rfl⟩
  · rw [mem_afterAcks] at mem ⊢
    simpa only [perm.mem_iff] using mem
  · exact (perm.foldl_eq' (fun _ _ _ _ _ => minAfter_comm _ _ _) _).symm.trans known

/-- **Whether a run of acks closes the send side depends on the acks, not on
their order.** -/
theorem closesAfter_perm (s : QuicStreamState) {es es' : List SendEvent} (perm : es.Perm es') :
    s.closesAfter es = s.closesAfter es' := by
  obtain ⟨rel, fin⟩ := AckedAtLeast.closing_eq (afterAcks_perm s perm) (afterAcks_perm s perm.symm)
  have anyAck : es.any isAck = es'.any isAck :=
    Bool.eq_iff_iff.mpr (by simp only [List.any_eq_true, perm.mem_iff])
  simp only [closesAfter, rel, fin, anyAck, perm.isEmpty_eq]

/-- **One ack in `ResetSent` closes the send side exactly at the event that
completes a closing condition**, and otherwise leaves it `ResetSent`. -/
theorem handle_resetSent_closes {resetQuicStream : ResetQuicStream} {s s' : QuicStreamState}
    {e : SendEvent} {r : Except QuicError Unit} (resetSent : s.sendState = .ResetSent)
    (ackEvent : e.isAckEvent) (handled : e.handle resetQuicStream s = some (r, s')) :
    r = .ok () ∧ (s'.sendState = .ResetSent ∨ s'.sendState = .Closed) ∧
      (s'.sendState = .Closed ↔
        ((e.isAck && s'.allBytesTillFinAcked) || s'.allReliableDataDelivered) = true) := by
  obtain ⟨ok, v, vState, -, -, -, -, shape⟩ := handle_resetSent resetSent ackEvent handled
  refine ⟨ok, ?_⟩
  by_cases closes : ((e.isAck && v.allBytesTillFinAcked) || v.allReliableDataDelivered) = true
  · rw [if_pos closes] at shape
    subst shape
    refine ⟨.inr v.closeSend_sendState, iff_of_true v.closeSend_sendState ?_⟩
    rwa [closeSend_allBytesTillFinAcked, closeSend_allReliableDataDelivered]
  · rw [if_neg closes] at shape
    subst shape
    exact ⟨.inl vState, iff_of_false (by simp [vState]) closes⟩

end QuicStreamState

/-! ### Chunks leave the buffers only acknowledged -/

section Buffers

variable {α : Type} (interval : α → Option (Nat × Nat))

/-- From `before` to `after` a buffer of chunks keyed by offset only loses
chunks, and each chunk it loses has its interval among `acked`. -/
def BufferDropsOnlyAcked (before after : Nat → Option α) (acked : List (Nat × Nat)) : Prop :=
  (∀ o c, after o = some c → before o = some c) ∧
    ∀ o c, before o = some c → after o = none → (interval c).toList ⊆ acked

variable {interval}

theorem BufferDropsOnlyAcked.of_eq {before after : Nat → Option α} {acked : List (Nat × Nat)}
    (same : after = before) : BufferDropsOnlyAcked interval before after acked := by
  subst same
  exact ⟨fun _ _ held => held, fun _ _ held gone => by rw [held] at gone; cases gone⟩

/-- Dropping the chunk at one offset, its interval acknowledged. -/
theorem BufferDropsOnlyAcked.update_none {buffer : Nat → Option α} {offset : Nat} {chunk : α}
    (found : buffer offset = some chunk) {acked : List (Nat × Nat)}
    (recorded : (interval chunk).toList ⊆ acked) :
    BufferDropsOnlyAcked interval buffer (Function.update buffer offset none) acked := by
  refine ⟨fun o c held => ?_, fun o c held gone => ?_⟩
  · by_cases same : o = offset
    · subst same
      simp at held
    · rwa [Function.update_noteq same] at held
  · by_cases same : o = offset
    · subst same
      obtain rfl : chunk = c := Option.some.inj (found.symm.trans held)
      exact recorded
    · simp [Function.update_noteq same, held] at gone

theorem BufferDropsOnlyAcked.trans {b₁ b₂ b₃ : Nat → Option α} {acked₂ acked₃ : List (Nat × Nat)}
    (first : BufferDropsOnlyAcked interval b₁ b₂ acked₂)
    (second : BufferDropsOnlyAcked interval b₂ b₃ acked₃) (grows : acked₂ ⊆ acked₃) :
    BufferDropsOnlyAcked interval b₁ b₃ acked₃ := by
  refine ⟨fun o c held => first.1 o c (second.1 o c held), fun o c held gone => ?_⟩
  cases kept : b₂ o with
  | none => exact List.Subset.trans (first.2 o c held kept) grows
  | some c' =>
    obtain rfl : c' = c := Option.some.inj ((first.1 o c' kept).symm.trans held)
    exact second.2 o c' kept gone

end Buffers

namespace QuicStreamState

@[simp] theorem closeSend_buffers (s : QuicStreamState) : s.closeSend.buffers = s.buffers := by
  simp only [closeSend]; split <;> rfl

variable {s t u : QuicStreamState}

/-- From `s` to `t` both retransmission buffers only lose chunks, and only
chunks whose bytes `t` records as acknowledged. -/
def DropsOnlyAcked (s t : QuicStreamState) : Prop :=
  BufferDropsOnlyAcked (fun c : StreamBuffer => chunkInterval c.offset c.len c.eof)
      s.buffers.retransmissionBuffer t.buffers.retransmissionBuffer t.ackedIntervals ∧
    BufferDropsOnlyAcked (fun c : WriteBufferMeta => chunkInterval c.offset c.length c.eof)
      s.buffers.retransmissionBufMetas t.buffers.retransmissionBufMetas t.ackedIntervals

theorem DropsOnlyAcked.of_buffers (same : t.buffers = s.buffers) : DropsOnlyAcked s t :=
  ⟨.of_eq (by rw [same]), .of_eq (by rw [same])⟩

theorem DropsOnlyAcked.closeSend (drops : DropsOnlyAcked s t) : DropsOnlyAcked s t.closeSend := by
  simpa only [DropsOnlyAcked, closeSend_buffers, closeSend_ackedIntervals] using drops

theorem DropsOnlyAcked.trans (first : DropsOnlyAcked s t) (second : DropsOnlyAcked t u)
    (more : AckedAtLeast t u) : DropsOnlyAcked s u :=
  ⟨first.1.trans second.1 more.intervals, first.2.trans second.2 more.intervals⟩

/-- Acknowledging a chunk drops it from its buffer with its bytes recorded. -/
theorem ackRetransmission_dropsOnlyAcked {f : WriteStreamFrame}
    (acked : s.ackRetransmission f = some t) : DropsOnlyAcked s t := by
  unfold ackRetransmission at acked
  cases meta : f.fromBufMeta <;>
    simp only [meta, Bool.not_true, Bool.not_false, Bool.false_eq_true, if_true, if_false]
      at acked
  · cases found : s.buffers.retransmissionBuffer f.offset <;> rw [found] at acked
    · cases acked
      exact .of_buffers rfl
    · simp only [Option.bind_eq_bind, Option.bind_eq_some, Option.guard_eq_some',
        Option.pure_def, Option.some.injEq] at acked
      obtain ⟨_, -, _, -, _, -, rfl⟩ := acked
      exact ⟨.update_none found (List.subset_append_right _ _), .of_eq rfl⟩
  · cases found : s.buffers.retransmissionBufMetas f.offset <;> rw [found] at acked
    · cases acked
      exact .of_buffers rfl
    · simp only [Option.bind_eq_bind, Option.bind_eq_some, Option.guard_eq_some',
        Option.pure_def, Option.some.injEq] at acked
      obtain ⟨_, -, _, -, _, -, rfl⟩ := acked
      exact ⟨.of_eq rfl, .update_none found (List.subset_append_right _ _)⟩

/-! ### Every run of acknowledgements is processed -/

/-- The `CHECK_EQ`s `sendAckSMHandler` makes on the chunk an ack finds at its
offset: the chunk's offset, length and end-of-stream flag are the frame's. -/
def AckChecks (s : QuicStreamState) (f : WriteStreamFrame) : Prop :=
  if !f.fromBufMeta then
    match s.buffers.retransmissionBuffer f.offset with
    | some b => f.offset = b.offset ∧ f.len = b.len ∧ f.fin = b.eof
    | none => True
  else
    match s.buffers.retransmissionBufMetas f.offset with
    | some b => f.offset = b.offset ∧ f.len = b.length ∧ f.fin = b.eof
    | none => True

/-- An ack that passes its `CHECK_EQ`s is processed. -/
theorem ackRetransmission_of_checks {f : WriteStreamFrame} (checks : s.AckChecks f) :
    ∃ t, s.ackRetransmission f = some t := by
  unfold AckChecks at checks
  unfold ackRetransmission
  split_ifs at checks ⊢ <;> split <;> rename_i found <;> simp only [found] at checks <;>
    simp [checks]

/-- Checks passed against `s` still pass once the buffers only lost chunks. -/
theorem AckChecks.of_drops {f : WriteStreamFrame} (checks : s.AckChecks f)
    (drops : DropsOnlyAcked s t) : t.AckChecks f := by
  unfold AckChecks at checks ⊢
  split_ifs at checks ⊢
  · cases found : t.buffers.retransmissionBuffer f.offset with
    | none => trivial
    | some b => rw [drops.1.1 _ _ found] at checks; exact checks
  · cases found : t.buffers.retransmissionBufMetas f.offset with
    | none => trivial
    | some b => rw [drops.2.1 _ _ found] at checks; exact checks

/-- The ack of a reset leaves the buffers alone. -/
theorem sendRstAckSMHandler_buffers {reliableSize : Option Nat} {r : Except QuicError Unit}
    (handled : sendRstAckSMHandler s reliableSize = some (r, t)) : t.buffers = s.buffers := by
  unfold sendRstAckSMHandler at handled
  split at handled
  · dsimp only at handled
    split_ifs at handled <;> cases handled <;> simp
  all_goals cases handled; rfl

/-- In `ResetSent` an ack that passes its `CHECK_EQ`s succeeds, and the
buffers only lose acknowledged chunks. -/
theorem handle_ack_of_checks {resetQuicStream : ResetQuicStream} {f : WriteStreamFrame}
    (resetSent : s.sendState = .ResetSent) (checks : s.AckChecks f) :
    ∃ t, (SendEvent.ack f).handle resetQuicStream s = some (.ok (), t) ∧ DropsOnlyAcked s t := by
  obtain ⟨t, acked⟩ := ackRetransmission_of_checks checks
  have drops := ackRetransmission_dropsOnlyAcked acked
  simp only [SendEvent.handle, sendAckSMHandler, resetSent, acked, Option.bind_eq_bind,
    Option.some_bind]
  split
  · exact ⟨_, rfl, DropsOnlyAcked.closeSend drops⟩
  · exact ⟨_, rfl, drops⟩

/-- One ack from `ResetSent` or `Closed` that passes its `CHECK_EQ`s returns,
stays in `ResetSent` or `Closed`, and only drops acknowledged chunks. -/
theorem handle_ack_returns (resetQuicStream : ResetQuicStream) {e : SendEvent}
    (state : s.sendState = .ResetSent ∨ s.sendState = .Closed) (ackEvent : e.isAckEvent)
    (checks : ∀ f, e = .ack f → s.AckChecks f) :
    ∃ r t, e.handle resetQuicStream s = some (r, t) ∧
      (t.sendState = .ResetSent ∨ t.sendState = .Closed) ∧ DropsOnlyAcked s t := by
  rcases state with resetSent | closed
  · obtain ⟨t, handled, drops⟩ :
        ∃ t, e.handle resetQuicStream s = some (.ok (), t) ∧ DropsOnlyAcked s t := by
      cases e with
      | ack f => exact handle_ack_of_checks resetSent (checks f rfl)
      | rstAck size =>
        obtain ⟨t, handled⟩ := (SendEvent.handle_resetSent_returns resetQuicStream resetSent).2.2 size
        exact ⟨t, handled, .of_buffers (sendRstAckSMHandler_buffers handled)⟩
      | _ => simp [isAckEvent] at ackEvent
    exact ⟨_, t, handled, (handle_resetSent_closes resetSent ackEvent handled).2.1, drops⟩
  · exact ⟨_, s, SendEvent.handle_closed resetQuicStream closed, .inr closed, .of_buffers rfl⟩

/-- **A run of acknowledgements returns.**  From `ResetSent` or `Closed`, every
run of acks of stream frames and of resets is processed to the end, as long as
each ack of a stream frame passes its `CHECK_EQ`s against the buffers at the
start. -/
theorem run_acks_returns {resetQuicStream : ResetQuicStream} {es : List SendEvent}
    (state : s.sendState = .ResetSent ∨ s.sendState = .Closed)
    (acks : ∀ e ∈ es, e.isAckEvent) (checks : ∀ f, SendEvent.ack f ∈ es → s.AckChecks f) :
    ∃ rs s', runSendEvents resetQuicStream s es = some (rs, s') := by
  induction es generalizing s with
  | nil => exact ⟨[], s, rfl⟩
  | cons e es ih =>
    obtain ⟨r, s₁, handled, state₁, drops⟩ := handle_ack_returns resetQuicStream state (acks e (.head _))
      fun f eq => checks f (eq ▸ .head _)
    obtain ⟨rs, s', rest⟩ := ih state₁ (fun e mem => acks e (.tail _ mem))
      fun f mem => (checks f (.tail _ mem)).of_drops drops
    exact ⟨r :: rs, s', by simp [runSendEvents, handled, rest]⟩

end QuicStreamState

open QuicStreamState

/-- **Closing a reset send side.**  Take a stream that `sendRstSMHandler` has
moved to `ResetSent` before any reset was acknowledged.  Along every run of
acks of stream frames and of resets: the send side is `ResetSent` or `Closed`;
while it is `ResetSent`, `minReliableSizeAcked` is the smallest reliable size
the reset acks so far reported (an absent one counting as 0), absent before the
first, and the reliable data is not all delivered; an ack closes it exactly
when, after the ack, the reliable data is delivered or (for an ack of a stream
frame) every byte through FIN is acknowledged; runs of the same acks in any
order that complete end in the same send state; and, where the code has no
`CHECK` to fail, the acks are processed: an ack of the reset from any
`ResetSent` stream succeeds, and every run of acks whose stream-frame acks pass
their `CHECK_EQ`s returns. -/
theorem reliableReset_acks (resetQuicStream : ResetQuicStream) {s₀ s₁ : QuicStreamState}
    {errorCode : Nat} {reliableSize : Option Nat} {r : Except QuicError Unit}
    (noResetAcked : s₀.minReliableSizeAcked = none)
    (reset : sendRstSMHandler resetQuicStream s₀ errorCode reliableSize = some (r, s₁))
    (resetSent : s₁.sendState = .ResetSent) :
    (∀ es rs s', (∀ e ∈ es, e.isAckEvent) →
      runSendEvents resetQuicStream s₁ es = some (rs, s') →
      (s'.sendState = .ResetSent ∨ s'.sendState = .Closed) ∧
        (s'.sendState = .ResetSent →
          s'.minReliableSizeAcked = (es.filterMap rstAckSize).min? ∧
            s'.allReliableDataDelivered = false)) ∧
    (∀ (s s' : QuicStreamState) (e : SendEvent) (r' : Except QuicError Unit),
      s.sendState = .ResetSent → e.isAckEvent →
      e.handle resetQuicStream s = some (r', s') →
      (s'.sendState = .Closed ↔
        ((e.isAck && s'.allBytesTillFinAcked) || s'.allReliableDataDelivered) = true)) ∧
    (∀ es es' rs rs' s' s'', (∀ e ∈ es, e.isAckEvent) → es.Perm es' →
      runSendEvents resetQuicStream s₁ es = some (rs, s') →
      runSendEvents resetQuicStream s₁ es' = some (rs', s'') → s'.sendState = s''.sendState) ∧
    (∀ (s : QuicStreamState) (size : Option Nat), s.sendState = .ResetSent →
      ∃ s', (SendEvent.rstAck size).handle resetQuicStream s = some (.ok (), s')) ∧
    (∀ es, (∀ e ∈ es, e.isAckEvent) → (∀ f, SendEvent.ack f ∈ es → s₁.AckChecks f) →
      ∃ rs s', runSendEvents resetQuicStream s₁ es = some (rs, s')) := by
  have start : s₁.minReliableSizeAcked = none :=
    (sendRstSMHandler_minReliableSizeAcked reset).trans noResetAcked
  have undelivered : s₁.allReliableDataDelivered = false := by
    simp [allReliableDataDelivered, start]
  refine ⟨fun es rs s' acks ran => ?_,
    fun s s' e r' resetSent' ackEvent handled =>
      (handle_resetSent_closes resetSent' ackEvent handled).2.2,
    fun es es' rs rs' s' s'' acks perm ran ran' => ?_,
    fun _ size resetSent' => (SendEvent.handle_resetSent_returns resetQuicStream resetSent').2.2 size,
    fun _ acks checks => run_acks_returns (.inl resetSent) acks checks⟩
  · obtain ⟨state, stillReset⟩ := run_resetSent resetSent undelivered acks ran
    refine ⟨by split at state <;> simp [state], fun resetSent' => ?_⟩
    rw [← foldl_minAfter_none, ← start]
    exact stillReset resetSent'
  · have acks' : ∀ e ∈ es', e.isAckEvent := fun e mem => acks e (perm.mem_iff.mpr mem)
    rw [(run_resetSent resetSent undelivered acks ran).1,
      (run_resetSent resetSent undelivered acks' ran').1, closesAfter_perm s₁ perm]

/-- A stream with one unacknowledged chunk of five bytes is reset with reliable
size 4; the chunk's ack and then the reset's ack close it, and so does every
other order of the two. -/
theorem reliableReset_acks_stream :
    let s₀ : QuicStreamState :=
      { id := 0, conn := ⟨.Client, [], [], [], []⟩, sendState := .Open, recvState := .Open,
        finalWriteOffset := some 10, appErrorCodeToPeer := none, minReliableSizeAcked := none,
        ackedIntervals := [],
        buffers := ⟨[], fun o => if o = 0 then some ⟨0, 5, false⟩ else none, fun _ => none, none⟩ }
    let resetQuicStream : ResetQuicStream := fun buffers _ size =>
      .ok { buffers with reliableSizeToPeer := size }
    let es : List SendEvent := [.ack ⟨0, 5, false, false⟩, .rstAck (some 4)]
    ∃ r s₁, sendRstSMHandler resetQuicStream s₀ 3 (some 4) = some (r, s₁) ∧
      s₁.sendState = .ResetSent ∧
      (∃ rs s', runSendEvents resetQuicStream s₁ es = some (rs, s') ∧
        s'.sendState = .Closed ∧ s'.minReliableSizeAcked = some 4) ∧
      ∀ es' rs s', es'.Perm es → runSendEvents resetQuicStream s₁ es' = some (rs, s') →
        s'.sendState = .Closed := by
  intro s₀ resetQuicStream es
  have acks := @reliableReset_acks resetQuicStream s₀ _ 3 (some 4) _ rfl rfl rfl
  have ackEvents : ∀ e ∈ es, e.isAckEvent := by decide
  exact ⟨_, _, rfl, rfl, ⟨_, _, rfl, rfl, rfl⟩, fun es' rs s' perm ran =>
    (acks.2.2.1 es' es rs _ s' _ (fun e mem => ackEvents e (perm.subset mem)) perm ran rfl).trans
      rfl⟩

end Quic
