import Mvfst.Stream.SendHandlers

/-!
# The send state machine keeps to its diagram

Every event of `SendEvent` moves the send state along an arrow of the diagram
in `StreamSendHandlers.cpp`, by the handler the arrow names, or leaves it
where it is (`SendEvent.Moves`).  Over a whole run of events, at most one
reset is enqueued for the stream, and an error code sent to the peer is never
replaced (`sendStateMachine`).  Where the code has no `CHECK` the handlers
always return: every event fails in `Invalid` and does nothing in `Closed`,
the ack of a reset fails in `Open`, and in `ResetSent` a `STOP_SENDING`, a
reset and the ack of a reset all succeed.  A duplicated acknowledgement
changes nothing (`sendAckSMHandler_twice`).

## Design Notes

Each handler's inversion lemma of `Mvfst.Stream.SendHandlers` says everything
the handler can do; the lemmas here only combine them, so a change to one
handler touches one case.
-/

namespace Quic

/-- The send-state changes the diagram allows, each by the event that may
make it. -/
inductive SendEvent.Moves : SendEvent → StreamSendState → StreamSendState → Prop
  | stay (e : SendEvent) (state : StreamSendState) : Moves e state state
  | reset (errorCode : Nat) (reliableSize : Option Nat) :
      Moves (.rst errorCode reliableSize) .Open .ResetSent
  | ackAll (ackedFrame : WriteStreamFrame) : Moves (.ack ackedFrame) .Open .Closed
  | ackReliable (ackedFrame : WriteStreamFrame) : Moves (.ack ackedFrame) .ResetSent .Closed
  | rstAcked (reliableSize : Option Nat) : Moves (.rstAck reliableSize) .ResetSent .Closed

namespace SendEvent

/-- `Invalid` and `Closed` are never left. -/
theorem Moves.of_final {e : SendEvent} {a b : StreamSendState} (moves : Moves e a b)
    (final : a = .Invalid ∨ a = .Closed) : b = a := by
  cases moves <;> simp_all

/-- No event leads into `Open` or `Invalid`. -/
theorem Moves.eq_of_into {e : SendEvent} {a b : StreamSendState} (moves : Moves e a b)
    (into : b = .Open ∨ b = .Invalid) : a = b := by
  cases moves <;> simp_all

/-- How many resets a stream in a send state may still enqueue. -/
def resetBudget (state : StreamSendState) : Nat := if state = .Open then 1 else 0

theorem Moves.resetBudget_le {e : SendEvent} {a b : StreamSendState} (moves : Moves e a b) :
    resetBudget b ≤ resetBudget a := by
  cases moves <;> simp [resetBudget]

variable (resetQuicStream : ResetQuicStream) {s s' : QuicStreamState} {r : Except QuicError Unit}

/-! ### Where the handlers always return

The source has a `CHECK` only in `Open` (`STOP_SENDING`, a reset) and in
`Open` and `ResetSent` (the ack of a stream frame); everywhere else a handler
returns. -/

/-- In `Invalid` every event fails with the invalid-transition error and
changes nothing. -/
theorem handle_invalid {e : SendEvent} (invalid : s.sendState = .Invalid) :
    e.handle resetQuicStream s = some (.error (invalidTransition .Invalid), s) := by
  cases e <;> simp [handle, sendStopSendingSMHandler, sendRstSMHandler, sendAckSMHandler,
    sendRstAckSMHandler, invalid]

/-- In `Closed` every event succeeds and changes nothing. -/
theorem handle_closed {e : SendEvent} (closed : s.sendState = .Closed) :
    e.handle resetQuicStream s = some (.ok (), s) := by
  cases e <;> simp [handle, sendStopSendingSMHandler, sendRstSMHandler, sendAckSMHandler,
    sendRstAckSMHandler, closed]

/-- A reset ack in `Open` fails with the invalid-transition error and changes
nothing. -/
theorem handle_rstAck_open {reliableSize : Option Nat} (opened : s.sendState = .Open) :
    (rstAck reliableSize).handle resetQuicStream s = some (.error (invalidTransition .Open), s) := by
  simp [handle, sendRstAckSMHandler, opened]

/-- In `ResetSent` a `STOP_SENDING` and a second reset change nothing, and a
reset ack always succeeds. -/
theorem handle_resetSent_returns (resetSent : s.sendState = .ResetSent) :
    (∀ frame, (stopSending frame).handle resetQuicStream s = some (.ok (), s)) ∧
      (∀ errorCode reliableSize,
        (rst errorCode reliableSize).handle resetQuicStream s = some (.ok (), s)) ∧
      ∀ reliableSize, ∃ s', (rstAck reliableSize).handle resetQuicStream s = some (.ok (), s') := by
  refine ⟨fun _ => by simp [handle, sendStopSendingSMHandler, resetSent],
    fun _ _ => by simp [handle, sendRstSMHandler, resetSent], fun _ => ?_⟩
  simp only [handle, sendRstAckSMHandler, resetSent]
  split <;> exact ⟨_, rfl⟩

/-! ### What one event does -/

/-- **One event.**  The send state moves along the diagram. -/
theorem handle_moves {e : SendEvent} (handled : e.handle resetQuicStream s = some (r, s')) :
    Moves e s.sendState s'.sendState := by
  cases e with
  | stopSending frame =>
    obtain ⟨state, -⟩ := sendStopSendingSMHandler_spec handled
    exact state ▸ .stay _ _
  | rst errorCode reliableSize =>
    obtain ⟨-, opened, other⟩ := sendRstSMHandler_spec handled
    by_cases state : s.sendState = .Open
    · obtain ⟨-, -, ⟨-, moved, -⟩ | ⟨-, -, moved, -⟩⟩ := opened state <;> rw [moved, state]
      · exact .reset _ _
      · exact .stay _ _
    · obtain ⟨rfl, -⟩ := other state
      exact .stay _ _
  | ack ackedFrame =>
    obtain ⟨-, -, -, -, moved, -⟩ := sendAckSMHandler_spec handled
    rcases moved with same | ⟨opened | reset, closed⟩
    · rw [same]; exact .stay _ _
    · rw [opened, closed]; exact .ackAll _
    · rw [reset, closed]; exact .ackReliable _
  | rstAck reliableSize =>
    obtain ⟨-, -, -, -, moved, -⟩ := sendRstAckSMHandler_spec handled
    rcases moved with same | ⟨reset, closed⟩
    · rw [same]; exact .stay _ _
    · rw [reset, closed]; exact .rstAcked _

/-- One event enqueues a reset only on leaving `Open`, and only for this
stream; it keeps the stream's identifier and any error code already sent. -/
theorem handle_resets {e : SendEvent} (handled : e.handle resetQuicStream s = some (r, s')) :
    s'.id = s.id ∧
      (∀ code, s.appErrorCodeToPeer = some code → s'.appErrorCodeToPeer = some code) ∧
      ∃ added, s'.conn.pendingResets = s.conn.pendingResets ++ added ∧
        added.length + resetBudget s'.sendState ≤ resetBudget s.sendState ∧
        ∀ p ∈ added, p.streamId = s.id := by
  have budget := (handle_moves resetQuicStream handled).resetBudget_le
  cases e with
  | stopSending frame =>
    obtain ⟨-, sameId, app, resets, -⟩ := sendStopSendingSMHandler_spec handled
    exact ⟨sameId, by simp [app], [], by simp [resets], by simpa using budget, by simp⟩
  | rst errorCode reliableSize =>
    obtain ⟨sameId, opened, other⟩ := sendRstSMHandler_spec handled
    by_cases state : s.sendState = .Open
    · obtain ⟨code, app, moved⟩ := opened state
      refine ⟨sameId, fun c old => ?_, ?_⟩
      · rcases code with none | same <;> simp_all
      rcases moved with ⟨-, reset, resets⟩ | ⟨-, -, still, resets⟩
      · exact ⟨_, resets, by simp [resetBudget, reset, state], by simp⟩
      · exact ⟨[], by simp [resets], by simp [resetBudget, still, state], by simp⟩
    · obtain ⟨rfl, -⟩ := other state
      exact ⟨rfl, fun _ old => old, [], by simp, by simp, by simp⟩
  | ack ackedFrame =>
    obtain ⟨sameId, app, resets, -⟩ := sendAckSMHandler_spec handled
    exact ⟨sameId, by simp [app], [], by simp [resets], by simpa using budget, by simp⟩
  | rstAck reliableSize =>
    obtain ⟨sameId, app, resets, -⟩ := sendRstAckSMHandler_spec handled
    exact ⟨sameId, by simp [app], [], by simp [resets], by simpa using budget, by simp⟩

/-- **A whole run**: the resets it enqueues are for this stream and fit in the
budget of its first state; an error code sent to the peer stays. -/
theorem run_resets {es : List SendEvent} {rs : List (Except QuicError Unit)}
    (ran : runSendEvents resetQuicStream s es = some (rs, s')) :
    s'.id = s.id ∧
      (∀ code, s.appErrorCodeToPeer = some code → s'.appErrorCodeToPeer = some code) ∧
      ∃ added, s'.conn.pendingResets = s.conn.pendingResets ++ added ∧
        added.length + resetBudget s'.sendState ≤ resetBudget s.sendState ∧
        ∀ p ∈ added, p.streamId = s.id := by
  induction es generalizing s rs with
  | nil =>
    cases ran
    exact ⟨rfl, fun _ old => old, [], by simp, by simp, by simp⟩
  | cons e es ih =>
    simp only [runSendEvents, Option.bind_eq_bind, Option.bind_eq_some] at ran
    obtain ⟨⟨r, s₁⟩, handled, ⟨rs', s₂⟩, rest, result⟩ := ran
    dsimp only at rest result
    cases result
    obtain ⟨id₁, app₁, added₁, resets₁, budget₁, ids₁⟩ := handle_resets resetQuicStream handled
    obtain ⟨id₂, app₂, added₂, resets₂, budget₂, ids₂⟩ := ih rest
    refine ⟨id₂.trans id₁, fun code old => app₂ code (app₁ code old), added₁ ++ added₂,
      by rw [resets₂, resets₁, List.append_assoc], ?_, ?_⟩
    · simp only [List.length_append]; omega
    · intro p mem
      rcases List.mem_append.mp mem with first | later
      · exact ids₁ p first
      · exact (ids₂ p later).trans id₁

end SendEvent

open SendEvent

/-- **The send state machine.**  Every event that returns moves the send
state along the diagram (`Open → ResetSent` only by a reset, `Open → Closed`
only by an ack, `ResetSent → Closed` by an ack or a reset ack), so `Invalid`
and `Closed` are never left and nothing leads into `Open` or `Invalid`.  Where
the source has no `CHECK` the handlers always return: every event in `Invalid`,
and a reset ack in `Open`, fails with `STREAM_STATE_ERROR` and changes nothing;
every event in `Closed` succeeds and changes nothing; in `ResetSent` a
`STOP_SENDING` and a reset change nothing and a reset ack succeeds.  Along a
whole run at most one reset is enqueued, for this stream, and once an error
code is sent to the peer it stays. -/
theorem sendStateMachine (resetQuicStream : ResetQuicStream) :
    (∀ (s s' : QuicStreamState) (e : SendEvent) (r : Except QuicError Unit),
      e.handle resetQuicStream s = some (r, s') →
        Moves e s.sendState s'.sendState ∧
        (s.sendState = .Invalid ∨ s.sendState = .Closed → s'.sendState = s.sendState) ∧
        (s'.sendState = .Open ∨ s'.sendState = .Invalid → s.sendState = s'.sendState)) ∧
    (∀ (s : QuicStreamState) (e : SendEvent), s.sendState = .Invalid →
      e.handle resetQuicStream s = some (.error (invalidTransition .Invalid), s)) ∧
    (∀ (s : QuicStreamState) (reliableSize : Option Nat), s.sendState = .Open →
      (SendEvent.rstAck reliableSize).handle resetQuicStream s =
        some (.error (invalidTransition .Open), s)) ∧
    (invalidTransition .Invalid).code = .STREAM_STATE_ERROR ∧
    (invalidTransition .Open).code = .STREAM_STATE_ERROR ∧
    (∀ (s : QuicStreamState) (e : SendEvent), s.sendState = .Closed →
      e.handle resetQuicStream s = some (.ok (), s)) ∧
    (∀ s : QuicStreamState, s.sendState = .ResetSent →
      (∀ frame, (SendEvent.stopSending frame).handle resetQuicStream s = some (.ok (), s)) ∧
      (∀ errorCode reliableSize,
        (SendEvent.rst errorCode reliableSize).handle resetQuicStream s = some (.ok (), s)) ∧
      ∀ reliableSize,
        ∃ s', (SendEvent.rstAck reliableSize).handle resetQuicStream s = some (.ok (), s')) ∧
    (∀ (s s' : QuicStreamState) (es : List SendEvent) (rs : List (Except QuicError Unit)),
      runSendEvents resetQuicStream s es = some (rs, s') →
        (∃ added, s'.conn.pendingResets = s.conn.pendingResets ++ added ∧ added.length ≤ 1 ∧
          ∀ p ∈ added, p.streamId = s.id) ∧
        ∀ code, s.appErrorCodeToPeer = some code → s'.appErrorCodeToPeer = some code) := by
  refine ⟨fun s s' e r handled => ?_, fun _ _ => handle_invalid resetQuicStream,
    fun _ _ => handle_rstAck_open resetQuicStream, rfl, rfl,
    fun _ _ => handle_closed resetQuicStream, fun _ => handle_resetSent_returns resetQuicStream,
    fun s s' es rs ran => ?_⟩
  · have moves := handle_moves resetQuicStream handled
    exact ⟨moves, moves.of_final, moves.eq_of_into⟩
  · obtain ⟨-, app, added, resets, budget, ids⟩ := run_resets resetQuicStream ran
    refine ⟨⟨added, resets, ?_, ids⟩, app⟩
    have : resetBudget s.sendState ≤ 1 := by unfold resetBudget; split <;> omega
    omega

/-! ### A duplicated acknowledgement -/

namespace QuicStreamState

variable (s : QuicStreamState)

/-- Acknowledging a chunk a second time finds nothing left to acknowledge. -/
theorem ackRetransmission_twice {ackedFrame : WriteStreamFrame} {s' : QuicStreamState}
    (acked : s.ackRetransmission ackedFrame = some s') :
    s'.ackRetransmission ackedFrame = some s' := by
  unfold ackRetransmission at acked ⊢
  cases meta : ackedFrame.fromBufMeta <;>
    simp only [meta, Bool.not_true, Bool.not_false, Bool.false_eq_true, if_true, if_false]
      at acked ⊢
  · cases found : s.buffers.retransmissionBuffer ackedFrame.offset <;> rw [found] at acked
    · cases acked; rw [found]
    · simp only [Option.bind_eq_bind, Option.bind_eq_some, Option.guard_eq_some',
        Option.pure_def, Option.some.injEq] at acked
      obtain ⟨_, -, _, -, _, -, rfl⟩ := acked
      simp
  · cases found : s.buffers.retransmissionBufMetas ackedFrame.offset <;> rw [found] at acked
    · cases acked; rw [found]
    · simp only [Option.bind_eq_bind, Option.bind_eq_some, Option.guard_eq_some',
        Option.pure_def, Option.some.injEq] at acked
      obtain ⟨_, -, _, -, _, -, rfl⟩ := acked
      simp

theorem ackRetransmission_addDeliverable {ackedFrame : WriteStreamFrame} :
    s.addDeliverable.ackRetransmission ackedFrame =
      (s.ackRetransmission ackedFrame).map addDeliverable := by
  unfold ackRetransmission
  split_ifs <;> split <;> simp_all [addDeliverable, updateAckedIntervals]

theorem addDeliverable_twice : s.addDeliverable.addDeliverable = s.addDeliverable := by
  simp [addDeliverable, List.insert_of_mem]

end QuicStreamState

open QuicStreamState in
/-- **A duplicate ack changes nothing.**  Whatever the send state, buffers,
acked intervals and reset acks, a second `sendAckSMHandler` for the same
frame returns what the first returned and leaves the stream, and the
connection's deliverable and closed sets, as the first left them. -/
theorem sendAckSMHandler_twice {s s' : QuicStreamState} {ackedFrame : WriteStreamFrame}
    {r : Except QuicError Unit} (handled : sendAckSMHandler s ackedFrame = some (r, s')) :
    sendAckSMHandler s' ackedFrame = some (r, s') := by
  unfold sendAckSMHandler at handled
  cases state : s.sendState <;> simp only [state] at handled
  case Closed | Invalid =>
    cases handled
    simp [sendAckSMHandler, state]
  all_goals
    obtain ⟨acked, ackedIn, handled⟩ := Option.bind_eq_some.mp handled
    have sameState : acked.sendState = s.sendState := by rw [s.ackRetransmission_spec ackedIn]
    split at handled <;> cases handled
    · simp [sendAckSMHandler]
    · rename_i notDone
      simp only [sendAckSMHandler, addDeliverable_sendState, sameState, state,
        ackRetransmission_addDeliverable, s.ackRetransmission_twice ackedIn, Option.map_some',
        Option.bind_eq_bind, Option.some_bind, addDeliverable_twice]
      rw [if_neg notDone]
      rfl

theorem sendAckSMHandler_twice_open :
    let s : QuicStreamState :=
      { id := 0, conn := ⟨.Client, [], [], [], []⟩, sendState := .Open, recvState := .Open,
        finalWriteOffset := some 10, appErrorCodeToPeer := none, minReliableSizeAcked := none,
        ackedIntervals := [],
        buffers := ⟨[], fun offset => if offset = 0 then some ⟨0, 5, false⟩ else none,
          fun _ => none, none⟩ }
    ∃ r s', sendAckSMHandler s ⟨0, 5, false, false⟩ = some (r, s') ∧
      sendAckSMHandler s' ⟨0, 5, false, false⟩ = some (r, s') := by
  intro s
  exact ⟨_, _, rfl, sendAckSMHandler_twice (s := s) rfl⟩

end Quic
