import Mvfst.Stream.State

/-!
# The send state machine

`StreamSendHandlers.cpp`: the handlers for a `STOP_SENDING` frame, a local
reset, the acknowledgement of a stream frame and the acknowledgement of a
reset, each a switch over the send state.

```
Open ── ack of all bytes through FIN ──> Closed
  │                                        ^
  └── send RST ──> ResetSent ── RST acked and every byte below the
                                smallest acked reliable size acked
```

## Main Definitions

* `sendStopSendingSMHandler`, `sendRstSMHandler`, `sendAckSMHandler`,
  `sendRstAckSMHandler` — the four handlers.
* `SendEvent`, `SendEvent.handle`, `runSendEvents` — an event for each
  handler, and a run of events.
* `SameSendSide` — the send side and connection sets a failed call is
  compared on.

## Design Notes

A handler returns `none` where the code stops the process (a failed `CHECK`),
and otherwise its `folly::Expected` result with the stream after the call; an
error result still carries the stream, since the code returns it after
mutating some fields.  `DCHECK`s are not compiled into release builds and are
left out, as are `VLOG`s.

`resetQuicStream` (`QuicStreamFunctions.cpp`, not among the repository's
files) is a parameter: it may fail, and on success it may rewrite the buffers
and `reliableSizeToPeer`, and nothing else.
-/

namespace Quic

/-- The error a handler returns from a state it has no transition for. -/
def invalidTransition (state : StreamSendState) : QuicError :=
  ⟨.STREAM_STATE_ERROR, "Invalid transition from state=" ++ streamStateToString state⟩

/-- `resetQuicStream(stream, errorCode, reliableSize)`, on the part of the
stream it may rewrite. -/
abbrev ResetQuicStream := SendBuffers → Nat → Option Nat → Except QuicError SendBuffers

/-- A handler's outcome: `none` for a failed `CHECK`, else the result and the
stream after the call. -/
abbrev HandlerResult := Option (Except QuicError Unit × QuicStreamState)

namespace QuicStreamState

variable (s : QuicStreamState)

/-- The common tail of the two handlers that close the send side: `Closed`,
and `addClosed` once the receive side is finished too. -/
def closeSend : QuicStreamState :=
  let s := { s with sendState := .Closed }
  if s.inTerminalStates then s.addClosed else s

/-- `allReliableDataDelivered`: some reset was acknowledged, and every byte
below the smallest acknowledged reliable size is acknowledged. -/
def allReliableDataDelivered : Bool :=
  match s.minReliableSizeAcked with
  | some m => m == 0 || s.allBytesAckedTill (m - 1)
  | none => false

/-- The three `CHECK`s `sendRstSMHandler` makes in `Open` before it changes
anything: the reliable size may not grow, the error code may not change, and
(under a condition that cannot hold in `Open`) a reset without a reliable size
may not be followed by one with. -/
def resetChecks (errorCode : Nat) (reliableSize : Option Nat) : Bool :=
  (match reliableSize, s.buffers.reliableSizeToPeer with
    | some size, some sizeToPeer => decide (size ≤ sizeToPeer)
    | _, _ => true) &&
  (match s.appErrorCodeToPeer with
    | some code => code == errorCode
    | none => true) &&
  (!(s.buffers.reliableSizeToPeer.isNone && s.sendState == .ResetSent) ||
    reliableSize.isNone || reliableSize == some 0)

/-- The first half of `sendAckSMHandler` in `Open` and `ResetSent`: find the
acknowledged chunk in its retransmission buffer, check it against the frame,
record its bytes as acknowledged and drop it. -/
def ackRetransmission (ackedFrame : WriteStreamFrame) : Option QuicStreamState :=
  if !ackedFrame.fromBufMeta then
    match s.buffers.retransmissionBuffer ackedFrame.offset with
    | some ackedBuffer => do
        guard (ackedFrame.offset = ackedBuffer.offset)
        guard (ackedFrame.len = ackedBuffer.len)
        guard (ackedFrame.fin = ackedBuffer.eof)
        let s := s.updateAckedIntervals ackedBuffer.offset ackedBuffer.len ackedBuffer.eof
        pure { s with buffers := { s.buffers with
          retransmissionBuffer := Function.update s.buffers.retransmissionBuffer
            ackedFrame.offset none } }
    | none => some s
  else
    match s.buffers.retransmissionBufMetas ackedFrame.offset with
    | some ackedBuffer => do
        guard (ackedFrame.offset = ackedBuffer.offset)
        guard (ackedFrame.len = ackedBuffer.length)
        guard (ackedFrame.fin = ackedBuffer.eof)
        let s := s.updateAckedIntervals ackedBuffer.offset ackedBuffer.length ackedBuffer.eof
        pure { s with buffers := { s.buffers with
          retransmissionBufMetas := Function.update s.buffers.retransmissionBufMetas
            ackedFrame.offset none } }
    | none => some s

end QuicStreamState

open QuicStreamState

/-- `sendStopSendingSMHandler(stream, frame)`. -/
def sendStopSendingSMHandler (s : QuicStreamState) (frame : StopSendingFrame) : HandlerResult :=
  match s.sendState with
  | .Open => do
      guard (isBidirectionalStream s.id || isSendingStream s.conn.nodeType s.id)
      pure (.ok (), s.addStopSending frame.errorCode)
  | .Closed => some (.ok (), s)
  | .ResetSent => some (.ok (), s)
  | .Invalid => some (.error (invalidTransition s.sendState), s)

/-- `sendRstSMHandler(stream, errorCode, reliableSize)`. -/
def sendRstSMHandler (resetQuicStream : ResetQuicStream) (s : QuicStreamState)
    (errorCode : Nat) (reliableSize : Option Nat) : HandlerResult :=
  match s.sendState with
  | .Open => do
      guard (s.resetChecks errorCode reliableSize)
      let s := { s with appErrorCodeToPeer := some errorCode }
      match resetQuicStream s.buffers errorCode reliableSize with
      | .error error => pure (.error error, s)
      | .ok buffers =>
          let s := ({ s with buffers := buffers }).appendPendingStreamReset errorCode reliableSize
          pure (.ok (), { s with sendState := .ResetSent })
  | .Closed => some (.ok (), s)
  | .ResetSent => some (.ok (), s)
  | .Invalid => some (.error (invalidTransition s.sendState), s)

/-- `sendAckSMHandler(stream, ackedFrame)`. -/
def sendAckSMHandler (s : QuicStreamState) (ackedFrame : WriteStreamFrame) : HandlerResult :=
  match s.sendState with
  | .Open | .ResetSent => do
      let s ← s.ackRetransmission ackedFrame
      let s := s.addDeliverable
      if s.allBytesTillFinAcked || s.allReliableDataDelivered then pure (.ok (), s.closeSend)
      else pure (.ok (), s)
  | .Closed => some (.ok (), s)
  | .Invalid => some (.error (invalidTransition s.sendState), s)

/-- `sendRstAckSMHandler(stream, reliableSize)`. -/
def sendRstAckSMHandler (s : QuicStreamState) (reliableSize : Option Nat) : HandlerResult :=
  match s.sendState with
  | .ResetSent =>
      let s := { s with minReliableSizeAcked := some <|
        match s.minReliableSizeAcked with
        | none => reliableSize.getD 0
        | some m => min m (reliableSize.getD 0) }
      if s.allReliableDataDelivered then some (.ok (), s.closeSend) else some (.ok (), s)
  | .Closed => some (.ok (), s)
  | .Open | .Invalid => some (.error (invalidTransition s.sendState), s)

/-! ### What each handler can do -/

namespace QuicStreamState

variable (s : QuicStreamState)

@[simp] theorem closeSend_sendState : s.closeSend.sendState = .Closed := by
  simp only [closeSend]; split <;> rfl
@[simp] theorem closeSend_id : s.closeSend.id = s.id := by
  simp only [closeSend]; split <;> rfl
@[simp] theorem closeSend_appErrorCodeToPeer :
    s.closeSend.appErrorCodeToPeer = s.appErrorCodeToPeer := by
  simp only [closeSend]; split <;> rfl
@[simp] theorem closeSend_pendingResets : s.closeSend.conn.pendingResets = s.conn.pendingResets := by
  simp only [closeSend]; split <;> rfl
@[simp] theorem closeSend_minReliableSizeAcked :
    s.closeSend.minReliableSizeAcked = s.minReliableSizeAcked := by
  simp only [closeSend]; split <;> rfl
@[simp] theorem closeSend_ackedIntervals : s.closeSend.ackedIntervals = s.ackedIntervals := by
  simp only [closeSend]; split <;> rfl
@[simp] theorem closeSend_finalWriteOffset : s.closeSend.finalWriteOffset = s.finalWriteOffset := by
  simp only [closeSend]; split <;> rfl

/-- Acknowledging a chunk changes only the acked intervals and the buffers. -/
theorem ackRetransmission_spec {ackedFrame : WriteStreamFrame} {s' : QuicStreamState}
    (acked : s.ackRetransmission ackedFrame = some s') :
    s' = { s with ackedIntervals := s'.ackedIntervals, buffers := s'.buffers } := by
  unfold ackRetransmission at acked
  split_ifs at acked <;> split at acked <;>
    simp only [Option.bind_eq_bind, Option.bind_eq_some, Option.guard_eq_some', Option.some.injEq,
      Option.pure_def] at acked
  all_goals first
    | (subst acked; rfl)
    | (obtain ⟨_, -, _, -, _, -, acked⟩ := acked; subst acked; rfl)

end QuicStreamState

open QuicStreamState

section Handlers

variable {s s' : QuicStreamState} {r : Except QuicError Unit}

/-- **`STOP_SENDING`** changes no send state and enqueues no reset; it fails
exactly in `Invalid`, and outside `Open` changes nothing. -/
theorem sendStopSendingSMHandler_spec {frame : StopSendingFrame}
    (handled : sendStopSendingSMHandler s frame = some (r, s')) :
    s'.sendState = s.sendState ∧ s'.id = s.id ∧
      s'.appErrorCodeToPeer = s.appErrorCodeToPeer ∧
      s'.conn.pendingResets = s.conn.pendingResets ∧
      r = (if s.sendState = .Invalid then .error (invalidTransition .Invalid) else .ok ()) ∧
      (s.sendState ≠ .Open → s' = s) := by
  unfold sendStopSendingSMHandler at handled
  cases state : s.sendState <;> simp only [state] at handled
  case Open =>
    obtain ⟨-, -, handled⟩ := Option.bind_eq_some.mp handled
    cases handled
    simp [state]
  all_goals cases handled; simp [state]

/-- **A local reset** in `Open` checks the error code against the one sent
before, sets it, and either fails in `resetQuicStream` (staying `Open`) or
enqueues one reset and moves to `ResetSent`; outside `Open` it changes
nothing, failing only in `Invalid`. -/
theorem sendRstSMHandler_spec {resetQuicStream : ResetQuicStream} {errorCode : Nat}
    {reliableSize : Option Nat}
    (handled : sendRstSMHandler resetQuicStream s errorCode reliableSize = some (r, s')) :
    s'.id = s.id ∧
      (s.sendState = .Open →
        (s.appErrorCodeToPeer = none ∨ s.appErrorCodeToPeer = some errorCode) ∧
        s'.appErrorCodeToPeer = some errorCode ∧
        ((r = .ok () ∧ s'.sendState = .ResetSent ∧
            s'.conn.pendingResets = s.conn.pendingResets ++ [⟨s.id, errorCode, reliableSize⟩]) ∨
          (∃ error, r = .error error ∧ s'.sendState = .Open ∧
            s'.conn.pendingResets = s.conn.pendingResets))) ∧
      (s.sendState ≠ .Open →
        s' = s ∧ r = if s.sendState = .Invalid then .error (invalidTransition .Invalid) else .ok ()) := by
  unfold sendRstSMHandler at handled
  cases state : s.sendState <;> simp only [state] at handled
  case Open =>
    obtain ⟨_, checks, handled⟩ := Option.bind_eq_some.mp handled
    have code : s.appErrorCodeToPeer = none ∨ s.appErrorCodeToPeer = some errorCode := by
      have checked := (Option.guard_eq_some' _).mp checks
      unfold resetChecks at checked
      cases app : s.appErrorCodeToPeer <;> simp_all
    split at handled <;> cases handled
    · exact ⟨rfl, fun _ => ⟨code, rfl, .inr ⟨_, rfl, rfl, rfl⟩⟩, by simp [state]⟩
    · exact ⟨rfl, fun _ => ⟨code, rfl, .inl ⟨rfl, rfl, rfl⟩⟩, by simp [state]⟩
  all_goals cases handled; simp [state]

/-- A local reset leaves the acknowledged reset sizes alone. -/
theorem sendRstSMHandler_minReliableSizeAcked {resetQuicStream : ResetQuicStream}
    {errorCode : Nat} {reliableSize : Option Nat}
    (handled : sendRstSMHandler resetQuicStream s errorCode reliableSize = some (r, s')) :
    s'.minReliableSizeAcked = s.minReliableSizeAcked := by
  unfold sendRstSMHandler at handled
  cases state : s.sendState <;> simp only [state] at handled
  case Open =>
    obtain ⟨_, -, handled⟩ := Option.bind_eq_some.mp handled
    split at handled <;> cases handled <;> rfl
  all_goals cases handled; rfl

/-- **The ack of a stream frame** never fails outside `Invalid`, enqueues no
reset and keeps the error code; it can only close an `Open` or `ResetSent`
send side, and in `Closed` or `Invalid` changes nothing. -/
theorem sendAckSMHandler_spec {ackedFrame : WriteStreamFrame}
    (handled : sendAckSMHandler s ackedFrame = some (r, s')) :
    s'.id = s.id ∧ s'.appErrorCodeToPeer = s.appErrorCodeToPeer ∧
      s'.conn.pendingResets = s.conn.pendingResets ∧
      r = (if s.sendState = .Invalid then .error (invalidTransition .Invalid) else .ok ()) ∧
      (s'.sendState = s.sendState ∨
        ((s.sendState = .Open ∨ s.sendState = .ResetSent) ∧ s'.sendState = .Closed)) ∧
      (s.sendState = .Closed ∨ s.sendState = .Invalid → s' = s) := by
  unfold sendAckSMHandler at handled
  cases state : s.sendState <;> simp only [state] at handled
  case Closed | Invalid => cases handled; simp [state]
  all_goals
    obtain ⟨acked, ackedIn, handled⟩ := Option.bind_eq_some.mp handled
    have frame := s.ackRetransmission_spec ackedIn
    split at handled <;> cases handled <;> rw [frame] <;> simp [addDeliverable, state]

/-- **The ack of a reset** fails in `Open` and `Invalid`, changing nothing; in
`ResetSent` it may close the send side; it never enqueues a reset or touches
the error code. -/
theorem sendRstAckSMHandler_spec {reliableSize : Option Nat}
    (handled : sendRstAckSMHandler s reliableSize = some (r, s')) :
    s'.id = s.id ∧ s'.appErrorCodeToPeer = s.appErrorCodeToPeer ∧
      s'.conn.pendingResets = s.conn.pendingResets ∧
      r = (if s.sendState = .Open ∨ s.sendState = .Invalid then
        .error (invalidTransition s.sendState) else .ok ()) ∧
      (s'.sendState = s.sendState ∨ (s.sendState = .ResetSent ∧ s'.sendState = .Closed)) ∧
      (s.sendState ≠ .ResetSent → s' = s) := by
  unfold sendRstAckSMHandler at handled
  cases state : s.sendState <;> simp only [state] at handled
  case ResetSent => split at handled <;> cases handled <;> simp [state]
  all_goals cases handled; simp [state]

end Handlers

/-! ### Failed calls -/

/-- The send side of a stream and the connection's stream sets: the send
state, the error code sent to the peer, the acknowledged reset sizes, the
buffers (pending writes, both retransmission buffers and the reliable size
sent to the peer) and the acknowledged intervals, and the connection's pending
resets, stop-sendings, deliverable and closed sets. -/
def SameSendSide (s s' : QuicStreamState) : Prop :=
  s'.sendState = s.sendState ∧ s'.appErrorCodeToPeer = s.appErrorCodeToPeer ∧
    s'.minReliableSizeAcked = s.minReliableSizeAcked ∧ s'.buffers = s.buffers ∧
    s'.ackedIntervals = s.ackedIntervals ∧ s'.conn.pendingResets = s.conn.pendingResets ∧
    s'.conn.stopSendings = s.conn.stopSendings ∧ s'.conn.deliverable = s.conn.deliverable ∧
    s'.conn.closed = s.conn.closed

/-- An `Open` stream that has sent no error code is reset with code 3, and
`resetQuicStream` fails: the handler returns the error with the code already
recorded. -/
theorem sendHandlers_error_sameSendSide_fails :
    ¬ ((∀ (s s' : QuicStreamState) (frame : StopSendingFrame) (error : QuicError),
          sendStopSendingSMHandler s frame = some (.error error, s') → SameSendSide s s') ∧
        (∀ (resetQuicStream : ResetQuicStream) (s s' : QuicStreamState) (errorCode : Nat)
            (reliableSize : Option Nat) (error : QuicError),
          sendRstSMHandler resetQuicStream s errorCode reliableSize = some (.error error, s') →
            SameSendSide s s') ∧
        (∀ (s s' : QuicStreamState) (ackedFrame : WriteStreamFrame) (error : QuicError),
          sendAckSMHandler s ackedFrame = some (.error error, s') → SameSendSide s s') ∧
        (∀ (s s' : QuicStreamState) (reliableSize : Option Nat) (error : QuicError),
          sendRstAckSMHandler s reliableSize = some (.error error, s') → SameSendSide s s')) := by
  intro law
  have unchanged := law.2.1 (fun _ _ _ => .error ⟨.INTERNAL_ERROR, "reset failed"⟩)
    { id := 0, conn := ⟨.Client, [], [], [], []⟩, sendState := .Open, recvState := .Open,
      finalWriteOffset := none, appErrorCodeToPeer := none, minReliableSizeAcked := none,
      ackedIntervals := [], buffers := ⟨[], fun _ => none, fun _ => none, none⟩ }
    _ 3 none _ rfl
  exact absurd unchanged.2.1 (by decide)

/-- **A failed call leaves the stream as it was**, with one exception: a reset
from `Open` whose `resetQuicStream` fails has already recorded its error code,
so a stream that had sent none is returned with the new code.  A
`STOP_SENDING` and the ack of a stream frame fail only in `Invalid`, the ack of
a reset only in `Open` or `Invalid`, and a reset only in `Invalid` or, through
`resetQuicStream`, in `Open`. -/
theorem sendHandlers_error_unchanged :
    (∀ (s s' : QuicStreamState) (frame : StopSendingFrame) (error : QuicError),
        sendStopSendingSMHandler s frame = some (.error error, s') →
          s.sendState = .Invalid ∧ s' = s) ∧
      (∀ (resetQuicStream : ResetQuicStream) (s s' : QuicStreamState) (errorCode : Nat)
          (reliableSize : Option Nat) (error : QuicError),
        sendRstSMHandler resetQuicStream s errorCode reliableSize = some (.error error, s') →
          (s.sendState = .Invalid ∧ s' = s) ∨
            (s.sendState = .Open ∧ resetQuicStream s.buffers errorCode reliableSize = .error error ∧
              (s' = s ∨ (s.appErrorCodeToPeer = none ∧
                s' = { s with appErrorCodeToPeer := some errorCode })))) ∧
      (∀ (s s' : QuicStreamState) (ackedFrame : WriteStreamFrame) (error : QuicError),
        sendAckSMHandler s ackedFrame = some (.error error, s') →
          s.sendState = .Invalid ∧ s' = s) ∧
      (∀ (s s' : QuicStreamState) (reliableSize : Option Nat) (error : QuicError),
        sendRstAckSMHandler s reliableSize = some (.error error, s') →
          (s.sendState = .Open ∨ s.sendState = .Invalid) ∧ s' = s) := by
  refine ⟨fun s s' _ _ handled => ?_, fun _ s s' errorCode _ _ handled => ?_,
    fun s s' _ _ handled => ?_, fun s s' _ _ handled => ?_⟩
  · obtain ⟨-, -, -, -, result, quiet⟩ := sendStopSendingSMHandler_spec handled
    have invalid : s.sendState = .Invalid := by
      by_contra other
      simp [other] at result
    exact ⟨invalid, quiet (by rw [invalid]; decide)⟩
  · have code := fun opened => ((sendRstSMHandler_spec handled).2.1 opened).1
    unfold sendRstSMHandler at handled
    cases state : s.sendState <;> simp only [state] at handled
    case Open =>
      obtain ⟨_, -, handled⟩ := Option.bind_eq_some.mp handled
      split at handled <;> rename_i failed <;> cases handled
      rcases code state with none | same
      · exact .inr ⟨rfl, failed, .inr ⟨none, rfl⟩⟩
      · exact .inr ⟨rfl, failed, .inl (by rw [← same, ← state])⟩
    case Invalid => cases handled; exact .inl ⟨rfl, rfl⟩
    all_goals cases handled
  · obtain ⟨-, -, -, result, -, quiet⟩ := sendAckSMHandler_spec handled
    by_cases invalid : s.sendState = .Invalid
    · exact ⟨invalid, quiet (.inr invalid)⟩
    · simp [invalid] at result
  · obtain ⟨-, -, -, result, -, quiet⟩ := sendRstAckSMHandler_spec handled
    have failing : s.sendState = .Open ∨ s.sendState = .Invalid := by
      by_contra other
      simp only [other, if_false] at result
      cases result
    exact ⟨failing, quiet (by rcases failing with state | state <;> rw [state] <;> decide)⟩

/-! ### Runs of events -/

/-- An input of the send state machine, one per handler. -/
inductive SendEvent
  | stopSending (frame : StopSendingFrame)
  | rst (errorCode : Nat) (reliableSize : Option Nat)
  | ack (ackedFrame : WriteStreamFrame)
  | rstAck (reliableSize : Option Nat)

/-- The handler for an event. -/
def SendEvent.handle (resetQuicStream : ResetQuicStream) (s : QuicStreamState) :
    SendEvent → HandlerResult
  | .stopSending frame => sendStopSendingSMHandler s frame
  | .rst errorCode reliableSize => sendRstSMHandler resetQuicStream s errorCode reliableSize
  | .ack ackedFrame => sendAckSMHandler s ackedFrame
  | .rstAck reliableSize => sendRstAckSMHandler s reliableSize

/-- Events applied one after another: each handler's result, and the stream at
the end; `none` if a `CHECK` fails on the way. -/
def runSendEvents (resetQuicStream : ResetQuicStream) (s : QuicStreamState) :
    List SendEvent → Option (List (Except QuicError Unit) × QuicStreamState)
  | [] => some ([], s)
  | e :: es => do
      let (r, s) ← e.handle resetQuicStream s
      let (rs, s) ← runSendEvents resetQuicStream s es
      pure (r :: rs, s)

end Quic
