import Mvfst.Core

/-!
# A stream's send side

The part of `QuicStreamState` the send handlers of `StreamSendHandlers.cpp`
read and write, together with the four pieces of the connection they reach
through `stream.conn`: the pending resets, the stop-sending requests, and the
stream manager's deliverable and closed sets.

## Main Definitions

* `StreamSendState`, `StreamRecvState` — the two half-stream states.
* `SendBuffers` — the write-side buffers and `reliableSizeToPeer`, the fields
  `resetQuicStream` rewrites.
* `QuicStreamState` — the stream, with its connection.
* `QuicStreamState.updateAckedIntervals`, `allBytesAckedTill`,
  `allBytesTillFinAcked`, `inTerminalStates` — the stream's own queries.

## Design Notes

`QuicStreamState.h`, `QuicStreamFunctions.cpp` and `QuicStreamManager.h` are
not among the repository's files, so every member above other than the
handlers is modelled from the spec:

* acked offsets are a list of closed intervals, as the spec writes them
  (`[0,49]`), and a FIN counts as the byte at the final offset, so "all bytes
  through FIN" is coverage through `finalWriteOffset`;
* the deliverable and closed sets are sets (adding is idempotent), while
  pending resets and stop-sending requests are kept as the log of what was
  enqueued, so that a run can be said to enqueue at most one reset;
* the buffers keep, per chunk, only what the handlers compare: offset, length
  and end-of-stream flag.
-/

namespace Quic

/-- The send half of a stream. -/
inductive StreamSendState
  | Open
  | ResetSent
  | Closed
  | Invalid
deriving DecidableEq, Repr

/-- Modelled from the spec: the receive half of a stream. -/
inductive StreamRecvState
  | Open
  | ResetRecvd
  | Closed
  | Invalid
deriving DecidableEq, Repr

/-- Modelled from the spec: the name an error message gives a send state. -/
def streamStateToString : StreamSendState → String
  | .Open => "Open"
  | .ResetSent => "ResetSent"
  | .Closed => "Closed"
  | .Invalid => "Invalid"

/-- A chunk of the retransmission buffer: its offset, `data.chainLength()`
and `eof`. -/
structure StreamBuffer where
  offset : Nat
  len : Nat
  eof : Bool
deriving DecidableEq, Repr

/-- A chunk of the metadata-only retransmission buffer. -/
structure WriteBufferMeta where
  offset : Nat
  length : Nat
  eof : Bool
deriving DecidableEq, Repr

/-- The fields of an acknowledged `WriteStreamFrame` the ack handler reads. -/
structure WriteStreamFrame where
  offset : Nat
  len : Nat
  fin : Bool
  fromBufMeta : Bool
deriving DecidableEq, Repr

/-- The field of a `STOP_SENDING` frame the handler reads. -/
structure StopSendingFrame where
  errorCode : Nat
deriving DecidableEq, Repr

/-- A reset `appendPendingStreamReset` enqueued: stream, error code and
reliable size. -/
structure PendingReset where
  streamId : Nat
  errorCode : Nat
  reliableSize : Option Nat
deriving DecidableEq, Repr

/-- What the send handlers reach of the connection. -/
structure StreamConn where
  nodeType : QuicNodeType
  pendingResets : List PendingReset
  stopSendings : List (Nat × Nat)
  deliverable : List Nat
  closed : List Nat

/-- The write-side buffers, and the reliable size of the reset sent to the
peer: what `resetQuicStream` rewrites. -/
structure SendBuffers where
  pendingWrites : List StreamBuffer
  retransmissionBuffer : Nat → Option StreamBuffer
  retransmissionBufMetas : Nat → Option WriteBufferMeta
  reliableSizeToPeer : Option Nat

/-- The stream, as its send handlers see it. -/
structure QuicStreamState where
  id : Nat
  conn : StreamConn
  sendState : StreamSendState
  recvState : StreamRecvState
  finalWriteOffset : Option Nat
  appErrorCodeToPeer : Option Nat
  minReliableSizeAcked : Option Nat
  ackedIntervals : List (Nat × Nat)
  buffers : SendBuffers

/-- Modelled from the spec: the closed interval of offsets a chunk covers, its
FIN counted as the byte after its data; `none` for an empty chunk without FIN. -/
def chunkInterval (offset len : Nat) (eof : Bool) : Option (Nat × Nat) :=
  let last := offset + len + (if eof then 1 else 0)
  if offset < last then some (offset, last - 1) else none

namespace QuicStreamState

variable (s : QuicStreamState)

/-- Modelled from the spec: record the chunk `[offset, offset + len)` as
acknowledged, its FIN as the byte at `offset + len`. -/
def updateAckedIntervals (offset len : Nat) (eof : Bool) : QuicStreamState :=
  { s with ackedIntervals := s.ackedIntervals ++ (chunkInterval offset len eof).toList }

/-- Modelled from the spec: every byte offset up to `offset` is
acknowledged. -/
def allBytesAckedTill (offset : Nat) : Bool :=
  (List.range (offset + 1)).all fun b => s.ackedIntervals.any fun iv => iv.1 ≤ b && b ≤ iv.2

/-- Modelled from the spec: the FIN has been written and every byte through
it is acknowledged. -/
def allBytesTillFinAcked : Bool :=
  match s.finalWriteOffset with
  | some final => s.allBytesAckedTill final
  | none => false

/-- Modelled from the spec: both halves are finished. -/
def inTerminalStates : Bool :=
  (s.sendState == .Closed || s.sendState == .Invalid) &&
    (s.recvState == .Closed || s.recvState == .Invalid)

/-- Modelled from the spec: `streamManager->addStopSending(id, errorCode)`. -/
def addStopSending (errorCode : Nat) : QuicStreamState :=
  { s with conn := { s.conn with stopSendings := s.conn.stopSendings ++ [(s.id, errorCode)] } }

/-- Modelled from the spec: `streamManager->addDeliverable(id)`. -/
def addDeliverable : QuicStreamState :=
  { s with conn := { s.conn with deliverable := s.conn.deliverable.insert s.id } }

/-- Modelled from the spec: `streamManager->addClosed(id)`. -/
def addClosed : QuicStreamState :=
  { s with conn := { s.conn with closed := s.conn.closed.insert s.id } }

/-- Modelled from the spec: `appendPendingStreamReset(conn, stream, errorCode,
reliableSize)`. -/
def appendPendingStreamReset (errorCode : Nat) (reliableSize : Option Nat) :
    QuicStreamState :=
  { s with conn := { s.conn with
      pendingResets := s.conn.pendingResets ++ [⟨s.id, errorCode, reliableSize⟩] } }

/-! ### What each update leaves alone -/

section Frame

variable (errorCode : Nat) (reliableSize : Option Nat)

@[simp] theorem addStopSending_sendState : (s.addStopSending errorCode).sendState = s.sendState := rfl
@[simp] theorem addStopSending_id : (s.addStopSending errorCode).id = s.id := rfl
@[simp] theorem addStopSending_appErrorCodeToPeer :
    (s.addStopSending errorCode).appErrorCodeToPeer = s.appErrorCodeToPeer := rfl
@[simp] theorem addStopSending_pendingResets :
    (s.addStopSending errorCode).conn.pendingResets = s.conn.pendingResets := rfl

@[simp] theorem addDeliverable_sendState : s.addDeliverable.sendState = s.sendState := rfl
@[simp] theorem addDeliverable_id : s.addDeliverable.id = s.id := rfl
@[simp] theorem addDeliverable_appErrorCodeToPeer :
    s.addDeliverable.appErrorCodeToPeer = s.appErrorCodeToPeer := rfl
@[simp] theorem addDeliverable_pendingResets :
    s.addDeliverable.conn.pendingResets = s.conn.pendingResets := rfl
@[simp] theorem addDeliverable_ackedIntervals :
    s.addDeliverable.ackedIntervals = s.ackedIntervals := rfl
@[simp] theorem addDeliverable_finalWriteOffset :
    s.addDeliverable.finalWriteOffset = s.finalWriteOffset := rfl
@[simp] theorem addDeliverable_minReliableSizeAcked :
    s.addDeliverable.minReliableSizeAcked = s.minReliableSizeAcked := rfl

@[simp] theorem addClosed_sendState : s.addClosed.sendState = s.sendState := rfl
@[simp] theorem addClosed_id : s.addClosed.id = s.id := rfl
@[simp] theorem addClosed_appErrorCodeToPeer :
    s.addClosed.appErrorCodeToPeer = s.appErrorCodeToPeer := rfl
@[simp] theorem addClosed_pendingResets : s.addClosed.conn.pendingResets = s.conn.pendingResets :=
  rfl
@[simp] theorem addClosed_minReliableSizeAcked :
    s.addClosed.minReliableSizeAcked = s.minReliableSizeAcked := rfl

@[simp] theorem appendPendingStreamReset_sendState :
    (s.appendPendingStreamReset errorCode reliableSize).sendState = s.sendState := rfl
@[simp] theorem appendPendingStreamReset_id :
    (s.appendPendingStreamReset errorCode reliableSize).id = s.id := rfl
@[simp] theorem appendPendingStreamReset_appErrorCodeToPeer :
    (s.appendPendingStreamReset errorCode reliableSize).appErrorCodeToPeer =
      s.appErrorCodeToPeer := rfl
@[simp] theorem appendPendingStreamReset_pendingResets :
    (s.appendPendingStreamReset errorCode reliableSize).conn.pendingResets =
      s.conn.pendingResets ++ [⟨s.id, errorCode, reliableSize⟩] := rfl

end Frame

end QuicStreamState

end Quic
