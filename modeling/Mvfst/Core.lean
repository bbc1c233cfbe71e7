import Mathlib.Data.List.Basic

/-!
# Shared vocabulary: endpoints, stream identifiers and errors

The handful of transport-wide notions the modelled functions read: which
endpoint a connection is, what a stream identifier says about its stream, and
the error a handler returns.

## Design Notes

`QuicConstants.h` and `QuicStreamUtilities.cpp`, where these live, are not
among the repository's files.  The stream-identifier predicates are modelled
from the spec's stream kinds, which follow the QUIC identifier layout: the low
bit names the initiator (0 for the client), the next bit the direction (0 for
bidirectional).  `QuicError` keeps the transport error code and the message
text; only the codes some modelled function returns are listed.
-/

namespace Quic

/-- The endpoint a connection is. -/
inductive QuicNodeType
  | Client
  | Server
deriving DecidableEq, Repr, Inhabited

/-- Modelled from the spec: a client-initiated stream has an even identifier. -/
def isClientStream (id : Nat) : Bool := id % 2 == 0

/-- Modelled from the spec: a server-initiated stream has an odd identifier. -/
def isServerStream (id : Nat) : Bool := id % 2 == 1

/-- Modelled from the spec: the second bit of the identifier marks a
unidirectional stream. -/
def isUnidirectionalStream (id : Nat) : Bool := id / 2 % 2 == 1

/-- Modelled from the spec: every other stream is bidirectional. -/
def isBidirectionalStream (id : Nat) : Bool := !isUnidirectionalStream id

/-- Modelled from the spec: a stream this endpoint opened. -/
def isLocalStream (nodeType : QuicNodeType) (id : Nat) : Bool :=
  nodeType == .Client && isClientStream id || nodeType == .Server && isServerStream id

/-- Modelled from the spec: a unidirectional stream this endpoint opened, the
only kind of unidirectional stream it sends on. -/
def isSendingStream (nodeType : QuicNodeType) (id : Nat) : Bool :=
  isUnidirectionalStream id && isLocalStream nodeType id

/-- The transport error codes the modelled functions return. -/
inductive TransportErrorCode
  | STREAM_STATE_ERROR
  | TRANSPORT_PARAMETER_ERROR
  | FLOW_CONTROL_ERROR
  | INTERNAL_ERROR
deriving DecidableEq, Repr

/-- `QuicError`: a code and the message text. -/
structure QuicError where
  code : TransportErrorCode
  message : String
deriving DecidableEq, Repr

end Quic
