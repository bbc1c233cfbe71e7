import Mvfst.Client.TransportParameters

/-!
# The client connection state

The part of `QuicClientConnectionState` that the functions of
`ClientStateMachine.cpp` read and write: the connection's identity, the
outstanding packets and their bookkeeping, the flow-control state, the stream
manager, and the parameters negotiated with the server.

## Main Definitions

* `Outstandings`, `OutstandingPacket` — the outstanding-packet table and its
  counters.
* `StreamManager`, `ClientStream` — the streams and the local stream limits.
* `CachedServerTransportParameters` — the resumption record.
* `QuicClientConnectionState` — the connection.
* `ClientEnv` — the functions and constants the file calls but does not
  define.

## Design Notes

`StateData.h`, `ClientStateMachine.h`, `QuicStreamManager.cpp`,
`QuicFlowController.cpp`, `QuicLossFunctions.cpp` and `QuicConstants.h` are
not among the repository's files.  The records keep the fields the modelled
functions touch, under their source names.  The stream manager's two limit
setters, `handleStreamWindowUpdate`, `markZeroRttPacketsLost` and the
constants the spec does not fix are parameters, gathered in `ClientEnv`; a
limit setter maps the current limit and the requested one to the new limit or
an error, and touches nothing else.  Handles the code only moves or copies
(handshake factory, logger, observers, ciphers, congestion controller,
happy-eyeballs state) are left out.
-/

namespace Quic

/-- The QUIC versions; the parameter check treats the first four alike. -/
inductive QuicVersion
  | QUIC_V1
  | QUIC_V1_ALIAS
  | QUIC_V1_ALIAS2
  | MVFST_PRIMING
  | MVFST
  | QUIC_DRAFT
  | MVFST_EXPERIMENTAL
deriving DecidableEq, Repr, Inhabited

/-- The three packet-number spaces. -/
inductive PacketNumberSpace
  | Initial
  | Handshake
  | AppData
deriving DecidableEq, Repr

/-- The protection a packet header announces. -/
inductive ProtectionType
  | Initial
  | Handshake
  | ZeroRtt
  | KeyPhaseZero
  | KeyPhaseOne
deriving DecidableEq, Repr

/-- What `header.getPacketNumberSpace()` and `header.getProtectionType()`
return. -/
structure PacketHeader where
  packetNumberSpace : PacketNumberSpace
  protectionType : ProtectionType
deriving DecidableEq, Repr

/-- The packet a clone was cloned from, which names the clone's group. -/
structure ClonedPacketIdentifier where
  packetNumberSpace : PacketNumberSpace
  packetNumber : Nat
deriving DecidableEq, Repr

/-- An outstanding packet: its header, `metadata.encodedSize`, the clone group
it belongs to (`associatedEvent`), and whether it was declared lost. -/
structure OutstandingPacket where
  header : PacketHeader
  encodedSize : Nat
  associatedEvent : Option ClonedPacketIdentifier
  declaredLost : Bool
deriving DecidableEq, Repr

/-- The outstanding-packet table, its per-space counters, the count of packets
declared lost, and the clone groups in flight (`packetEvents`). -/
structure Outstandings where
  packets : List OutstandingPacket
  packetCount : PacketNumberSpace → Nat
  clonedPacketCount : PacketNumberSpace → Nat
  declaredLostCount : Nat
  packetEvents : List ClonedPacketIdentifier

/-- A new connection's table: no packets, every counter at zero. -/
def Outstandings.empty : Outstandings :=
  ⟨[], fun _ => 0, fun _ => 0, 0, []⟩

instance : Inhabited Outstandings := ⟨.empty⟩

/-- The field of `lossState` the bookkeeping involves; `lossState` is copied
whole. -/
structure LossState where
  inflightBytes : Nat
deriving DecidableEq, Repr, Inhabited

/-- The field of a packet-number space's ack state the retry copies. -/
structure AckState where
  nextPacketNum : Nat
deriving DecidableEq, Repr, Inhabited

/-- `AckReceiveTimestampsConfig`. -/
structure AckReceiveTimestampsConfig where
  maxReceiveTimestampsPerAck : Nat
  receiveTimestampsExponent : Nat
deriving DecidableEq, Repr, Inhabited

/-- The local transport settings the modelled functions read. -/
structure TransportSettings where
  canIgnorePathMTU : Bool
  maxReceiveTimestampsPerAckStored : Nat
  advertisedInitialBidiLocalStreamFlowControlWindow : Nat
  advertisedInitialBidiRemoteStreamFlowControlWindow : Nat
  advertisedInitialUniStreamFlowControlWindow : Nat
  maybeAckReceiveTimestampsConfigSentToPeer : Option AckReceiveTimestampsConfig
  advertisedExtendedAckFeatures : Nat
deriving DecidableEq, Repr, Inhabited

/-- The connection-level flow-control fields the server's parameters set. -/
structure ConnFlowControlState where
  peerAdvertisedMaxOffset : Nat
  peerAdvertisedInitialMaxStreamOffsetBidiLocal : Nat
  peerAdvertisedInitialMaxStreamOffsetBidiRemote : Nat
  peerAdvertisedInitialMaxStreamOffsetUni : Nat
deriving DecidableEq, Repr, Inhabited

/-- A stream's send-side flow control: how far the peer lets it send. -/
structure StreamFlowControlState where
  peerAdvertisedMaxOffset : Nat
deriving DecidableEq, Repr, Inhabited

/-- A stream as the parameter walk sees it. -/
structure ClientStream where
  id : Nat
  flowControlState : StreamFlowControlState
deriving DecidableEq, Repr, Inhabited

/-- The stream manager: the local stream limits and the open streams. -/
structure StreamManager where
  maxLocalBidirectionalStreams : Nat
  maxLocalUnidirectionalStreams : Nat
  streams : List ClientStream
deriving DecidableEq, Repr, Inhabited

/-- The parameters `setCodecParameters` gives the read codec. -/
structure CodecParameters where
  peerAckDelayExponent : Nat
  version : QuicVersion
  maybeAckReceiveTimestampsConfig : Option AckReceiveTimestampsConfig
  extendedAckFeatures : Nat
deriving DecidableEq, Repr, Inhabited

/-- The read codec: the connection identifiers it matches and its parameters. -/
structure ReadCodec where
  clientConnectionId : Option ConnectionId
  serverConnectionId : Option ConnectionId
  codecParameters : Option CodecParameters
deriving DecidableEq, Repr, Inhabited

/-- The largest DATAGRAM frame the peer accepts. -/
structure DatagramState where
  maxWriteFrameSize : Nat
deriving DecidableEq, Repr, Inhabited

/-- `CachedServerTransportParameters`, the record kept for resumption. -/
structure CachedServerTransportParameters where
  idleTimeout : Nat
  maxRecvPacketSize : Nat
  initialMaxData : Nat
  initialMaxStreamDataBidiLocal : Nat
  initialMaxStreamDataBidiRemote : Nat
  initialMaxStreamDataUni : Nat
  initialMaxStreamsBidi : Nat
  initialMaxStreamsUni : Nat
  knobFrameSupport : Bool
  ackReceiveTimestampsEnabled : Bool
  maxReceiveTimestampsPerAck : Nat
  receiveTimestampsExponent : Nat
  reliableStreamResetSupport : Bool
  extendedAckFeatures : Nat
deriving DecidableEq, Repr

/-- The client connection, on the fields `ClientStateMachine.cpp` touches. -/
structure QuicClientConnectionState where
  nodeType : QuicNodeType
  clientConnectionId : Option ConnectionId
  initialDestinationConnectionId : Option ConnectionId
  originalDestinationConnectionId : Option ConnectionId
  serverConnectionId : Option ConnectionId
  ackStates : PacketNumberSpace → AckState
  version : Option QuicVersion
  originalVersion : Option QuicVersion
  supportedVersions : List QuicVersion
  udpSendPacketLen : Nat
  transportSettings : TransportSettings
  readCodec : ReadCodec
  flowControlState : ConnFlowControlState
  outstandings : Outstandings
  lossState : LossState
  streamManager : StreamManager
  peerAdvertisedReliableStreamResetSupport : Bool
  peerAdvertisedInitialMaxStreamsBidi : Nat
  peerAdvertisedInitialMaxStreamsUni : Nat
  peerIdleTimeout : Nat
  peerAckDelayExponent : Nat
  peerMinAckDelay : Option Nat
  peerActiveConnectionIdLimit : Nat
  statelessResetToken : Option StatelessResetToken
  datagramState : DatagramState
  peerAdvertisedMaxStreamGroups : Nat
  maybePeerAckReceiveTimestampsConfig : Option AckReceiveTimestampsConfig
  peerAdvertisedKnobFrameSupport : Bool
  peerAdvertisedExtendedAckFeatures : Nat
  serverInitialParamsSet_ : Bool
  peerAdvertisedInitialMaxData : Nat
  peerAdvertisedInitialMaxStreamDataBidiLocal : Nat
  peerAdvertisedInitialMaxStreamDataBidiRemote : Nat
  peerAdvertisedInitialMaxStreamDataUni : Nat
deriving Inhabited

/-- Modelled from the spec: the default payload size, taken when the server
sends no `max_packet_size` or zero. -/
def kDefaultUDPSendPacketLen : Nat := 1252

/-- Modelled from the spec: the smallest `max_packet_size` accepted. -/
def kMinMaxUDPPayload : Nat := 1200

/-- Modelled from the spec: the largest `ack_delay_exponent` accepted. -/
def kMaxAckDelayExponent : Nat := 20

/-- What `ClientStateMachine.cpp` calls but does not define: the stream
manager's limit setters, `handleStreamWindowUpdate`, `markZeroRttPacketsLost`,
and the constants the spec leaves open. -/
structure ClientEnv where
  setMaxLocalBidirectionalStreams : Nat → Nat → Except QuicError Nat
  setMaxLocalUnidirectionalStreams : Nat → Nat → Except QuicError Nat
  handleStreamWindowUpdate : ClientStream → Nat → Nat → ClientStream
  markZeroRttPacketsLost : QuicClientConnectionState → Except QuicError QuicClientConnectionState
  kMaxIdleTimeout : Nat
  kDefaultAckDelayExponent : Nat
  kDefaultMaxUDPPayload : Nat
  kDefaultActiveConnectionIdLimit : Nat
  kMaxDatagramPacketOverhead : Nat

end Quic
