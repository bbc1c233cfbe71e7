import Mvfst.Client.State

/-!
# Undoing the client state for a Retry

`undoAllClientStateForRetry`: on a Retry the client builds a new connection,
copies over what survives a stateless retry, carries the zero-RTT packets
across, and marks them lost so that they are sent again under the new keys.

## Main Definitions

* `NewClientConnection` — a freshly constructed connection, which holds no
  outstanding packets.
* `copyZeroRttPacket` — one turn of the copy loop.
* `retryClientState` — the new connection as it stands when
  `markZeroRttPacketsLost` is called on it.
* `undoAllClientStateForRetry` — the whole function.
* `Outstandings.Consistent` — the bookkeeping the outstanding-packet counters
  and the in-flight byte count are meant to keep.

## Design Notes

The constructor of `QuicClientConnectionState` is not among the repository's
files; the new connection is a parameter, and what the spec says of it (all
state not copied is reset, so no packets are outstanding) is the invariant of
`NewClientConnection`.  Dereferencing an absent client connection id or
original version, and the `LOG(FATAL)` on a failed `markZeroRttPacketsLost`,
end the run: the function returns `none` there.
-/

namespace Quic

/-- Modelled from the spec: the connection
`std::make_unique<QuicClientConnectionState>(handshakeFactory)` builds, with
no outstanding packets. -/
structure NewClientConnection where
  state : QuicClientConnectionState
  noOutstandings : state.outstandings = Outstandings.empty

/-- An outstanding packet of the AppData space with zero-RTT protection. -/
def isZeroRttData (packet : OutstandingPacket) : Bool :=
  packet.header.packetNumberSpace == .AppData && packet.header.protectionType == .ZeroRtt

/-- One turn of the copy loop: a zero-RTT packet is appended and counted in
`packetCount[AppData]`; any other packet is dropped. -/
def copyZeroRttPacket (outstandings : Outstandings) (packet : OutstandingPacket) : Outstandings :=
  if isZeroRttData packet then
    { outstandings with
      packets := outstandings.packets ++ [packet]
      packetCount := Function.update outstandings.packetCount .AppData
        (outstandings.packetCount .AppData + 1) }
  else outstandings

/-- The connection `undoAllClientStateForRetry` has built when it calls
`markZeroRttPacketsLost`. -/
def retryClientState (newConn : NewClientConnection) (conn : QuicClientConnectionState) :
    Option QuicClientConnectionState := do
  let clientConnectionId ← conn.clientConnectionId
  let originalVersion ← conn.originalVersion
  let newConn := newConn.state
  pure { newConn with
    clientConnectionId := conn.clientConnectionId
    initialDestinationConnectionId := conn.initialDestinationConnectionId
    originalDestinationConnectionId := conn.originalDestinationConnectionId
    serverConnectionId := conn.serverConnectionId
    ackStates := fun space =>
      { newConn.ackStates space with nextPacketNum := (conn.ackStates space).nextPacketNum }
    version := conn.version
    originalVersion := conn.originalVersion
    udpSendPacketLen := conn.udpSendPacketLen
    supportedVersions := conn.supportedVersions
    transportSettings := conn.transportSettings
    readCodec :=
      { clientConnectionId := some clientConnectionId
        serverConnectionId := none
        codecParameters := some
          ⟨conn.peerAckDelayExponent, originalVersion,
            conn.transportSettings.maybeAckReceiveTimestampsConfigSentToPeer,
            conn.transportSettings.advertisedExtendedAckFeatures⟩ }
    flowControlState := conn.flowControlState
    outstandings := conn.outstandings.packets.foldl copyZeroRttPacket newConn.outstandings
    lossState := conn.lossState
    nodeType := conn.nodeType
    streamManager := conn.streamManager }

/-- `undoAllClientStateForRetry(conn)`. -/
def undoAllClientStateForRetry (env : ClientEnv) (newConn : NewClientConnection)
    (conn : QuicClientConnectionState) : Option QuicClientConnectionState := do
  let newConn ← retryClientState newConn conn
  match env.markZeroRttPacketsLost newConn with
  | .ok newConn => some newConn
  | .error _ => none

/-! ### The bookkeeping -/

/-- The bookkeeping of the outstanding-packet table: per space, `packetCount`
counts the packets that are neither clones nor declared lost and
`clonedPacketCount` the clones; `declaredLostCount` counts the packets
declared lost; `packetEvents` holds the clone groups of the clones; and the
in-flight byte count is the size of the packets not declared lost. -/
structure Outstandings.Consistent (outstandings : Outstandings) (inflightBytes : Nat) : Prop where
  packetCount : ∀ space, outstandings.packetCount space =
    (outstandings.packets.filter fun p => p.header.packetNumberSpace == space &&
      p.associatedEvent.isNone && !p.declaredLost).length
  clonedPacketCount : ∀ space, outstandings.clonedPacketCount space =
    (outstandings.packets.filter fun p => p.header.packetNumberSpace == space &&
      p.associatedEvent.isSome).length
  declaredLostCount : outstandings.declaredLostCount =
    (outstandings.packets.filter (·.declaredLost)).length
  packetEvents : ∀ event, event ∈ outstandings.packetEvents ↔
    ∃ p ∈ outstandings.packets, p.associatedEvent = some event
  inflightBytes : inflightBytes =
    ((outstandings.packets.filter fun p => !p.declaredLost).map (·.encodedSize)).sum

/-! ### The copy loop -/

/-- The copy loop appends the zero-RTT packets in order and counts each in
`packetCount[AppData]`, and touches nothing else. -/
theorem foldl_copyZeroRttPacket (packets : List OutstandingPacket) (outstandings : Outstandings) :
    packets.foldl copyZeroRttPacket outstandings =
      { outstandings with
        packets := outstandings.packets ++ packets.filter isZeroRttData
        packetCount := Function.update outstandings.packetCount .AppData
          (outstandings.packetCount .AppData + (packets.filter isZeroRttData).length) } := by
  induction packets generalizing outstandings with
  | nil => simp
  | cons packet packets ih =>
    rw [List.foldl_cons, ih]
    unfold copyZeroRttPacket
    split <;> rename_i zeroRtt <;>
      simp [List.filter_cons, zeroRtt, Function.update_idem, Nat.add_assoc, Nat.add_comm 1]

/-- The table of the new connection: exactly the zero-RTT packets, counted in
`packetCount[AppData]` and nowhere else. -/
theorem retryClientState_outstandings {newConn : NewClientConnection}
    {conn s : QuicClientConnectionState} (built : retryClientState newConn conn = some s) :
    s.outstandings =
      { packets := conn.outstandings.packets.filter isZeroRttData
        packetCount := Function.update (fun _ => 0) .AppData
          (conn.outstandings.packets.filter isZeroRttData).length
        clonedPacketCount := fun _ => 0
        declaredLostCount := 0
        packetEvents := [] } ∧
      s.lossState = conn.lossState := by
  unfold retryClientState at built
  cases cid : conn.clientConnectionId <;> cases version : conn.originalVersion <;>
    simp only [cid, version, Option.bind_eq_bind, Option.none_bind, Option.some_bind,
      reduceCtorEq, Option.pure_def, Option.some.injEq] at built
  subst built
  rw [foldl_copyZeroRttPacket, newConn.noOutstandings]
  exact ⟨by simp [Outstandings.empty], rfl⟩

theorem mem_filter_isZeroRttData {packet : OutstandingPacket} {packets : List OutstandingPacket}
    (mem : packet ∈ packets.filter isZeroRttData) : packet.header.packetNumberSpace = .AppData := by
  simp only [List.mem_filter, isZeroRttData, Bool.and_eq_true, beq_iff_eq] at mem
  exact mem.2.1

/-- The bytes of the packets not declared lost: those of the zero-RTT packets
and those of the rest. -/
theorem inflight_split (packets : List OutstandingPacket) :
    ((packets.filter fun p => !p.declaredLost).map (·.encodedSize)).sum =
      (((packets.filter isZeroRttData).filter fun p => !p.declaredLost).map (·.encodedSize)).sum +
        ((packets.filter fun p => !isZeroRttData p && !p.declaredLost).map (·.encodedSize)).sum := by
  induction packets with
  | nil => rfl
  | cons packet packets ih =>
    cases zeroRtt : isZeroRttData packet <;> cases lost : packet.declaredLost <;>
      simp [List.filter_cons, zeroRtt, lost, ih] <;> omega

/-! ### The bookkeeping after a Retry -/

/-- A client with one zero-RTT packet of 10 bytes and one one-RTT packet of 20
bytes in flight, its bookkeeping consistent: after the Retry only the first is
held, but the in-flight count is still 30. -/
theorem retryClientState_consistent_fails :
    ¬ ∀ (newConn : NewClientConnection) (conn s : QuicClientConnectionState),
      conn.outstandings.Consistent conn.lossState.inflightBytes →
      retryClientState newConn conn = some s →
      s.outstandings.packets = conn.outstandings.packets.filter isZeroRttData ∧
        s.outstandings.Consistent s.lossState.inflightBytes := by
  intro law
  let conn : QuicClientConnectionState := { (default : QuicClientConnectionState) with
    clientConnectionId := some [1]
    originalVersion := some .QUIC_V1
    outstandings :=
      ⟨[⟨⟨.AppData, .ZeroRtt⟩, 10, none, false⟩, ⟨⟨.AppData, .KeyPhaseZero⟩, 20, none, false⟩],
        Function.update (fun _ => 0) .AppData 2, fun _ => 0, 0, []⟩
    lossState := ⟨30⟩ }
  have consistent : conn.outstandings.Consistent conn.lossState.inflightBytes :=
    ⟨fun space => by cases space <;> rfl, fun space => by cases space <;> rfl, rfl,
      fun _ => by simp [conn], rfl⟩
  have inflight := (law ⟨default, rfl⟩ conn _ consistent rfl).2.inflightBytes
  revert inflight
  decide

/-- **The outstanding packets after a Retry.**  From a connection whose
bookkeeping is consistent, the new connection holds exactly the zero-RTT
packets, in order; `packetCount[AppData]` counts all of them, clones and
packets declared lost included, every other counter is zero, no clone group is
recorded, and the in-flight byte count is the old one.  So the bookkeeping is
consistent exactly when no carried packet is a clone or declared lost and the
old connection had no bytes in flight outside its zero-RTT packets. -/
theorem retryClientState_bookkeeping {newConn : NewClientConnection}
    {conn s : QuicClientConnectionState}
    (consistent : conn.outstandings.Consistent conn.lossState.inflightBytes)
    (built : retryClientState newConn conn = some s) :
    s.outstandings.packets = conn.outstandings.packets.filter isZeroRttData ∧
    (∀ space, s.outstandings.packetCount space =
      if space = .AppData then (conn.outstandings.packets.filter isZeroRttData).length else 0) ∧
    (∀ space, s.outstandings.clonedPacketCount space = 0) ∧
    s.outstandings.declaredLostCount = 0 ∧ s.outstandings.packetEvents = [] ∧
    s.lossState.inflightBytes = conn.lossState.inflightBytes ∧
    (s.outstandings.Consistent s.lossState.inflightBytes ↔
      (∀ p ∈ conn.outstandings.packets.filter isZeroRttData,
        p.associatedEvent = none ∧ p.declaredLost = false) ∧
      ((conn.outstandings.packets.filter fun p => !isZeroRttData p && !p.declaredLost).map
        (·.encodedSize)).sum = 0) := by
  obtain ⟨table, loss⟩ := retryClientState_outstandings built
  rw [table, loss]
  dsimp only
  have split := inflight_split conn.outstandings.packets
  have old := consistent.inflightBytes
  refine ⟨rfl, fun space => by simp [Function.update_apply], fun _ => rfl, rfl, rfl, rfl,
    ⟨fun carried => ⟨fun p mem => ?_, by
      have inflight := carried.inflightBytes
      dsimp only at inflight
      omega⟩,
      fun ⟨plain, rest⟩ => ⟨fun space => ?_, fun space => ?_, ?_, fun event => ?_, ?_⟩⟩⟩
  · have counted := carried.packetCount .AppData
    simp only [Function.update_same] at counted
    have counts := List.filter_length_eq_length.mp counted.symm p mem
    simp only [Bool.and_eq_true, Option.isNone_iff_eq_none, Bool.not_eq_true'] at counts
    exact ⟨counts.1.2, counts.2⟩
  · have appData : ∀ p ∈ conn.outstandings.packets.filter isZeroRttData,
        p.header.packetNumberSpace = .AppData := fun _ => mem_filter_isZeroRttData
    dsimp only
    rw [Function.update_apply]
    split_ifs with here
    · subst here
      exact congrArg List.length
        (List.filter_eq_self.mpr fun p mem => by simp [appData p mem, plain p mem]).symm
    · exact (List.length_eq_zero.mpr (List.filter_eq_nil_iff.mpr fun p mem => by
        simp [appData p mem, Ne.symm here])).symm
  · exact (List.length_eq_zero.mpr (List.filter_eq_nil_iff.mpr fun p mem => by
      simp [(plain p mem).1])).symm
  · exact (List.length_eq_zero.mpr (List.filter_eq_nil_iff.mpr fun p mem => by
      simp [(plain p mem).2])).symm
  · simp only [List.not_mem_nil, false_iff, not_exists, not_and]
    exact fun p mem => by simp [(plain p mem).1]
  · dsimp only
    omega

/-- The client with a zero-RTT packet of 10 bytes and a one-RTT packet of 20
bytes in flight is consistent, and its retried state is not. -/
theorem retryClientState_bookkeeping_oneRtt :
    let conn : QuicClientConnectionState := { (default : QuicClientConnectionState) with
      clientConnectionId := some [1]
      originalVersion := some .QUIC_V1
      outstandings :=
        ⟨[⟨⟨.AppData, .ZeroRtt⟩, 10, none, false⟩, ⟨⟨.AppData, .KeyPhaseZero⟩, 20, none, false⟩],
          Function.update (fun _ => 0) .AppData 2, fun _ => 0, 0, []⟩
      lossState := ⟨30⟩ }
    conn.outstandings.Consistent conn.lossState.inflightBytes ∧
      ∃ s, retryClientState ⟨default, rfl⟩ conn = some s ∧
        ¬ s.outstandings.Consistent s.lossState.inflightBytes := by
  intro conn
  have consistent : conn.outstandings.Consistent conn.lossState.inflightBytes :=
    ⟨fun space => by cases space <;> rfl, fun space => by cases space <;> rfl, rfl,
      fun _ => by simp [conn], rfl⟩
  refine ⟨consistent, _, rfl, fun carried => ?_⟩
  have rest := ((retryClientState_bookkeeping consistent rfl).2.2.2.2.2.2.mp carried).2
  revert rest
  decide

end Quic
