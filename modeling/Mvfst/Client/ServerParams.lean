import Mvfst.Client.State

/-!
# Ingesting the server's transport parameters

`processServerInitialParams`: read every parameter the client knows, check
them, and write what they say into the connection, then give every stream
opened before the handshake its initial window.

## Main Definitions

* `readServerInitialParams` — the reads, which come before any write.
* `timestampsConfig` — the receive-timestamps configuration all three
  parameter paths of the file build.
* `streamWindowSize` — the window the stream walk hands to
  `handleStreamWindowUpdate`.
* `processServerInitialParams` — the whole function.

## Design Notes

The function returns its `folly::Expected` result with the connection as the
call leaves it: a check that fails late returns after earlier fields were
written, as in the code.  `static_cast<uint8_t>` is `% 256`.
-/

namespace Quic

/-- The values `processServerInitialParams` reads before it writes anything,
under the names of the source's locals. -/
structure ServerInitialParams where
  maxData : Option Nat
  maxStreamDataBidiLocal : Option Nat
  maxStreamDataBidiRemote : Option Nat
  maxStreamDataUni : Option Nat
  idleTimeout : Option Nat
  maxStreamsBidi : Option Nat
  maxStreamsUni : Option Nat
  ackDelayExponent : Option Nat
  packetSize : Option Nat
  statelessResetToken : Option StatelessResetToken
  activeConnectionIdLimit : Option Nat
  maxDatagramFrameSize : Option Nat
  peerAdvertisedMaxStreamGroups : Option Nat
  minAckDelay : Option Nat
  isAckReceiveTimestampsEnabled : Option Nat
  maxReceiveTimestampsPerAck : Option Nat
  receiveTimestampsExponent : Option Nat
  knobFrameSupported : Option Nat
  extendedAckFeatures : Option Nat

/-- The first part of `processServerInitialParams`: each parameter read in
turn, the first failed read ending the call. -/
def readServerInitialParams (parameters : List TransportParameter) :
    Except QuicError ServerInitialParams := do
  let maxData ← getIntegerParameter .initial_max_data parameters
  let maxStreamDataBidiLocal ← getIntegerParameter .initial_max_stream_data_bidi_local parameters
  let maxStreamDataBidiRemote ←
    getIntegerParameter .initial_max_stream_data_bidi_remote parameters
  let maxStreamDataUni ← getIntegerParameter .initial_max_stream_data_uni parameters
  let idleTimeout ← getIntegerParameter .idle_timeout parameters
  let maxStreamsBidi ← getIntegerParameter .initial_max_streams_bidi parameters
  let maxStreamsUni ← getIntegerParameter .initial_max_streams_uni parameters
  let ackDelayExponent ← getIntegerParameter .ack_delay_exponent parameters
  let packetSize ← getIntegerParameter .max_packet_size parameters
  let statelessResetToken ← getStatelessResetTokenParameter parameters
  let activeConnectionIdLimit ← getIntegerParameter .active_connection_id_limit parameters
  let maxDatagramFrameSize ← getIntegerParameter .max_datagram_frame_size parameters
  let peerAdvertisedMaxStreamGroups ← getIntegerParameter .stream_groups_enabled parameters
  let minAckDelay ← getIntegerParameter .min_ack_delay parameters
  let isAckReceiveTimestampsEnabled ←
    getIntegerParameter .ack_receive_timestamps_enabled parameters
  let maxReceiveTimestampsPerAck ←
    getIntegerParameter .max_receive_timestamps_per_ack parameters
  let receiveTimestampsExponent ← getIntegerParameter .receive_timestamps_exponent parameters
  let knobFrameSupported ← getIntegerParameter .knob_frames_supported parameters
  let extendedAckFeatures ← getIntegerParameter .extended_ack_features parameters
  pure { maxData, maxStreamDataBidiLocal, maxStreamDataBidiRemote, maxStreamDataUni,
         idleTimeout, maxStreamsBidi, maxStreamsUni, ackDelayExponent, packetSize,
         statelessResetToken, activeConnectionIdLimit, maxDatagramFrameSize,
         peerAdvertisedMaxStreamGroups, minAckDelay, isAckReceiveTimestampsEnabled,
         maxReceiveTimestampsPerAck, receiveTimestampsExponent, knobFrameSupported,
         extendedAckFeatures }

/-- `AckReceiveTimestampsConfig{min(uint8(max), uint8(stored)),
max(uint8(exponent), uint8(0))}`, as the three parameter paths build it. -/
def timestampsConfig (maxReceiveTimestampsPerAck receiveTimestampsExponent
    maxReceiveTimestampsPerAckStored : Nat) : AckReceiveTimestampsConfig :=
  ⟨min (maxReceiveTimestampsPerAck % 256) (maxReceiveTimestampsPerAckStored % 256),
    max (receiveTimestampsExponent % 256) (0 % 256)⟩

/-- The window the stream walk hands to `handleStreamWindowUpdate` for stream
`id`. -/
def streamWindowSize (conn : QuicClientConnectionState) (id : Nat) : Nat :=
  if isUnidirectionalStream id then
    conn.transportSettings.advertisedInitialUniStreamFlowControlWindow
  else if isLocalStream conn.nodeType id then
    conn.transportSettings.advertisedInitialBidiLocalStreamFlowControlWindow
  else conn.transportSettings.advertisedInitialBidiRemoteStreamFlowControlWindow

/-- The reliable-reset parameter: present and empty, present with a payload
(an error), or absent. -/
def reliableStreamResetSupport (parameters : List TransportParameter) : Except QuicError Bool :=
  match findParameter parameters .reliable_stream_reset with
  | some tp =>
      if !tp.value.isEmpty then
        .error ⟨.TRANSPORT_PARAMETER_ERROR, "Reliable reset transport parameter must be empty"⟩
      else .ok true
  | none => .ok false

/-- The connection-identifier check, made for QUIC v1 and its aliases. -/
def checkInitialConnIds (conn : QuicClientConnectionState)
    (parameters : List TransportParameter) : Except QuicError Unit :=
  if conn.version == some .QUIC_V1 || conn.version == some .QUIC_V1_ALIAS ||
      conn.version == some .QUIC_V1_ALIAS2 || conn.version == some .MVFST_PRIMING then do
    let initialSourceConnId ← getConnIdParameter .initial_source_connection_id parameters
    let originalDestinationConnId ←
      getConnIdParameter .original_destination_connection_id parameters
    if initialSourceConnId.isNone || originalDestinationConnId.isNone ||
        initialSourceConnId != conn.readCodec.serverConnectionId ||
        originalDestinationConnId != conn.originalDestinationConnectionId then
      throw ⟨.TRANSPORT_PARAMETER_ERROR, "Initial CID does not match."⟩
  else pure ()

/-- The payload size the server allows: absent or zero means the default. -/
def maxPacketSize (packetSize : Option Nat) : Nat :=
  match packetSize with
  | none | some 0 => kDefaultUDPSendPacketLen
  | some size => size

/-- The last writes of `processServerInitialParams`, after every check:
stream groups, receive timestamps, knob frames and extended acks. -/
def finishServerInitialParams (p : ServerInitialParams) (conn : QuicClientConnectionState) :
    QuicClientConnectionState :=
  let conn := match p.peerAdvertisedMaxStreamGroups with
    | some groups => { conn with peerAdvertisedMaxStreamGroups := groups }
    | none => conn
  let conn :=
    if p.isAckReceiveTimestampsEnabled == some 1 then
      match p.maxReceiveTimestampsPerAck, p.receiveTimestampsExponent with
      | some maxReceiveTimestampsPerAck, some receiveTimestampsExponent =>
          { conn with
            maybePeerAckReceiveTimestampsConfig := some <|
              timestampsConfig maxReceiveTimestampsPerAck receiveTimestampsExponent
                conn.transportSettings.maxReceiveTimestampsPerAckStored }
      | _, _ => conn
    else conn
  { conn with
    peerAdvertisedKnobFrameSupport := decide (p.knobFrameSupported.getD 0 > 0)
    peerAdvertisedExtendedAckFeatures := p.extendedAckFeatures.getD 0 }

/-- `processServerInitialParams(conn, serverParams, packetNum)`. -/
def processServerInitialParams (env : ClientEnv) (conn : QuicClientConnectionState)
    (serverParams : List TransportParameter) (packetNum : Nat) :
    Except QuicError Unit × QuicClientConnectionState :=
  match readServerInitialParams serverParams with
  | .error error => (.error error, conn)
  | .ok p =>
  match reliableStreamResetSupport serverParams with
  | .error error => (.error error, conn)
  | .ok support =>
  let conn := { conn with peerAdvertisedReliableStreamResetSupport := support }
  match checkInitialConnIds conn serverParams with
  | .error error => (.error error, conn)
  | .ok () =>
  let packetSize := maxPacketSize p.packetSize
  if packetSize < kMinMaxUDPPayload then
    (.error ⟨.TRANSPORT_PARAMETER_ERROR,
      "Max packet size too small. received max_packetSize = " ++ toString packetSize⟩, conn)
  else
  let conn := { conn with flowControlState := { conn.flowControlState with
    peerAdvertisedMaxOffset := p.maxData.getD 0,
    peerAdvertisedInitialMaxStreamOffsetBidiLocal := p.maxStreamDataBidiLocal.getD 0,
    peerAdvertisedInitialMaxStreamOffsetBidiRemote := p.maxStreamDataBidiRemote.getD 0,
    peerAdvertisedInitialMaxStreamOffsetUni := p.maxStreamDataUni.getD 0 } }
  match env.setMaxLocalBidirectionalStreams conn.streamManager.maxLocalBidirectionalStreams
      (p.maxStreamsBidi.getD 0) with
  | .error error => (.error error, conn)
  | .ok limit =>
  let conn := { conn with
    streamManager := { conn.streamManager with maxLocalBidirectionalStreams := limit },
    peerAdvertisedInitialMaxStreamsBidi := p.maxStreamsBidi.getD 0 }
  match env.setMaxLocalUnidirectionalStreams conn.streamManager.maxLocalUnidirectionalStreams
      (p.maxStreamsUni.getD 0) with
  | .error error => (.error error, conn)
  | .ok limit =>
  let conn := { conn with
    streamManager := { conn.streamManager with maxLocalUnidirectionalStreams := limit },
    peerAdvertisedInitialMaxStreamsUni := p.maxStreamsUni.getD 0,
    peerIdleTimeout := min (p.idleTimeout.getD 0) env.kMaxIdleTimeout }
  if p.ackDelayExponent.any (· > kMaxAckDelayExponent) then
    (.error ⟨.TRANSPORT_PARAMETER_ERROR, "ack_delay_exponent too large"⟩, conn)
  else
  let conn := { conn with
    peerAckDelayExponent := p.ackDelayExponent.getD env.kDefaultAckDelayExponent,
    peerMinAckDelay := p.minAckDelay.or conn.peerMinAckDelay,
    udpSendPacketLen := if conn.transportSettings.canIgnorePathMTU then
      min packetSize env.kDefaultMaxUDPPayload else conn.udpSendPacketLen,
    peerActiveConnectionIdLimit :=
      p.activeConnectionIdLimit.getD env.kDefaultActiveConnectionIdLimit,
    statelessResetToken := p.statelessResetToken }
  let conn := { conn with streamManager := { conn.streamManager with
    streams := conn.streamManager.streams.map fun s =>
      env.handleStreamWindowUpdate s (streamWindowSize conn s.id) packetNum } }
  match p.maxDatagramFrameSize with
  | some size =>
      if 0 < size ∧ size ≤ env.kMaxDatagramPacketOverhead then
        (.error ⟨.TRANSPORT_PARAMETER_ERROR, "max_datagram_frame_size too small"⟩, conn)
      else (.ok (), finishServerInitialParams p
        { conn with datagramState := { conn.datagramState with maxWriteFrameSize := size } })
  | none => (.ok (), finishServerInitialParams p conn)

/-! ### What the call reads of the parameter list -/

/-- The reads see the list only through `findParameter`. -/
theorem readServerInitialParams_congr {parameters parameters' : List TransportParameter}
    (same : ∀ id, findParameter parameters id = findParameter parameters' id) :
    readServerInitialParams parameters = readServerInitialParams parameters' := by
  simp only [readServerInitialParams, getIntegerParameter, getStatelessResetTokenParameter, same]

/-- **The call reads the list only through lookups**: two lists that find the
same parameter for every identifier give the same result and connection. -/
theorem processServerInitialParams_congr (env : ClientEnv) (conn : QuicClientConnectionState)
    (packetNum : Nat) {parameters parameters' : List TransportParameter}
    (same : ∀ id, findParameter parameters id = findParameter parameters' id) :
    processServerInitialParams env conn parameters packetNum =
      processServerInitialParams env conn parameters' packetNum := by
  simp only [processServerInitialParams, readServerInitialParams_congr same,
    reliableStreamResetSupport, checkInitialConnIds, getConnIdParameter, same]

/-- **A server may send its parameters in any order**: reordering a list with
distinct identifiers changes neither the result nor the connection. -/
theorem processServerInitialParams_perm (env : ClientEnv) (conn : QuicClientConnectionState)
    (packetNum : Nat) {parameters parameters' : List TransportParameter}
    (perm : parameters.Perm parameters') (distinct : (parameters.map (·.parameter)).Nodup) :
    processServerInitialParams env conn parameters packetNum =
      processServerInitialParams env conn parameters' packetNum :=
  processServerInitialParams_congr env conn packetNum (findParameter_perm perm distinct)

theorem processServerInitialParams_perm_reverse :
    let env : ClientEnv :=
      { setMaxLocalBidirectionalStreams := fun _ limit => .ok limit
        setMaxLocalUnidirectionalStreams := fun _ limit => .ok limit
        handleStreamWindowUpdate := fun s _ _ => s
        markZeroRttPacketsLost := .ok
        kMaxIdleTimeout := 600000, kDefaultAckDelayExponent := 3, kDefaultMaxUDPPayload := 1452
        kDefaultActiveConnectionIdLimit := 2, kMaxDatagramPacketOverhead := 40 }
    let parameters : List TransportParameter :=
      [⟨.initial_max_data, [10]⟩, ⟨.idle_timeout, [20]⟩, ⟨.max_packet_size, [0x44, 0xb0]⟩]
    parameters.Perm parameters.reverse ∧ (parameters.map (·.parameter)).Nodup ∧
      processServerInitialParams env default parameters 0 =
        processServerInitialParams env default parameters.reverse 0 := by
  intro env parameters
  exact ⟨(List.reverse_perm _).symm, by decide,
    processServerInitialParams_perm env default 0 (List.reverse_perm _).symm (by decide)⟩

/-! ### What a successful call writes -/

/-- The receive-timestamps configuration the server's parameters ask for:
only `ack_receive_timestamps_enabled = 1` with both companions present. -/
def negotiatedTimestampsConfig (p : ServerInitialParams) (maxReceiveTimestampsPerAckStored : Nat) :
    Option AckReceiveTimestampsConfig :=
  if p.isAckReceiveTimestampsEnabled = some 1 then
    match p.maxReceiveTimestampsPerAck, p.receiveTimestampsExponent with
    | some maxReceiveTimestampsPerAck, some receiveTimestampsExponent =>
        some (timestampsConfig maxReceiveTimestampsPerAck receiveTimestampsExponent
          maxReceiveTimestampsPerAckStored)
    | _, _ => none
  else none

theorem finishServerInitialParams_eq (p : ServerInitialParams) (conn : QuicClientConnectionState) :
    finishServerInitialParams p conn =
      { conn with
        peerAdvertisedMaxStreamGroups :=
          p.peerAdvertisedMaxStreamGroups.getD conn.peerAdvertisedMaxStreamGroups
        maybePeerAckReceiveTimestampsConfig :=
          (negotiatedTimestampsConfig p conn.transportSettings.maxReceiveTimestampsPerAckStored).or
            conn.maybePeerAckReceiveTimestampsConfig
        peerAdvertisedKnobFrameSupport := decide (p.knobFrameSupported.getD 0 > 0)
        peerAdvertisedExtendedAckFeatures := p.extendedAckFeatures.getD 0 } := by
  unfold finishServerInitialParams negotiatedTimestampsConfig
  cases p.peerAdvertisedMaxStreamGroups <;>
    by_cases enabled : p.isAckReceiveTimestampsEnabled = some 1 <;>
    simp only [enabled, beq_iff_eq, if_true, if_false, Option.getD_some, Option.getD_none,
      Option.none_or] <;>
    split <;> rfl

@[simp] theorem checkInitialConnIds_setSupport (conn : QuicClientConnectionState) (support : Bool)
    (parameters : List TransportParameter) :
    checkInitialConnIds { conn with peerAdvertisedReliableStreamResetSupport := support }
      parameters = checkInitialConnIds conn parameters := rfl

/-- **A successful call.**  Every read and check passed, both limit setters
succeeded, and the connection is the old one with every field the function
writes set to its final value. -/
theorem processServerInitialParams_ok {env : ClientEnv} {conn conn' : QuicClientConnectionState}
    {serverParams : List TransportParameter} {packetNum : Nat}
    (ok : processServerInitialParams env conn serverParams packetNum = (.ok (), conn')) :
    ∃ p support bidi uni,
      readServerInitialParams serverParams = .ok p ∧
      reliableStreamResetSupport serverParams = .ok support ∧
      checkInitialConnIds conn serverParams = .ok () ∧
      kMinMaxUDPPayload ≤ maxPacketSize p.packetSize ∧
      env.setMaxLocalBidirectionalStreams conn.streamManager.maxLocalBidirectionalStreams
        (p.maxStreamsBidi.getD 0) = .ok bidi ∧
      env.setMaxLocalUnidirectionalStreams conn.streamManager.maxLocalUnidirectionalStreams
        (p.maxStreamsUni.getD 0) = .ok uni ∧
      p.ackDelayExponent.all (· ≤ kMaxAckDelayExponent) ∧
      p.maxDatagramFrameSize.all (fun size => size = 0 ∨ env.kMaxDatagramPacketOverhead < size) ∧
      conn' = { conn with
        peerAdvertisedReliableStreamResetSupport := support
        flowControlState := { conn.flowControlState with
          peerAdvertisedMaxOffset := p.maxData.getD 0
          peerAdvertisedInitialMaxStreamOffsetBidiLocal := p.maxStreamDataBidiLocal.getD 0
          peerAdvertisedInitialMaxStreamOffsetBidiRemote := p.maxStreamDataBidiRemote.getD 0
          peerAdvertisedInitialMaxStreamOffsetUni := p.maxStreamDataUni.getD 0 }
        streamManager :=
          { maxLocalBidirectionalStreams := bidi
            maxLocalUnidirectionalStreams := uni
            streams := conn.streamManager.streams.map fun s =>
              env.handleStreamWindowUpdate s (streamWindowSize conn s.id) packetNum }
        peerAdvertisedInitialMaxStreamsBidi := p.maxStreamsBidi.getD 0
        peerAdvertisedInitialMaxStreamsUni := p.maxStreamsUni.getD 0
        peerIdleTimeout := min (p.idleTimeout.getD 0) env.kMaxIdleTimeout
        peerAckDelayExponent := p.ackDelayExponent.getD env.kDefaultAckDelayExponent
        peerMinAckDelay := p.minAckDelay.or conn.peerMinAckDelay
        udpSendPacketLen := if conn.transportSettings.canIgnorePathMTU then
          min (maxPacketSize p.packetSize) env.kDefaultMaxUDPPayload else conn.udpSendPacketLen
        peerActiveConnectionIdLimit :=
          p.activeConnectionIdLimit.getD env.kDefaultActiveConnectionIdLimit
        statelessResetToken := p.statelessResetToken
        datagramState := match p.maxDatagramFrameSize with
          | some size => { conn.datagramState with maxWriteFrameSize := size }
          | none => conn.datagramState
        peerAdvertisedMaxStreamGroups :=
          p.peerAdvertisedMaxStreamGroups.getD conn.peerAdvertisedMaxStreamGroups
        maybePeerAckReceiveTimestampsConfig :=
          (negotiatedTimestampsConfig p conn.transportSettings.maxReceiveTimestampsPerAckStored).or
            conn.maybePeerAckReceiveTimestampsConfig
        peerAdvertisedKnobFrameSupport := decide (p.knobFrameSupported.getD 0 > 0)
        peerAdvertisedExtendedAckFeatures := p.extendedAckFeatures.getD 0 } := by
  unfold processServerInitialParams at ok
  cases read : readServerInitialParams serverParams with
  | error => simp only [read] at ok; cases ok
  | ok p =>
  simp only [read] at ok
  cases reliable : reliableStreamResetSupport serverParams with
  | error => simp only [reliable] at ok; cases ok
  | ok support =>
  simp only [reliable, checkInitialConnIds_setSupport] at ok
  cases checked : checkInitialConnIds conn serverParams with
  | error => simp only [checked] at ok; cases ok
  | ok =>
  by_cases small : maxPacketSize p.packetSize < kMinMaxUDPPayload
  · simp only [checked, small, if_true] at ok
    cases ok
  simp only [checked, small, if_false] at ok
  cases setBidi : env.setMaxLocalBidirectionalStreams conn.streamManager.maxLocalBidirectionalStreams
      (p.maxStreamsBidi.getD 0) with
  | error => simp only [setBidi] at ok; cases ok
  | ok bidi =>
  simp only [setBidi] at ok
  cases setUni : env.setMaxLocalUnidirectionalStreams conn.streamManager.maxLocalUnidirectionalStreams
      (p.maxStreamsUni.getD 0) with
  | error => simp only [setUni] at ok; cases ok
  | ok uni =>
  simp only [setUni] at ok
  by_cases tooLarge : p.ackDelayExponent.any (· > kMaxAckDelayExponent) = true
  · simp only [tooLarge, if_true] at ok
    cases ok
  simp only [tooLarge, Bool.false_eq_true, if_false] at ok
  have exponentOk : p.ackDelayExponent.all (· ≤ kMaxAckDelayExponent) = true := by
    revert tooLarge
    cases p.ackDelayExponent <;> simp
  refine ⟨p, support, bidi, uni, rfl, rfl, rfl, Nat.le_of_not_lt small, setBidi, setUni,
    exponentOk, ?_⟩
  cases datagram : p.maxDatagramFrameSize with
  | some size =>
    by_cases tooSmall : 0 < size ∧ size ≤ env.kMaxDatagramPacketOverhead
    · simp only [datagram, tooSmall, if_true] at ok
      cases ok
    simp only [datagram, tooSmall, if_false] at ok
    cases ok
    refine ⟨by simp only [datagram, Option.all_some, decide_eq_true_eq]; omega, ?_⟩
    rw [finishServerInitialParams_eq]
    rfl
  | none =>
    simp only [datagram] at ok
    cases ok
    refine ⟨rfl, ?_⟩
    rw [finishServerInitialParams_eq]
    rfl

/-- The converse of `processServerInitialParams_ok`: once every read and check
passes and both limit setters succeed, the call succeeds. -/
theorem processServerInitialParams_succeeds {env : ClientEnv} {conn : QuicClientConnectionState}
    {serverParams : List TransportParameter} {packetNum : Nat} {p : ServerInitialParams}
    {support : Bool} {bidi uni : Nat}
    (read : readServerInitialParams serverParams = .ok p)
    (reliable : reliableStreamResetSupport serverParams = .ok support)
    (checked : checkInitialConnIds conn serverParams = .ok ())
    (large : kMinMaxUDPPayload ≤ maxPacketSize p.packetSize)
    (setBidi : env.setMaxLocalBidirectionalStreams
      conn.streamManager.maxLocalBidirectionalStreams (p.maxStreamsBidi.getD 0) = .ok bidi)
    (setUni : env.setMaxLocalUnidirectionalStreams
      conn.streamManager.maxLocalUnidirectionalStreams (p.maxStreamsUni.getD 0) = .ok uni)
    (exponentOk : p.ackDelayExponent.all (· ≤ kMaxAckDelayExponent))
    (datagramOk : p.maxDatagramFrameSize.all
      (fun size => size = 0 ∨ env.kMaxDatagramPacketOverhead < size)) :
    ∃ conn', processServerInitialParams env conn serverParams packetNum = (.ok (), conn') := by
  have notSmall : ¬ maxPacketSize p.packetSize < kMinMaxUDPPayload := Nat.not_lt.mpr large
  have notLarge : p.ackDelayExponent.any (· > kMaxAckDelayExponent) = false := by
    revert exponentOk
    cases p.ackDelayExponent <;> simp
  unfold processServerInitialParams
  simp only [read, reliable, checkInitialConnIds_setSupport, checked, notSmall, if_false, setBidi,
    setUni, notLarge, Bool.false_eq_true]
  cases datagram : p.maxDatagramFrameSize with
  | none => exact ⟨_, rfl⟩
  | some size =>
    have fits : ¬ (0 < size ∧ size ≤ env.kMaxDatagramPacketOverhead) := by
      simp only [datagram, Option.all_some, decide_eq_true_eq] at datagramOk
      omega
    simp only [fits, if_false]
    exact ⟨_, rfl⟩

/-! ### What a failed call writes -/

/-- **A failed call writes only what the checks before its failure wrote.**
Whatever check fails, the connection it returns differs from the old one at
most in the reliable-reset support, the flow-control state, the stream
manager, the advertised stream limits, the idle timeout, the ack delay
exponent, the minimum ack delay, the UDP payload size, the connection-id limit
and the stateless reset token: a rejected parameter set never sets the
datagram frame size, the stream groups, the receive-timestamps configuration,
knob-frame support or extended-ack features, nor anything else. -/
theorem processServerInitialParams_error_frame {env : ClientEnv}
    {conn conn' : QuicClientConnectionState} {serverParams : List TransportParameter}
    {packetNum : Nat} {error : QuicError}
    (failed : processServerInitialParams env conn serverParams packetNum = (.error error, conn')) :
    conn' = { conn with
      peerAdvertisedReliableStreamResetSupport := conn'.peerAdvertisedReliableStreamResetSupport
      flowControlState := conn'.flowControlState
      streamManager := conn'.streamManager
      peerAdvertisedInitialMaxStreamsBidi := conn'.peerAdvertisedInitialMaxStreamsBidi
      peerAdvertisedInitialMaxStreamsUni := conn'.peerAdvertisedInitialMaxStreamsUni
      peerIdleTimeout := conn'.peerIdleTimeout
      peerAckDelayExponent := conn'.peerAckDelayExponent
      peerMinAckDelay := conn'.peerMinAckDelay
      udpSendPacketLen := conn'.udpSendPacketLen
      peerActiveConnectionIdLimit := conn'.peerActiveConnectionIdLimit
      statelessResetToken := conn'.statelessResetToken } := by
  unfold processServerInitialParams at failed
  split at failed
  · cases failed; rfl
  rename_i p _
  split at failed
  · cases failed; rfl
  dsimp only at failed
  split at failed
  · cases failed; rfl
  by_cases small : maxPacketSize p.packetSize < kMinMaxUDPPayload
  · rw [if_pos small] at failed
    cases failed; rfl
  rw [if_neg small] at failed
  split at failed
  · cases failed; rfl
  split at failed
  · cases failed; rfl
  by_cases large : p.ackDelayExponent.any (· > kMaxAckDelayExponent) = true
  · rw [if_pos large] at failed
    cases failed; rfl
  rw [if_neg large] at failed
  split at failed
  · rename_i size _
    by_cases tooSmall : 0 < size ∧ size ≤ env.kMaxDatagramPacketOverhead
    · rw [if_pos tooSmall] at failed
      cases failed; rfl
    rw [if_neg tooSmall] at failed
    cases failed
  · cases failed

/-- An `ack_delay_exponent` of 21 fails after the flow-control limits were
written. -/
theorem processServerInitialParams_error_frame_exponent :
    let env : ClientEnv :=
      { setMaxLocalBidirectionalStreams := fun _ limit => .ok limit
        setMaxLocalUnidirectionalStreams := fun _ limit => .ok limit
        handleStreamWindowUpdate := fun s _ _ => s
        markZeroRttPacketsLost := .ok
        kMaxIdleTimeout := 600000, kDefaultAckDelayExponent := 3, kDefaultMaxUDPPayload := 1452
        kDefaultActiveConnectionIdLimit := 2, kMaxDatagramPacketOverhead := 40 }
    let parameters : List TransportParameter :=
      [⟨.initial_max_data, [10]⟩, ⟨.max_packet_size, [0x44, 0xb0]⟩, ⟨.ack_delay_exponent, [21]⟩]
    ∃ error conn', processServerInitialParams env default parameters 0 = (.error error, conn') ∧
      error.message = "ack_delay_exponent too large" ∧
      conn'.flowControlState.peerAdvertisedMaxOffset = 10 ∧
      conn' = { (default : QuicClientConnectionState) with
        peerAdvertisedReliableStreamResetSupport := conn'.peerAdvertisedReliableStreamResetSupport
        flowControlState := conn'.flowControlState
        streamManager := conn'.streamManager
        peerAdvertisedInitialMaxStreamsBidi := conn'.peerAdvertisedInitialMaxStreamsBidi
        peerAdvertisedInitialMaxStreamsUni := conn'.peerAdvertisedInitialMaxStreamsUni
        peerIdleTimeout := conn'.peerIdleTimeout
        peerAckDelayExponent := conn'.peerAckDelayExponent
        peerMinAckDelay := conn'.peerMinAckDelay
        udpSendPacketLen := conn'.udpSendPacketLen
        peerActiveConnectionIdLimit := conn'.peerActiveConnectionIdLimit
        statelessResetToken := conn'.statelessResetToken } := by
  intro env parameters
  exact ⟨_, _, rfl, rfl, rfl,
    @processServerInitialParams_error_frame env default _ parameters 0 _ rfl⟩

/-! ### The windows of streams opened before the handshake -/

/-- The spec's reading of the stream walk, to compare with `streamWindowSize`:
the server's advertised initial limit for a client's stream of each type. -/
def serverInitialStreamLimit (p : ServerInitialParams) (id : Nat) : Nat :=
  if isUnidirectionalStream id then p.maxStreamDataUni.getD 0
  else if isClientStream id then p.maxStreamDataBidiRemote.getD 0
  else p.maxStreamDataBidiLocal.getD 0

/-- A client whose own window for the bidirectional streams it opens is 7,
with one such stream, and a server that allows 10 on it: the walk sets 7. -/
theorem streamWindows_serverLimits_fails :
    ¬ ∀ (env : ClientEnv) (conn conn' : QuicClientConnectionState)
        (serverParams : List TransportParameter) (packetNum : Nat) (p : ServerInitialParams),
      conn.nodeType = .Client → readServerInitialParams serverParams = .ok p →
      processServerInitialParams env conn serverParams packetNum = (.ok (), conn') →
      ∀ s ∈ conn.streamManager.streams, ∃ s' ∈ conn'.streamManager.streams,
        s'.id = s.id ∧ s'.flowControlState.peerAdvertisedMaxOffset = serverInitialStreamLimit p s.id := by
  intro law
  have walked := law
    { setMaxLocalBidirectionalStreams := fun _ limit => .ok limit
      setMaxLocalUnidirectionalStreams := fun _ limit => .ok limit
      handleStreamWindowUpdate := fun s window _ => { s with flowControlState := ⟨window⟩ }
      markZeroRttPacketsLost := .ok
      kMaxIdleTimeout := 600000, kDefaultAckDelayExponent := 3, kDefaultMaxUDPPayload := 1452
      kDefaultActiveConnectionIdLimit := 2, kMaxDatagramPacketOverhead := 40 }
    { (default : QuicClientConnectionState) with
      transportSettings := { (default : TransportSettings) with
        advertisedInitialBidiLocalStreamFlowControlWindow := 7 }
      streamManager := ⟨0, 0, [⟨0, ⟨0⟩⟩]⟩ }
    _ [⟨.initial_max_stream_data_bidi_remote, [10]⟩] 0 _ rfl rfl rfl ⟨0, ⟨0⟩⟩
    (List.mem_singleton_self _)
  revert walked
  decide

/-- **The stream walk hands each stream the client's own window.**  After an
accepted parameter list, every stream opened before the handshake has been
through `handleStreamWindowUpdate` with `streamWindowSize`: the client's
`advertisedInitialUniStreamFlowControlWindow`,
`advertisedInitialBidiLocalStreamFlowControlWindow` or
`advertisedInitialBidiRemoteStreamFlowControlWindow` by the stream's type,
never a value the server sent; so every accepted list leaves the same
streams. -/
theorem processServerInitialParams_streamWindows {env : ClientEnv}
    {conn conn' : QuicClientConnectionState} {serverParams : List TransportParameter}
    {packetNum : Nat}
    (accepted : processServerInitialParams env conn serverParams packetNum = (.ok (), conn')) :
    conn'.streamManager.streams = conn.streamManager.streams.map (fun s =>
      env.handleStreamWindowUpdate s (streamWindowSize conn s.id) packetNum) ∧
    ∀ (serverParams' : List TransportParameter) (conn'' : QuicClientConnectionState),
      processServerInitialParams env conn serverParams' packetNum = (.ok (), conn'') →
      conn''.streamManager.streams = conn'.streamManager.streams := by
  have walk : ∀ {serverParams' conn''},
      processServerInitialParams env conn serverParams' packetNum = (.ok (), conn'') →
      conn''.streamManager.streams = conn.streamManager.streams.map (fun s =>
        env.handleStreamWindowUpdate s (streamWindowSize conn s.id) packetNum) := by
    intro serverParams' conn'' accepted'
    obtain ⟨_, _, _, _, -, -, -, -, -, -, -, -, rfl⟩ := processServerInitialParams_ok accepted'
    rfl
  exact ⟨walk accepted, fun _ _ accepted' => (walk accepted').trans (walk accepted).symm⟩

theorem processServerInitialParams_streamWindows_client :
    let env : ClientEnv :=
      { setMaxLocalBidirectionalStreams := fun _ limit => .ok limit
        setMaxLocalUnidirectionalStreams := fun _ limit => .ok limit
        handleStreamWindowUpdate := fun s window _ => { s with flowControlState := ⟨window⟩ }
        markZeroRttPacketsLost := .ok
        kMaxIdleTimeout := 600000, kDefaultAckDelayExponent := 3, kDefaultMaxUDPPayload := 1452
        kDefaultActiveConnectionIdLimit := 2, kMaxDatagramPacketOverhead := 40 }
    let conn : QuicClientConnectionState :=
      { (default : QuicClientConnectionState) with
        transportSettings := { (default : TransportSettings) with
          advertisedInitialBidiLocalStreamFlowControlWindow := 7 }
        streamManager := ⟨0, 0, [⟨0, ⟨0⟩⟩]⟩ }
    ∃ conn', processServerInitialParams env conn
        [⟨.initial_max_stream_data_bidi_remote, [10]⟩] 0 = (.ok (), conn') ∧
      conn'.streamManager.streams = [⟨0, ⟨7⟩⟩] := by
  intro env conn
  exact ⟨_, rfl, (@processServerInitialParams_streamWindows env conn _
    [⟨.initial_max_stream_data_bidi_remote, [10]⟩] 0 rfl).1⟩

end Quic
