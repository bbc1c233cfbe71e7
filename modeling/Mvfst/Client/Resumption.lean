import Mvfst.Client.ServerParams

/-!
# Resumption: caching the server's parameters and seeding them back

`cacheServerInitialParams` stores what the server advertised,
`getServerCachedTransportParameters` turns the connection into the record kept
for a later connection, and `updateTransportParamsFromCachedEarlyParams` seeds
a resumed connection from that record so that zero-RTT data can be written
before the handshake completes.

## Main Definitions

* `cacheServerInitialParams`, `getServerCachedTransportParameters`,
  `updateTransportParamsFromCachedEarlyParams` — the three functions.

## Design Notes

`getServerCachedTransportParameters` starts from a default-constructed
`CachedServerTransportParameters`, whose header is not among the repository's
files: the default record is a parameter.  Its `DCHECK` is left out.

All three paths build the receive-timestamps configuration through
`timestampsConfig`, which casts the advertised count and the local ceiling to
`uint8_t` before taking their minimum, as the code does: a count of 256 or more
wraps (`timestamps_paths_wrap`).
-/

namespace Quic

/-- `cacheServerInitialParams(conn, ...)`. -/
def cacheServerInitialParams (conn : QuicClientConnectionState)
    (peerAdvertisedInitialMaxData peerAdvertisedInitialMaxStreamDataBidiLocal
      peerAdvertisedInitialMaxStreamDataBidiRemote peerAdvertisedInitialMaxStreamDataUni
      peerAdvertisedInitialMaxStreamsBidi peerAdvertisedInitialMaxStreamUni : Nat)
    (peerAdvertisedKnobFrameSupport peerAdvertisedAckReceiveTimestampsEnabled : Bool)
    (peerAdvertisedMaxReceiveTimestampsPerAck peerAdvertisedReceiveTimestampsExponent : Nat)
    (peerAdvertisedReliableStreamResetSupport : Bool) (peerAdvertisedExtendedAckFeatures : Nat) :
    QuicClientConnectionState :=
  { conn with
    serverInitialParamsSet_ := true
    peerAdvertisedInitialMaxData := peerAdvertisedInitialMaxData
    peerAdvertisedInitialMaxStreamDataBidiLocal := peerAdvertisedInitialMaxStreamDataBidiLocal
    peerAdvertisedInitialMaxStreamDataBidiRemote := peerAdvertisedInitialMaxStreamDataBidiRemote
    peerAdvertisedInitialMaxStreamDataUni := peerAdvertisedInitialMaxStreamDataUni
    peerAdvertisedInitialMaxStreamsBidi := peerAdvertisedInitialMaxStreamsBidi
    peerAdvertisedInitialMaxStreamsUni := peerAdvertisedInitialMaxStreamUni
    peerAdvertisedKnobFrameSupport := peerAdvertisedKnobFrameSupport
    peerAdvertisedReliableStreamResetSupport := peerAdvertisedReliableStreamResetSupport
    maybePeerAckReceiveTimestampsConfig :=
      if peerAdvertisedAckReceiveTimestampsEnabled then
        some (timestampsConfig peerAdvertisedMaxReceiveTimestampsPerAck
          peerAdvertisedReceiveTimestampsExponent
          conn.transportSettings.maxReceiveTimestampsPerAckStored)
      else none
    peerAdvertisedExtendedAckFeatures := peerAdvertisedExtendedAckFeatures }

/-- `getServerCachedTransportParameters(conn)`, from the default record
`init`. -/
def getServerCachedTransportParameters (init : CachedServerTransportParameters)
    (conn : QuicClientConnectionState) : CachedServerTransportParameters :=
  let transportParams := { init with
    idleTimeout := conn.peerIdleTimeout
    maxRecvPacketSize := conn.udpSendPacketLen
    initialMaxData := conn.peerAdvertisedInitialMaxData
    initialMaxStreamDataBidiLocal := conn.peerAdvertisedInitialMaxStreamDataBidiLocal
    initialMaxStreamDataBidiRemote := conn.peerAdvertisedInitialMaxStreamDataBidiRemote
    initialMaxStreamDataUni := conn.peerAdvertisedInitialMaxStreamDataUni
    initialMaxStreamsBidi := conn.peerAdvertisedInitialMaxStreamsBidi
    initialMaxStreamsUni := conn.peerAdvertisedInitialMaxStreamsUni
    knobFrameSupport := conn.peerAdvertisedKnobFrameSupport
    ackReceiveTimestampsEnabled := conn.maybePeerAckReceiveTimestampsConfig.isSome
    reliableStreamResetSupport := conn.peerAdvertisedReliableStreamResetSupport }
  let transportParams := match conn.maybePeerAckReceiveTimestampsConfig with
    | some config => { transportParams with
        maxReceiveTimestampsPerAck := config.maxReceiveTimestampsPerAck
        receiveTimestampsExponent := config.receiveTimestampsExponent }
    | none => transportParams
  { transportParams with extendedAckFeatures := conn.peerAdvertisedExtendedAckFeatures }

/-- `updateTransportParamsFromCachedEarlyParams(conn, transportParams)`. -/
def updateTransportParamsFromCachedEarlyParams (env : ClientEnv)
    (conn : QuicClientConnectionState) (transportParams : CachedServerTransportParameters) :
    Except QuicError Unit × QuicClientConnectionState :=
  let conn := { conn with
    peerIdleTimeout := transportParams.idleTimeout
    flowControlState := { conn.flowControlState with
      peerAdvertisedMaxOffset := transportParams.initialMaxData
      peerAdvertisedInitialMaxStreamOffsetBidiLocal := transportParams.initialMaxStreamDataBidiLocal
      peerAdvertisedInitialMaxStreamOffsetBidiRemote :=
        transportParams.initialMaxStreamDataBidiRemote
      peerAdvertisedInitialMaxStreamOffsetUni := transportParams.initialMaxStreamDataUni } }
  match env.setMaxLocalBidirectionalStreams conn.streamManager.maxLocalBidirectionalStreams
      transportParams.initialMaxStreamsBidi with
  | .error error => (.error error, conn)
  | .ok limit =>
  let conn := { conn with
    streamManager := { conn.streamManager with maxLocalBidirectionalStreams := limit } }
  match env.setMaxLocalUnidirectionalStreams conn.streamManager.maxLocalUnidirectionalStreams
      transportParams.initialMaxStreamsUni with
  | .error error => (.error error, conn)
  | .ok limit =>
  (.ok (), { conn with
    streamManager := { conn.streamManager with maxLocalUnidirectionalStreams := limit }
    peerAdvertisedKnobFrameSupport := transportParams.knobFrameSupport
    peerAdvertisedReliableStreamResetSupport := transportParams.reliableStreamResetSupport
    maybePeerAckReceiveTimestampsConfig :=
      if transportParams.ackReceiveTimestampsEnabled then
        some (timestampsConfig transportParams.maxReceiveTimestampsPerAck
          transportParams.receiveTimestampsExponent
          conn.transportSettings.maxReceiveTimestampsPerAckStored)
      else none
    peerAdvertisedExtendedAckFeatures := transportParams.extendedAckFeatures })

/-! ### What the three paths write -/

/-- The configuration the three paths build: both values cast to `uint8_t`
first, so each is taken modulo 256. -/
@[simp] theorem timestampsConfig_eq (maxReceiveTimestampsPerAck receiveTimestampsExponent
    maxReceiveTimestampsPerAckStored : Nat) :
    timestampsConfig maxReceiveTimestampsPerAck receiveTimestampsExponent
        maxReceiveTimestampsPerAckStored =
      ⟨min (maxReceiveTimestampsPerAck % 256) (maxReceiveTimestampsPerAckStored % 256),
        receiveTimestampsExponent % 256⟩ := by
  simp [timestampsConfig]

/-- A successful seeding: both limit setters succeeded, and the connection is
the old one with the cached values written. -/
theorem updateTransportParamsFromCachedEarlyParams_ok {env : ClientEnv}
    {conn conn' : QuicClientConnectionState} {transportParams : CachedServerTransportParameters}
    (ok : updateTransportParamsFromCachedEarlyParams env conn transportParams = (.ok (), conn')) :
    ∃ bidi uni,
      env.setMaxLocalBidirectionalStreams conn.streamManager.maxLocalBidirectionalStreams
        transportParams.initialMaxStreamsBidi = .ok bidi ∧
      env.setMaxLocalUnidirectionalStreams conn.streamManager.maxLocalUnidirectionalStreams
        transportParams.initialMaxStreamsUni = .ok uni ∧
      conn' = { conn with
        peerIdleTimeout := transportParams.idleTimeout
        flowControlState := { conn.flowControlState with
          peerAdvertisedMaxOffset := transportParams.initialMaxData
          peerAdvertisedInitialMaxStreamOffsetBidiLocal :=
            transportParams.initialMaxStreamDataBidiLocal
          peerAdvertisedInitialMaxStreamOffsetBidiRemote :=
            transportParams.initialMaxStreamDataBidiRemote
          peerAdvertisedInitialMaxStreamOffsetUni := transportParams.initialMaxStreamDataUni }
        streamManager := { conn.streamManager with
          maxLocalBidirectionalStreams := bidi
          maxLocalUnidirectionalStreams := uni }
        peerAdvertisedKnobFrameSupport := transportParams.knobFrameSupport
        peerAdvertisedReliableStreamResetSupport := transportParams.reliableStreamResetSupport
        maybePeerAckReceiveTimestampsConfig :=
          if transportParams.ackReceiveTimestampsEnabled then
            some (timestampsConfig transportParams.maxReceiveTimestampsPerAck
              transportParams.receiveTimestampsExponent
              conn.transportSettings.maxReceiveTimestampsPerAckStored)
          else none
        peerAdvertisedExtendedAckFeatures := transportParams.extendedAckFeatures } := by
  unfold updateTransportParamsFromCachedEarlyParams at ok
  cases setBidi : env.setMaxLocalBidirectionalStreams conn.streamManager.maxLocalBidirectionalStreams
      transportParams.initialMaxStreamsBidi with
  | error => simp only [setBidi] at ok; cases ok
  | ok bidi =>
  cases setUni : env.setMaxLocalUnidirectionalStreams conn.streamManager.maxLocalUnidirectionalStreams
      transportParams.initialMaxStreamsUni with
  | error => simp only [setBidi, setUni] at ok; cases ok
  | ok uni =>
  simp only [setBidi, setUni] at ok
  cases ok
  exact ⟨bidi, uni, rfl, rfl, rfl⟩

/-- What `getServerCachedTransportParameters` returns after
`cacheServerInitialParams`. -/
theorem getServerCachedTransportParameters_cacheServerInitialParams
    (init : CachedServerTransportParameters) (conn : QuicClientConnectionState)
    (maxData bidiLocal bidiRemote uni streamsBidi streamsUni : Nat) (knob enabled : Bool)
    (maxPerAck exponent : Nat) (reliable : Bool) (extendedAck : Nat) :
    getServerCachedTransportParameters init
        (cacheServerInitialParams conn maxData bidiLocal bidiRemote uni streamsBidi streamsUni
          knob enabled maxPerAck exponent reliable extendedAck) =
      { idleTimeout := conn.peerIdleTimeout
        maxRecvPacketSize := conn.udpSendPacketLen
        initialMaxData := maxData
        initialMaxStreamDataBidiLocal := bidiLocal
        initialMaxStreamDataBidiRemote := bidiRemote
        initialMaxStreamDataUni := uni
        initialMaxStreamsBidi := streamsBidi
        initialMaxStreamsUni := streamsUni
        knobFrameSupport := knob
        ackReceiveTimestampsEnabled := enabled
        maxReceiveTimestampsPerAck := if enabled then
          min (maxPerAck % 256) (conn.transportSettings.maxReceiveTimestampsPerAckStored % 256)
          else init.maxReceiveTimestampsPerAck
        receiveTimestampsExponent := if enabled then exponent % 256
          else init.receiveTimestampsExponent
        reliableStreamResetSupport := reliable
        extendedAckFeatures := extendedAck } := by
  cases enabled <;> simp [getServerCachedTransportParameters, cacheServerInitialParams]

/-! ### Resumption round trip -/

/-- **Resumption restores what was cached.**  A connection seeded from the
record `getServerCachedTransportParameters` makes after
`cacheServerInitialParams` has the cached idle timeout and flow-control
limits, the stream limits the setters make of the cached stream counts, the
cached knob-frame, reliable-reset and extended-ack support, and, under the
same timestamp ceiling, the receive-timestamps configuration the cache held. -/
theorem resumption_restores {env : ClientEnv} {init : CachedServerTransportParameters}
    {conn resumed resumed' : QuicClientConnectionState}
    {maxData bidiLocal bidiRemote uni streamsBidi streamsUni : Nat} {knob enabled : Bool}
    {maxPerAck exponent : Nat} {reliable : Bool} {extendedAck : Nat}
    (sameCeiling : resumed.transportSettings.maxReceiveTimestampsPerAckStored =
      conn.transportSettings.maxReceiveTimestampsPerAckStored)
    (seeded : updateTransportParamsFromCachedEarlyParams env resumed
      (getServerCachedTransportParameters init
        (cacheServerInitialParams conn maxData bidiLocal bidiRemote uni streamsBidi streamsUni
          knob enabled maxPerAck exponent reliable extendedAck)) = (.ok (), resumed')) :
    resumed'.peerIdleTimeout = conn.peerIdleTimeout ∧
    resumed'.flowControlState = ⟨maxData, bidiLocal, bidiRemote, uni⟩ ∧
    env.setMaxLocalBidirectionalStreams resumed.streamManager.maxLocalBidirectionalStreams
      streamsBidi = .ok resumed'.streamManager.maxLocalBidirectionalStreams ∧
    env.setMaxLocalUnidirectionalStreams resumed.streamManager.maxLocalUnidirectionalStreams
      streamsUni = .ok resumed'.streamManager.maxLocalUnidirectionalStreams ∧
    resumed'.peerAdvertisedKnobFrameSupport = knob ∧
    resumed'.peerAdvertisedReliableStreamResetSupport = reliable ∧
    resumed'.peerAdvertisedExtendedAckFeatures = extendedAck ∧
    resumed'.maybePeerAckReceiveTimestampsConfig =
      (cacheServerInitialParams conn maxData bidiLocal bidiRemote uni streamsBidi streamsUni
        knob enabled maxPerAck exponent reliable extendedAck).maybePeerAckReceiveTimestampsConfig := by
  obtain ⟨_, _, setBidi, setUni, rfl⟩ := updateTransportParamsFromCachedEarlyParams_ok seeded
  rw [getServerCachedTransportParameters_cacheServerInitialParams] at setBidi setUni ⊢
  refine ⟨rfl, rfl, setBidi, setUni, rfl, rfl, rfl, ?_⟩
  cases enabled
  · simp [cacheServerInitialParams]
  · simp only [cacheServerInitialParams, if_true, timestampsConfig_eq, sameCeiling,
      Option.some.injEq, AckReceiveTimestampsConfig.mk.injEq, Nat.mod_mod]
    exact ⟨by rw [Nat.mod_eq_of_lt (by omega), Nat.min_eq_left (Nat.min_le_right _ _)], trivial⟩

/-- A connection with timestamp ceiling 10 caches what a server advertised,
with receive timestamps on (5 per ack, exponent 3), and resumes from the
record: it gets back the flow-control limits and the configuration `⟨5, 3⟩`. -/
theorem resumption_restores_cached :
    let env : ClientEnv :=
      { setMaxLocalBidirectionalStreams := fun _ limit => .ok limit
        setMaxLocalUnidirectionalStreams := fun _ limit => .ok limit
        handleStreamWindowUpdate := fun s _ _ => s
        markZeroRttPacketsLost := .ok
        kMaxIdleTimeout := 600000, kDefaultAckDelayExponent := 3, kDefaultMaxUDPPayload := 1452
        kDefaultActiveConnectionIdLimit := 2, kMaxDatagramPacketOverhead := 40 }
    let init : CachedServerTransportParameters :=
      { idleTimeout := 0, maxRecvPacketSize := 0, initialMaxData := 0
        initialMaxStreamDataBidiLocal := 0, initialMaxStreamDataBidiRemote := 0
        initialMaxStreamDataUni := 0, initialMaxStreamsBidi := 0, initialMaxStreamsUni := 0
        knobFrameSupport := false, ackReceiveTimestampsEnabled := false
        maxReceiveTimestampsPerAck := 0, receiveTimestampsExponent := 0
        reliableStreamResetSupport := false, extendedAckFeatures := 0 }
    let conn : QuicClientConnectionState :=
      { (default : QuicClientConnectionState) with
        transportSettings := { (default : TransportSettings) with
          maxReceiveTimestampsPerAckStored := 10 } }
    ∃ resumed', updateTransportParamsFromCachedEarlyParams env conn
        (getServerCachedTransportParameters init
          (cacheServerInitialParams conn 1000 100 100 100 4 4 false true 5 3 false 0)) =
          (.ok (), resumed') ∧
      resumed'.flowControlState = ⟨1000, 100, 100, 100⟩ ∧
      resumed'.maybePeerAckReceiveTimestampsConfig = some ⟨5, 3⟩ := by
  intro env init conn
  have restored := @resumption_restores env init conn conn _ 1000 100 100 100 4 4 false true 5 3
    false 0 rfl rfl
  exact ⟨_, rfl, restored.2.1, restored.2.2.2.2.2.2.2⟩

/-! ### Receive timestamps on the three paths -/

/-- A server advertises 256 receive timestamps per ack (the varint
`0x41 0x00`) with exponent 3 to a client whose ceiling is 10.  On each of the
three paths the client configures 0 timestamps per ack, not the
`min(256, 10) = 10` the ceiling allows: the `uint8_t` cast of 256 wraps to 0
before `std::min` sees it. -/
theorem timestamps_paths_wrap :
    let env : ClientEnv :=
      { setMaxLocalBidirectionalStreams := fun _ limit => .ok limit
        setMaxLocalUnidirectionalStreams := fun _ limit => .ok limit
        handleStreamWindowUpdate := fun s _ _ => s
        markZeroRttPacketsLost := .ok
        kMaxIdleTimeout := 600000, kDefaultAckDelayExponent := 3, kDefaultMaxUDPPayload := 1452
        kDefaultActiveConnectionIdLimit := 2, kMaxDatagramPacketOverhead := 40 }
    let conn : QuicClientConnectionState :=
      { (default : QuicClientConnectionState) with
        transportSettings := { (default : TransportSettings) with
          maxReceiveTimestampsPerAckStored := 10 } }
    let serverParams : List TransportParameter :=
      [⟨.ack_receive_timestamps_enabled, [1]⟩, ⟨.max_receive_timestamps_per_ack, [0x41, 0x00]⟩,
        ⟨.receive_timestamps_exponent, [3]⟩]
    let cached : CachedServerTransportParameters :=
      { idleTimeout := 30000, maxRecvPacketSize := 1252, initialMaxData := 1000
        initialMaxStreamDataBidiLocal := 100, initialMaxStreamDataBidiRemote := 100
        initialMaxStreamDataUni := 100, initialMaxStreamsBidi := 4, initialMaxStreamsUni := 4
        knobFrameSupport := false, ackReceiveTimestampsEnabled := true
        maxReceiveTimestampsPerAck := 256, receiveTimestampsExponent := 3
        reliableStreamResetSupport := false, extendedAckFeatures := 0 }
    let cachedConn := cacheServerInitialParams conn 1000 100 100 100 4 4 false true 256 3 false 0
    ∃ processed seeded,
      processServerInitialParams env conn serverParams 0 = (.ok (), processed) ∧
      updateTransportParamsFromCachedEarlyParams env conn cached = (.ok (), seeded) ∧
      processed.maybePeerAckReceiveTimestampsConfig = some ⟨0, 3⟩ ∧
      cachedConn.maybePeerAckReceiveTimestampsConfig = some ⟨0, 3⟩ ∧
      seeded.maybePeerAckReceiveTimestampsConfig = some ⟨0, 3⟩ ∧
      (some ⟨0, 3⟩ : Option AckReceiveTimestampsConfig) ≠
        some ⟨min 256 conn.transportSettings.maxReceiveTimestampsPerAckStored, 3⟩ :=
  ⟨_, _, rfl, rfl, rfl, rfl, rfl, by decide⟩

/-! ### Seeded values the server's parameters leave in place -/

/-- **Two runs on one parameter list.**  Whatever two connections with the
same timestamp ceiling held before, once both accept the same server
parameters they agree on the idle timeout, the connection flow-control
offsets, and knob-frame, reliable-reset and extended-ack support; they agree on
the receive-timestamps configuration exactly when the server negotiated one or
they already agreed on it; and they agree on the local stream limits when the
limit setters do not read the current limit. -/
theorem processServerInitialParams_overwrites {env : ClientEnv}
    {conn₁ conn₂ conn₁' conn₂' : QuicClientConnectionState}
    {serverParams : List TransportParameter} {packetNum₁ packetNum₂ : Nat}
    (sameCeiling : conn₁.transportSettings.maxReceiveTimestampsPerAckStored =
      conn₂.transportSettings.maxReceiveTimestampsPerAckStored)
    (ok₁ : processServerInitialParams env conn₁ serverParams packetNum₁ = (.ok (), conn₁'))
    (ok₂ : processServerInitialParams env conn₂ serverParams packetNum₂ = (.ok (), conn₂')) :
    conn₁'.peerIdleTimeout = conn₂'.peerIdleTimeout ∧
    conn₁'.flowControlState = conn₂'.flowControlState ∧
    conn₁'.peerAdvertisedKnobFrameSupport = conn₂'.peerAdvertisedKnobFrameSupport ∧
    conn₁'.peerAdvertisedReliableStreamResetSupport =
      conn₂'.peerAdvertisedReliableStreamResetSupport ∧
    conn₁'.peerAdvertisedExtendedAckFeatures = conn₂'.peerAdvertisedExtendedAckFeatures ∧
    (conn₁'.maybePeerAckReceiveTimestampsConfig = conn₂'.maybePeerAckReceiveTimestampsConfig ↔
      (∃ p, readServerInitialParams serverParams = .ok p ∧
        (negotiatedTimestampsConfig p
          conn₂.transportSettings.maxReceiveTimestampsPerAckStored).isSome) ∨
      conn₁.maybePeerAckReceiveTimestampsConfig = conn₂.maybePeerAckReceiveTimestampsConfig) ∧
    ((∀ current current' requested,
        env.setMaxLocalBidirectionalStreams current requested =
          env.setMaxLocalBidirectionalStreams current' requested ∧
        env.setMaxLocalUnidirectionalStreams current requested =
          env.setMaxLocalUnidirectionalStreams current' requested) →
      conn₁'.streamManager.maxLocalBidirectionalStreams =
        conn₂'.streamManager.maxLocalBidirectionalStreams ∧
      conn₁'.streamManager.maxLocalUnidirectionalStreams =
        conn₂'.streamManager.maxLocalUnidirectionalStreams) := by
  obtain ⟨p, support, bidi₁, uni₁, read, reliable, -, -, setBidi₁, setUni₁, -, -, rfl⟩ :=
    processServerInitialParams_ok ok₁
  obtain ⟨p', support', bidi₂, uni₂, read', reliable', -, -, setBidi₂, setUni₂, -, -, rfl⟩ :=
    processServerInitialParams_ok ok₂
  obtain rfl : p = p' := Except.ok.inj (read.symm.trans read')
  obtain rfl : support = support' := Except.ok.inj (reliable.symm.trans reliable')
  refine ⟨rfl, rfl, rfl, rfl, rfl, ?_, fun ignores => ?_⟩
  · rw [sameCeiling]
    cases negotiated : negotiatedTimestampsConfig p
      conn₂.transportSettings.maxReceiveTimestampsPerAckStored <;>
      simp [read, negotiated]
  · have bidi := (ignores conn₁.streamManager.maxLocalBidirectionalStreams
      conn₂.streamManager.maxLocalBidirectionalStreams (p.maxStreamsBidi.getD 0)).1
    have uni := (ignores conn₁.streamManager.maxLocalUnidirectionalStreams
      conn₂.streamManager.maxLocalUnidirectionalStreams (p.maxStreamsUni.getD 0)).2
    exact ⟨Except.ok.inj (setBidi₁.symm.trans (bidi.trans setBidi₂)),
      Except.ok.inj (setUni₁.symm.trans (uni.trans setUni₂))⟩

theorem processServerInitialParams_overwrites_seeded :
    let env : ClientEnv :=
      { setMaxLocalBidirectionalStreams := fun _ limit => .ok limit
        setMaxLocalUnidirectionalStreams := fun _ limit => .ok limit
        handleStreamWindowUpdate := fun s _ _ => s
        markZeroRttPacketsLost := .ok
        kMaxIdleTimeout := 600000, kDefaultAckDelayExponent := 3, kDefaultMaxUDPPayload := 1452
        kDefaultActiveConnectionIdLimit := 2, kMaxDatagramPacketOverhead := 40 }
    let seeded : QuicClientConnectionState :=
      { (default : QuicClientConnectionState) with
        peerIdleTimeout := 9, flowControlState := ⟨1, 2, 3, 4⟩ }
    ∃ conn₁' conn₂', processServerInitialParams env default [⟨.idle_timeout, [20]⟩] 0 = (.ok (), conn₁') ∧
      processServerInitialParams env seeded [⟨.idle_timeout, [20]⟩] 1 = (.ok (), conn₂') ∧
      conn₁'.peerIdleTimeout = conn₂'.peerIdleTimeout ∧
      conn₁'.flowControlState = conn₂'.flowControlState := by
  intro env seeded
  obtain ⟨idle, flow, -⟩ := @processServerInitialParams_overwrites env default seeded _ _
    [⟨.idle_timeout, [20]⟩] 0 1 rfl rfl rfl
  exact ⟨_, _, rfl, rfl, idle, flow⟩

/-- A client resumes from a record that had receive timestamps on, and the
server's parameters no longer mention them.  Seeding and ingesting both
succeed, and the resumed connection keeps the seeded configuration, where the
same connection without seeding has none: `processServerInitialParams` writes
`maybePeerAckReceiveTimestampsConfig` only when the server enables the
extension and never clears it, unlike `cacheServerInitialParams` and
`updateTransportParamsFromCachedEarlyParams`, which set it to none otherwise. -/
theorem processServerInitialParams_keeps_seeded_timestamps :
    let env : ClientEnv :=
      { setMaxLocalBidirectionalStreams := fun _ limit => .ok limit
        setMaxLocalUnidirectionalStreams := fun _ limit => .ok limit
        handleStreamWindowUpdate := fun s _ _ => s
        markZeroRttPacketsLost := .ok
        kMaxIdleTimeout := 600000, kDefaultAckDelayExponent := 3, kDefaultMaxUDPPayload := 1452
        kDefaultActiveConnectionIdLimit := 2, kMaxDatagramPacketOverhead := 40 }
    let conn : QuicClientConnectionState :=
      { (default : QuicClientConnectionState) with
        transportSettings := { (default : TransportSettings) with
          maxReceiveTimestampsPerAckStored := 10 } }
    let cached : CachedServerTransportParameters :=
      { idleTimeout := 30000, maxRecvPacketSize := 1252, initialMaxData := 1000
        initialMaxStreamDataBidiLocal := 100, initialMaxStreamDataBidiRemote := 100
        initialMaxStreamDataUni := 100, initialMaxStreamsBidi := 4, initialMaxStreamsUni := 4
        knobFrameSupport := false, ackReceiveTimestampsEnabled := true
        maxReceiveTimestampsPerAck := 5, receiveTimestampsExponent := 3
        reliableStreamResetSupport := false, extendedAckFeatures := 0 }
    let serverParams : List TransportParameter :=
      [⟨.initial_max_data, [0x43, 0xe8]⟩, ⟨.initial_max_streams_bidi, [4]⟩]
    ∃ seeded resumed fresh,
      updateTransportParamsFromCachedEarlyParams env conn cached = (.ok (), seeded) ∧
      processServerInitialParams env seeded serverParams 0 = (.ok (), resumed) ∧
      processServerInitialParams env conn serverParams 0 = (.ok (), fresh) ∧
      resumed.maybePeerAckReceiveTimestampsConfig = some ⟨5, 3⟩ ∧
      fresh.maybePeerAckReceiveTimestampsConfig = none :=
  ⟨_, _, _, rfl, rfl, rfl, rfl, rfl⟩

end Quic
