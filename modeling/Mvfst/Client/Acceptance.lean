import Mvfst.Client.ServerParams

/-!
# Which parameter lists the client accepts

`processServerInitialParams` either accepts the server's transport parameters
or fails with the first check that does not pass.  This module states its
checks as one condition per rule, in no particular order, and shows the call
succeeds exactly when all of them hold.

## Main Definitions

* `integerParameterIds` — the integer parameters the call reads.
* `ServerParamsAcceptable` — the rules, one field each.

## Design Notes

Each stage of the call gets its own lemma relating the model's reader or check
to the rule it implements (`readServerInitialParams_eq_ok`,
`reliableStreamResetSupport_isOk`, `checkInitialConnIds_eq_ok`); the main
theorem only combines them with the success lemma
`processServerInitialParams_ok` and its converse.  A connection id is
"present" when its parameter reads as a connection id.
-/

namespace Quic

/-- The integer parameters `processServerInitialParams` reads, in its order. -/
def integerParameterIds : List TransportParameterId :=
  [.initial_max_data, .initial_max_stream_data_bidi_local, .initial_max_stream_data_bidi_remote,
    .initial_max_stream_data_uni, .idle_timeout, .initial_max_streams_bidi,
    .initial_max_streams_uni, .ack_delay_exponent, .max_packet_size,
    .active_connection_id_limit, .max_datagram_frame_size, .stream_groups_enabled,
    .min_ack_delay, .ack_receive_timestamps_enabled, .max_receive_timestamps_per_ack,
    .receive_timestamps_exponent, .knob_frames_supported, .extended_ack_features]

/-! ### The reads -/

theorem except_bind_eq_ok {ε α β : Type} {x : Except ε α} {f : α → Except ε β} {b : β} :
    x >>= f = .ok b ↔ ∃ a, x = .ok a ∧ f a = .ok b := by
  cases x <;> simp [bind, Except.bind]

/-- **The reads succeed** exactly when every reader returns the field it
fills. -/
theorem readServerInitialParams_eq_ok {parameters : List TransportParameter}
    {p : ServerInitialParams} :
    readServerInitialParams parameters = .ok p ↔
      getIntegerParameter .initial_max_data parameters = .ok p.maxData ∧
      getIntegerParameter .initial_max_stream_data_bidi_local parameters =
        .ok p.maxStreamDataBidiLocal ∧
      getIntegerParameter .initial_max_stream_data_bidi_remote parameters =
        .ok p.maxStreamDataBidiRemote ∧
      getIntegerParameter .initial_max_stream_data_uni parameters = .ok p.maxStreamDataUni ∧
      getIntegerParameter .idle_timeout parameters = .ok p.idleTimeout ∧
      getIntegerParameter .initial_max_streams_bidi parameters = .ok p.maxStreamsBidi ∧
      getIntegerParameter .initial_max_streams_uni parameters = .ok p.maxStreamsUni ∧
      getIntegerParameter .ack_delay_exponent parameters = .ok p.ackDelayExponent ∧
      getIntegerParameter .max_packet_size parameters = .ok p.packetSize ∧
      getStatelessResetTokenParameter parameters = .ok p.statelessResetToken ∧
      getIntegerParameter .active_connection_id_limit parameters =
        .ok p.activeConnectionIdLimit ∧
      getIntegerParameter .max_datagram_frame_size parameters = .ok p.maxDatagramFrameSize ∧
      getIntegerParameter .stream_groups_enabled parameters =
        .ok p.peerAdvertisedMaxStreamGroups ∧
      getIntegerParameter .min_ack_delay parameters = .ok p.minAckDelay ∧
      getIntegerParameter .ack_receive_timestamps_enabled parameters =
        .ok p.isAckReceiveTimestampsEnabled ∧
      getIntegerParameter .max_receive_timestamps_per_ack parameters =
        .ok p.maxReceiveTimestampsPerAck ∧
      getIntegerParameter .receive_timestamps_exponent parameters =
        .ok p.receiveTimestampsExponent ∧
      getIntegerParameter .knob_frames_supported parameters = .ok p.knobFrameSupported ∧
      getIntegerParameter .extended_ack_features parameters = .ok p.extendedAckFeatures := by
  simp only [readServerInitialParams, except_bind_eq_ok, pure, Except.pure, Except.ok.injEq]
  constructor
  · rintro ⟨_, h₁, _, h₂, _, h₃, _, h₄, _, h₅, _, h₆, _, h₇, _, h₈, _, h₉, _, h₁₀, _, h₁₁,
      _, h₁₂, _, h₁₃, _, h₁₄, _, h₁₅, _, h₁₆, _, h₁₇, _, h₁₈, _, h₁₉, rfl⟩
    exact ⟨h₁, h₂, h₃, h₄, h₅, h₆, h₇, h₈, h₉, h₁₀, h₁₁, h₁₂, h₁₃, h₁₄, h₁₅, h₁₆, h₁₇, h₁₈, h₁₉⟩
  · rintro ⟨h₁, h₂, h₃, h₄, h₅, h₆, h₇, h₈, h₉, h₁₀, h₁₁, h₁₂, h₁₃, h₁₄, h₁₅, h₁₆, h₁₇, h₁₈, h₁₉⟩
    exact ⟨_, h₁, _, h₂, _, h₃, _, h₄, _, h₅, _, h₆, _, h₇, _, h₈, _, h₉, _, h₁₀, _, h₁₁,
      _, h₁₂, _, h₁₃, _, h₁₄, _, h₁₅, _, h₁₆, _, h₁₇, _, h₁₈, _, h₁₉, rfl⟩

/-- The reads succeed exactly when every integer parameter and the stateless
reset token decode. -/
theorem readServerInitialParams_isOk {parameters : List TransportParameter} :
    (∃ p, readServerInitialParams parameters = .ok p) ↔
      (∀ id ∈ integerParameterIds, ∃ value, getIntegerParameter id parameters = .ok value) ∧
        ∃ token, getStatelessResetTokenParameter parameters = .ok token := by
  simp only [readServerInitialParams_eq_ok, integerParameterIds, List.forall_mem_cons,
    List.not_mem_nil, false_implies, implies_true, and_true]
  constructor
  · rintro ⟨_, h₁, h₂, h₃, h₄, h₅, h₆, h₇, h₈, h₉, h₁₀, h₁₁, h₁₂, h₁₃, h₁₄, h₁₅, h₁₆, h₁₇, h₁₈,
      h₁₉⟩
    exact ⟨⟨⟨_, h₁⟩, ⟨_, h₂⟩, ⟨_, h₃⟩, ⟨_, h₄⟩, ⟨_, h₅⟩, ⟨_, h₆⟩, ⟨_, h₇⟩, ⟨_, h₈⟩, ⟨_, h₉⟩,
      ⟨_, h₁₁⟩, ⟨_, h₁₂⟩, ⟨_, h₁₃⟩, ⟨_, h₁₄⟩, ⟨_, h₁₅⟩, ⟨_, h₁₆⟩, ⟨_, h₁₇⟩, ⟨_, h₁₈⟩,
      ⟨_, h₁₉⟩⟩, _, h₁₀⟩
  · rintro ⟨⟨⟨_, h₁⟩, ⟨_, h₂⟩, ⟨_, h₃⟩, ⟨_, h₄⟩, ⟨_, h₅⟩, ⟨_, h₆⟩, ⟨_, h₇⟩, ⟨_, h₈⟩, ⟨_, h₉⟩,
      ⟨_, h₁₁⟩, ⟨_, h₁₂⟩, ⟨_, h₁₃⟩, ⟨_, h₁₄⟩, ⟨_, h₁₅⟩, ⟨_, h₁₆⟩, ⟨_, h₁₇⟩, ⟨_, h₁₈⟩,
      ⟨_, h₁₉⟩⟩, _, h₁₀⟩
    exact ⟨⟨_, _, _, _, _, _, _, _, _, _, _, _, _, _, _, _, _, _, _⟩, h₁, h₂, h₃, h₄, h₅, h₆,
      h₇, h₈, h₉, h₁₀, h₁₁, h₁₂, h₁₃, h₁₄, h₁₅, h₁₆, h₁₇, h₁₈, h₁₉⟩

/-! ### The checks -/

/-- The reliable-reset parameter reads exactly when it is absent or empty. -/
theorem reliableStreamResetSupport_isOk {parameters : List TransportParameter} :
    (∃ support, reliableStreamResetSupport parameters = .ok support) ↔
      ∀ tp, findParameter parameters .reliable_stream_reset = some tp → tp.value = [] := by
  unfold reliableStreamResetSupport
  cases findParameter parameters .reliable_stream_reset with
  | none => simp
  | some tp => cases value : tp.value <;> simp [value]

/-- The connection-id check passes exactly when, under QUIC v1, its aliases or
`MVFST_PRIMING`, both connection ids are present and equal the server's id
held by the read codec and the original destination id. -/
theorem checkInitialConnIds_eq_ok {conn : QuicClientConnectionState}
    {parameters : List TransportParameter} :
    checkInitialConnIds conn parameters = .ok () ↔
      (conn.version = some .QUIC_V1 ∨ conn.version = some .QUIC_V1_ALIAS ∨
          conn.version = some .QUIC_V1_ALIAS2 ∨ conn.version = some .MVFST_PRIMING →
        (∃ cid, getConnIdParameter .initial_source_connection_id parameters = .ok (some cid) ∧
          conn.readCodec.serverConnectionId = some cid) ∧
        ∃ cid, getConnIdParameter .original_destination_connection_id parameters =
            .ok (some cid) ∧ conn.originalDestinationConnectionId = some cid) := by
  unfold checkInitialConnIds
  simp only [Bool.or_eq_true, beq_iff_eq, or_assoc]
  split_ifs with v1
  · simp only [v1, true_implies, except_bind_eq_ok]
    cases source : getConnIdParameter .initial_source_connection_id parameters <;>
      cases destination : getConnIdParameter .original_destination_connection_id parameters <;>
      simp
    rename_i sourceId destinationId
    cases sourceId <;> cases destinationId <;> simp [throw, throwThe, MonadExceptOf.throw]
    split_ifs with mismatch
    · simp only [reduceCtorEq, false_iff, not_and]
      exact fun source destination => mismatch.elim (· source.symm) (· destination.symm)
    · simp only [not_or, not_not] at mismatch
      exact ⟨fun _ => ⟨mismatch.1.symm, mismatch.2.symm⟩, fun _ => rfl⟩
  · simp only [v1, false_implies, iff_true]
    rfl

/-! ### The rules, and the call's acceptance -/

/-- The rules the server's parameters must satisfy to be accepted, one field
each. -/
structure ServerParamsAcceptable (env : ClientEnv) (conn : QuicClientConnectionState)
    (parameters : List TransportParameter) : Prop where
  /-- Every integer parameter the call reads decodes. -/
  integersDecode :
    ∀ id ∈ integerParameterIds, ∃ value, getIntegerParameter id parameters = .ok value
  /-- The stateless reset token decodes. -/
  tokenDecodes : ∃ token, getStatelessResetTokenParameter parameters = .ok token
  /-- `reliable_stream_reset` is absent or has an empty value. -/
  reliableResetEmpty :
    ∀ tp, findParameter parameters .reliable_stream_reset = some tp → tp.value = []
  /-- Under QUIC v1, its aliases and `MVFST_PRIMING`, both connection ids are
  present and equal the codec's server id and the original destination id. -/
  connIdsMatch : conn.version = some .QUIC_V1 ∨ conn.version = some .QUIC_V1_ALIAS ∨
      conn.version = some .QUIC_V1_ALIAS2 ∨ conn.version = some .MVFST_PRIMING →
    (∃ cid, getConnIdParameter .initial_source_connection_id parameters = .ok (some cid) ∧
      conn.readCodec.serverConnectionId = some cid) ∧
    ∃ cid, getConnIdParameter .original_destination_connection_id parameters =
        .ok (some cid) ∧ conn.originalDestinationConnectionId = some cid
  /-- `max_packet_size`, absent or zero read as the default, is at least
  `kMinMaxUDPPayload`. -/
  packetSizeLarge : ∀ size, getIntegerParameter .max_packet_size parameters = .ok size →
    kMinMaxUDPPayload ≤ maxPacketSize size
  /-- The bidirectional stream-limit setter accepts `initial_max_streams_bidi`. -/
  bidiLimitAccepted : ∀ streams,
    getIntegerParameter .initial_max_streams_bidi parameters = .ok streams → ∃ limit,
      env.setMaxLocalBidirectionalStreams conn.streamManager.maxLocalBidirectionalStreams
        (streams.getD 0) = .ok limit
  /-- The unidirectional stream-limit setter accepts `initial_max_streams_uni`. -/
  uniLimitAccepted : ∀ streams,
    getIntegerParameter .initial_max_streams_uni parameters = .ok streams → ∃ limit,
      env.setMaxLocalUnidirectionalStreams conn.streamManager.maxLocalUnidirectionalStreams
        (streams.getD 0) = .ok limit
  /-- `ack_delay_exponent` is absent or at most `kMaxAckDelayExponent`. -/
  ackDelayExponentSmall : ∀ exponent,
    getIntegerParameter .ack_delay_exponent parameters = .ok (some exponent) →
      exponent ≤ kMaxAckDelayExponent
  /-- `max_datagram_frame_size` is absent, zero or above the packet overhead. -/
  datagramFrameSizeLarge : ∀ size,
    getIntegerParameter .max_datagram_frame_size parameters = .ok (some size) →
      size = 0 ∨ env.kMaxDatagramPacketOverhead < size

/-- A client whose datagram write size is 5, below the overhead of 40, and a
server that sends no parameter at all: the call succeeds and leaves the size
at 5. -/
theorem processServerInitialParams_bounds_fail :
    ¬ ∀ (env : ClientEnv) (conn conn' : QuicClientConnectionState)
        (parameters : List TransportParameter) (packetNum : Nat),
      processServerInitialParams env conn parameters packetNum = (.ok (), conn') →
        conn'.peerAckDelayExponent ≤ kMaxAckDelayExponent ∧
          conn'.peerIdleTimeout ≤ env.kMaxIdleTimeout ∧
          (conn'.datagramState.maxWriteFrameSize = 0 ∨
            env.kMaxDatagramPacketOverhead < conn'.datagramState.maxWriteFrameSize) := by
  intro law
  have bounds := law
    { setMaxLocalBidirectionalStreams := fun _ limit => .ok limit
      setMaxLocalUnidirectionalStreams := fun _ limit => .ok limit
      handleStreamWindowUpdate := fun s _ _ => s
      markZeroRttPacketsLost := .ok
      kMaxIdleTimeout := 600000, kDefaultAckDelayExponent := 3, kDefaultMaxUDPPayload := 1452
      kDefaultActiveConnectionIdLimit := 2, kMaxDatagramPacketOverhead := 40 }
    { (default : QuicClientConnectionState) with datagramState := ⟨5⟩ } _ [] 0 rfl
  revert bounds
  decide

/-- **Which parameter lists are accepted, and what an accepted list sets.**
The call succeeds exactly when the server's parameters satisfy every rule of
`ServerParamsAcceptable`, whatever rule would fail first.  After a success the
ack-delay exponent is the advertised one (at most `kMaxAckDelayExponent`) or,
if none was sent, `kDefaultAckDelayExponent`; the idle timeout is at most
`kMaxIdleTimeout`; and the datagram write size is the advertised
`max_datagram_frame_size` (zero or above the packet overhead) if one was sent,
and is left as it was otherwise. -/
theorem processServerInitialParams_accepts (env : ClientEnv) (conn : QuicClientConnectionState)
    (parameters : List TransportParameter) (packetNum : Nat) :
    ((processServerInitialParams env conn parameters packetNum).1 = .ok () ↔
        ServerParamsAcceptable env conn parameters) ∧
      ∀ conn', processServerInitialParams env conn parameters packetNum = (.ok (), conn') →
        (∀ exponent, getIntegerParameter .ack_delay_exponent parameters = .ok (some exponent) →
            conn'.peerAckDelayExponent = exponent ∧ exponent ≤ kMaxAckDelayExponent) ∧
        (getIntegerParameter .ack_delay_exponent parameters = .ok none →
            conn'.peerAckDelayExponent = env.kDefaultAckDelayExponent) ∧
        conn'.peerIdleTimeout ≤ env.kMaxIdleTimeout ∧
        (∀ size, getIntegerParameter .max_datagram_frame_size parameters = .ok (some size) →
            conn'.datagramState.maxWriteFrameSize = size ∧
              (size = 0 ∨ env.kMaxDatagramPacketOverhead < size)) ∧
        (getIntegerParameter .max_datagram_frame_size parameters = .ok none →
            conn'.datagramState.maxWriteFrameSize = conn.datagramState.maxWriteFrameSize) := by
  refine ⟨⟨fun accepted => ?_, fun acceptable => ?_⟩, fun conn' accepted => ?_⟩
  · have ok : processServerInitialParams env conn parameters packetNum =
        (.ok (), (processServerInitialParams env conn parameters packetNum).2) := by
      rw [← accepted]
    obtain ⟨p, support, bidi, uni, read, reliable, checked, large, setBidi, setUni, exponentOk,
      datagramOk, -⟩ := processServerInitialParams_ok ok
    obtain ⟨-, -, -, -, -, streamsBidi, streamsUni, exponent, packetSize, -, -, datagram, -⟩ :=
      readServerInitialParams_eq_ok.mp read
    obtain ⟨decode, token⟩ := readServerInitialParams_isOk.mp ⟨p, read⟩
    refine ⟨decode, token, reliableStreamResetSupport_isOk.mp ⟨_, reliable⟩,
      checkInitialConnIds_eq_ok.mp checked, fun size got => ?_, fun streams got => ?_,
      fun streams got => ?_, fun e got => ?_, fun size got => ?_⟩
    · cases packetSize.symm.trans got
      exact large
    · cases streamsBidi.symm.trans got
      exact ⟨_, setBidi⟩
    · cases streamsUni.symm.trans got
      exact ⟨_, setUni⟩
    · simpa [Except.ok.inj (exponent.symm.trans got)] using exponentOk
    · simpa [Except.ok.inj (datagram.symm.trans got)] using datagramOk
  · obtain ⟨p, read⟩ :=
      readServerInitialParams_isOk.mpr ⟨acceptable.integersDecode, acceptable.tokenDecodes⟩
    obtain ⟨support, reliable⟩ :=
      reliableStreamResetSupport_isOk.mpr acceptable.reliableResetEmpty
    obtain ⟨-, -, -, -, -, streamsBidi, streamsUni, exponent, packetSize, -, -, datagram, -⟩ :=
      readServerInitialParams_eq_ok.mp read
    obtain ⟨_, setBidi⟩ := acceptable.bidiLimitAccepted _ streamsBidi
    obtain ⟨_, setUni⟩ := acceptable.uniLimitAccepted _ streamsUni
    have exponentOk : p.ackDelayExponent.all (· ≤ kMaxAckDelayExponent) := by
      cases sent : p.ackDelayExponent
      · rfl
      · simpa using acceptable.ackDelayExponentSmall _ (sent ▸ exponent)
    have datagramOk : p.maxDatagramFrameSize.all
        (fun size => size = 0 ∨ env.kMaxDatagramPacketOverhead < size) := by
      cases sent : p.maxDatagramFrameSize
      · rfl
      · simpa using acceptable.datagramFrameSizeLarge _ (sent ▸ datagram)
    obtain ⟨_, ok⟩ := processServerInitialParams_succeeds read reliable
      (checkInitialConnIds_eq_ok.mpr acceptable.connIdsMatch)
      (acceptable.packetSizeLarge _ packetSize) setBidi setUni exponentOk datagramOk
    rw [ok]
  · obtain ⟨p, -, -, -, read, -, -, -, -, -, exponentOk, datagramOk, rfl⟩ :=
      processServerInitialParams_ok accepted
    obtain ⟨-, -, -, -, -, -, -, exponent, -, -, -, datagram, -⟩ :=
      readServerInitialParams_eq_ok.mp read
    refine ⟨fun e got => ?_, fun got => ?_, Nat.min_le_right _ _, fun size got => ?_,
      fun got => ?_⟩
    · have sent := Except.ok.inj (exponent.symm.trans got)
      simp only [sent, Option.all_some, decide_eq_true_eq] at exponentOk
      simp [sent, exponentOk]
    · simp [Except.ok.inj (exponent.symm.trans got)]
    · have sent := Except.ok.inj (datagram.symm.trans got)
      simp only [sent, Option.all_some, decide_eq_true_eq] at datagramOk
      simp only [sent, true_and]
      omega
    · simp only [Except.ok.inj (datagram.symm.trans got)]

/-- The spec's rejection of `max_packet_size = 1000`, with the code's message. -/
example :
    (processServerInitialParams
      { setMaxLocalBidirectionalStreams := fun _ limit => .ok limit
        setMaxLocalUnidirectionalStreams := fun _ limit => .ok limit
        handleStreamWindowUpdate := fun s _ _ => s
        markZeroRttPacketsLost := .ok
        kMaxIdleTimeout := 600000, kDefaultAckDelayExponent := 3, kDefaultMaxUDPPayload := 1452
        kDefaultActiveConnectionIdLimit := 2, kMaxDatagramPacketOverhead := 40 }
      default [⟨.max_packet_size, [0x43, 0xe8]⟩] 0).1 =
      .error ⟨.TRANSPORT_PARAMETER_ERROR,
        "Max packet size too small. received max_packetSize = 1000"⟩ := rfl

end Quic
