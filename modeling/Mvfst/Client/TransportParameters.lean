import Mvfst.Core
import Mathlib.Algebra.Order.Ring.Nat

/-!
# Server transport parameters

The list of parameters a server sends, and the readers
`processServerInitialParams` applies to it: `findParameter`,
`getIntegerParameter`, `getConnIdParameter` and
`getStatelessResetTokenParameter`.

## Main Definitions

* `TransportParameterId` — the parameters the client reads.
* `TransportParameter` — an identifier and the bytes of its value.
* `decodeQuicInteger` — QUIC's variable-length integers.
* `getIntegerParameter`, `getConnIdParameter`,
  `getStatelessResetTokenParameter` — the typed readers.

## Design Notes

`TransportParameters.cpp` and `QuicInteger.cpp` are not among the
repository's files, so the readers are modelled from the spec: a parameter is
looked up by identifier (the first one with that identifier counts), an absent
parameter reads as absent, and a present one must decode or the read fails
with `TRANSPORT_PARAMETER_ERROR`.  An integer is a 62-bit QUIC varint, whose
first byte's top two bits give its length (1, 2, 4 or 8 bytes).  Identifiers
are compared only with each other, so they are an enumeration without their
wire codes, and parameters the client never reads are left out.
-/

namespace Quic

/-- The transport parameters `processServerInitialParams` reads. -/
inductive TransportParameterId
  | original_destination_connection_id
  | idle_timeout
  | stateless_reset_token
  | max_packet_size
  | initial_max_data
  | initial_max_stream_data_bidi_local
  | initial_max_stream_data_bidi_remote
  | initial_max_stream_data_uni
  | initial_max_streams_bidi
  | initial_max_streams_uni
  | ack_delay_exponent
  | active_connection_id_limit
  | initial_source_connection_id
  | max_datagram_frame_size
  | min_ack_delay
  | ack_receive_timestamps_enabled
  | max_receive_timestamps_per_ack
  | receive_timestamps_exponent
  | stream_groups_enabled
  | knob_frames_supported
  | extended_ack_features
  | reliable_stream_reset
deriving DecidableEq, Repr

/-- A connection identifier: its bytes. -/
abbrev ConnectionId := List UInt8

/-- A stateless reset token: its bytes. -/
abbrev StatelessResetToken := List UInt8

/-- A parameter as it arrived: its identifier and the bytes of its value. -/
structure TransportParameter where
  parameter : TransportParameterId
  value : List UInt8
deriving DecidableEq, Repr

/-- Modelled from the spec: the first parameter with identifier `id`. -/
def findParameter (parameters : List TransportParameter) (id : TransportParameterId) :
    Option TransportParameter :=
  parameters.find? (·.parameter == id)

/-! ### Lookup -/

/-- In a list whose identifiers are distinct, a parameter is the one found
for its identifier. -/
theorem findParameter_of_mem {parameters : List TransportParameter} {tp : TransportParameter}
    (distinct : (parameters.map (·.parameter)).Nodup) (mem : tp ∈ parameters) :
    findParameter parameters tp.parameter = some tp := by
  induction parameters with
  | nil => cases mem
  | cons first rest ih =>
    rw [List.map_cons, List.nodup_cons] at distinct
    by_cases same : first.parameter = tp.parameter
    · have : first = tp := by
        rcases List.mem_cons.mp mem with rfl | inRest
        · rfl
        · exact absurd (same ▸ List.mem_map_of_mem _ inRest) distinct.1
      simp [findParameter, this]
    · have inRest : tp ∈ rest := (List.mem_cons.mp mem).resolve_left fun eq => same (eq ▸ rfl)
      simpa [findParameter, same] using ih distinct.2 inRest

/-- **The order of distinct parameters does not matter**: a reordering of a
list with distinct identifiers finds the same parameter for every
identifier. -/
theorem findParameter_perm {parameters parameters' : List TransportParameter}
    (perm : parameters.Perm parameters') (distinct : (parameters.map (·.parameter)).Nodup)
    (id : TransportParameterId) : findParameter parameters id = findParameter parameters' id := by
  cases found : findParameter parameters id with
  | none =>
    refine (List.find?_eq_none.mpr fun tp mem => ?_).symm
    exact List.find?_eq_none.mp found tp (perm.mem_iff.mpr mem)
  | some tp =>
    have key : tp.parameter = id := by simpa using List.find?_some found
    rw [← key, findParameter_of_mem ((perm.map _).nodup_iff.mp distinct)
      (perm.mem_iff.mp (List.mem_of_find?_eq_some found))]

/-! ### QUIC variable-length integers -/

/-- The big-endian number a list of bytes spells, after the digits `acc`. -/
def readBigEndian (acc : Nat) (bytes : List UInt8) : Nat :=
  bytes.foldl (fun acc b => acc * 256 + b.toNat) acc

/-- Modelled from the spec: the varint at the start of `bytes` and how many
bytes it takes; `none` if the bytes end inside it. -/
def decodeQuicInteger : List UInt8 → Option (Nat × Nat)
  | [] => none
  | first :: rest =>
      let length := 2 ^ (first.toNat / 64)
      if length - 1 ≤ rest.length then
        some (readBigEndian (first.toNat % 64) (rest.take (length - 1)), length)
      else none

/-! ### Typed readers -/

/-- Modelled from the spec: the integer value of parameter `id`, absent if the
server did not send it; a value that is not a varint fails. -/
def getIntegerParameter (id : TransportParameterId) (parameters : List TransportParameter) :
    Except QuicError (Option Nat) :=
  match findParameter parameters id with
  | none => .ok none
  | some tp =>
      match decodeQuicInteger tp.value with
      | some (value, _) => .ok (some value)
      | none => .error ⟨.TRANSPORT_PARAMETER_ERROR, "Failed to decode integer from TransportParameterId"⟩

/-- Modelled from the spec: the longest connection identifier. -/
def kMaxConnectionIdSize : Nat := 20

/-- Modelled from the spec: the connection identifier in parameter `id`,
absent if the server did not send it; one longer than
`kMaxConnectionIdSize` fails. -/
def getConnIdParameter (id : TransportParameterId) (parameters : List TransportParameter) :
    Except QuicError (Option ConnectionId) :=
  match findParameter parameters id with
  | none => .ok none
  | some tp =>
      if tp.value.length ≤ kMaxConnectionIdSize then .ok (some tp.value)
      else .error ⟨.TRANSPORT_PARAMETER_ERROR, "Invalid ConnectionId"⟩

/-- Modelled from the spec: the 16-byte stateless reset token, absent if the
server did not send it; a token of another length fails. -/
def getStatelessResetTokenParameter (parameters : List TransportParameter) :
    Except QuicError (Option StatelessResetToken) :=
  match findParameter parameters .stateless_reset_token with
  | none => .ok none
  | some tp =>
      if tp.value.length = 16 then .ok (some tp.value)
      else .error ⟨.TRANSPORT_PARAMETER_ERROR, "Invalid reset token"⟩

end Quic
