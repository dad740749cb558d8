import FrankaDeploy.Foundation.Crc32
import FrankaDeploy.NativeSession.Codec

/-! # The parent's packets as bytes

The `struct` formats of `V94NativePODCodec` and the part of `_encode` and `_decode_packet` between
a packet and its bytes. What the codec's state decides about a well-formed packet is in
`NativeSession.Codec`. -/

namespace FrankaDeploy.NativeSession

open FrankaDeploy.Foundation FrankaDeploy.Servo

/-! ## The module `struct` -/

/-- The type of a format character other than `s`. -/
def structType (code : Char) : Option WireType :=
  if code = 'B' then some (.unsigned 1)
  else if code = 'H' then some (.unsigned 2)
  else if code = 'I' then some (.unsigned 4)
  else if code = 'Q' then some (.unsigned 8)
  else if code = 'i' then some (.signed 4)
  else if code = 'f' then some (.float 4)
  else if code = 'd' then some (.float 8)
  else none

/-- The items of a format; `count` is the repeat count read so far. The count of an `s` item is the
length of one byte string. -/
def structItems (count : Option ℕ) : List Char → Option Layout
  | [] => if count.isNone then some [] else none
  | c :: cs =>
    if c.isDigit then structItems (some (count.getD 0 * 10 + (c.toNat - '0'.toNat))) cs
    else if c = 's' then (structItems none cs).map fun L => .raw (count.getD 1) :: L
    else (structType c).bind fun t =>
      (structItems none cs).map fun L => List.replicate (count.getD 1) t ++ L

/-- **`struct.Struct`**: the layout of a little-endian format without alignment. -/
def structLayout (format : String) : Layout :=
  match format.toList with
  | '<' :: items => (structItems none items).getD []
  | _ => []

def structItem : WireType → WireValue → WireValue
  | .raw width, .raw bytes => .raw ((bytes ++ List.replicate width 0).take width)
  | _, v => v

def structPack (L : Layout) (vs : List WireValue) : Except PyError Bytes :=
  let items := List.zipWith structItem L vs
  if vs.length = L.length ∧ L.Fits items then .ok (L.pack items)
  else .error (.structError "argument does not fit the format")

def structUnpack (L : Layout) (buffer : Bytes) : Except PyError (List WireValue) :=
  if buffer.length = L.size then .ok (L.unpack buffer)
  else .error (.structError s!"unpack requires a buffer of {L.size} bytes")

def structUnpackFrom (L : Layout) (buffer : Bytes) (offset : ℕ) :
    Except PyError (List WireValue) :=
  if offset + L.size ≤ buffer.length then .ok (L.unpack (buffer.drop offset))
  else .error (.structError s!"unpack_from requires a buffer of at least {offset + L.size} bytes")

/-! ## Formats -/

def headerFormat : String := "<IHHIIQQ16sII"

def stopProofPrefixFormat : String := "<II8B5Q4Id4Q"

def stopSampleFormat : String := "<QII7d"

def payloadFormat : MessageKind → Option String
  | .hello => some "<IIII32s20s32s8d"
  | .arm => some "<32s32s32s32s16s6Q51dII8s"
  | .heartbeat => some "<Q"
  | .target => some "<QQQ7d"
  | .stop => some "<IIQ"
  | .ipcReady => some "<15dQ6I"
  | .actionReady => some "<IIQQ2d14d3QII"
  | .state => some "<6QIId37dII3QII3Q29f28d"
  | .ack => some "<7QII21dQd"
  | .fault => some "<IIQQQiI160s"
  | .stopProof => none

def structPayloadLayout (kind : MessageKind) : Layout :=
  match payloadFormat kind with
  | some format => structLayout format
  | none => structLayout stopProofPrefixFormat ++ structLayout stopSampleFormat ++
      structLayout stopSampleFormat ++ structLayout stopSampleFormat ++ [.raw 160]

def nativePayloadBytes : MessageKind → ℕ
  | .arm => 616
  | .heartbeat => 8
  | .target => 80
  | .stop => 16
  | .hello => 164
  | .ipcReady => 152
  | .state => 764
  | .ack => 248
  | .fault => 200
  | .stopProof => 488
  | .actionReady => 184

/-! ## Fields -/

/-- **The values that a name of the parent's code stands for**: `count` values of the unpacked
tuple from index `first`. -/
structure TupleField where
  name : String
  first : ℕ
  count : ℕ
deriving DecidableEq, Repr

def scalars (first : ℕ) (names : List String) : List TupleField :=
  names.mapIdx fun i name => ⟨name, first + i, 1⟩

def stopSampleTuple (first : ℕ) (owner : String) : List TupleField :=
  scalars first [owner ++ ".robot_time_ms", owner ++ ".robot_mode", owner ++ ".status_flags"] ++
    [⟨owner ++ ".measured_dq_rad_s", first + 3, 7⟩]

/-- **The names that the parent gives to the values of a payload**: the keywords of the event it
builds, the local names of values that it only checks, the arguments of `pack`. -/
def tupleFields : MessageKind → List TupleField
  | .hello => scalars 0 ["process_id", "decimation", "version", "safety_schema", "libfranka_sha",
      "source_commit", "producer_sha", "limits[0]", "limits[1]", "limits[2]", "limits[3]",
      "limits[4]", "limits[5]", "limits[6]", "limits[7]"]
  | .arm => scalars 0 ["profile_sha256", "binding_sha256", "report_sha256", "active_run_id",
      "authorization_id", "issued_monotonic_s", "expires_monotonic_s", "heartbeat_timeout_ns",
      "first_target_timeout_ns", "target_timeout_ns", "maximum_session_duration_ns"] ++
      [⟨"reference_q_rad", 11, 7⟩, ⟨"safe_joint_lower_rad", 18, 7⟩,
        ⟨"safe_joint_upper_rad", 25, 7⟩, ⟨"expected_F_T_EE", 32, 16⟩,
        ⟨"expected_end_effector_mass_kg", 48, 1⟩, ⟨"expected_end_effector_com_m", 49, 3⟩,
        ⟨"expected_end_effector_inertia_kg_m2", 52, 9⟩] ++
      scalars 61 ["expected_external_load_mass_kg", "maximum_target_count",
        "selected_controller_mode", "bytes(8)"]
  | .heartbeat => scalars 0 ["_heartbeat_sequence"]
  | .target => scalars 0 ["target.sequence", "command.sequence", "produced_monotonic_s"] ++
      [⟨"target_q_rad", 3, 7⟩]
  | .stop => scalars 0 ["1", "0", "STOP time"]
  | .ipcReady => [⟨"measured_q_rad", 0, 7⟩, ⟨"measured_dq_rad_s", 7, 7⟩] ++
      scalars 14 ["q_home_linf_error_rad", "robot_time_ms", "static_verified",
        "realtime_scheduler_policy", "realtime_scheduler_priority", "realtime_cpu",
        "realtime_affinity_cpu_count", "reserved"]
  | .actionReady => scalars 0 ["consecutive_healthy_cycles", "maximum_control_period_ms",
      "healthy_hold_robot_time_ms", "maximum_read_to_write_ns",
      "minimum_control_command_success_rate", "latest_control_command_success_rate"] ++
      [⟨"measured_q_rad", 6, 7⟩, ⟨"measured_dq_rad_s", 13, 7⟩] ++
      scalars 20 ["robot_time_ms", "active_read_count", "active_write_count", "status_flags",
        "cumulative_missed_robot_states"]
  | .state => scalars 0 ["cycle", "robot_time_ms", "monotonic_s", "realtime_s",
      "active_target_sequence", "active_observation_sequence", "control_period_ms", "robot_mode",
      "control_command_success_rate"] ++
      [⟨"q_rad", 9, 7⟩, ⟨"dq_rad_s", 16, 7⟩, ⟨"T_base_eef", 23, 16⟩, ⟨"commanded_q_rad", 39, 7⟩] ++
      scalars 46 ["status_flags", "cumulative_missed_robot_states", "last_read_to_write_ns",
        "maximum_read_to_write_ns", "telemetry_drop_count", "health_flags",
        "consecutive_healthy_cycles", "active_read_count", "active_write_count",
        "target_ack_count"] ++
      [⟨"controller_state29", 56, 29⟩, ⟨"shaper_q_d_rad", 85, 7⟩, ⟨"shaper_dq_d_rad_s", 92, 7⟩,
        ⟨"shaper_ddq_d_rad_s2", 99, 7⟩, ⟨"held_q_cmd_rad", 106, 7⟩]
  | .ack => scalars 0 ["sequence", "observation_sequence", "target_produced_monotonic_ns",
      "target_age_at_write_ns", "control_cycle", "robot_time_ms", "applied_monotonic_ns",
      "control_period_ms", "ACK reserved field"] ++
      [⟨"target_q_rad", 9, 7⟩, ⟨"commanded_q_rad", 16, 7⟩, ⟨"measured_q_rad", 23, 7⟩] ++
      scalars 30 ["read_to_write_ns", "maximum_tracking_error_rad"]
  | .fault => scalars 0 ["code", "detail_bytes", "control_cycle", "sequence", "robot_time_ms",
      "system_errno", "reserved", "raw"]
  | .stopProof => scalars 0 ["stop_reason", "terminal_fault_code", "finish_attempted",
      "finish_succeeded", "robot_stop_attempted", "robot_stop_succeeded", "idle_dq_verified",
      "active_handle_released", "fault_reply_delivered", "robot_backend_released",
      "control_cycles", "last_target_sequence", "active_read_count", "active_write_count",
      "franka_ack_count", "stop_verification_samples", "stop_consecutive_idle_samples",
      "final_robot_mode", "maximum_control_period_ms", "maximum_stop_dq_rad_s",
      "maximum_read_to_write_ns", "pre_stop_robot_time_ms", "final_robot_time_ms",
      "telemetry_drop_count"] ++ stopSampleTuple 24 "verified_samples[0]" ++
      stopSampleTuple 34 "verified_samples[1]" ++ stopSampleTuple 44 "verified_samples[2]" ++
      [⟨"detail", 54, 1⟩]

/-- **The struct member that a name stands for**, where the parent uses another name. -/
def memberName : MessageKind → String → String
  | .hello, "decimation" => "state_decimation"
  | .hello, "version" => "protocol_version"
  | .hello, "safety_schema" => "safety_limits_schema"
  | .hello, "libfranka_sha" => "libfranka_sha256"
  | .hello, "source_commit" => "libfranka_source_commit"
  | .hello, "producer_sha" => "producer_build_sha256"
  | .hello, "limits[0]" => "maximum_command_velocity_rad_s"
  | .hello, "limits[1]" => "maximum_command_acceleration_rad_s2"
  | .hello, "limits[2]" => "maximum_command_jerk_rad_s3"
  | .hello, "limits[3]" => "maximum_start_error_rad"
  | .hello, "limits[4]" => "maximum_tick_target_delta_rad"
  | .hello, "limits[5]" => "maximum_episode_delta_rad"
  | .hello, "limits[6]" => "maximum_tracking_error_rad"
  | .hello, "limits[7]" => "maximum_read_to_write_s"
  | .arm, "binding_sha256" => "envelope_sha256"
  | .arm, "report_sha256" => "permit_sha256"
  | .arm, "active_run_id" => "run_id_sha256"
  | .arm, "issued_monotonic_s" => "authorization_issued_monotonic_ns"
  | .arm, "expires_monotonic_s" => "authorization_expires_monotonic_ns"
  | .arm, "reference_q_rad" => "q_home_rad"
  | .arm, "selected_controller_mode" => "controller_mode"
  | .arm, "bytes(8)" => "reserved"
  | .heartbeat, "_heartbeat_sequence" => "heartbeat_sequence"
  | .target, "target.sequence" => "target_sequence"
  | .target, "command.sequence" => "observation_sequence"
  | .target, "produced_monotonic_s" => "produced_monotonic_ns"
  | .stop, "1" => "reason_code"
  | .stop, "0" => "reserved"
  | .stop, "STOP time" => "requested_monotonic_ns"
  | .ipcReady, "static_verified" => "static_provenance_verified"
  | .state, "cycle" => "control_cycle"
  | .state, "monotonic_s" => "captured_monotonic_ns"
  | .state, "realtime_s" => "captured_realtime_ns"
  | .state, "q_rad" => "measured_q_rad"
  | .state, "dq_rad_s" => "measured_dq_rad_s"
  | .state, "T_base_eef" => "O_T_EE"
  | .ack, "sequence" => "target_sequence"
  | .ack, "ACK reserved field" => "reserved"
  | .fault, "code" => "fault_code"
  | .fault, "sequence" => "target_sequence"
  | .fault, "raw" => "detail"
  | .stopProof, "franka_ack_count" => "target_ack_count"
  | _, name => name

/-! ## Payloads -/

def packPayload (kind : MessageKind) (vs : List WireValue) : Except PyError Bytes :=
  structPack (structPayloadLayout kind) vs

def unpackStopProof (payload : Bytes) : Except PyError (List WireValue) := do
  let counters ← structUnpackFrom (structLayout stopProofPrefixFormat) payload 0
  let offset := (structLayout stopProofPrefixFormat).size
  let size := (structLayout stopSampleFormat).size
  let first ← structUnpackFrom (structLayout stopSampleFormat) payload offset
  let second ← structUnpackFrom (structLayout stopSampleFormat) payload (offset + size)
  let third ← structUnpackFrom (structLayout stopSampleFormat) payload (offset + size + size)
  return counters ++ first ++ second ++ third ++
    [.raw (payload.drop (offset + size + size + size))]

/-- **The values that the decoder of a kind reads from a payload.** -/
def unpackPayload (kind : MessageKind) (payload : Bytes) : Except PyError (List WireValue) :=
  match payloadFormat kind with
  | some format => structUnpack (structLayout format) payload
  | none => unpackStopProof payload

/-! ## Packets -/

def nativeProtocolMagic : ℕ := 0x46343956

def nativeProtocolVersion : ℕ := 4

def nativeMaxPacketBytes : ℕ := 1024

/-- **The bytes that `_encode` returns** for a payload under a header. -/
def encodeBytes (kind : MessageKind) (header : PacketHeader) (payload : Bytes) :
    Except PyError Bytes := do
  if payload.length ≠ nativePayloadBytes kind then
    .error (sessionError (s!"{kind.name} payload size changed: {payload.length} != " ++
      s!"{nativePayloadBytes kind}"))
  else
    let head ← structPack (structLayout headerFormat)
      [.unsigned nativeProtocolMagic, .unsigned nativeProtocolVersion, .unsigned kind.code,
        .unsigned payload.length, .unsigned 0, .unsigned header.sequence,
        .unsigned header.monotonicNs, .raw header.nonce, .unsigned 0, .unsigned 0]
    let packet := head ++ payload
    let packet := overwrite 48 (leBytes 4 (crc32 packet).toNat) packet
    if nativeMaxPacketBytes < packet.length then
      .error (sessionError s!"{kind.name} packet exceeds frozen maximum")
    else .ok packet

def nativeMessageKind? (code : ℕ) : Option MessageKind :=
  [.arm, .heartbeat, .target, .stop, .hello, .ipcReady, .state, .ack, .fault, .stopProof,
    MessageKind.actionReady].find? fun kind => kind.code = code

/-- **The part of `_decode_packet` that reads the bytes**: the kind, the header and the payload of
a well-formed packet. -/
def decodeBytes (packet : Bytes) : Except PyError (MessageKind × PacketHeader × Bytes) :=
  if packet.length < (structLayout headerFormat).size ∨ nativeMaxPacketBytes < packet.length then
    .error (sessionError "native packet length is outside frozen bounds")
  else
    match (structLayout headerFormat).unpack packet with
    | [.unsigned magic, .unsigned version, .unsigned rawKind, .unsigned payloadBytes,
        .unsigned flags, .unsigned sequence, .unsigned monotonicNs, .raw nonce,
        .unsigned expectedCrc, .unsigned reserved] =>
        match nativeMessageKind? rawKind with
        | none => .error (sessionError s!"unknown native packet kind {rawKind}")
        | some kind =>
          if magic ≠ nativeProtocolMagic ∨ version ≠ nativeProtocolVersion then
            .error (sessionError "native packet magic/version mismatch")
          else if flags ≠ 0 ∨ reserved ≠ 0 then
            .error (sessionError "native packet flags/reserved must be zero")
          else if payloadBytes ≠ nativePayloadBytes kind ∨
              packet.length ≠ (structLayout headerFormat).size + nativePayloadBytes kind then
            .error (sessionError s!"native {kind.name} packet has the wrong exact size")
          else if (crc32 (overwrite 48 (List.replicate 4 0) packet)).toNat ≠ expectedCrc then
            .error (sessionError "native packet CRC32 mismatch")
          else if monotonicNs = 0 then
            .error (sessionError "native packet monotonic_ns must be positive")
          else
            .ok (kind, ⟨sequence, monotonicNs, nonce⟩,
              packet.drop (structLayout headerFormat).size)
    | _ => .error (.structError "unpack_from requires a buffer of at least 56 bytes")

end FrankaDeploy.NativeSession
