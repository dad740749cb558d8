import FrankaDeploy.Foundation.Crc32
import FrankaDeploy.Servo.Protocol

/-! # Packets as bytes

The packed structs of `protocol.hpp` and the codec of `protocol.cpp`: `protocol_crc32`,
`encode_packet`, `decode_packet` and `copy_payload`. A struct value is the list of its scalar values
in declaration order, and `memcpy` of a packed struct on a little-endian host is `Layout.pack`. -/

namespace FrankaDeploy.Servo

open FrankaDeploy.Foundation

/-! ## Packed structs -/

def uint8 (name : String) : WireField := ⟨name, .unsigned 1, 1⟩

def uint16 (name : String) : WireField := ⟨name, .unsigned 2, 1⟩

def uint32 (name : String) : WireField := ⟨name, .unsigned 4, 1⟩

def uint64 (name : String) : WireField := ⟨name, .unsigned 8, 1⟩

def int32 (name : String) : WireField := ⟨name, .signed 4, 1⟩

def double (name : String) : WireField := ⟨name, .float 8, 1⟩

def doubles (name : String) (count : ℕ) : WireField := ⟨name, .float 8, count⟩

def floats (name : String) (count : ℕ) : WireField := ⟨name, .float 4, count⟩

def byteArray (name : String) (count : ℕ) : WireField := ⟨name, .raw count, 1⟩

def packetHeaderFields : List WireField :=
  [uint32 "magic", uint16 "version", uint16 "kind", uint32 "payload_bytes", uint32 "flags",
    uint64 "packet_sequence", uint64 "monotonic_ns", byteArray "session_nonce" 16,
    uint32 "crc32", uint32 "reserved"]

def helloFields : List WireField :=
  [uint32 "process_id", uint32 "state_decimation", uint32 "protocol_version",
    uint32 "safety_limits_schema", byteArray "libfranka_sha256" 32,
    byteArray "libfranka_source_commit" 20, byteArray "producer_build_sha256" 32,
    double "maximum_command_velocity_rad_s", double "maximum_command_acceleration_rad_s2",
    double "maximum_command_jerk_rad_s3", double "maximum_start_error_rad",
    double "maximum_tick_target_delta_rad", double "maximum_episode_delta_rad",
    double "maximum_tracking_error_rad", double "maximum_read_to_write_s"]

def armFields : List WireField :=
  [byteArray "profile_sha256" 32, byteArray "envelope_sha256" 32, byteArray "permit_sha256" 32,
    byteArray "run_id_sha256" 32, byteArray "authorization_id" 16,
    uint64 "authorization_issued_monotonic_ns", uint64 "authorization_expires_monotonic_ns",
    uint64 "heartbeat_timeout_ns", uint64 "first_target_timeout_ns", uint64 "target_timeout_ns",
    uint64 "maximum_session_duration_ns", doubles "q_home_rad" 7,
    doubles "safe_joint_lower_rad" 7, doubles "safe_joint_upper_rad" 7,
    doubles "expected_F_T_EE" 16, double "expected_end_effector_mass_kg",
    doubles "expected_end_effector_com_m" 3, doubles "expected_end_effector_inertia_kg_m2" 9,
    double "expected_external_load_mass_kg", uint32 "maximum_target_count",
    uint32 "controller_mode", byteArray "reserved" 8]

def heartbeatFields : List WireField := [uint64 "heartbeat_sequence"]

def targetFields : List WireField :=
  [uint64 "target_sequence", uint64 "observation_sequence", uint64 "produced_monotonic_ns",
    doubles "target_q_rad" 7]

def stopFields : List WireField :=
  [uint32 "reason_code", uint32 "reserved", uint64 "requested_monotonic_ns"]

def ipcReadyFields : List WireField :=
  [doubles "measured_q_rad" 7, doubles "measured_dq_rad_s" 7, double "q_home_linf_error_rad",
    uint64 "robot_time_ms", uint32 "static_provenance_verified",
    uint32 "realtime_scheduler_policy", uint32 "realtime_scheduler_priority",
    uint32 "realtime_cpu", uint32 "realtime_affinity_cpu_count", uint32 "reserved"]

/-- The members of `ActionReadyPayload`. -/
def actionReadyFields : List WireField :=
  [uint32 "consecutive_healthy_cycles", uint32 "maximum_control_period_ms",
    uint64 "healthy_hold_robot_time_ms", uint64 "maximum_read_to_write_ns",
    double "minimum_control_command_success_rate", double "latest_control_command_success_rate",
    doubles "measured_q_rad" 7, doubles "measured_dq_rad_s" 7, uint64 "robot_time_ms",
    uint64 "active_read_count", uint64 "active_write_count", uint32 "status_flags",
    uint32 "cumulative_missed_robot_states"]

def stateFields : List WireField :=
  [uint64 "control_cycle", uint64 "robot_time_ms", uint64 "captured_monotonic_ns",
    uint64 "captured_realtime_ns", uint64 "active_target_sequence",
    uint64 "active_observation_sequence", uint32 "control_period_ms", uint32 "robot_mode",
    double "control_command_success_rate", doubles "measured_q_rad" 7,
    doubles "measured_dq_rad_s" 7, doubles "O_T_EE" 16, doubles "commanded_q_rad" 7,
    uint32 "status_flags", uint32 "cumulative_missed_robot_states",
    uint64 "last_read_to_write_ns", uint64 "maximum_read_to_write_ns",
    uint64 "telemetry_drop_count", uint32 "health_flags", uint32 "consecutive_healthy_cycles",
    uint64 "active_read_count", uint64 "active_write_count", uint64 "target_ack_count",
    floats "controller_state29" 29, doubles "shaper_q_d_rad" 7, doubles "shaper_dq_d_rad_s" 7,
    doubles "shaper_ddq_d_rad_s2" 7, doubles "held_q_cmd_rad" 7]

def ackFields : List WireField :=
  [uint64 "target_sequence", uint64 "observation_sequence", uint64 "target_produced_monotonic_ns",
    uint64 "target_age_at_write_ns", uint64 "control_cycle", uint64 "robot_time_ms",
    uint64 "applied_monotonic_ns", uint32 "control_period_ms", uint32 "reserved",
    doubles "target_q_rad" 7, doubles "commanded_q_rad" 7, doubles "measured_q_rad" 7,
    uint64 "read_to_write_ns", double "maximum_tracking_error_rad"]

def faultFields : List WireField :=
  [uint32 "fault_code", uint32 "detail_bytes", uint64 "control_cycle", uint64 "target_sequence",
    uint64 "robot_time_ms", int32 "system_errno", uint32 "reserved", byteArray "detail" 160]

/-- The members of `StopVerificationSample`, inside the member `owner`. -/
def stopVerificationSampleFields (owner : String) : List WireField :=
  [uint64 (owner ++ ".robot_time_ms"), uint32 (owner ++ ".robot_mode"),
    uint32 (owner ++ ".status_flags"), doubles (owner ++ ".measured_dq_rad_s") 7]

def stopProofFields : List WireField :=
  [uint32 "stop_reason", uint32 "terminal_fault_code", uint8 "finish_attempted",
    uint8 "finish_succeeded", uint8 "robot_stop_attempted", uint8 "robot_stop_succeeded",
    uint8 "idle_dq_verified", uint8 "active_handle_released", uint8 "fault_reply_delivered",
    uint8 "robot_backend_released", uint64 "control_cycles", uint64 "last_target_sequence",
    uint64 "active_read_count", uint64 "active_write_count", uint64 "target_ack_count",
    uint32 "stop_verification_samples", uint32 "stop_consecutive_idle_samples",
    uint32 "final_robot_mode", uint32 "maximum_control_period_ms",
    double "maximum_stop_dq_rad_s", uint64 "maximum_read_to_write_ns",
    uint64 "pre_stop_robot_time_ms", uint64 "final_robot_time_ms",
    uint64 "telemetry_drop_count"] ++
    stopVerificationSampleFields "verified_samples[0]" ++
    stopVerificationSampleFields "verified_samples[1]" ++
    stopVerificationSampleFields "verified_samples[2]" ++ [byteArray "detail" 160]

def payloadFields : MessageKind → List WireField
  | .arm => armFields
  | .heartbeat => heartbeatFields
  | .target => targetFields
  | .stop => stopFields
  | .hello => helloFields
  | .ipcReady => ipcReadyFields
  | .state => stateFields
  | .ack => ackFields
  | .fault => faultFields
  | .stopProof => stopProofFields
  | .actionReady => actionReadyFields

def payloadLayout (kind : MessageKind) : Layout := Layout.ofFields (payloadFields kind)

/-- The sizes that the header asserts at compile time. -/
example : (Layout.ofFields packetHeaderFields).size = 56 ∧ (payloadLayout .hello).size = 164 ∧
    (payloadLayout .arm).size = 616 ∧ (payloadLayout .heartbeat).size = 8 ∧
    (payloadLayout .target).size = 80 ∧ (payloadLayout .stop).size = 16 ∧
    (payloadLayout .ipcReady).size = 152 ∧ (payloadLayout .actionReady).size = 184 ∧
    (payloadLayout .state).size = 764 ∧ (payloadLayout .ack).size = 248 ∧
    (payloadLayout .fault).size = 200 ∧ (payloadLayout .stopProof).size = 488 := by
  decide

end FrankaDeploy.Servo
