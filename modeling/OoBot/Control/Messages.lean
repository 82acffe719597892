import OoBot.Text

/-!
# The control socket

The messages of `src/control.rs`, and what a client makes of the answer to a request.
-/

namespace OoBot

/-- `RuntimeControlStatus`. -/
structure RuntimeControlStatus where
  state : Text
  pid : ℕ
  startedAtUnix : UInt64
  configPath : Text
  configFingerprint : Text
  detectorBackend : Text
  activeLsm : Text
  hardeningStatus : Text
  socketPath : Text

/-- `ControlRequest`. -/
inductive ControlRequest
  | status
  | stop (source : Text)
  deriving DecidableEq

/-- `ControlResponse`. -/
inductive ControlResponse
  | status (status : RuntimeControlStatus)
  | ack (message : Text)
  | error (message : Text)

/-- `request_runtime_status`, on what `send_control_request` returns. -/
def requestRuntimeStatus : Except Text ControlResponse → Except Text RuntimeControlStatus
  | .error err => .error err
  | .ok (.status status) => .ok status
  | .ok (.ack message) => .error message
  | .ok (.error message) => .error message

/-- `request_runtime_stop`, on what `send_control_request` returns. -/
def requestRuntimeStop : Except Text ControlResponse → Except Text Text
  | .error err => .error err
  | .ok (.ack message) => .ok message
  | .ok (.status _) => .error "unexpected status response to stop request".toList
  | .ok (.error message) => .error message

end OoBot
