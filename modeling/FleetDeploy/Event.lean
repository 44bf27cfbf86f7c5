import FleetDeploy.Plan.Classification

/-!
# Events

What observers are told while a call runs: each stage of the call, each notable step in words, and
for each service whether it was skipped, when its work was begun and how it ended, and which of its
versions were reaped.
-/

namespace FleetDeploy

/-- One thing that observers are told. -/
inductive DeployEvent
  | stageStarted (name : String)
  | message (text : String)
  | serviceSkipped (service : ServiceName) (reason : SkipReason)
  | serviceDispatched (service : ServiceName) (mode : DispatchMode)
  | serviceFinished (service : ServiceName) (severity : Severity)
  | versionReaped (service : ServiceName) (version : Version)
  deriving DecidableEq, Inhabited

namespace DeployEvent

/-- The parts of a stage event. -/
def stageFields : Fields [String] := .cons (.required "name" .text) .nil

/-- The parts of a message. -/
def messageFields : Fields [String] := .cons (.required "text" .text) .nil

/-- The parts of a skip event. -/
def skippedFields : Fields [ServiceName, SkipReason] :=
  .cons (.required "service" .text) <| .cons (.required "reason" SkipReason.codecInside) .nil

/-- The parts of a dispatch event. -/
def dispatchedFields : Fields [ServiceName, DispatchMode] :=
  .cons (.required "service" .text) <| .cons (.required "mode" DispatchMode.codecInside) .nil

/-- The parts of a finish event. -/
def finishedFields : Fields [ServiceName, Severity] :=
  .cons (.required "service" .text) <|
  .cons (.required "severity" (.wordsInside Severity.all Severity.word)) .nil

/-- The parts of a reap event. -/
def reapedFields : Fields [ServiceName, Version] :=
  .cons (.required "service" .text) <| .cons (.required "version" Version.codec) .nil

/-- An event on the wire. -/
def codec : Codec DeployEvent where
  encode
    | .stageStarted name => Variant.encode "stage_started" stageFields (name, ())
    | .message text => Variant.encode "message" messageFields (text, ())
    | .serviceSkipped service reason =>
      Variant.encode "service_skipped" skippedFields (service, reason, ())
    | .serviceDispatched service mode =>
      Variant.encode "service_dispatched" dispatchedFields (service, mode, ())
    | .serviceFinished service severity =>
      Variant.encode "service_finished" finishedFields (service, severity, ())
    | .versionReaped service version =>
      Variant.encode "version_reaped" reapedFields (service, version, ())
  decode j := do
    let (kind, parts) ← Variant.split j
    match kind with
    | "stage_started" =>
      let (name, ()) ← stageFields.read parts
      pure (.stageStarted name)
    | "message" =>
      let (text, ()) ← messageFields.read parts
      pure (.message text)
    | "service_skipped" =>
      let (service, reason, ()) ← skippedFields.read parts
      pure (.serviceSkipped service reason)
    | "service_dispatched" =>
      let (service, mode, ()) ← dispatchedFields.read parts
      pure (.serviceDispatched service mode)
    | "service_finished" =>
      let (service, severity, ()) ← finishedFields.read parts
      pure (.serviceFinished service severity)
    | "version_reaped" =>
      let (service, version, ()) ← reapedFields.read parts
      pure (.versionReaped service version)
    | _ => none

end DeployEvent

end FleetDeploy
