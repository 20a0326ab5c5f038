import InferenceEndpoint.Core.Types

/-!
# Event records

The records published on the event bus: session control events, sample
events and errors, each with the payload the publisher attaches.
-/

namespace InferenceEndpoint

/-- The event types that the load generator publishes and the metrics
services consume. -/
inductive EventType
  | started
  | ended
  | interrupted
  | stopLoadgen
  | phaseStart
  | startPerformanceTracking
  | stopPerformanceTracking
  | errorGeneric
  | errorLoadgen
  | errorSession
  | errorClient
  | issued
  | complete
  | recvFirst
  | recvNonFirst
  deriving DecidableEq, Repr

/-- The payload of a record. -/
inductive EventData
  | output (output : TextModelOutput)
  | prompt (prompt : PromptData)
  | error (error : ErrorData)
  | phase (phase : PhaseData)
  deriving DecidableEq, Repr

/-- A record of one event; session events carry no sample uuid. -/
structure EventRecord where
  eventType : EventType
  timestampNs : Nat
  sampleUuid : Option QueryId := none
  conversationId : String := ""
  turn : Option Nat := none
  data : Option EventData := none
  finishReason : Option String := none
  workerId : Option Nat := none
  deriving DecidableEq, Repr

namespace EventRecord

/-- The record is the COMPLETE event of the given sample. -/
def isCompleteOf (uuid : QueryId) (event : EventRecord) : Bool :=
  event.eventType = .complete && event.sampleUuid = some uuid

end EventRecord

end InferenceEndpoint
