import CommonEventService.AnswerOnce
import CommonEventService.ReplyMatching
import CommonEventService.TimeoutWatchdog

/-!
# The ordered protocol, both ends

The service and the listeners, with the messages between them: the
notifications the ordered pipeline sends, one way, and the calls of
`FinishReceiver` that come back. A reply says which listener sends it and not
which notification it answers, so the service can only hope that the two ends
are in step.

They are in step as long as the service is *patient*: it gives up on a
receiver only when nothing of the receiver's notification is left that could
still be answered. Then there is never more than one ordered notification
abroad – on its way, waiting at the listener, being received, or on its way
back –, it is that of the receiver at work on the front record, and its answer
is matched to it.

A notification is tagged with the record and the index it is of; what other
pipelines send, and what goes to a final receiver, has no tag.
-/

namespace CommonEventService

/-- The record and the index a notification is of, where it is one of the
ordered pipeline to a receiver. -/
abbrev DeliveryTag := Option (ℕ × ℕ)

/-- **Both ends of the ordered protocol**, and the notifications on their
way. The replies on their way are in the outbox of the receiving end. -/
structure OrderedProtocol where
  control : ControlManager := {}
  inFlight : List (Notification DeliveryTag) := []
  receivers : Receivers DeliveryTag := {}

/-- **The labels of the protocol.** -/
inductive ProtocolLabel where
  /-- A step of the service; `sent` is whether the notification it sends, if
  it sends one, gets on its way. -/
  | control (l : ControlLabel) (sent : Bool)
  /-- Another pipeline sends a notification. -/
  | notifyUnordered (notification : Notification DeliveryTag)
  /-- A notification comes to its listener. -/
  | notifyEvent (i : ℕ)
  /-- A notification is lost with the process it was for. -/
  | lose (i : ℕ)
  /-- A step of the receiving end. -/
  | receivers (l : ReceiversLabel DeliveryTag)
  /-- A reply comes to the service. -/
  | finishReceiver (i : ℕ)

/-- The notification that the next step of the serial queue sends: to a
receiver, or to a final receiver. -/
def ControlManager.notification (s : ControlManager) (answer : Answer) :
    Option (Notification DeliveryTag) :=
  match s.thread with
  | .call sp recIdx =>
    let record := s.records sp
    record.receivers[recIdx]?.map (fun receiver =>
      { commonEventListener := receiver.commonEventListener
        commonEventData := s.cells record.commonEventData
        ordered := true
        sticky := (s.infos record.publishInfo).sticky
        tag := some (sp, recIdx) })
  | .finals (removed :: _) _ =>
    let record := s.records removed
    if answer.hasProxy then
      record.resultTo.map (fun resultTo =>
        { commonEventListener := resultTo
          commonEventData := s.cells record.commonEventData
          ordered := true
          sticky := (s.infos record.publishInfo).sticky
          tag := none })
    else none
  | _ => none

namespace OrderedProtocol

variable (P : Platform) (S : StdSort) (s : OrderedProtocol)

/-- What a step of the service sends. -/
def sends (l : ControlLabel) (sent : Bool) : List (Notification DeliveryTag) :=
  match l with
  | .thread answer => if sent then (s.control.notification answer).toList else []
  | _ => []

/-- The reply a call of `FinishReceiver` is at the service. -/
def reply (call : FinishReceiverCall DeliveryTag) : Reply :=
  ⟨some call.proxy, call.code, call.data, call.abortEvent, call.tag.getD (0, 0)⟩

/-- **One step of the protocol.** -/
def step : ProtocolLabel → Option OrderedProtocol
  | .control l sent =>
    match l with
    -- replies come from the receiving end
    | .finishReceiver _ => none
    | l => (s.control.step P S l).map (fun control =>
        { s with control := control, inFlight := s.inFlight ++ s.sends l sent })
  | .notifyUnordered notification =>
    if !notification.ordered && notification.tag.isNone then
      some { s with inFlight := s.inFlight ++ [notification] }
    else none
  | .notifyEvent i =>
    (s.inFlight[i]?).map (fun notification =>
      { s with
        inFlight := s.inFlight.eraseIdx i
        receivers := s.receivers.notifyEvent notification })
  | .lose i =>
    (s.inFlight[i]?).map (fun _ => { s with inFlight := s.inFlight.eraseIdx i })
  | .receivers l =>
    match l with
    | .notifyEvent _ => none
    | l => (s.receivers.step l).map (fun receivers => { s with receivers := receivers })
  | .finishReceiver i =>
    (s.receivers.outbox[i]?).map (fun call =>
      { s with
        control := s.control.finishReceiver (reply call)
        receivers := { s.receivers with outbox := s.receivers.outbox.eraseIdx i } })

end OrderedProtocol

/-- **The ordered protocol as a machine.** -/
def orderedProtocol (P : Platform) (S : StdSort) : Machine OrderedProtocol ProtocolLabel where
  init := {}
  step := OrderedProtocol.step P S

end CommonEventService
