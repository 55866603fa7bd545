import CommonEventService.Basic
import CommonEventService.Lib.Dict

/-!
# The sticky manager

`CommonEventStickyManager` keeps, for each event name, the record of the last
sticky event published under it. The record is copied when it is stored, and
its two pointers with it: what is stored is where the data lies, not the
data.
-/

namespace CommonEventService

/-- **`CommonEventStickyManager`**: `commonEventRecords_`. -/
abbrev StickyManager (δ π : Type) := Dict String (CommonEventRecord δ π)

namespace StickyManager

variable {δ π : Type} (sticky : StickyManager δ π)

/-- `FindStickyEvents`: the records stored under the names subscribed to, in
the order of the names. -/
def findStickyEvents (subscribeInfo : CommonEventSubscribeInfo) :
    List (CommonEventRecord δ π) :=
  subscribeInfo.getEvents.filterMap (fun event => AList.lookup event sticky)

/-- `GetStickyCommonEvent`, up to the copy of the data. -/
def getStickyCommonEvent (event : String) : Option δ :=
  if event = "" then none
  else (AList.lookup event sticky).map (fun record => record.commonEventData)

/-- `UpdateStickyEvent`; `action` is that of the record's data. -/
def updateStickyEvent (action : String) (eventRecord : CommonEventRecord δ π) :
    StickyManager δ π :=
  if action = "" then sticky else AList.insert action eventRecord sticky

/-- `RemoveStickyCommonEvent`: only the publisher of the stored record removes
it, and everyone is told that all went well. -/
def removeStickyCommonEvent (event : String) (callerUid : Uid) : StickyManager δ π :=
  match AList.lookup event sticky with
  | some record =>
    if record.eventRecordInfo.uid = callerUid then AList.erase event sticky else sticky
  | none => sticky

theorem lookup_updateStickyEvent {action : String} (haction : action ≠ "")
    (eventRecord : CommonEventRecord δ π) (event : String) :
    AList.lookup event (sticky.updateStickyEvent action eventRecord)
      = if event = action then some eventRecord else AList.lookup event sticky := by
  unfold updateStickyEvent
  rw [if_neg haction, Dict.lookup_insert_ite]

theorem lookup_removeStickyCommonEvent (event : String) (callerUid : Uid)
    (event' : String) :
    AList.lookup event' (sticky.removeStickyCommonEvent event callerUid)
      = if event' = event ∧ ∃ record, AList.lookup event sticky = some record
            ∧ record.eventRecordInfo.uid = callerUid
        then none else AList.lookup event' sticky := by
  unfold removeStickyCommonEvent
  cases hlookup : AList.lookup event sticky with
  | none => simp
  | some record =>
    by_cases huid : record.eventRecordInfo.uid = callerUid
    · simp [huid, Dict.lookup_erase_ite]
    · simp [huid]

/-- What is found is stored under a name subscribed to. -/
theorem mem_findStickyEvents {subscribeInfo : CommonEventSubscribeInfo}
    {record : CommonEventRecord δ π} :
    record ∈ sticky.findStickyEvents subscribeInfo
      ↔ ∃ event ∈ subscribeInfo.getEvents, AList.lookup event sticky = some record :=
  List.mem_filterMap

end StickyManager

end CommonEventService
