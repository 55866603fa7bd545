import CommonEventService.CommonEvent
import CommonEventService.InnerCommonEventManager

/-!
# Asking for a sticky event

A call of `GetStickyCommonEvent` goes from the client through a proxy to the
service, which checks the caller and looks into the sticky store. Two results
come back: an error code, which is `ERR_OK` whenever the call arrives, and a
boolean that says whether there is data. One of the checks of the service
assigns an error code to the boolean.
-/

namespace CommonEventService

def ERR_NOTIFICATION_CES_COMMON_NOT_SYSTEM_APP : Int := 202

/-- An integer that is assigned to a boolean. -/
def boolOfInt (n : Int) : Bool := n ≠ 0

/-- What a call of `GetStickyCommonEvent` returns, and leaves in its two other
arguments. -/
structure StickyReply (δ : Type) where
  errCode : Int
  eventData : δ
  funcResult : Bool
  deriving DecidableEq, Repr

/-- Who calls: `IPCSkeleton::GetCallingTokenID`, and what
`TokenIdKit::IsSystemAppByFullTokenID` says of its full token. -/
structure StickyCaller where
  callingTokenID : AccessTokenID
  isSystemAppByFullTokenID : Bool
  deriving DecidableEq, Repr

namespace StickyCaller

variable (P : Platform) (caller : StickyCaller)

/-- Whether the caller is a subsystem. -/
def isSubsystem : Bool := P.verifyNativeToken caller.callingTokenID

/-- `AccessTokenHelper::IsSystemApp`. -/
def isSystemApp : Bool :=
  P.getTokenTypeFlag caller.callingTokenID = .hap && caller.isSystemAppByFullTokenID

/-- Whether the caller holds the permission for sticky events. -/
def hasStickyPermission : Bool := P.verifyAccessToken caller.callingTokenID PERMISSION_STICKY

end StickyCaller

/-! ## The service -/

/-- What `GetStickyCommonEvent` looks at of **`CommonEventManagerService`**. -/
structure CommonEventManagerService (δ π : Type) where
  /-- Whether `innerCommonEventManager_` points to something. -/
  hasInnerCommonEventManager : Bool := true
  /-- Whether `commonEventSrvQueue_` points to something. -/
  hasCommonEventSrvQueue : Bool := true
  sticky : StickyManager δ π := ∅

namespace CommonEventManagerService

variable {δ π : Type} (P : Platform) (service : CommonEventManagerService δ π)
  (caller : StickyCaller) (event : String) (eventData : δ)

def isReady : Bool := service.hasInnerCommonEventManager && service.hasCommonEventSrvQueue

/-- **`GetStickyCommonEvent`**, of the service. -/
def getStickyCommonEvent : StickyReply δ :=
  if !service.isReady then ⟨ERR_OK, eventData, false⟩
  else if event = "" then ⟨ERR_OK, eventData, false⟩
  else if !caller.isSubsystem P && !caller.isSystemApp P then
    ⟨ERR_OK, eventData, boolOfInt ERR_NOTIFICATION_CES_COMMON_NOT_SYSTEM_APP⟩
  else if !caller.hasStickyPermission P then ⟨ERR_OK, eventData, false⟩
  else
    match service.sticky.getStickyCommonEvent event with
    | some data => ⟨ERR_OK, data, true⟩
    | none => ⟨ERR_OK, eventData, false⟩

/-- Who is to get a sticky event: a subsystem or system application with the
permission, of a service that is ready and holds the event. -/
structure IsGranted : Prop where
  ready : service.isReady = true
  nonempty : event ≠ ""
  system : caller.isSubsystem P = true ∨ caller.isSystemApp P = true
  permission : caller.hasStickyPermission P = true
  stored : event ∈ service.sticky

/-- Who is refused by the check that comes third, for being neither a subsystem
nor a system application. -/
structure IsRefusedAsNotSystem : Prop where
  ready : service.isReady = true
  nonempty : event ≠ ""
  notSubsystem : caller.isSubsystem P = false
  notSystemApp : caller.isSystemApp P = false

/-- A call always arrives. -/
theorem errCode_getStickyCommonEvent :
    (service.getStickyCommonEvent P caller event eventData).errCode = ERR_OK := by
  unfold getStickyCommonEvent
  split
  · rfl
  · split
    · rfl
    · split
      · rfl
      · split
        · rfl
        · split <;> rfl

variable {P service caller event}

/-- **A call that is granted** gives the data of the store. -/
theorem getStickyCommonEvent_of_isGranted (h : service.IsGranted P caller event) :
    ∃ record, AList.lookup event service.sticky = some record
      ∧ service.getStickyCommonEvent P caller event eventData
        = ⟨ERR_OK, record.commonEventData, true⟩ := by
  obtain ⟨record, hrecord⟩ := Option.isSome_iff_exists.mp (AList.lookup_isSome.mpr h.stored)
  refine ⟨record, hrecord, ?_⟩
  have hsystem : (!caller.isSubsystem P && !caller.isSystemApp P) = false := by
    obtain hsubsystem | hsystemApp := h.system
    · rw [hsubsystem, Bool.not_true, Bool.false_and]
    · rw [hsystemApp, Bool.not_true, Bool.and_false]
  unfold getStickyCommonEvent StickyManager.getStickyCommonEvent
  rw [h.ready, if_neg h.nonempty, if_neg h.nonempty, hsystem, h.permission, hrecord]
  rfl

/-- **A call that the third check refuses** leaves the data, and says that there
is some. -/
theorem getStickyCommonEvent_of_isRefusedAsNotSystem
    (h : service.IsRefusedAsNotSystem P caller event) :
    service.getStickyCommonEvent P caller event eventData = ⟨ERR_OK, eventData, true⟩ := by
  unfold getStickyCommonEvent
  rw [h.ready, if_neg h.nonempty, h.notSubsystem, h.notSystemApp]
  rfl

/-- **A call that is refused otherwise** leaves the data, and says that there is
none. -/
theorem getStickyCommonEvent_of_not_isGranted (h : ¬ service.IsGranted P caller event)
    (hcheck : ¬ service.IsRefusedAsNotSystem P caller event) :
    service.getStickyCommonEvent P caller event eventData = ⟨ERR_OK, eventData, false⟩ := by
  unfold getStickyCommonEvent
  cases hready : service.isReady with
  | false => rfl
  | true =>
    rw [Bool.not_true, if_neg Bool.false_ne_true]
    by_cases hevent : event = ""
    · exact if_pos hevent
    · rw [if_neg hevent]
      split
      next hsystem =>
        -- the third check does not refuse this call
        rw [Bool.and_eq_true, Bool.not_eq_true', Bool.not_eq_true'] at hsystem
        exact absurd ⟨hready, hevent, hsystem.1, hsystem.2⟩ hcheck
      next hsystem =>
        rw [← Bool.not_or, Bool.not_eq_true', Bool.not_eq_false, Bool.or_eq_true] at hsystem
        cases hpermission : caller.hasStickyPermission P with
        | false => rfl
        | true =>
          have hnone : AList.lookup event service.sticky = none :=
            AList.lookup_eq_none.mpr fun hstored =>
              h ⟨hready, hevent, hsystem, hpermission, hstored⟩
          unfold StickyManager.getStickyCommonEvent
          rw [if_neg hevent, hnone]
          rfl

end CommonEventManagerService

/-! ## The client -/

/-- **`CommonEvent::GetStickyCommonEvent`**, over a proxy or none. -/
def CommonEvent.getStickyCommonEvent {δ : Type} (proxy : Option (String → δ → StickyReply δ))
    (event : String) (eventData : δ) : Bool :=
  if event = "" then false
  else
    match proxy with
    | none => false
    | some getStickyCommonEvent =>
      let reply := getStickyCommonEvent event eventData
      if reply.errCode ≠ ERR_OK then false else reply.funcResult

section Layers

variable {δ π : Type}

/-- A proxy that works: its call is made on the service, with data of the stub,
and both results of the service come back. -/
def IsWorking (P : Platform) (service : CommonEventManagerService δ π) (caller : StickyCaller)
    (getStickyCommonEvent : String → δ → StickyReply δ) : Prop :=
  ∀ event eventData, ∃ stubData,
    (getStickyCommonEvent event eventData).errCode
        = (service.getStickyCommonEvent P caller event stubData).errCode
      ∧ (getStickyCommonEvent event eventData).funcResult
        = (service.getStickyCommonEvent P caller event stubData).funcResult

/-- **How a call is to be answered**: the service says that there is data, and
the client says so, exactly where the call is granted, and the data is that of
the store there, and left elsewhere. -/
structure IsAnswered (P : Platform) (service : CommonEventManagerService δ π)
    (caller : StickyCaller) (proxy : String → δ → StickyReply δ) (event : String)
    (eventData : δ) : Prop where
  funcResult : (service.getStickyCommonEvent P caller event eventData).funcResult = true
    ↔ service.IsGranted P caller event
  stored : service.IsGranted P caller event →
    ∃ record, AList.lookup event service.sticky = some record
      ∧ (service.getStickyCommonEvent P caller event eventData).eventData = record.commonEventData
  unchanged : ¬ service.IsGranted P caller event →
    (service.getStickyCommonEvent P caller event eventData).eventData = eventData
  client : CommonEvent.getStickyCommonEvent (some proxy) event eventData = true
    ↔ service.IsGranted P caller event

variable {P : Platform} {service : CommonEventManagerService δ π} {caller : StickyCaller}
  {proxy : String → δ → StickyReply δ}

/-- Over a proxy that works the client says what the service says. -/
theorem exists_client_eq (hproxy : IsWorking P service caller proxy) (event : String)
    (eventData : δ) :
    ∃ stubData, CommonEvent.getStickyCommonEvent (some proxy) event eventData
      = (service.getStickyCommonEvent P caller event stubData).funcResult := by
  obtain ⟨stubData, herrCode, hfuncResult⟩ := hproxy event eventData
  refine ⟨stubData, ?_⟩
  unfold CommonEvent.getStickyCommonEvent
  split
  next hempty =>
    rw [CommonEventManagerService.getStickyCommonEvent_of_not_isGranted stubData
      (fun h => h.nonempty hempty) (fun h => h.nonempty hempty)]
  next =>
    dsimp only
    rw [herrCode, CommonEventManagerService.errCode_getStickyCommonEvent,
      if_neg (fun h => h rfl), hfuncResult]

/-- **A call is answered as it is to be exactly where** it is not refused for
coming from neither a subsystem nor a system application. -/
theorem isAnswered_iff (hproxy : IsWorking P service caller proxy) (event : String)
    (eventData : δ) :
    IsAnswered P service caller proxy event eventData
      ↔ ¬ service.IsRefusedAsNotSystem P caller event := by
  obtain ⟨stubData, hclient⟩ := exists_client_eq hproxy event eventData
  constructor
  · intro h hrefused
    have hgranted := h.funcResult.mp (by
      rw [CommonEventManagerService.getStickyCommonEvent_of_isRefusedAsNotSystem _ hrefused])
    obtain hsubsystem | hsystemApp := hgranted.system
    · rw [hrefused.notSubsystem] at hsubsystem
      cases hsubsystem
    · rw [hrefused.notSystemApp] at hsystemApp
      cases hsystemApp
  · intro hcheck
    by_cases hgranted : service.IsGranted P caller event
    · obtain ⟨record, hrecord, hreply⟩ :=
        CommonEventManagerService.getStickyCommonEvent_of_isGranted eventData hgranted
      obtain ⟨_, _, hstub⟩ :=
        CommonEventManagerService.getStickyCommonEvent_of_isGranted stubData hgranted
      refine ⟨iff_of_true (by rw [hreply]) hgranted,
        fun _ => ⟨record, hrecord, by rw [hreply]⟩, fun h => absurd hgranted h,
        iff_of_true ?_ hgranted⟩
      rw [hclient, hstub]
    · have hreply := CommonEventManagerService.getStickyCommonEvent_of_not_isGranted eventData
        hgranted hcheck
      have hstub := CommonEventManagerService.getStickyCommonEvent_of_not_isGranted stubData
        hgranted hcheck
      refine ⟨iff_of_false (by rw [hreply]; exact Bool.false_ne_true) hgranted,
        fun h => absurd h hgranted, fun _ => by rw [hreply],
        iff_of_false ?_ hgranted⟩
      rw [hclient, hstub]
      exact Bool.false_ne_true

end Layers

/-- A service that stores the event 5 under a name, and calls made without a
process between. -/
def serviceOfOne : CommonEventManagerService ℕ Unit where
  sticky := AList.insert "event" { commonEventData := 5, publishInfo := () } ∅

/-- A subsystem with the permission asks for an event that is stored. -/
theorem isAnswered_iff_subsystem :
    IsAnswered { getTokenTypeFlag := fun _ => .native, verifyAccessToken := fun _ _ => true }
      serviceOfOne ⟨1, false⟩
      (serviceOfOne.getStickyCommonEvent
        { getTokenTypeFlag := fun _ => .native, verifyAccessToken := fun _ _ => true } ⟨1, false⟩)
      "event" 0 := by
  refine (isAnswered_iff (fun event eventData => ⟨eventData, rfl, rfl⟩) "event" 0).mpr ?_
  intro h
  cases h.notSubsystem

/-- An application that is not a system application is told that there is data,
where none is stored. -/
theorem not_isAnswered :
    ¬ ∀ (P : Platform) (service : CommonEventManagerService ℕ Unit) (caller : StickyCaller)
      (proxy : String → ℕ → StickyReply ℕ), IsWorking P service caller proxy →
        ∀ event eventData, IsAnswered P service caller proxy event eventData := by
  intro h
  have hanswered := h {} {} ⟨1, false⟩
    (CommonEventManagerService.getStickyCommonEvent {} {} ⟨1, false⟩)
    (fun event eventData => ⟨eventData, rfl, rfl⟩) "event" 0
  exact absurd (hanswered.funcResult.mp rfl).stored (AList.notMem_empty _)

end CommonEventService
