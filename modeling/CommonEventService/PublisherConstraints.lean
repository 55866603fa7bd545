import CommonEventService.SubscriberMatching

/-!
# What a subscriber asks of a publisher

A subscriber may name the bundle and the uid that an event is to come from, and
a permission that its publisher is to hold; and no instance of an application
receives what another instance publishes. The four are checked in three
functions, over a uid that is signed on the one side and unsigned on the other.
The uid that is asked for is not compared where the publisher has the uid 0.
-/

namespace CommonEventService

variable {δ π : Type} {P : Platform} {subscriber : EventSubscriberRecord} {event : EventRecord}

/-- **The constraints of a subscriber on a publisher** whose uid is not exempt
from being compared. -/
structure MeetsConstraints (P : Platform) (subscriber : EventSubscriberRecord)
    (event : EventRecord) (isExempt : Uid → Bool) : Prop where
  bundleName : subscriber.eventSubscribeInfo.publisherBundleName ≠ "" →
    event.eventRecordInfo.bundleName = subscriber.eventSubscribeInfo.publisherBundleName
  publisherUid : 0 < subscriber.eventSubscribeInfo.publisherUid →
    isExempt event.eventRecordInfo.uid = false →
    (event.eventRecordInfo.uid.toNat : Int) = subscriber.eventSubscribeInfo.publisherUid.toInt
  permission : subscriber.eventSubscribeInfo.permission ≠ "" →
    P.verifyAccessToken event.eventRecordInfo.callerToken
        subscriber.eventSubscribeInfo.permission = true
      ∨ subscriber.eventRecordInfo.uid = event.eventRecordInfo.uid
  appIndex : event.eventRecordInfo.bundleName ≠ "" →
    subscriber.eventRecordInfo.bundleName = event.eventRecordInfo.bundleName →
    subscriber.eventRecordInfo.uid = event.eventRecordInfo.uid

/-- The uid of the root user. -/
def isRoot (uid : Uid) : Bool := uid = 0

/-! ## The checks -/

/-- A uid that is signed and positive is compared by its value. -/
theorem toUInt32_eq_iff {publisherUid : Int32} {uid : Uid} (hpos : 0 < publisherUid) :
    publisherUid.toUInt32 = uid ↔ (uid.toNat : Int) = publisherUid.toInt := by
  have hbits : publisherUid.toInt
      = if 2 * publisherUid.toUInt32.toNat < 4294967296 then (publisherUid.toUInt32.toNat : Int)
        else (publisherUid.toUInt32.toNat : Int) - (4294967296 : ℕ) :=
    BitVec.toInt_eq_toNat_cond publisherUid.toBitVec
  have hpos' : 0 < publisherUid.toInt := Int32.lt_iff_toInt_lt.mp hpos
  have hlt : publisherUid.toUInt32.toNat < 4294967296 := publisherUid.toUInt32.toNat_lt
  have hvalue : publisherUid.toInt = (publisherUid.toUInt32.toNat : Int) := by
    split at hbits
    · exact hbits
    · omega
  rw [hvalue, Int.natCast_inj, UInt32.toNat_inj, eq_comm]

theorem checkWhetherIsAppIndexSubscribed_iff :
    checkWhetherIsAppIndexSubscribed subscriber event = true
      ↔ (event.eventRecordInfo.bundleName ≠ "" →
        subscriber.eventRecordInfo.bundleName = event.eventRecordInfo.bundleName →
        subscriber.eventRecordInfo.uid = event.eventRecordInfo.uid) := by
  unfold checkWhetherIsAppIndexSubscribed
  rw [Bool.not_eq_true', ← Bool.not_eq_true]
  simp only [Bool.and_eq_true, decide_eq_true_eq, and_imp, not_and, Decidable.not_not]
  constructor
  · intro h hbundle hsame
    exact h hbundle (by rw [hsame]; exact hbundle) hsame
  · intro h hbundle _ hsame
    exact h hbundle hsame

theorem checkSubscriberRequiredPermission_iff :
    checkSubscriberRequiredPermission P subscriber event = true
      ↔ (subscriber.eventSubscribeInfo.permission ≠ "" →
        P.verifyAccessToken event.eventRecordInfo.callerToken
            subscriber.eventSubscribeInfo.permission = true
          ∨ subscriber.eventRecordInfo.uid = event.eventRecordInfo.uid) := by
  unfold checkSubscriberRequiredPermission
  dsimp only
  by_cases huid : subscriber.eventRecordInfo.uid = event.eventRecordInfo.uid
  · rw [if_pos huid]
    exact iff_of_true rfl fun _ => .inr huid
  · rw [if_neg huid]
    split
    next hempty => exact iff_of_true rfl fun hne => absurd hempty hne
    next hne => rw [or_iff_left huid, imp_iff_right hne]

/-- **The checks of a subscriber's constraints** let through exactly the
publishers that meet them, but for the uid of the root user. -/
theorem checkPublisher_iff :
    (checkWhetherIsAppIndexSubscribed subscriber event
        && checkPublisherWhetherMatched P subscriber event) = true
      ↔ MeetsConstraints P subscriber event isRoot := by
  rw [Bool.and_eq_true, checkWhetherIsAppIndexSubscribed_iff]
  unfold checkPublisherWhetherMatched
  dsimp only
  constructor
  · rintro ⟨happIndex, h⟩
    split at h
    next => cases h
    next hbundle =>
      split at h
      next => cases h
      next huid =>
        refine ⟨fun hne => ?_, fun hpos hexempt => ?_,
          checkSubscriberRequiredPermission_iff.mp h, happIndex⟩
        · by_contra hother
          exact hbundle ⟨hne, fun heq => hother heq.symm⟩
        · rw [← toUInt32_eq_iff hpos]
          by_contra hother
          exact huid ⟨hpos, UInt32.pos_iff_ne_zero.mpr (of_decide_eq_false hexempt), hother⟩
  · intro h
    refine ⟨h.appIndex, ?_⟩
    rw [if_neg, if_neg]
    · exact checkSubscriberRequiredPermission_iff.mpr h.permission
    · rintro ⟨hpos, huid, hother⟩
      exact hother ((toUInt32_eq_iff hpos).mpr (h.publisherUid hpos
        (decide_eq_false (UInt32.pos_iff_ne_zero.mp huid))))
    · rintro ⟨hne, hother⟩
      exact hother (h.bundleName hne).symm

/-! ## The receivers of an event -/

/-- A receiver of an event passes the checks, as its record stands then. -/
theorem SubscriberManager.matchesLive_of_mem {m : SubscriberManager δ π}
    {r : SubscriberRecordPtr} (h : r ∈ (m.getSubscriberRecords P event).1) :
    matchesLive P ((m.getSubscriberRecords P event).2.heap r) event = true :=
  (List.mem_filter.mp h).2

/-- **Every receiver of an event has its constraints on the publisher met**, but
for the uid that it asks for where the root user has published. -/
theorem SubscriberManager.meetsConstraints_of_mem (m : SubscriberManager δ π) (event : EventRecord)
    {r : SubscriberRecordPtr} (h : r ∈ (m.getSubscriberRecords P event).1) :
    MeetsConstraints P ((m.getSubscriberRecords P event).2.heap r) event isRoot := by
  have hmatches := matchesLive_of_mem h
  unfold matchesLive at hmatches
  simp only [Bool.and_eq_true] at hmatches
  obtain ⟨⟨⟨-, happIndex⟩, hpublisher⟩, -⟩ := hmatches
  refine checkPublisher_iff.mp ?_
  rw [happIndex, hpublisher]
  rfl

/-- A subscriber to `e` that asks for the publisher of uid 1000, and for a
permission. -/
def subscriberOfOnePublisher : SubscriberManager ℕ ℕ where
  nextAddr := 1
  heap := fun _ =>
    { eventSubscribeInfo :=
        { matchingSkills := { events := ["e"] }
          userId := ALL_USER
          permission := "p"
          publisherBundleName := "publisher"
          publisherUid := 1000 }
      commonEventListener := ⟨1⟩
      eventRecordInfo := { uid := 2000, bundleName := "subscriber" } }
  subscribers := [0]
  eventSubscribers := AList.insert "e" [0] ∅

/-- The event `e`, of a publisher that holds every permission. -/
def eventOfUid (uid : Uid) : EventRecord where
  commonEventData := { want := { action := "e" } }
  publishInfo := {}
  userId := 100
  eventRecordInfo := { uid := uid, bundleName := "publisher" }

/-- The event of the publisher that is asked for is received. -/
theorem SubscriberManager.meetsConstraints_of_mem_one :
    ∃ r ∈ (subscriberOfOnePublisher.getSubscriberRecords
        { verifyAccessToken := fun _ _ => true } (eventOfUid 1000)).1,
      MeetsConstraints { verifyAccessToken := fun _ _ => true }
        ((subscriberOfOnePublisher.getSubscriberRecords
          { verifyAccessToken := fun _ _ => true } (eventOfUid 1000)).2.heap r)
        (eventOfUid 1000) isRoot := by
  have hmem : 0 ∈ (subscriberOfOnePublisher.getSubscriberRecords
      { verifyAccessToken := fun _ _ => true } (eventOfUid 1000)).1 := by
    decide +kernel
  exact ⟨0, hmem, subscriberOfOnePublisher.meetsConstraints_of_mem _ hmem⟩

/-- **The root user is not compared**: an event of the uid 0 is received by the
subscriber that asks for another uid. -/
theorem SubscriberManager.not_meetsConstraints_root :
    ¬ ∀ (P : Platform) (m : SubscriberManager ℕ ℕ) (event : EventRecord)
      (r : SubscriberRecordPtr), r ∈ (m.getSubscriberRecords P event).1 →
      MeetsConstraints P ((m.getSubscriberRecords P event).2.heap r) event (fun _ => false) := by
  intro h
  have hmem : 0 ∈ (subscriberOfOnePublisher.getSubscriberRecords
      { verifyAccessToken := fun _ _ => true } (eventOfUid 0)).1 := by
    decide +kernel
  have huid := (h _ _ _ _ hmem).publisherUid (by decide +kernel) rfl
  revert huid
  decide +kernel

end CommonEventService
