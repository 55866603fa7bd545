import CommonEventService.SubscriberIndex

/-!
# The counts of subscriptions

`subscriberCounts_` has how many subscriptions each process holds, and what is
done at the limit goes by it. Two questions are settled here.

Are the counts exact? An update replaces the `eventRecordInfo` of its record,
and with it the pid, and leaves the counts; the record then counts for the
process it was of. `KeepsPid` is the condition on an update, and it is exact.

Is the limit enforced? The number of subscribers is compared with the limit
for equality, and a subscription that is admitted at the limit takes the
number past it until the process killed for it is gone. `NotPastLimit` is the
condition on a subscription, and it is exact as well.
-/

namespace CommonEventService

namespace SubscriberManager

variable {δ π : Type} {m m' : SubscriberManager δ π}

/-- How many of the registered records are of a process. -/
def registeredCount (m : SubscriberManager δ π) (pid : Pid) : ℕ :=
  m.subscribers.countP (fun r => decide ((m.heap r).eventRecordInfo.pid = pid))

/-- What `subscriberCounts_` has for a process. -/
def recordedCount (m : SubscriberManager δ π) (pid : Pid) : ℕ :=
  Dict.getD m.subscriberCounts pid 0

/-- **The counts are exact**, and the process that is chosen at the limit has
as many subscriptions as any. -/
structure CountsSound (S : StdSort) (m : SubscriberManager δ π) : Prop where
  recorded : ∀ pid, m.recordedCount pid = m.registeredCount pid
  positive : ∀ pid count, m.subscriberCounts.lookup pid = some count → count ≠ 0
  top : ∀ pid count, (m.getTopSubscriberCounts S 1).head? = some (pid, count) →
    ∀ pid', m.registeredCount pid' ≤ m.registeredCount pid

/-! ## The process with the most -/

/-- **The first of the top counts** is recorded, and no recorded count is
greater. -/
theorem head_getTopSubscriberCounts (S : StdSort) {pid : Pid} {count : ℕ}
    (h : (m.getTopSubscriberCounts S 1).head? = some (pid, count)) :
    m.recordedCount pid = count ∧ ∀ pid', m.recordedCount pid' ≤ count := by
  have hlisting := Dict.isListing_toList m.subscriberCounts
  obtain ⟨sorted, hsorted⟩ : ∃ sorted, sorted
      = S.sort (fun a b => decide (a.2 > b.2)) (Dict.toList m.subscriberCounts) := ⟨_, rfl⟩
  have hmem : ∀ entry, entry ∈ sorted ↔ entry ∈ Dict.toList m.subscriberCounts := by
    intro entry
    rw [hsorted, S.mem_sort]
  have hpairwise : sorted.Pairwise (fun a b => b.2 ≤ a.2) := by
    rw [hsorted]
    exact S.sort_pairwise_key Prod.snd _
  change ((S.sort (fun a b => decide (a.2 > b.2)) (Dict.toList m.subscriberCounts)).take
    1).head? = some (pid, count) at h
  rw [← hsorted] at h
  cases sorted with
  | nil => cases h
  | cons first rest =>
    obtain rfl : first = (pid, count) := Option.some.inj h
    refine ⟨?_, fun pid' => ?_⟩
    · have hlookup := (hlisting.mem pid count).mp ((hmem _).mp List.mem_cons_self)
      rw [recordedCount, Dict.getD, hlookup]
      rfl
    · rw [recordedCount, Dict.getD]
      cases hlookup : m.subscriberCounts.lookup pid' with
      | none => exact Nat.zero_le _
      | some count' =>
        have hin := (hmem _).mpr ((hlisting.mem pid' count').mpr hlookup)
        obtain heq | hin := List.mem_cons.mp hin
        · cases heq
          exact le_refl _
        · exact (List.pairwise_cons.mp hpairwise).1 _ hin

/-- No process is the first of the top counts only if none is recorded. -/
theorem subscriberCounts_of_head_none {S : StdSort}
    (h : (m.getTopSubscriberCounts S 1).head? = none) : m.subscriberCounts = ∅ := by
  have hlength := congrArg List.length (List.head?_eq_none_iff.mp h)
  unfold getTopSubscriberCounts at hlength
  rw [List.length_take, S.length_sort, List.length_map, List.length_nil] at hlength
  exact AList.ext (List.length_eq_zero_iff.mp (by omega))

/-- Where the counts are exact, the process that is chosen has as many
subscriptions as any. -/
theorem CountsSound.of_recorded (S : StdSort)
    (hrecorded : ∀ pid, m.recordedCount pid = m.registeredCount pid)
    (hpositive : ∀ pid count, m.subscriberCounts.lookup pid = some count → count ≠ 0) :
    m.CountsSound S := by
  refine ⟨hrecorded, hpositive, fun pid count hhead pid' => ?_⟩
  obtain ⟨hcount, hmax⟩ := head_getTopSubscriberCounts S hhead
  rw [← hrecorded, ← hrecorded, hcount]
  exact hmax pid'

/-! ## Counting one more, and one less -/

/-- The counts with one more for a process. -/
def countMore (counts : Dict Pid ℕ) (pid : Pid) : Dict Pid ℕ :=
  counts.insert pid (Dict.getD counts pid 0 + 1)

/-- The counts with one less for a process. -/
def countLess (counts : Dict Pid ℕ) (pid : Pid) : Dict Pid ℕ :=
  if Dict.getD counts pid 0 > 1 then counts.insert pid (Dict.getD counts pid 0 - 1)
  else counts.erase pid

variable {counts : Dict Pid ℕ}

theorem getD_countMore (pid pid' : Pid) :
    Dict.getD (countMore counts pid) pid' 0
      = Dict.getD counts pid' 0 + if pid = pid' then 1 else 0 := by
  unfold countMore
  rw [Dict.getD, Dict.lookup_insert_ite]
  by_cases h : pid' = pid
  · rw [if_pos h, if_pos h.symm, h]
    rfl
  · rw [if_neg h, if_neg (Ne.symm h)]
    rfl

theorem getD_countLess (pid pid' : Pid) :
    Dict.getD (countLess counts pid) pid' 0
      = Dict.getD counts pid' 0 - if pid = pid' then 1 else 0 := by
  unfold countLess
  by_cases h : pid' = pid
  · subst h
    rw [if_pos rfl]
    split
    · rw [Dict.getD, AList.lookup_insert]
      rfl
    next hle =>
      rw [Dict.getD, AList.lookup_erase]
      show 0 = _
      omega
  · rw [if_neg (Ne.symm h), Nat.sub_zero]
    split
    · rw [Dict.getD, AList.lookup_insert_ne h]
      rfl
    · rw [Dict.getD, AList.lookup_erase_ne h]
      rfl

theorem positive_countMore (h : ∀ pid count, counts.lookup pid = some count → count ≠ 0)
    (pid : Pid) : ∀ pid' count, (countMore counts pid).lookup pid' = some count → count ≠ 0 := by
  intro pid' count hlookup
  unfold countMore at hlookup
  rw [Dict.lookup_insert_ite] at hlookup
  split at hlookup
  · cases hlookup
    exact Nat.succ_ne_zero _
  · exact h pid' count hlookup

theorem positive_countLess (h : ∀ pid count, counts.lookup pid = some count → count ≠ 0)
    (pid : Pid) : ∀ pid' count, (countLess counts pid).lookup pid' = some count → count ≠ 0 := by
  intro pid' count hlookup
  unfold countLess at hlookup
  split at hlookup
  next hgt =>
    rw [Dict.lookup_insert_ite] at hlookup
    split at hlookup
    · cases hlookup
      omega
    · exact h pid' count hlookup
  next =>
    rw [Dict.lookup_erase_ite] at hlookup
    split at hlookup
    · cases hlookup
    · exact h pid' count hlookup

/-! ## A first subscription -/

/-- The manager with a record made for a listener, not yet registered. -/
def withRecord (m : SubscriberManager δ π) (info : CommonEventSubscribeInfo) (listener : Remote)
    (recordInfo : EventRecordInfo) : SubscriberManager δ π :=
  { m with
    nextAddr := m.nextAddr + 1
    heap := Function.update m.heap m.nextAddr
      { eventSubscribeInfo := info
        commonEventListener := listener
        eventRecordInfo := recordInfo } }

/-- The manager with a record made for a listener, and registered. -/
def withSubscriber (m : SubscriberManager δ π) (info : CommonEventSubscribeInfo)
    (listener : Remote) (recordInfo : EventRecordInfo) : SubscriberManager δ π :=
  { m.withRecord info listener recordInfo with
    eventSubscribers := insertEventSubscribers m.eventSubscribers m.nextAddr info.getEvents
    subscribers := m.subscribers ++ [m.nextAddr]
    subscriberCounts := countMore m.subscriberCounts recordInfo.pid }

/-- A first subscription is refused: the limit is reached, and its own process
has the most subscriptions. -/
def RefusedAtLimit (m : SubscriberManager δ π) (S : StdSort) (maxSubscriberNum : ℕ)
    (pid : Pid) : Prop :=
  m.checkSubscriberCountReachedMaxinum maxSubscriberNum = true
    ∧ (m.getTopSubscriberCounts S 1).head?.map (·.1) = some pid

/-- A subscription that gets as far as the record of its listener. -/
def WellFormed (info : CommonEventSubscribeInfo) : Prop :=
  info.getEvents.length ≠ 0 ∧ info.getEvents.length ≤ SUBSCRIBE_EVENT_MAX_NUM

instance (info : CommonEventSubscribeInfo) : Decidable (WellFormed info) :=
  inferInstanceAs (Decidable (_ ∧ _))

theorem not_wellFormed {info : CommonEventSubscribeInfo} :
    ¬ WellFormed info
      ↔ info.getEvents.length = 0 ∨ info.getEvents.length > SUBSCRIBE_EVENT_MAX_NUM := by
  unfold WellFormed
  rw [not_and_or, not_not, Nat.not_le]

/-- A subscription that is not well formed does nothing. -/
theorem insertSubscriber_of_not_wellFormed (S : StdSort) (maxSubscriberNum : ℕ)
    {info : CommonEventSubscribeInfo} (h : ¬ WellFormed info) (listener : Remote)
    (recordInfo : EventRecordInfo) :
    m.insertSubscriber S maxSubscriberNum (some info) (some listener) recordInfo = (none, m) := by
  unfold insertSubscriber
  dsimp only
  rw [if_pos (not_wellFormed.mp h)]

/-- A known listener subscribes anew. -/
theorem insertSubscriber_of_known (S : StdSort) (maxSubscriberNum : ℕ)
    {info : CommonEventSubscribeInfo} (h : WellFormed info) {listener : Remote}
    {record : SubscriberRecordPtr} (hfind : m.getSubscriberRecord listener = some record)
    (recordInfo : EventRecordInfo) :
    m.insertSubscriber S maxSubscriberNum (some info) (some listener) recordInfo
      = (some record, m.updateSubscriberRecordLocked S info recordInfo record) := by
  unfold insertSubscriber
  dsimp only
  rw [if_neg (fun hnot => not_wellFormed.mpr hnot h), hfind]

/-- A subscription of a new listener makes a record and inserts it. -/
theorem insertSubscriber_eq_withRecord (S : StdSort) (maxSubscriberNum : ℕ)
    {info : CommonEventSubscribeInfo} (h : WellFormed info) {listener : Remote}
    (hfind : m.getSubscriberRecord listener = none) (recordInfo : EventRecordInfo) :
    m.insertSubscriber S maxSubscriberNum (some info) (some listener) recordInfo
      = match (m.withRecord info listener recordInfo).insertSubscriberRecordLocked S
            maxSubscriberNum info.getEvents m.nextAddr with
        | (.refused, m') => (none, m')
        | (.inserted _, m') => (some m.nextAddr, m') := by
  unfold insertSubscriber
  dsimp only
  rw [if_neg (fun hnot => not_wellFormed.mpr hnot h), hfind]
  rfl

/-- **A new listener subscribes**, and is refused or not. -/
theorem insertSubscriber_of_new (S : StdSort) (maxSubscriberNum : ℕ)
    {info : CommonEventSubscribeInfo} (h : WellFormed info) {listener : Remote}
    (hfind : m.getSubscriberRecord listener = none) (recordInfo : EventRecordInfo) :
    m.RefusedAtLimit S maxSubscriberNum recordInfo.pid
        ∧ (m.insertSubscriber S maxSubscriberNum (some info) (some listener) recordInfo).2
          = m.withRecord info listener recordInfo
      ∨ ¬ m.RefusedAtLimit S maxSubscriberNum recordInfo.pid
        ∧ (m.insertSubscriber S maxSubscriberNum (some info) (some listener) recordInfo).2
          = m.withSubscriber info listener recordInfo := by
  have hpid : ((m.withRecord info listener recordInfo).heap m.nextAddr).eventRecordInfo.pid
      = recordInfo.pid := by simp [withRecord]
  rw [insertSubscriber_eq_withRecord S maxSubscriberNum h hfind recordInfo]
  unfold insertSubscriberRecordLocked RefusedAtLimit
  rw [if_neg h.1]
  dsimp only
  rw [hpid]
  by_cases hreached : m.checkSubscriberCountReachedMaxinum maxSubscriberNum = true
  · by_cases htop : (m.getTopSubscriberCounts S 1).head?.map (·.1) = some recordInfo.pid
    · refine .inl ⟨⟨hreached, htop⟩, ?_⟩
      rw [if_pos (show (m.withRecord info listener
        recordInfo).checkSubscriberCountReachedMaxinum maxSubscriberNum = true from hreached),
        if_pos (show ((m.withRecord info listener recordInfo).getTopSubscriberCounts S
          1).head?.map (·.1) = some recordInfo.pid from htop)]
    · refine .inr ⟨fun hrefused => htop hrefused.2, ?_⟩
      rw [if_pos (show (m.withRecord info listener
        recordInfo).checkSubscriberCountReachedMaxinum maxSubscriberNum = true from hreached),
        if_neg (show ¬ ((m.withRecord info listener recordInfo).getTopSubscriberCounts S
          1).head?.map (·.1) = some recordInfo.pid from htop)]
      rfl
  · refine .inr ⟨fun hrefused => hreached hrefused.1, ?_⟩
    rw [if_neg (show ¬ (m.withRecord info listener
      recordInfo).checkSubscriberCountReachedMaxinum maxSubscriberNum = true from hreached)]
    rfl

/-! ## What the operations do to the counts -/

/-- What is stored where no registered record lies does not matter. -/
theorem registeredCount_congr (hsub : m'.subscribers = m.subscribers)
    (hheap : ∀ r ∈ m.subscribers, m'.heap r = m.heap r) (pid : Pid) :
    m'.registeredCount pid = m.registeredCount pid := by
  unfold registeredCount
  rw [hsub]
  refine List.countP_congr fun r hr => ?_
  rw [hheap r hr]

theorem heap_withRecord (halloc : m.Allocated) (info : CommonEventSubscribeInfo)
    (listener : Remote) (recordInfo : EventRecordInfo) :
    ∀ r ∈ m.subscribers, (m.withRecord info listener recordInfo).heap r = m.heap r :=
  fun r hr => Function.update_of_ne (Nat.ne_of_lt (halloc r hr)) _ _

theorem registeredCount_withRecord (halloc : m.Allocated) (info : CommonEventSubscribeInfo)
    (listener : Remote) (recordInfo : EventRecordInfo) (pid : Pid) :
    (m.withRecord info listener recordInfo).registeredCount pid = m.registeredCount pid :=
  registeredCount_congr
    (show (m.withRecord info listener recordInfo).subscribers = m.subscribers from rfl)
    (heap_withRecord halloc info listener recordInfo) pid

theorem registeredCount_withSubscriber (halloc : m.Allocated) (info : CommonEventSubscribeInfo)
    (listener : Remote) (recordInfo : EventRecordInfo) (pid : Pid) :
    (m.withSubscriber info listener recordInfo).registeredCount pid
      = m.registeredCount pid + if recordInfo.pid = pid then 1 else 0 := by
  have hnew : (m.withRecord info listener recordInfo).heap m.nextAddr
      = { eventSubscribeInfo := info, commonEventListener := listener
          eventRecordInfo := recordInfo } := Function.update_self _ _ _
  show (m.subscribers ++ [m.nextAddr]).countP (fun r =>
    decide (((m.withRecord info listener recordInfo).heap r).eventRecordInfo.pid = pid)) = _
  rw [List.countP_append, List.countP_singleton, hnew]
  show (m.withRecord info listener recordInfo).registeredCount pid + _ = _
  rw [registeredCount_withRecord halloc]
  simp only [decide_eq_true_eq]

/-- The registered records of a process, one record and the others. -/
theorem registeredCount_eq_erase {record : SubscriberRecordPtr} (hrecord : record ∈ m.subscribers)
    (pid : Pid) :
    m.registeredCount pid
      = (m.subscribers.erase record).countP
          (fun r => decide ((m.heap r).eventRecordInfo.pid = pid))
        + if (m.heap record).eventRecordInfo.pid = pid then 1 else 0 := by
  unfold registeredCount
  rw [(List.perm_cons_erase hrecord).countP_eq, List.countP_cons]
  simp only [decide_eq_true_eq]

theorem registeredCount_remove {listener : Remote} {record : SubscriberRecordPtr}
    (hfind : m.getSubscriberRecord listener = some record) (pid : Pid) :
    (m.removeSubscriberRecordLocked listener).registeredCount pid
      = m.registeredCount pid
        - if (m.heap record).eventRecordInfo.pid = pid then 1 else 0 := by
  rw [registeredCount_eq_erase (getSubscriberRecord_some hfind).1, Nat.add_sub_cancel]
  unfold removeSubscriberRecordLocked
  rw [hfind]
  rfl

/-- **An update moves its record to the process it is made by.** -/
theorem registeredCount_update (hnodup : m.subscribers.Nodup) (S : StdSort)
    {record : SubscriberRecordPtr} (hrecord : record ∈ m.subscribers)
    (info : CommonEventSubscribeInfo) (recordInfo : EventRecordInfo) (pid : Pid) :
    (m.updateSubscriberRecordLocked S info recordInfo record).registeredCount pid
        + (if (m.heap record).eventRecordInfo.pid = pid then 1 else 0)
      = m.registeredCount pid + if recordInfo.pid = pid then 1 else 0 := by
  have hself : ((m.updateSubscriberRecordLocked S info recordInfo record).heap
      record).eventRecordInfo = recordInfo := by simp [updateSubscriberRecordLocked]
  have hother : (m.subscribers.erase record).countP (fun r => decide
        (((m.updateSubscriberRecordLocked S info recordInfo record).heap r).eventRecordInfo.pid
          = pid))
      = (m.subscribers.erase record).countP
        (fun r => decide ((m.heap r).eventRecordInfo.pid = pid)) := by
    refine List.countP_congr fun r hr => ?_
    have hne : r ≠ record := (hnodup.mem_erase_iff.mp hr).1
    have hheap : (m.updateSubscriberRecordLocked S info recordInfo record).heap r = m.heap r :=
      Function.update_of_ne hne _ _
    rw [hheap]
  rw [registeredCount_eq_erase (m := m.updateSubscriberRecordLocked S info recordInfo record)
    hrecord, registeredCount_eq_erase hrecord, hself]
  change (m.subscribers.erase record).countP _ + _ + _ = _
  rw [hother]
  omega

theorem subscriberCounts_remove {listener : Remote} {record : SubscriberRecordPtr}
    (hfind : m.getSubscriberRecord listener = some record) :
    (m.removeSubscriberRecordLocked listener).subscriberCounts
      = countLess m.subscriberCounts (m.heap record).eventRecordInfo.pid := by
  unfold removeSubscriberRecordLocked
  rw [hfind]
  rfl

/-- **The compaction counts anew.** -/
theorem counts_foldl_compactSubscriber (rs : List SubscriberRecordPtr)
    (acc : SubscriberManager δ π) (hrs : ∀ r ∈ rs, r < acc.nextAddr) (pid : Pid) :
    (rs.foldl compactSubscriber acc).recordedCount pid
      = acc.recordedCount pid
        + rs.countP (fun r => decide ((acc.heap r).eventRecordInfo.pid = pid)) := by
  induction rs generalizing acc with
  | nil => rfl
  | cons first rs ih =>
    have hheap : ∀ r ∈ rs, (acc.compactSubscriber first).heap r = acc.heap r := fun r hr =>
      Function.update_of_ne (Nat.ne_of_lt (hrs r (List.mem_cons_of_mem _ hr))) _ _
    have hrest : rs.countP
          (fun r => decide (((acc.compactSubscriber first).heap r).eventRecordInfo.pid = pid))
        = rs.countP (fun r => decide ((acc.heap r).eventRecordInfo.pid = pid)) := by
      refine List.countP_congr fun r hr => ?_
      rw [hheap r hr]
    have hone : (acc.compactSubscriber first).recordedCount pid
        = acc.recordedCount pid
          + if (acc.heap first).eventRecordInfo.pid = pid then 1 else 0 :=
      getD_countMore _ _
    rw [List.foldl_cons, ih _ (fun r hr => Nat.lt_succ_of_lt (hrs r (List.mem_cons_of_mem _ hr))),
      hone, hrest, List.countP_cons]
    simp only [decide_eq_true_eq]
    omega

theorem positive_foldl_compactSubscriber (rs : List SubscriberRecordPtr)
    (acc : SubscriberManager δ π)
    (h : ∀ pid count, acc.subscriberCounts.lookup pid = some count → count ≠ 0) :
    ∀ pid count, (rs.foldl compactSubscriber acc).subscriberCounts.lookup pid = some count →
      count ≠ 0 := by
  induction rs generalizing acc with
  | nil => exact h
  | cons first rs ih => exact ih (acc.compactSubscriber first) (positive_countMore h _)

theorem recordedCount_compact (halloc : m.Allocated) (pid : Pid) :
    m.compactSubscriberDataStructures.recordedCount pid = m.registeredCount pid := by
  refine (counts_foldl_compactSubscriber m.subscribers
    { m with
      subscribers := []
      eventSubscribers := ∅
      subscriberCounts := ∅
      hasCompacted := true } halloc pid).trans ?_
  show Dict.getD (∅ : Dict Pid ℕ) pid 0 + m.registeredCount pid = m.registeredCount pid
  rw [Dict.getD, AList.lookup_empty]
  exact Nat.zero_add _

theorem registeredCount_compact (halloc : m.Allocated) (pid : Pid) :
    m.compactSubscriberDataStructures.registeredCount pid = m.registeredCount pid := by
  have hcount := congrArg (List.countP fun record : EventSubscriberRecord =>
    decide (record.eventRecordInfo.pid = pid)) (map_heap_compact halloc)
  rw [List.countP_map, List.countP_map] at hcount
  exact hcount

/-! ## Exact counts -/

theorem CountsSound.withSubscriber {S : StdSort} (h : m.CountsSound S) (halloc : m.Allocated)
    (info : CommonEventSubscribeInfo) (listener : Remote) (recordInfo : EventRecordInfo) :
    (m.withSubscriber info listener recordInfo).CountsSound S := by
  refine .of_recorded S (fun pid => ?_) (positive_countMore h.positive _)
  rw [registeredCount_withSubscriber halloc, ← h.recorded]
  exact getD_countMore _ _

theorem CountsSound.withRecord {S : StdSort} (h : m.CountsSound S) (halloc : m.Allocated)
    (info : CommonEventSubscribeInfo) (listener : Remote) (recordInfo : EventRecordInfo) :
    (m.withRecord info listener recordInfo).CountsSound S := by
  refine .of_recorded S (fun pid => ?_) h.positive
  rw [registeredCount_withRecord halloc, ← h.recorded]
  rfl

theorem CountsSound.remove {S : StdSort} (h : m.CountsSound S) (listener : Remote) :
    (m.removeSubscriberRecordLocked listener).CountsSound S := by
  cases hfind : m.getSubscriberRecord listener with
  | none =>
    have hsame : m.removeSubscriberRecordLocked listener = m := by
      unfold removeSubscriberRecordLocked
      rw [hfind]
    rw [hsame]
    exact h
  | some record =>
    refine .of_recorded S (fun pid => ?_) ?_
    · rw [registeredCount_remove hfind, ← h.recorded, recordedCount,
        subscriberCounts_remove hfind, getD_countLess]
      rfl
    · rw [subscriberCounts_remove hfind]
      exact positive_countLess h.positive _

theorem CountsSound.compact (S : StdSort) (halloc : m.Allocated) :
    m.compactSubscriberDataStructures.CountsSound S := by
  refine .of_recorded S (fun pid => ?_) ?_
  · rw [recordedCount_compact halloc, registeredCount_compact halloc]
  · refine positive_foldl_compactSubscriber m.subscribers _ fun pid count hlookup => ?_
    rw [AList.lookup_empty] at hlookup
    cases hlookup

/-- **An update keeps the counts exact exactly if** it is made by the process
the record is of. -/
theorem countsSound_update_iff {S : StdSort} (h : m.CountsSound S)
    (hnodup : m.subscribers.Nodup) {record : SubscriberRecordPtr}
    (hrecord : record ∈ m.subscribers) (info : CommonEventSubscribeInfo)
    (recordInfo : EventRecordInfo) :
    (m.updateSubscriberRecordLocked S info recordInfo record).CountsSound S
      ↔ (m.heap record).eventRecordInfo.pid = recordInfo.pid := by
  have hmoved := registeredCount_update hnodup S hrecord info recordInfo
  constructor
  · intro h'
    by_contra hne
    have hpid := hmoved (m.heap record).eventRecordInfo.pid
    rw [if_pos rfl, if_neg (Ne.symm hne), ← h.recorded, ← h'.recorded] at hpid
    exact absurd hpid (Nat.succ_ne_self _)
  · intro heq
    refine .of_recorded S (fun pid => ?_) h.positive
    have hpid := hmoved pid
    rw [heq] at hpid
    rw [← Nat.add_right_cancel hpid.symm]
    exact h.recorded pid

end SubscriberManager

namespace SubscriberIndex

variable {δ π : Type} (S : StdSort)

/-- **The condition on a call**: an update is made by the process its record
is of. -/
def KeepsPid (m : SubscriberManager δ π) : Op → Prop
  | .insertSubscriber _ (some info) (some listener) recordInfo =>
    SubscriberManager.WellFormed info →
      ∀ record, m.getSubscriberRecord listener = some record →
        (m.heap record).eventRecordInfo.pid = recordInfo.pid
  | _ => True

theorem countsSound_init :
    ((machine S).init : SubscriberManager δ π).CountsSound S := by
  refine .of_recorded S (fun pid => rfl) fun pid count hlookup => ?_
  cases hlookup

/-- **A call from exact counts leads to exact counts exactly if it meets the
condition.** -/
theorem countsSound_apply_iff {m : SubscriberManager δ π} (hsound : m.IndexSound)
    (h : m.CountsSound S) (op : Op) :
    (apply S m op).CountsSound S ↔ KeepsPid m op := by
  cases op with
  | insertSubscriber maxSubscriberNum info listener recordInfo =>
    cases info with
    | none => exact iff_of_true h trivial
    | some info =>
      cases listener with
      | none => exact iff_of_true h trivial
      | some listener =>
        rw [apply]
        by_cases hwell : SubscriberManager.WellFormed info
        · cases hfind : m.getSubscriberRecord listener with
          | some record =>
            -- an update may move a record to another process
            rw [SubscriberManager.insertSubscriber_of_known S _ hwell hfind,
              SubscriberManager.countsSound_update_iff h hsound.listeners.of_map
                (SubscriberManager.getSubscriberRecord_some hfind).1]
            refine ⟨fun heq _ record' hfind' => ?_, fun hkeeps => hkeeps hwell record hfind⟩
            obtain rfl : record = record' := Option.some.inj (hfind.symm.trans hfind')
            exact heq
          | none =>
            have hkeeps : KeepsPid m
                (.insertSubscriber maxSubscriberNum (some info) (some listener) recordInfo) := by
              intro _ record hfind'
              rw [hfind] at hfind'
              cases hfind'
            refine iff_of_true ?_ hkeeps
            obtain ⟨-, heq⟩ | ⟨-, heq⟩ := SubscriberManager.insertSubscriber_of_new S
              maxSubscriberNum hwell hfind recordInfo
            · rw [heq]
              exact h.withRecord hsound.allocated info listener recordInfo
            · rw [heq]
              exact h.withSubscriber hsound.allocated info listener recordInfo
        · rw [SubscriberManager.insertSubscriber_of_not_wellFormed S _ hwell]
          exact iff_of_true h (fun hwell' => absurd hwell' hwell)
  | removeSubscriber listener =>
    cases listener with
    | none => exact iff_of_true h trivial
    | some listener => exact iff_of_true (h.remove listener) trivial
  | compactSubscriberDataStructures =>
    exact iff_of_true (.compact S hsound.allocated) trivial

theorem indexSound_reachable {m : SubscriberManager δ π}
    (hm : (machine (δ := δ) (π := π) S).Reachable m) : m.IndexSound := by
  refine Machine.invariant (M := machine (δ := δ) (π := π) S) ?_ ?_ hm
  · exact ⟨by simp [machine, subscribersOf], by simp [machine],
      fun r hr => absurd hr List.not_mem_nil⟩
  · intro m op m' h hstep
    cases hstep
    exact indexSound_apply S h op

/-- **The counts are exact throughout a run exactly when** every update of the
run is made by the process its record is of. -/
theorem countsSound_iff_keepsPid (ops : List Op) :
    (∀ pre post (m : SubscriberManager δ π), ops = pre ++ post →
        (machine S).run pre = some m → m.CountsSound S)
      ↔ (machine (δ := δ) (π := π) S).Guarded KeepsPid ops := by
  obtain ⟨m, hm⟩ := (machine (δ := δ) (π := π) S).run_total
    (fun m op => ⟨apply S m op, rfl⟩) ops
  refine Machine.forall_prefix_iff_guarded (countsSound_init S) ?_ hm
  intro m op m' hreach h hstep
  cases hstep
  exact countsSound_apply_iff S (indexSound_reachable S hreach) h op

/-- A listener that subscribes from one process, and then from another. -/
def movedToAnother : List Op :=
  [.insertSubscriber 5000 (some { matchingSkills := { events := ["e"] } }) (some ⟨1⟩) { pid := 1 },
    .insertSubscriber 5000 (some { matchingSkills := { events := ["e"] } }) (some ⟨1⟩)
      { pid := 2 }]

/-- **The counts are not exact in every reachable state**: the first process
has a subscription counted, and holds none. -/
theorem counts_inexact :
    ¬ ∀ (ops : List Op) (m : SubscriberManager Unit Unit),
      (machine .insertion).run ops = some m → m.CountsSound .insertion := by
  intro hall
  have h := (hall movedToAnother _ rfl).recorded 1
  revert h
  decide

/-! ## The limit -/

/-- What `InsertSubscriberRecordLocked` comes to, where a call gets that
far. -/
def insertionOf (m : SubscriberManager δ π) : Op → Option SubscriberManager.Insertion
  | .insertSubscriber maxSubscriberNum (some info) (some listener) recordInfo =>
    if SubscriberManager.WellFormed info ∧ m.getSubscriberRecord listener = none then
      some ((m.withRecord info listener recordInfo).insertSubscriberRecordLocked S
        maxSubscriberNum info.getEvents m.nextAddr).1
    else none
  | _ => none

/-- **The limit is enforced at a call**: at the limit or past it, a new
listener is refused, or a process is killed that has as many subscriptions
recorded as any. -/
def LimitEnforced (maxSubscriberNum : ℕ) (m : SubscriberManager δ π) (op : Op) : Prop :=
  ∀ insertion, insertionOf S m op = some insertion → maxSubscriberNum ≤ m.subscribers.length →
    insertion = .refused ∨
    ∃ pid, insertion = .inserted (some pid)
      ∧ ∀ pid', m.recordedCount pid' ≤ m.recordedCount pid

/-- **The condition on a call**: no new listener subscribes while the number of
subscribers is past the limit. -/
def NotPastLimit (maxSubscriberNum : ℕ) (m : SubscriberManager δ π) : Op → Prop
  | .insertSubscriber _ (some info) (some listener) _ =>
    SubscriberManager.WellFormed info → m.getSubscriberRecord listener = none →
      m.subscribers.length ≤ maxSubscriberNum
  | _ => True

instance (maxSubscriberNum : ℕ) (m : SubscriberManager δ π) :
    ∀ op, Decidable (NotPastLimit maxSubscriberNum m op)
  | .insertSubscriber _ (some _) (some _) _ => inferInstanceAs (Decidable (_ → _ → _))
  | .insertSubscriber _ none _ _ => .isTrue trivial
  | .insertSubscriber _ (some _) none _ => .isTrue trivial
  | .removeSubscriber _ => .isTrue trivial
  | .compactSubscriberDataStructures => .isTrue trivial

/-- The limit is the same at every call. -/
def HasLimit (maxSubscriberNum : ℕ) : Op → Prop
  | .insertSubscriber limit _ _ _ => limit = maxSubscriberNum
  | _ => True

/-- The processes of `subscriberCounts_`, each as often as it is counted. -/
def recordedPids (counts : Dict Pid ℕ) : List Pid :=
  Dict.flatMap counts (fun pid count => List.replicate count pid)

variable {S}

theorem length_recordedPids (counts : Dict Pid ℕ) (pid : Pid) :
    (recordedPids counts).length
      = Dict.getD counts pid 0 + (recordedPids (counts.erase pid)).length := by
  unfold recordedPids
  cases hlookup : counts.lookup pid with
  | none =>
    rw [Dict.erase_of_lookup_none hlookup, Dict.getD, hlookup, Option.getD_none, Nat.zero_add]
  | some count =>
    rw [(Dict.flatMap_perm hlookup).length_eq, List.length_append, List.length_replicate,
      Dict.getD, hlookup, Option.getD_some]

theorem length_countMore (counts : Dict Pid ℕ) (pid : Pid) :
    (recordedPids (SubscriberManager.countMore counts pid)).length
      = (recordedPids counts).length + 1 := by
  rw [length_recordedPids counts pid]
  unfold SubscriberManager.countMore recordedPids
  rw [Dict.flatMap_insert, List.length_append, List.length_replicate]
  omega

theorem le_length_countLess (counts : Dict Pid ℕ) (pid : Pid) :
    (recordedPids counts).length
      ≤ (recordedPids (SubscriberManager.countLess counts pid)).length + 1 := by
  rw [length_recordedPids counts pid]
  unfold SubscriberManager.countLess
  split
  · unfold recordedPids
    rw [Dict.flatMap_insert, List.length_append, List.length_replicate]
    omega
  · omega

/-- **The counts cover the subscribers**: whichever processes they are counted
for, there are no fewer counted than registered. -/
def CountsCover (m : SubscriberManager δ π) : Prop :=
  m.subscribers.length ≤ (recordedPids m.subscriberCounts).length

theorem CountsCover.remove {m : SubscriberManager δ π} (h : CountsCover m) (listener : Remote) :
    CountsCover (m.removeSubscriberRecordLocked listener) := by
  unfold CountsCover at h ⊢
  cases hfind : m.getSubscriberRecord listener with
  | none =>
    unfold SubscriberManager.removeSubscriberRecordLocked
    rw [hfind]
    exact h
  | some record =>
    have hrecord := (SubscriberManager.getSubscriberRecord_some hfind).1
    have hless := le_length_countLess m.subscriberCounts (m.heap record).eventRecordInfo.pid
    have hlength : (m.removeSubscriberRecordLocked listener).subscribers.length
        = m.subscribers.length - 1 := by
      unfold SubscriberManager.removeSubscriberRecordLocked
      rw [hfind]
      exact List.length_erase_of_mem hrecord
    rw [SubscriberManager.subscriberCounts_remove hfind, hlength]
    omega

theorem countsCover_foldl_compactSubscriber (rs : List SubscriberRecordPtr)
    (acc : SubscriberManager δ π) (h : CountsCover acc) :
    CountsCover (rs.foldl SubscriberManager.compactSubscriber acc) := by
  induction rs generalizing acc with
  | nil => exact h
  | cons first rs ih =>
    refine ih _ ?_
    show (acc.subscribers ++ [acc.nextAddr]).length
      ≤ (recordedPids (SubscriberManager.countMore acc.subscriberCounts _)).length
    rw [length_countMore, List.length_append]
    exact Nat.succ_le_succ h

theorem countsCover_apply {m : SubscriberManager δ π} (h : CountsCover m) (op : Op) :
    CountsCover (apply S m op) := by
  cases op with
  | insertSubscriber maxSubscriberNum info listener recordInfo =>
    cases info with
    | none => exact h
    | some info =>
      cases listener with
      | none => exact h
      | some listener =>
        rw [apply]
        by_cases hwell : SubscriberManager.WellFormed info
        · cases hfind : m.getSubscriberRecord listener with
          | some record =>
            rw [SubscriberManager.insertSubscriber_of_known S _ hwell hfind]
            exact h
          | none =>
            obtain ⟨-, heq⟩ | ⟨-, heq⟩ := SubscriberManager.insertSubscriber_of_new S
              maxSubscriberNum hwell hfind recordInfo
            · rw [heq]
              exact h
            · rw [heq]
              show (m.subscribers ++ [m.nextAddr]).length
                ≤ (recordedPids (SubscriberManager.countMore m.subscriberCounts _)).length
              rw [length_countMore, List.length_append]
              exact Nat.succ_le_succ h
        · rw [SubscriberManager.insertSubscriber_of_not_wellFormed S _ hwell]
          exact h
  | removeSubscriber listener =>
    cases listener with
    | none => exact h
    | some listener => exact h.remove listener
  | compactSubscriberDataStructures =>
    exact countsCover_foldl_compactSubscriber m.subscribers _ (Nat.zero_le _)

theorem countsCover_reachable {m : SubscriberManager δ π}
    (hm : (machine (δ := δ) (π := π) S).Reachable m) : CountsCover m := by
  refine Machine.invariant (M := machine (δ := δ) (π := π) S) (I := CountsCover)
    (Nat.zero_le _) ?_ hm
  intro m op m' h hstep
  cases hstep
  exact countsCover_apply h op

/-- Where somebody is registered, some process has the most. -/
theorem head_isSome_of_registered {m : SubscriberManager δ π} (h : CountsCover m)
    (hregistered : 0 < m.subscribers.length) :
    ∃ pid count, (m.getTopSubscriberCounts S 1).head? = some (pid, count) := by
  cases hhead : (m.getTopSubscriberCounts S 1).head? with
  | some first => exact ⟨first.1, first.2, rfl⟩
  | none =>
    have hnone : recordedPids m.subscriberCounts = [] := by
      rw [SubscriberManager.subscriberCounts_of_head_none hhead]
      rfl
    unfold CountsCover at h
    rw [hnone] at h
    exact absurd hregistered (Nat.not_lt.mpr h)

/-- **What a new listener's subscription comes to.** -/
theorem insertionOf_of_new {m : SubscriberManager δ π} (maxSubscriberNum : ℕ)
    {info : CommonEventSubscribeInfo} (hwell : SubscriberManager.WellFormed info)
    {listener : Remote} (hfind : m.getSubscriberRecord listener = none)
    (recordInfo : EventRecordInfo) :
    insertionOf S m (.insertSubscriber maxSubscriberNum (some info) (some listener) recordInfo)
      = some (if m.checkSubscriberCountReachedMaxinum maxSubscriberNum then
          if (m.getTopSubscriberCounts S 1).head?.map (·.1) = some recordInfo.pid then .refused
          else .inserted ((m.getTopSubscriberCounts S 1).head?.map (·.1))
        else .inserted none) := by
  have hpid : ((m.withRecord info listener recordInfo).heap m.nextAddr).eventRecordInfo.pid
      = recordInfo.pid := by simp [SubscriberManager.withRecord]
  have hreached : (m.withRecord info listener recordInfo).checkSubscriberCountReachedMaxinum
      maxSubscriberNum = m.checkSubscriberCountReachedMaxinum maxSubscriberNum := rfl
  have htop : (m.withRecord info listener recordInfo).getTopSubscriberCounts S 1
      = m.getTopSubscriberCounts S 1 := rfl
  rw [insertionOf, if_pos ⟨hwell, hfind⟩]
  unfold SubscriberManager.insertSubscriberRecordLocked
  rw [if_neg hwell.1]
  dsimp only
  rw [hpid, hreached, htop]
  split
  · split <;> rfl
  · rfl

/-- **The limit is enforced at a call exactly if it meets the condition**: at
the limit itself it is, and past it the comparison fails. -/
theorem limitEnforced_iff {m : SubscriberManager δ π} (h : CountsCover m) {maxSubscriberNum : ℕ}
    (hmax : 1 ≤ maxSubscriberNum) {op : Op} (hop : HasLimit maxSubscriberNum op) :
    LimitEnforced S maxSubscriberNum m op ↔ NotPastLimit maxSubscriberNum m op := by
  cases op with
  | removeSubscriber listener => exact iff_of_true nofun trivial
  | compactSubscriberDataStructures => exact iff_of_true nofun trivial
  | insertSubscriber limit info listener recordInfo =>
    obtain rfl : limit = maxSubscriberNum := hop
    cases info with
    | none => exact iff_of_true nofun trivial
    | some info =>
      cases listener with
      | none => exact iff_of_true nofun trivial
      | some listener =>
        by_cases hnew : SubscriberManager.WellFormed info ∧ m.getSubscriberRecord listener = none
        · have hinsertion := insertionOf_of_new (S := S) limit hnew.1 hnew.2 recordInfo
          have hpercentage : limit * 4 / 5 < limit := by omega
          unfold SubscriberManager.checkSubscriberCountReachedMaxinum at hinsertion
          constructor
          · -- past the limit the comparison with it fails, and nothing is refused
            intro henforced _ _
            by_contra hpast
            have hlt : limit < m.subscribers.length := Nat.lt_of_not_le hpast
            rw [if_neg (show ¬ m.subscribers.length = limit * 4 / 5 by omega),
              if_neg (by simpa using (Nat.ne_of_lt hlt).symm)] at hinsertion
            obtain hrefused | ⟨pid, hkilled, -⟩ := henforced _ hinsertion (Nat.le_of_lt hlt)
            · cases hrefused
            · cases hkilled
          · -- at the limit the process with the most subscriptions is found
            intro hle insertion heq hlimit
            have hlength : m.subscribers.length = limit :=
              le_antisymm (hle hnew.1 hnew.2) hlimit
            obtain ⟨pid, count, hhead⟩ := head_isSome_of_registered (S := S) h (by omega)
            obtain ⟨hcount, hgreatest⟩ := SubscriberManager.head_getTopSubscriberCounts S hhead
            rw [if_neg (show ¬ m.subscribers.length = limit * 4 / 5 by omega),
              if_pos (by simpa using hlength), hhead] at hinsertion
            obtain rfl : _ = insertion := Option.some.inj (hinsertion.symm.trans heq)
            split
            · exact .inl rfl
            · exact .inr ⟨pid, rfl, fun pid' => hcount ▸ hgreatest pid'⟩
        · refine iff_of_true (fun insertion heq => ?_)
            (fun hwell hfind => absurd ⟨hwell, hfind⟩ hnew)
          rw [insertionOf, if_neg hnew] at heq
          cases heq

/-- **The limit is enforced throughout a run exactly when** no new listener
subscribes while the number of subscribers is past it. -/
theorem limitEnforced_iff_notPastLimit (S : StdSort) {maxSubscriberNum : ℕ}
    (hmax : 1 ≤ maxSubscriberNum) {ops : List Op}
    (hops : ∀ op ∈ ops, HasLimit maxSubscriberNum op) :
    (∀ pre op post, ops = pre ++ op :: post → ∀ m : SubscriberManager δ π,
        (machine S).run pre = some m → LimitEnforced S maxSubscriberNum m op)
      ↔ (machine (δ := δ) (π := π) S).Guarded (NotPastLimit maxSubscriberNum) ops := by
  have hiff : ∀ pre op post, ops = pre ++ op :: post → ∀ m : SubscriberManager δ π,
      (machine S).run pre = some m →
      (LimitEnforced S maxSubscriberNum m op ↔ NotPastLimit maxSubscriberNum m op) := by
    intro pre op post hpre m hm
    refine limitEnforced_iff (countsCover_reachable ⟨pre, hm⟩) hmax (hops op ?_)
    rw [hpre]
    exact List.mem_append_right _ List.mem_cons_self
  constructor
  · intro h pre op post hpre m hm
    exact (hiff pre op post hpre m hm).mp (h pre op post hpre m hm)
  · intro h pre op post hpre m hm
    exact (hiff pre op post hpre m hm).mpr (h pre op post hpre m hm)

/-- The subscription of a process to one event, under a limit of one. -/
def firstSubscription (process : ℕ) : Op :=
  .insertSubscriber 1 (some { matchingSkills := { events := ["e"] } }) (some ⟨process⟩)
    { pid := process }

/-- Two subscriptions, of which the second meets the limit: it is enforced. -/
theorem limitEnforced_second :
    ∃ m : SubscriberManager Unit Unit, (machine .insertion).run [firstSubscription 1] = some m
      ∧ m.subscribers.length = 1 ∧ LimitEnforced .insertion 1 m (firstSubscription 2) := by
  refine ⟨_, rfl, rfl, ?_⟩
  have hops : ∀ op ∈ [firstSubscription 1, firstSubscription 2], HasLimit 1 op := by
    simp [firstSubscription, HasLimit]
  exact (limitEnforced_iff_notPastLimit .insertion (le_refl 1) hops).mpr
    (Machine.guarded_of_guardedFrom (by decide +kernel))
    [firstSubscription 1] (firstSubscription 2) [] rfl _ rfl

/-- **The limit can be passed**: the second subscription kills a process, whose
subscription is still there when the third is made, and the third is neither
refused nor does it kill. -/
theorem limit_passed :
    ¬ ∀ (ops : List Op) (op : Op) (m : SubscriberManager Unit Unit),
      (∀ op' ∈ ops ++ [op], HasLimit 1 op') → (machine .insertion).run ops = some m →
      LimitEnforced .insertion 1 m op := by
  intro hall
  have henforced := hall [firstSubscription 1, firstSubscription 2] (firstSubscription 3) _
    (by simp [firstSubscription, HasLimit]) rfl (.inserted none) (by decide +kernel) (by decide)
  obtain hrefused | ⟨pid, hkilled, -⟩ := henforced
  · cases hrefused
  · cases hkilled

end SubscriberIndex

end CommonEventService
