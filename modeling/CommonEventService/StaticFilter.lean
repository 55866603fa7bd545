import CommonEventService.StaticSubscriberManager

/-!
# The filters of a static subscriber

A profile may ask for events of one code, or with certain parameters, and gives
the values in JSON. An integer there has up to 64 bits; what is kept of it, and
compared with the event, has 32. A value that fits is kept as it is, and the
filter accepts that value only. A value that does not fit becomes the filter of
another one.
-/

namespace CommonEventService

/-- The integers that a filter can keep. -/
def FitsInt32 (n : Int) : Prop := -2147483648 ≤ n ∧ n ≤ 2147483647

/-- An integer that fits is kept as it is. -/
theorem FitsInt32.toInt_ofInt {n : Int} (h : FitsInt32 n) : (Int32.ofInt n).toInt = n := by
  obtain ⟨hmin, hmax⟩ := h
  exact Int32.toInt_ofInt_of_le (by omega) (by omega)

namespace StaticSubscriberManager

/-! ## The checks of `IsFilterParameters` -/

/-- `CheckFilterCodeAndData`. -/
def checkFilterCodeAndData (subscriber : StaticSubscriberInfo) (data : CommonEventData) : Bool :=
  subscriber.filterCode.all (fun filterCode => filterCode.toInt = data.code)
    && subscriber.filterData.all (fun filterData => filterData = data.data)

/-- `CheckFilterParameters`. -/
def checkFilterParameters (filterParameters : List (String × ParameterType)) (want : Want) :
    Bool :=
  filterParameters.all (checkSpecificParam want)

/-- A filter of a code accepts that code only. -/
theorem code_of_checkFilterCodeAndData {subscriber : StaticSubscriberInfo} {filterCode : Int32}
    {data : CommonEventData} (hfilter : subscriber.filterCode = some filterCode)
    (h : checkFilterCodeAndData subscriber data = true) : data.code = filterCode.toInt := by
  unfold checkFilterCodeAndData at h
  rw [hfilter, Bool.and_eq_true, Option.all_some, decide_eq_true_iff] at h
  exact h.1.symm

/-- A filter of an integer accepts that integer only. -/
theorem getParam_of_checkFilterParameters {filterParameters : List (String × ParameterType)}
    {paramName : String} {paramValue : Int32} {want : Want}
    (hfilter : (paramName, .int32 paramValue) ∈ filterParameters)
    (h : checkFilterParameters filterParameters want = true) :
    want.getParam paramName = some (.integer paramValue) := by
  have hparam := List.all_eq_true.mp h _ hfilter
  unfold checkSpecificParam at hparam
  dsimp only at hparam
  cases hget : want.getParam paramName with
  | none =>
    rw [hget] at hparam
    cases hparam
  | some wantValue =>
    rw [hget] at hparam
    cases wantValue with
    | integer value => rw [of_decide_eq_true hparam]
    | boolean value => cases hparam
    | double bits => cases hparam
    | string value => cases hparam
    | other value => cases hparam

/-! ## What is kept of the parameters -/

theorem lookup_addFilterParameter_ne {filterParameters : List (String × ParameterType)}
    {param : String × Json} {paramName : String} (hne : paramName ≠ param.1) :
    (addFilterParameter filterParameters param).lookup paramName
      = filterParameters.lookup paramName := by
  unfold addFilterParameter
  split
  next parameter _ =>
    split
    · rfl
    · rw [List.lookup_append]
      simp [List.lookup_cons, beq_false_of_ne hne]
  next => rfl

/-- An entry that is there stays. -/
theorem lookup_addFilterParameter_of_some {filterParameters : List (String × ParameterType)}
    {param : String × Json} {paramName : String} {parameter : ParameterType}
    (h : filterParameters.lookup paramName = some parameter) :
    (addFilterParameter filterParameters param).lookup paramName = some parameter := by
  unfold addFilterParameter
  split
  next =>
    split
    · exact h
    · rw [List.lookup_append, h, Option.some_or]
  next => exact h

/-- A parameter of a type that a filter can name is kept. -/
theorem lookup_addFilterParameter_self {filterParameters : List (String × ParameterType)}
    {paramName : String} {paramValue : Json} {parameter : ParameterType}
    (hnone : filterParameters.lookup paramName = none)
    (hparameter : parameterOfJson paramValue = some parameter) :
    (addFilterParameter filterParameters (paramName, paramValue)).lookup paramName
      = some parameter := by
  unfold addFilterParameter
  rw [hparameter]
  show (if (filterParameters.lookup paramName).isSome then filterParameters
    else filterParameters ++ [(paramName, parameter)]).lookup paramName = some parameter
  rw [hnone, if_neg (by simp), List.lookup_append, hnone]
  simp

/-- **What the parameters of a profile leave under a name.** -/
theorem lookup_foldl_addFilterParameter {parameters : List (String × Json)}
    {filterParameters : List (String × ParameterType)} {paramName : String} {paramValue : Json}
    {parameter : ParameterType} (hnone : filterParameters.lookup paramName = none)
    (hlookup : parameters.lookup paramName = some paramValue)
    (hparameter : parameterOfJson paramValue = some parameter) :
    (parameters.foldl addFilterParameter filterParameters).lookup paramName = some parameter := by
  induction parameters generalizing filterParameters with
  | nil => cases hlookup
  | cons param parameters ih =>
    rw [List.foldl_cons]
    by_cases hname : paramName = param.1
    · -- the first entry of the name is kept, and stays through the others
      subst hname
      rw [List.lookup_cons, beq_self_eq_true] at hlookup
      cases hlookup
      have hself := lookup_addFilterParameter_self hnone hparameter
      exact List.foldlRecOn (motive := fun kept => kept.lookup param.1 = some parameter)
        parameters addFilterParameter hself
        fun kept hkept _ _ => lookup_addFilterParameter_of_some hkept
    · rw [List.lookup_cons, beq_false_of_ne hname] at hlookup
      exact ih ((lookup_addFilterParameter_ne hname).trans hnone) hlookup

/-! ## Filters of integers -/

/-- **What a code in the conditions is to be filtered as**: a filter that is
recorded accepts that code only, and a code that does not fit is not
recorded. -/
structure FiltersCode (n : Int) (subscriber : StaticSubscriberInfo) : Prop where
  accepts : subscriber.filterCode.isSome = true →
    ∀ data, checkFilterCodeAndData subscriber data = true → data.code = n
  ignores : ¬ FitsInt32 n → subscriber.filterCode = none

/-- **What an integer parameter in the conditions is to be filtered as.** -/
structure FiltersParameter (n : Int) (paramName : String)
    (filterParameters : List (String × ParameterType)) : Prop where
  accepts : (filterParameters.lookup paramName).isSome = true →
    ∀ want, checkFilterParameters filterParameters want = true →
      ∃ value, want.getParam paramName = some (.integer value) ∧ value.toInt = n
  ignores : ¬ FitsInt32 n → filterParameters.lookup paramName = none

/-- A filter of the code `n`, cut to 32 bits, filters `n` if that fits. -/
theorem filtersCode_iff {n : Int} {subscriber : StaticSubscriberInfo}
    (hfilter : subscriber.filterCode = some (Int32.ofInt n)) :
    FiltersCode n subscriber ↔ FitsInt32 n := by
  constructor
  · intro h
    by_contra hfits
    rw [h.ignores hfits] at hfilter
    cases hfilter
  · intro hfits
    refine ⟨fun _ data hdata => ?_, fun hfits' => absurd hfits hfits'⟩
    rw [code_of_checkFilterCodeAndData hfilter hdata]
    exact hfits.toInt_ofInt

/-- A filter of the parameter `n`, cut to 32 bits, filters `n` if that fits. -/
theorem filtersParameter_iff {n : Int} {paramName : String}
    {filterParameters : List (String × ParameterType)}
    (hfilter : filterParameters.lookup paramName = some (.int32 (Int32.ofInt n))) :
    FiltersParameter n paramName filterParameters ↔ FitsInt32 n := by
  constructor
  · intro h
    by_contra hfits
    rw [h.ignores hfits] at hfilter
    cases hfilter
  · intro hfits
    refine ⟨fun _ want hwant => ?_, fun hfits' => absurd hfits hfits'⟩
    obtain ⟨before, after, hsplit, -⟩ := List.lookup_eq_some_iff.mp hfilter
    have hmem : (paramName, ParameterType.int32 (Int32.ofInt n)) ∈ filterParameters := by
      rw [hsplit]
      exact List.mem_append_right _ List.mem_cons_self
    exact ⟨_, getParam_of_checkFilterParameters hmem hwant, hfits.toInt_ofInt⟩

/-- **An integer filter matches the integer of the profile exactly where** that
fits 32 bits, for a code and for a parameter. -/
theorem filters_parseConditions_iff (n : Int) (conditions : List (String × Json))
    (subscriber : StaticSubscriberInfo) :
    (subscriber.filterCode = none → conditions.lookup "code" = some (.int n) →
      (FiltersCode n (parseConditions conditions subscriber) ↔ FitsInt32 n))
    ∧ (subscriber.filterParameters = [] → ∀ parameters paramName,
      conditions.lookup "parameters" = some (.object parameters) →
      parameters.lookup paramName = some (.int n) →
      (FiltersParameter n paramName (parseConditions conditions subscriber).filterParameters
        ↔ FitsInt32 n)) := by
  constructor
  · intro _ hcode
    refine filtersCode_iff ?_
    unfold parseConditions
    rw [hcode]
  · intro hempty parameters paramName hparameters hparam
    refine filtersParameter_iff ?_
    unfold parseConditions
    rw [hparameters]
    show (parameters.foldl addFilterParameter subscriber.filterParameters).lookup paramName = _
    rw [hempty]
    exact lookup_foldl_addFilterParameter rfl hparam rfl

/-- The conditions of a profile with the code `2 ^ 31 - 1`, which is matched, and
with the same number as a parameter. -/
theorem filters_parseConditions_iff_max :
    FiltersCode 2147483647
        (parseConditions [("code", .int 2147483647)] { name := "ability", bundleName := "bundle" })
      ∧ FiltersParameter 2147483647 "level"
        (parseConditions [("parameters", .object [("level", .int 2147483647)])]
          { name := "ability", bundleName := "bundle" }).filterParameters := by
  have hfits : FitsInt32 2147483647 := by
    unfold FitsInt32
    decide
  exact ⟨((filters_parseConditions_iff _ _ _).1 rfl rfl).mpr hfits,
    ((filters_parseConditions_iff _ _ _).2 rfl _ _ rfl rfl).mpr hfits⟩

/-- The code `2 ^ 32 + 1` becomes a filter of the code 1. -/
theorem not_filtersCode :
    ¬ ∀ (n : Int) (conditions : List (String × Json)) (subscriber : StaticSubscriberInfo),
      subscriber.filterCode = none → conditions.lookup "code" = some (.int n) →
        FiltersCode n (parseConditions conditions subscriber) := by
  intro h
  have hfilters := h 4294967297 [("code", .int 4294967297)]
    { name := "ability", bundleName := "bundle" } rfl rfl
  have haccepted : checkFilterCodeAndData (parseConditions [("code", .int 4294967297)]
      { name := "ability", bundleName := "bundle" })
      { want := { action := "event" }, code := 1 } = true := by
    decide
  exact absurd (hfilters.accepts rfl _ haccepted) (by decide)

end StaticSubscriberManager

end CommonEventService
