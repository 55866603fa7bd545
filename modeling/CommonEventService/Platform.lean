import CommonEventService.Basic

/-!
# The platform

What the service asks the system it runs on: the token, bundle and account
services, and the tables of system events and of event permissions. They are
the fields of one structure, and a result about the service holds for every
value of it, so for every answer these services may give. An answer is a
function of the question: two checks that ask the same thing are told the
same thing.
-/

namespace CommonEventService

/-- The kinds of token: `ATokenTypeEnum`. -/
inductive ATokenTypeEnum where
  | hap
  | native
  | shell
  | invalid
  deriving DecidableEq, Repr

/-- How several permissions combine. -/
inductive PermissionState where
  | DEFAULT
  | AND
  | OR
  deriving DecidableEq, Repr

/-- What an event asks of those who receive it. -/
structure Permission where
  isSensitive : Bool := false
  state : PermissionState := .DEFAULT
  names : List String := []
  deriving DecidableEq, Repr

/-- **The services and tables the code consults.** -/
structure Platform where
  /-- `AccessTokenKit::GetTokenTypeFlag`. -/
  getTokenTypeFlag : AccessTokenID → ATokenTypeEnum := fun _ => .hap
  /-- `AccessTokenHelper::VerifyAccessToken`. -/
  verifyAccessToken : AccessTokenID → String → Bool := fun _ _ => false
  /-- `BundleManagerHelper::CheckIsSystemAppByUid`. -/
  checkIsSystemAppByUid : Uid → Bool := fun _ => false
  /-- `BundleManagerHelper::GetApiTargetVersionByUid`; `none` where it
  fails. -/
  getApiTargetVersionByUid : Uid → Option Int := fun _ => none
  /-- `OsAccountManagerHelper::GetOsAccountLocalIdFromUid`; `none` where it
  fails, which leaves the caller's variable as it was. -/
  getOsAccountLocalIdFromUid : Uid → Option Int := fun _ => some 0
  /-- `CommonEventSupport::IsSystemEvent`. -/
  isSystemEvent : String → Bool := fun _ => false
  /-- `CommonEventPermissionManager::IsSystemAPIEvent`. -/
  isSystemAPIEvent : String → Bool := fun _ => false
  /-- `CommonEventPermissionManager::GetEventPermission`. -/
  getEventPermission : String → Permission := fun _ => {}

namespace Platform

variable (P : Platform)

/-- `AccessTokenHelper::VerifyNativeToken`. -/
def verifyNativeToken (token : AccessTokenID) : Bool := P.getTokenTypeFlag token = .native

/-- `AccessTokenHelper::VerifyShellToken`. -/
def verifyShellToken (token : AccessTokenID) : Bool := P.getTokenTypeFlag token = .shell

end Platform

end CommonEventService
