import Mathlib.Tactic.Common

/-!
# Error codes

The codes of `api/error_code/error_code.h`.
-/

namespace Noc
namespace Api

inductive ErrorCode where
  | success
  | unknown
  | settingFailed
  | interfaceConvertFailed
  | internalServer
  | unauthoried
  | idMismatched
  | mqttConnectFail
  | wrongFormatMessage
  | timeout
  | deviceNotFound
  | meshSetupedBefore
  | meshNotFound
  | requestInvalid
  | ezmeshDeamonConnectFail
  deriving DecidableEq, Repr

def ErrorCode.code : ErrorCode -> Int32
  | success => 0
  | unknown => 100001
  | settingFailed => 100002
  | interfaceConvertFailed => 100003
  | internalServer => 100004
  | unauthoried => 100005
  | idMismatched => 100006
  | mqttConnectFail => 101000
  | wrongFormatMessage => 240001
  | timeout => 240002
  | deviceNotFound => 240003
  | meshSetupedBefore => 240004
  | meshNotFound => 240005
  | requestInvalid => 240006
  | ezmeshDeamonConnectFail => 240007

end Api
end Noc
