import Mathlib

set_option autoImplicit false

namespace Tecs

/-- The `STATUS` codes of `errcode.h`. -/
abbrev Status := Int

namespace Status

def success : Status := 0
def error : Status := 1
def errorInvalidArgument : Status := error + 1
def errorNotPermitted : Status := error + 2
def errorPermissionDenied : Status := error + 3
def errorDeviceNotExist : Status := error + 6
def errorObjectNotExist : Status := error + 7
def errorBadAddress : Status := error + 10
def errorNoSpace : Status := error + 14
def errorNoTimer : Status := error + 15
def errorTimerMessageInvalid : Status := error + 16
def errorTimeOut : Status := error + 17
def errorDuplicatedOp : Status := error + 19
def errorNotReady : Status := error + 20
def errorDbSelectFail : Status := error + 22
def errorDbInsertFail : Status := error + 23
def errorDbUpdateFail : Status := error + 24
def errorDbDeleteFail : Status := error + 25
def errorNotSupport : Status := error + 28
def errorOpRunning : Status := error + 32
def errObjectGetFailed : Status := error + 35
def errObjectNotExist : Status := error + 37
def errMcreceiverNotExist : Status := error + 39
def errorThreadWillExit : Status := error + 45
def errorImgBackupActived : Status := error + 54
def errorActionReady : Status := 991
def errorActionRunning : Status := 992
def errorActionTimeout : Status := 993
def errorActionCancelled : Status := 994
def errVmNotExist : Status := 8013

end Status

end Tecs
