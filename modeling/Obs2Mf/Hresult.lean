set_option autoImplicit false

namespace Obs2Mf

/-- The status codes the program returns itself, and those it passes on from a
component it calls. Every one but `S_OK` is a failure. -/
inductive HRESULT where
  | sOk
  | eFail
  | ePointer
  | eInvalidArg
  | eUnexpected
  | mfEShutdown
  | mfENotInitialized
  | mfEInvalidStateTransition
  | mfEUnsupportedService
  | setNotFound
  | callee (code : Nat)
  deriving DecidableEq, Repr

def HRESULT.succeeded (hr : HRESULT) : Bool := hr = .sOk

def HRESULT.failed (hr : HRESULT) : Bool := !hr.succeeded

end Obs2Mf
