import NewApi.GoStrings

/-! # Errors of the store layer and of the relay API -/

namespace NewApi

/-- A Go `error` value returned by the store layer. -/
inductive GoError where
  /-- The sentinel `ErrInsufficientWalletQuota`. -/
  | insufficientWalletQuota
  /-- The sentinel `gorm.ErrRecordNotFound`. -/
  | recordNotFound
  /-- Any other error, known by its text alone. -/
  | message (text : String)
deriving DecidableEq, Repr

namespace GoError

def text : GoError → String
  | insufficientWalletQuota => "wallet quota insufficient"
  | recordNotFound => "record not found"
  | message text => text

end GoError

inductive ErrorCode where
  | invalidRequest
  | queryDataError
  | updateDataError
  | insufficientUserQuota
  | preConsumeTokenQuotaFailed
  | modelPriceError
deriving DecidableEq, Repr

/-- `types.NewAPIError`, with the two options that session creation sets. -/
structure NewAPIError where
  err : String
  errorCode : ErrorCode
  statusCode : Nat
  skipRetry : Bool
  recordErrorLog : Bool
deriving DecidableEq, Repr

namespace NewAPIError

def newError (err : String) (errorCode : ErrorCode) : NewAPIError where
  err := err
  errorCode := errorCode
  statusCode := 500
  skipRetry := true
  recordErrorLog := true

def forbidden (err : String) (errorCode : ErrorCode) : NewAPIError where
  err := err
  errorCode := errorCode
  statusCode := 403
  skipRetry := true
  recordErrorLog := false

end NewAPIError

end NewApi
