/-
**Return codes and diagnostics.**

`setError` records one of the driver's own errors, `setNativeError` one of the server's. Both derive the
return code from the SQLSTATE: a state of class `00` or `01` is no failure, even if it came with an
error number.
-/

import MaOdbc.Library.CText

namespace MaOdbc

/-- `SQLRETURN`. -/
inductive SqlReturn
  | success
  | successWithInfo
  | noData
  | error
  | needData
  | invalidHandle
  deriving DecidableEq, Repr

/-- `SQL_SUCCEEDED`. -/
def SqlReturn.succeeded : SqlReturn → Bool
  | .success => true
  | .successWithInfo => true
  | _ => false

/-- The rows of `MADB_ErrorList` that the modelled functions raise. -/
inductive ErrorCode
  | err01004
  | err01S07
  | err07002
  | err07006
  | err08002
  | err08S01
  | err22002
  | err22003
  | err22008
  | err24000
  | err28000
  | err34000
  | err42000
  | errHY000
  | errHY001
  | errHY009
  | errHY010
  | errHY012
  | errHY020
  | errHY090
  | errHY106
  | errHY109
  | errHY111
  | errHYC00
  | errHYT00
  | errIM001
  | errS1000
  deriving DecidableEq, Repr

namespace ErrorCode

def sqlState : ErrorCode → Text
  | err01004 => lit "01004"
  | err01S07 => lit "01S07"
  | err07002 => lit "07002"
  | err07006 => lit "07006"
  | err08002 => lit "08002"
  | err08S01 => lit "08S01"
  | err22002 => lit "22002"
  | err22003 => lit "22003"
  | err22008 => lit "22008"
  | err24000 => lit "24000"
  | err28000 => lit "28000"
  | err34000 => lit "34000"
  | err42000 => lit "42000"
  | errHY000 => lit "HY000"
  | errHY001 => lit "HY001"
  | errHY009 => lit "HY009"
  | errHY010 => lit "HY010"
  | errHY012 => lit "HY012"
  | errHY020 => lit "HY020"
  | errHY090 => lit "HY090"
  | errHY106 => lit "HY106"
  | errHY109 => lit "HY109"
  | errHY111 => lit "HY111"
  | errHYC00 => lit "HYC00"
  | errHYT00 => lit "HYT00"
  | errIM001 => lit "IM001"
  | errS1000 => lit "S1000"

def message : ErrorCode → Text
  | err01004 => lit "String data, right-truncated"
  | err01S07 => lit "Fractional truncation"
  | err07002 => lit "COUNT field incorrect"
  | err07006 => lit "Restricted data type attribute violation"
  | err08002 => lit "Connection name in use"
  | err08S01 => lit "Communication link failure"
  | err22002 => lit "Indicator variable required but not supplied"
  | err22003 => lit "Numeric value out of range"
  | err22008 => lit "Datetime field overflow"
  | err24000 => lit "Invalid cursor state"
  | err28000 => lit "Invalid authorization specification"
  | err34000 => lit "Invalid cursor name"
  | err42000 => lit "Syntax error or access violation"
  | errHY000 => lit "General error"
  | errHY001 => lit "Memory allocation error"
  | errHY009 => lit "Invalid use of null pointer"
  | errHY010 => lit "Function sequence error"
  | errHY012 => lit "Invalid transaction operation code"
  | errHY020 => lit "Attempt to concatenate a null value"
  | errHY090 => lit "Invalid string or buffer length"
  | errHY106 => lit "Fetch type out of range"
  | errHY109 => lit "Invalid cursor position"
  | errHY111 => lit "Invalid bookmark value"
  | errHYC00 => lit "Optional feature not implemented"
  | errHYT00 => lit "Timeout expired"
  | errIM001 => lit "Driver does not support this function"
  | errS1000 => lit "General error"

/-- The states of class `01`. -/
def isWarning : ErrorCode → Bool
  | err01004 => true
  | err01S07 => true
  | _ => false

end ErrorCode

/-- `MADB_Error`. -/
structure Diag where
  sqlState : Text := lit "00000"
  message : Text := []
  nativeError : Nat := 0
  returnValue : SqlReturn := .success
  deriving DecidableEq, Repr

structure NativeError where
  errno : Nat
  sqlState : Text := lit "HY000"
  message : Text := []
  deriving DecidableEq, Repr

namespace Diag

def returnOf (sqlState : Text) : SqlReturn :=
  if sqlState[0]? = some (ch '0') then
    if sqlState[1]? = some (ch '0') then .success
    else if sqlState[1]? = some (ch '1') then .successWithInfo else .error
  else .error

theorem returnOf_cases (sqlState : Text) :
    returnOf sqlState = .success ∨ returnOf sqlState = .successWithInfo ∨ returnOf sqlState = .error := by
  rw [returnOf]
  split
  · split
    · exact Or.inl rfl
    · split
      · exact Or.inr (Or.inl rfl)
      · exact Or.inr (Or.inr rfl)
  · exact Or.inr (Or.inr rfl)

def isConnectionLost (errno : Nat) : Bool := errno == 2013 || errno == 2006 || errno == 1160

/-- `MADB_SetError`. -/
def setError (code : ErrorCode) (message : Option Text) (nativeError : Nat) : Diag :=
  let code := if isConnectionLost nativeError && code == .errHY000 then .err08S01 else code
  { sqlState := code.sqlState
    message := message.getD code.message
    nativeError := nativeError
    returnValue := returnOf code.sqlState }

/-- `MADB_SetNativeError`. -/
def setNativeError (native : NativeError) : Diag :=
  let sqlState :=
    if isConnectionLost native.errno &&
        (native.sqlState == lit "HY000" || native.sqlState == lit "00000") then lit "08S01"
    else native.sqlState
  { sqlState := sqlState
    message := native.message
    nativeError := native.errno
    returnValue := returnOf sqlState }

/-- `MADB_CLEAR_ERROR`. -/
def clear : Diag := {}

theorem succeeded_setError (code : ErrorCode) (message : Option Text) (nativeError : Nat) :
    (setError code message nativeError).returnValue.succeeded = code.isWarning := by
  rw [setError]
  cases code <;> cases isConnectionLost nativeError <;> rfl

end Diag

end MaOdbc
