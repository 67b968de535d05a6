import Mathlib.Init

/-!
# Error codes and results

Every fallible operation of the library returns a `Result`: a value, or an
`Error` that names its code, a numeric detail, a byte offset and a context.
-/

namespace RollbackLab

inductive ErrorCode where
  | none
  | invalidArgument
  | arithmeticOverflow
  | frameMismatch
  | capacityExceeded
  | staleFrame
  | rollbackWindowExceeded
  | invalidMagic
  | unsupportedVersion
  | unknownPacketType
  | truncatedData
  | invalidLength
  | integrityMismatch
  | duplicateSequence
  | staleSequence
  | queueOverflow
  | timeout
  | childFailure
  | replayMismatch
  | desync
  | ioError
  | internalFailure
  deriving DecidableEq, Repr, Inhabited

structure Error where
  code : ErrorCode := .none
  detail : UInt64 := 0
  offset : Nat := 0
  context : String := "none"
  deriving DecidableEq, Repr, Inhabited

/-- A value or the error that prevented it. -/
abbrev Result (α : Type) := Except Error α

end RollbackLab
