import Mathlib

/-! Errors of file operations: the kinds this code tells apart, and their texts. -/

set_option autoImplicit false

namespace Mult.Storage

inductive ErrorKind where
  | notFound
  | alreadyExists
  | invalidInput
  | invalidData
  | storageFull
  | unexpectedEof
  | writeZero
  | permissionDenied
  | wouldBlock
  | other
  deriving DecidableEq, Repr

structure IoError where
  kind : ErrorKind
  text : String
  deriving DecidableEq, Repr

def IoError.invalidData (text : String) : IoError := ⟨.invalidData, text⟩

end Mult.Storage
