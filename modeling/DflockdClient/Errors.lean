import DflockdClient.Text

/-!
Exceptions. `ExcClass` lists the builtin classes the client raises or catches and
the sentinels of `errors.py`; `other` stands for any further subclass of `Exception`.
-/

namespace DflockdClient

inductive ExcClass
  | valueError | unicodeEncodeError | jsonDecodeError | typeError | attributeError | indexError
  | overflowError | runtimeError | recursionError | osError | connectionError | timeoutError
  | permissionError
  | dflockdError | dflockdTimeoutError | authError | maxLocksError | maxWaitersError
  | limitMismatchError | notQueuedError | alreadyQueuedError | leaseExpiredError | drainingError
  | other (id : Nat)
  | keyboardInterrupt | cancelledError
  deriving DecidableEq

namespace ExcClass

/-- The class statement's base; `none` for the classes directly under `Exception` or
`BaseException`. -/
def base? (cls : ExcClass) : Option ExcClass :=
  match cls with
  | unicodeEncodeError | jsonDecodeError => some valueError
  | connectionError | timeoutError | permissionError => some osError
  | dflockdError | recursionError => some runtimeError
  | dflockdTimeoutError => some timeoutError
  | authError | maxLocksError | maxWaitersError | limitMismatchError | notQueuedError
  | alreadyQueuedError | leaseExpiredError | drainingError => some dflockdError
  | _ => none

def isException (cls : ExcClass) : Bool :=
  match cls with
  | keyboardInterrupt | cancelledError => false
  | _ => true

/-- Whether `except ancestor` catches `cls`. No chain of bases is longer than two. -/
def isSubclass (cls ancestor : ExcClass) : Bool :=
  cls == ancestor || cls.base? == some ancestor ||
    (cls.base?.bind base?) == some ancestor

end ExcClass

/-- A piece of a message: fixed or interpolated text, or `{value!r}`. -/
inductive Piece
  | text (value : Str)
  | repr (value : Str)
  | reprBytes (value : Bytes)
  deriving DecidableEq

structure PyError where
  cls : ExcClass
  message : List Piece
  deriving DecidableEq

namespace PyError

def isException (error : PyError) : Bool := error.cls.isException

def isTimeout (error : PyError) : Bool := error.cls == .dflockdTimeoutError

end PyError

def valueError (message : List Piece) : PyError := ⟨.valueError, message⟩

def typeError (message : List Piece) : PyError := ⟨.typeError, message⟩

def runtimeError (message : List Piece) : PyError := ⟨.runtimeError, message⟩

/-- What CPython raises for a string with a lone surrogate. -/
def unicodeEncodeError : PyError := ⟨.unicodeEncodeError, []⟩

end DflockdClient
