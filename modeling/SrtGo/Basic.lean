import Mathlib.Data.List.Basic

/-!
# Shared vocabulary of the srtgo model

Handles, poll modes, the error values the socket calls return, and the ways a Go
call can panic. `poll.go` and `errors.go`, where srtgo declares `pollDesc`,
`ModeRead`/`ModeWrite`, `SRTErrno` and its constants, are not in the sources we
model; only what the modelled functions read of them appears here.
-/

namespace SrtGo

/-- An SRT socket handle (`C.SRTSOCKET`, a C `int`). Handles are only compared,
    never computed with, so the model keeps them unbounded. -/
abbrev SRTSOCKET := Int

/-- The two readiness directions of a poll descriptor. -/
inductive PollMode where
  | ModeRead
  | ModeWrite
deriving DecidableEq, Repr

/-- An engine error code as Go holds it: `SRTErrno` is a named integer type, so
    `SRTErrno(srterr)` keeps the code and nothing else. -/
structure SRTErrno where
  code : Int
deriving DecidableEq, Repr

/-- `SRT_EASYNCSND` of `srt.h`: a send on a non-blocking socket would block. -/
def EAsyncSND : SRTErrno := ⟨6001⟩

/-- `SRT_EASYNCRCV` of `srt.h`: a receive on a non-blocking socket would block. -/
def EAsyncRCV : SRTErrno := ⟨6002⟩

/-- Modelled from the spec: the error `pollDesc.wait` returns (`poll.go` is not
    under src/). Section 4.3 makes a failed wait fatal, and section 5 adds the
    timeout-classified error of a caller's deadline. -/
inductive WaitError where
  | timeout
  | fatal
deriving DecidableEq, Repr

/-- The `error` values the socket calls return. -/
inductive GoError where
  | srt (e : SRTErrno)
  | wait (e : WaitError)
deriving DecidableEq, Repr

/-- `errors.Is(err, error(target))` for a target of type `SRTErrno`: the error
    chain of an `SRTErrno` is the value itself, so the test is equality of codes. -/
def errorsIs : Option GoError → SRTErrno → Bool
  | some (.srt e), target => e == target
  | _, _ => false

/-- How a Go call can end without returning. -/
inductive GoPanic where
  /-- `runtime error: index out of range [index] with length len`. -/
  | indexOutOfRange (index len : Nat)
  /-- `runtime error: slice bounds out of range [:high] with capacity cap`. -/
  | sliceOutOfRange (high cap : Nat)
  /-- an explicit `panic(msg)` of the package. -/
  | panic (msg : String)
  /-- a type assertion `x.(T)` on a nil interface value. -/
  | nilTypeAssertion
deriving DecidableEq, Repr

/-- A poll descriptor as the registry and the dispatcher see it: the pointer's
    identity and the handle it was opened for (`pd.fd`). -/
structure PollDesc where
  id : Nat
  fd : SRTSOCKET
deriving DecidableEq, Repr

/-- The fields of `SrtSocket` that the I/O calls read. -/
structure SrtSocket where
  socket : SRTSOCKET
  blocking : Bool
  pd : PollDesc
deriving DecidableEq, Repr

end SrtGo
