import SrtGo.Basic

/-!
# Socket calls as programs over the engine

`Read`, `Write` and `ReadBatch` are sequential Go code around three kinds of
outside calls: the engine's receive or send primitive (through the C wrappers
`srt_recvmsg2_wrapped` and `srt_sendmsg2_wrapped`), and `pd.reset`/`pd.wait`
on the socket's poll descriptor. `GoM` runs such code against an `Env` that
answers every outside call, keeps the caller's byte buffer, logs every outside
call in order, and ends in a `GoPanic` where Go would panic.

The answers are indexed by how many calls of that kind came before, so one
`Env` is any sequence of engine results and wait outcomes.
-/

namespace SrtGo

/-- The engine's answer to one receive: `received bytes` is a non-negative
    return value `bytes.length` with `bytes` written at the start of the slice;
    `failed srterr syserr` is a negative return value, after which the wrapper
    stored `srt_getlasterror`'s codes. The code treats every negative value alike. -/
inductive RecvRet where
  | received (bytes : List UInt8)
  | failed (srterr syserr : Int)
deriving DecidableEq, Repr

/-- The engine's answer to one send: a non-negative count or a negative value. -/
inductive SendRet where
  | sent (n : Nat)
  | failed (srterr syserr : Int)
deriving DecidableEq, Repr

/-- The world a socket call talks to: the `k`-th receive or send on a slice of
    length `len` is answered by `recv k len` or `send k len`, and the `k`-th
    `pd.wait` by `wait k` (`none` is a nil error). -/
structure Env where
  recv : Nat → Nat → RecvRet
  send : Nat → Nat → SendRet
  wait : Nat → Option WaitError

/-- One outside call, as the log records it. -/
inductive Effect where
  | recv (u : SRTSOCKET) (off len : Nat) (ret : RecvRet)
  | send (u : SRTSOCKET) (off len : Nat) (ret : SendRet)
  | reset (pd : PollDesc) (mode : PollMode)
  | wait (pd : PollDesc) (mode : PollMode) (ans : Option WaitError)
deriving DecidableEq, Repr

def Effect.isWait : Effect → Bool
  | .wait .. => true
  | _ => false

/-- A Go byte slice: a window of `len` bytes at `off` in the caller's buffer. -/
structure GoSlice where
  off : Nat
  len : Nat
deriving DecidableEq, Repr

/-- What a running socket call sees and has done so far. -/
structure IOState where
  env : Env
  mem : List UInt8
  calls : Nat
  waits : Nat
  log : List Effect

/-- A socket call: from a state, a result and the next state, or a panic. -/
structure GoM (α : Type) where
  run : IOState → Except GoPanic (α × IOState)

instance : Monad GoM where
  pure a := ⟨fun s => .ok (a, s)⟩
  bind x f := ⟨fun s => match x.run s with
    | .error p => .error p
    | .ok (a, s') => (f a).run s'⟩

namespace GoM

@[simp] theorem run_pure {α : Type} (a : α) (s : IOState) :
    (pure a : GoM α).run s = .ok (a, s) := rfl

@[simp] theorem run_bind {α β : Type} (x : GoM α) (f : α → GoM β) (s : IOState) :
    (x >>= f).run s = match x.run s with
      | .error p => .error p
      | .ok (a, s') => (f a).run s' := rfl

end GoM

/-- `panic`, or a runtime panic. -/
def goPanic {α : Type} (p : GoPanic) : GoM α := ⟨fun _ => .error p⟩

/-- Write `bytes` into the buffer at `off`. -/
def writeAt (mem : List UInt8) (off : Nat) (bytes : List UInt8) : List UInt8 :=
  mem.take off ++ bytes ++ mem.drop (off + bytes.length)

theorem writeAt_nil (mem : List UInt8) (off : Nat) : writeAt mem off [] = mem := by
  simp [writeAt]

theorem length_writeAt {mem : List UInt8} {off : Nat} {bytes : List UInt8}
    (h : off + bytes.length ≤ mem.length) : (writeAt mem off bytes).length = mem.length := by
  simp [writeAt]; omega

theorem writeAt_append {mem : List UInt8} {off : Nat} {d₁ d₂ : List UInt8}
    (h : off + d₁.length + d₂.length ≤ mem.length) :
    writeAt (writeAt mem off d₁) (off + d₁.length) d₂ = writeAt mem off (d₁ ++ d₂) := by
  have ho : (mem.take off).length = off := by simp; omega
  simp only [writeAt, List.append_assoc]
  rw [List.take_append_eq_append_take, List.take_of_length_le (by omega), ho,
    show off + d₁.length - off = d₁.length by omega, List.take_append_eq_append_take,
    List.take_of_length_le (le_refl _), Nat.sub_self, List.take_zero, List.append_nil,
    List.drop_append_eq_append_drop, List.drop_eq_nil_of_le (by omega), ho, List.nil_append,
    List.drop_append_eq_append_drop, List.drop_eq_nil_of_le (by omega), List.nil_append,
    List.drop_drop, List.length_append, List.append_assoc]
  congr 4
  omega

theorem take_drop_writeAt {mem : List UInt8} {off : Nat} {bytes : List UInt8}
    (h : off + bytes.length ≤ mem.length) :
    ((writeAt mem off bytes).drop off).take bytes.length = bytes := by
  have ho : (mem.take off).length = off := by simp; omega
  simp only [writeAt, List.append_assoc]
  rw [List.drop_append_eq_append_drop, List.drop_eq_nil_of_le (by omega), ho, Nat.sub_self,
    List.drop_zero, List.nil_append, List.take_append_eq_append_take,
    List.take_of_length_le (le_refl _), Nat.sub_self, List.take_zero, List.append_nil]

def RecvRet.bytes : RecvRet → List UInt8
  | .received bytes => bytes
  | .failed .. => []

/-- `srt_recvmsg2_wrapped(u, &buf[0], len(buf), ...)`: the next receive answer,
    with its bytes written into the slice. -/
def engineRecv (u : SRTSOCKET) (buf : GoSlice) : GoM RecvRet :=
  ⟨fun s =>
    let r := s.env.recv s.calls buf.len
    .ok (r, { s with mem := writeAt s.mem buf.off r.bytes, calls := s.calls + 1,
                     log := s.log ++ [.recv u buf.off buf.len r] })⟩

/-- `srt_sendmsg2_wrapped(u, &buf[0], len(buf), ...)`: the next send answer. -/
def engineSend (u : SRTSOCKET) (buf : GoSlice) : GoM SendRet :=
  ⟨fun s =>
    let r := s.env.send s.calls buf.len
    .ok (r, { s with calls := s.calls + 1, log := s.log ++ [.send u buf.off buf.len r] })⟩

/-- `pd.reset(mode)`. -/
def pdReset (pd : PollDesc) (mode : PollMode) : GoM Unit :=
  ⟨fun s => .ok ((), { s with log := s.log ++ [.reset pd mode] })⟩

/-- `pd.wait(mode)`: the next wait outcome. -/
def pdWait (pd : PollDesc) (mode : PollMode) : GoM (Option WaitError) :=
  ⟨fun s =>
    let a := s.env.wait s.waits
    .ok (a, { s with waits := s.waits + 1, log := s.log ++ [.wait pd mode a] })⟩

/-- `buf[low:]`: Go checks `low <= len(buf)`. -/
def GoSlice.sliceFrom (buf : GoSlice) (low : Nat) : GoM GoSlice :=
  if low ≤ buf.len then pure ⟨buf.off + low, buf.len - low⟩
  else goPanic (.sliceOutOfRange low buf.len)

theorem GoSlice.sliceFrom_of_le {buf : GoSlice} {low : Nat} (h : low ≤ buf.len) :
    buf.sliceFrom low = pure ⟨buf.off + low, buf.len - low⟩ := if_pos h

section Primitives

variable {α : Type} (s : IOState)

@[simp] theorem run_goPanic (p : GoPanic) : (goPanic p : GoM α).run s = .error p := rfl

@[simp] theorem run_engineRecv (u : SRTSOCKET) (buf : GoSlice) :
    (engineRecv u buf).run s =
      .ok (s.env.recv s.calls buf.len,
        { s with mem := writeAt s.mem buf.off (s.env.recv s.calls buf.len).bytes,
                 calls := s.calls + 1,
                 log := s.log ++ [.recv u buf.off buf.len (s.env.recv s.calls buf.len)] }) := rfl

@[simp] theorem run_engineSend (u : SRTSOCKET) (buf : GoSlice) :
    (engineSend u buf).run s =
      .ok (s.env.send s.calls buf.len,
        { s with calls := s.calls + 1,
                 log := s.log ++ [.send u buf.off buf.len (s.env.send s.calls buf.len)] }) := rfl

@[simp] theorem run_pdReset (pd : PollDesc) (mode : PollMode) :
    (pdReset pd mode).run s = .ok ((), { s with log := s.log ++ [.reset pd mode] }) := rfl

@[simp] theorem run_pdWait (pd : PollDesc) (mode : PollMode) :
    (pdWait pd mode).run s =
      .ok (s.env.wait s.waits,
        { s with waits := s.waits + 1, log := s.log ++ [.wait pd mode (s.env.wait s.waits)] }) :=
  rfl

end Primitives

/-! ### The two engine primitives -/

/-- `srtRecvMsg2Impl`: `&buf[0]` panics on an empty slice; a negative return
    becomes `(0, SRTErrno(srterr))`. `wrapSysErr`'s result is discarded by the
    source, so the system code never reaches the error. -/
def srtRecvMsg2Impl (u : SRTSOCKET) (buf : GoSlice) : GoM (Nat × Option GoError) := do
  if buf.len = 0 then goPanic (.indexOutOfRange 0 0)
  match ← engineRecv u buf with
  | .received bytes => return (bytes.length, none)
  | .failed srterr _ => return (0, some (.srt ⟨srterr⟩))

/-- `srtSendMsg2Impl`, the same shape over the send primitive. -/
def srtSendMsg2Impl (u : SRTSOCKET) (buf : GoSlice) : GoM (Nat × Option GoError) := do
  if buf.len = 0 then goPanic (.indexOutOfRange 0 0)
  match ← engineSend u buf with
  | .sent n => return (n, none)
  | .failed srterr _ => return (0, some (.srt ⟨srterr⟩))

/-- The pair a primitive returns for a receive answer. -/
def RecvRet.result : RecvRet → Nat × Option GoError
  | .received bytes => (bytes.length, none)
  | .failed srterr _ => (0, some (.srt ⟨srterr⟩))

/-- The pair a primitive returns for a send answer. -/
def SendRet.result : SendRet → Nat × Option GoError
  | .sent n => (n, none)
  | .failed srterr _ => (0, some (.srt ⟨srterr⟩))

def IOState.afterRecv (s : IOState) (u : SRTSOCKET) (buf : GoSlice) : IOState :=
  { s with mem := writeAt s.mem buf.off (s.env.recv s.calls buf.len).bytes,
           calls := s.calls + 1,
           log := s.log ++ [.recv u buf.off buf.len (s.env.recv s.calls buf.len)] }

def IOState.afterSend (s : IOState) (u : SRTSOCKET) (buf : GoSlice) : IOState :=
  { s with calls := s.calls + 1,
           log := s.log ++ [.send u buf.off buf.len (s.env.send s.calls buf.len)] }

section Primitives

variable (u : SRTSOCKET) (buf : GoSlice) (s : IOState)

theorem srtRecvMsg2Impl_run (h : buf.len ≠ 0) :
    (srtRecvMsg2Impl u buf).run s =
      .ok ((s.env.recv s.calls buf.len).result, s.afterRecv u buf) := by
  simp only [srtRecvMsg2Impl, GoM.run_bind, h, if_false, run_engineRecv, IOState.afterRecv]
  cases s.env.recv s.calls buf.len <;> rfl

theorem srtSendMsg2Impl_run (h : buf.len ≠ 0) :
    (srtSendMsg2Impl u buf).run s =
      .ok ((s.env.send s.calls buf.len).result, s.afterSend u buf) := by
  simp only [srtSendMsg2Impl, GoM.run_bind, h, if_false, run_engineSend, IOState.afterSend]
  cases s.env.send s.calls buf.len <;> rfl

theorem srtRecvMsg2Impl_run_empty (h : buf.len = 0) :
    (srtRecvMsg2Impl u buf).run s = .error (.indexOutOfRange 0 0) := by
  simp [srtRecvMsg2Impl, h]

theorem srtSendMsg2Impl_run_empty (h : buf.len = 0) :
    (srtSendMsg2Impl u buf).run s = .error (.indexOutOfRange 0 0) := by
  simp [srtSendMsg2Impl, h]

end Primitives

end SrtGo
