import SrtGo.SocketIO

/-!
# `Read` and `Write`: one wait and one retry

`SrtSocket.Read` (read.go) and `SrtSocket.Write` (write.go) are one body over
different values: the primitive, the would-block code and the direction. The
body is `retryOnce`; each method is `retryOnce` at its own values.

The spec's section 4.4 describes the same call as a state machine (Attempt,
Waiting, Retry, Done). `retryStep` follows its words, and
`read_write_refine_retryMachine` shows that both methods behave exactly as
that machine run for three steps, on every buffer and every answer of the
engine and of `pd.wait`.
-/

namespace SrtGo

/-- The body of `Read` and `Write`: try once; on the would-block error of a
    non-blocking socket reset the direction, wait, and try exactly once more. -/
def retryOnce (attempt : GoM (Nat × Option GoError)) (wouldBlock : SRTErrno)
    (pd : PollDesc) (mode : PollMode) (blocking : Bool) : GoM (Nat × Option GoError) := do
  let (n, err) ← attempt
  if err.isNone || blocking || !errorsIs err wouldBlock then return (n, err)
  if !blocking then
    pdReset pd mode
    if let some waitErr := (← pdWait pd mode) then return (0, some (.wait waitErr))
    let (n, err) ← attempt
    return (n, err)
  return (n, err)

/-- `SrtSocket.Read`. -/
def SrtSocket.read (s : SrtSocket) (b : GoSlice) : GoM (Nat × Option GoError) :=
  retryOnce (srtRecvMsg2Impl s.socket b) EAsyncRCV s.pd .ModeRead s.blocking

/-- `SrtSocket.Write`. -/
def SrtSocket.write (s : SrtSocket) (b : GoSlice) : GoM (Nat × Option GoError) :=
  retryOnce (srtSendMsg2Impl s.socket b) EAsyncSND s.pd .ModeWrite s.blocking

/-! ### The retry protocol of the spec -/

/-- The states of the per-operation machine of section 4.4. -/
inductive RetryPhase where
  | attempt
  | waiting
  | retry
  | done (n : Nat) (err : Option GoError)
deriving DecidableEq, Repr

section Machine

variable (prim : GoM (Nat × Option GoError)) (wouldBlock : SRTErrno)
  (pd : PollDesc) (mode : PollMode) (blocking : Bool)

/-- One transition of section 4.4. Attempt: call the primitive; a would-block
    outcome on a non-blocking socket goes to Waiting, anything else is Done as
    it is. Waiting: reset the direction, then wait; a failed wait is Done with
    that error, a successful one goes to Retry. Retry: call the primitive once
    more and be Done with whatever it yields. -/
def retryStep : RetryPhase → GoM RetryPhase
  | .attempt => do
    let (n, err) ← prim
    return if !blocking && errorsIs err wouldBlock then .waiting else .done n err
  | .waiting => do
    pdReset pd mode
    match ← pdWait pd mode with
    | some e => return .done 0 (some (.wait e))
    | none => return .retry
  | .retry => do
    let (n, err) ← prim
    return .done n err
  | .done n err => return .done n err

/-- Run the machine for at most `fuel` transitions; `none` if it is not Done. -/
def retryMachine : Nat → RetryPhase → GoM (Option (Nat × Option GoError))
  | _, .done n err => return some (n, err)
  | 0, _ => return none
  | fuel + 1, p => do retryMachine fuel (← retryStep prim wouldBlock pd mode blocking p)

/-- The machine is Done after three transitions, in the state and with the
    result of `retryOnce`: the source's body and the spec's machine are the same
    call, panics included. -/
theorem retryOnce_refines_retryMachine (st : IOState) :
    (retryMachine prim wouldBlock pd mode blocking 3 .attempt).run st =
      ((retryOnce prim wouldBlock pd mode blocking).run st).map fun r => (some r.1, r.2) := by
  simp only [retryMachine, retryOnce, retryStep, GoM.run_bind, GoM.run_pure]
  rcases prim.run st with p | ⟨⟨n, err⟩, st₁⟩
  · rfl
  · -- the source's early return is the negation of the machine's test for Waiting
    have hcond : (err.isNone || blocking || !errorsIs err wouldBlock) =
        !(!blocking && errorsIs err wouldBlock) := by
      cases err <;> cases blocking <;> rfl
    dsimp only
    rw [hcond]
    by_cases hw : (!blocking && errorsIs err wouldBlock) = true
    · have hb : blocking = false := by simpa using ((Bool.and_eq_true _ _).mp hw).1
      simp only [hw, if_true, Bool.not_true, Bool.false_eq_true, if_false]
      simp only [hb, Bool.not_false, if_true, retryMachine, retryStep, GoM.run_bind, GoM.run_pure,
        run_pdReset, run_pdWait]
      cases st₁.env.wait st₁.waits with
      | some e => rfl
      | none =>
        simp only [retryMachine, retryStep, GoM.run_bind, GoM.run_pure]
        rcases prim.run _ with p | ⟨⟨n, err⟩, st₂⟩ <;> rfl
    · simp [hw, retryMachine, Except.map]

end Machine

/-! ### Every call on a non-empty buffer returns, after at most two attempts -/

/-- A pair as the primitives return it: a nil error or a zero count. -/
def PairOk (r : Nat × Option GoError) : Prop := r.2 = none ∨ r.1 = 0

theorem RecvRet.result_ok (r : RecvRet) : PairOk r.result := by
  cases r <;> simp [PairOk, RecvRet.result]

theorem SendRet.result_ok (r : SendRet) : PairOk r.result := by
  cases r <;> simp [PairOk, SendRet.result]

/-- The call returns a `PairOk` pair, having called the engine at most twice
    and waited at most once. -/
def ReturnsBounded (x : GoM (Nat × Option GoError)) (st : IOState) : Prop :=
  ∃ r st', x.run st = .ok (r, st') ∧ PairOk r ∧
    st'.calls ≤ st.calls + 2 ∧ st'.waits ≤ st.waits + 1

/-- What `retryOnce` needs of its primitive: it returns a `PairOk` pair after
    exactly one engine call and no wait. -/
def OneAttempt (attempt : GoM (Nat × Option GoError)) : Prop :=
  ∀ s, ∃ r s', attempt.run s = .ok (r, s') ∧ PairOk r ∧
    s'.calls = s.calls + 1 ∧ s'.waits = s.waits

theorem retryOnce_returnsBounded {attempt : GoM (Nat × Option GoError)}
    (h : OneAttempt attempt) (wouldBlock : SRTErrno) (pd : PollDesc) (mode : PollMode)
    (blocking : Bool) (st : IOState) :
    ReturnsBounded (retryOnce attempt wouldBlock pd mode blocking) st := by
  obtain ⟨⟨n, err⟩, st₁, h₁, ok₁, c₁, w₁⟩ := h st
  simp only [ReturnsBounded, retryOnce, GoM.run_bind, h₁]
  by_cases hdone : (err.isNone || blocking || !errorsIs err wouldBlock) = true
  · rw [if_pos hdone]
    exact ⟨_, _, rfl, ok₁, by omega, by omega⟩
  · have hb : blocking = false := by simp_all
    subst hb
    rw [if_neg hdone]
    simp only [run_pdReset, run_pdWait, GoM.run_bind, GoM.run_pure, Bool.not_false, if_true]
    cases st₁.env.wait st₁.waits with
    | some e => exact ⟨_, _, rfl, Or.inr rfl, by simp; omega, by simp; omega⟩
    | none =>
      obtain ⟨r₂, st₂, h₂, ok₂, c₂, w₂⟩ := h { st₁ with
        waits := st₁.waits + 1,
        log := st₁.log ++ [.reset pd mode] ++ [.wait pd mode none] }
      simp only [GoM.run_bind, GoM.run_pure, h₂]
      exact ⟨_, _, rfl, ok₂, by simp at c₂; omega, by simp at w₂; omega⟩

theorem retryOnce_run_of_error {attempt : GoM (Nat × Option GoError)} {st : IOState} {p : GoPanic}
    (h : attempt.run st = .error p) (wouldBlock : SRTErrno) (pd : PollDesc) (mode : PollMode)
    (blocking : Bool) : (retryOnce attempt wouldBlock pd mode blocking).run st = .error p := by
  simp [retryOnce, h]

theorem srtRecvMsg2Impl_oneAttempt (u : SRTSOCKET) {b : GoSlice} (hb : b.len ≠ 0) :
    OneAttempt (srtRecvMsg2Impl u b) := fun s =>
  ⟨_, _, srtRecvMsg2Impl_run u b s hb, RecvRet.result_ok _, rfl, rfl⟩

theorem srtSendMsg2Impl_oneAttempt (u : SRTSOCKET) {b : GoSlice} (hb : b.len ≠ 0) :
    OneAttempt (srtSendMsg2Impl u b) := fun s =>
  ⟨_, _, srtSendMsg2Impl_run u b s hb, SendRet.result_ok _, rfl, rfl⟩

/-! ### The two methods -/

section Methods

variable (s : SrtSocket) (b : GoSlice) (st : IOState)

/-- `Read` and `Write` are the section 4.4 machine at their own primitive,
    would-block code and direction, on every buffer. -/
theorem read_write_refine_retryMachine :
    (retryMachine (srtRecvMsg2Impl s.socket b) EAsyncRCV s.pd .ModeRead s.blocking 3
        .attempt).run st = ((s.read b).run st).map (fun r => (some r.1, r.2)) ∧
    (retryMachine (srtSendMsg2Impl s.socket b) EAsyncSND s.pd .ModeWrite s.blocking 3
        .attempt).run st = ((s.write b).run st).map (fun r => (some r.1, r.2)) :=
  ⟨retryOnce_refines_retryMachine .., retryOnce_refines_retryMachine ..⟩

/-- On a non-empty buffer both methods return, with at most two engine calls and
    one wait, and a nil error or a zero count. -/
theorem read_write_returnsBounded (hb : b.len ≠ 0) :
    ReturnsBounded (s.read b) st ∧ ReturnsBounded (s.write b) st :=
  ⟨retryOnce_returnsBounded (srtRecvMsg2Impl_oneAttempt _ hb) ..,
    retryOnce_returnsBounded (srtSendMsg2Impl_oneAttempt _ hb) ..⟩

def oneByteEnv : Env := ⟨fun _ _ => .received [0], fun _ _ => .sent 1, fun _ => none⟩

theorem read_write_returnsBounded_one_byte :
    (⟨0, 4⟩ : GoSlice).len ≠ 0 ∧
    ReturnsBounded ((⟨7, false, ⟨1, 7⟩⟩ : SrtSocket).read ⟨0, 4⟩) ⟨oneByteEnv, [0, 0, 0, 0], 0, 0, []⟩ ∧
    ReturnsBounded ((⟨7, false, ⟨1, 7⟩⟩ : SrtSocket).write ⟨0, 4⟩) ⟨oneByteEnv, [0, 0, 0, 0], 0, 0, []⟩ :=
  ⟨by decide, read_write_returnsBounded _ _ _ (by decide)⟩

/-- On an empty buffer neither method reaches the engine: `&buf[0]` in the first
    attempt panics, so there is no first engine result to return. -/
theorem read_write_panic_before_first_attempt (off : Nat) :
    (s.read ⟨off, 0⟩).run st = .error (.indexOutOfRange 0 0) ∧
    (s.write ⟨off, 0⟩).run st = .error (.indexOutOfRange 0 0) :=
  ⟨retryOnce_run_of_error (srtRecvMsg2Impl_run_empty _ _ _ rfl) ..,
    retryOnce_run_of_error (srtSendMsg2Impl_run_empty _ _ _ rfl) ..⟩

end Methods

end SrtGo
