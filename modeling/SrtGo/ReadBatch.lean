import SrtGo.ReadWrite

/-!
# `ReadBatch`: several packets into one buffer

`SrtSocket.ReadBatch` (read.go) reads packets into consecutive parts of one
buffer until it has `maxPackets` of them, the buffer is full, a receive
delivers nothing, or a receive fails. Only the first packet may wait: on a
non-blocking socket whose first receive would block it resets, waits and
receives once more. A failure after some packets returns the packets.

The loop is `readBatchLoop`, one pass of its body `readBatchBody`. The loop
runs on `maxPackets` as fuel: every pass that goes on counts one more packet,
and the loop's own test stops it at `maxPackets` packets, so the fuel is spent
exactly when the test fails.

`readBatch_bounds_and_accounting` follows every run through the log of its
outside calls. `readBatch_waits_once_before_data` finds in that log where a
batch may block: only a non-blocking socket waits, at most once, and never after
a packet has arrived. With one packet, `ReadBatch` is `Read` on a non-empty buffer
(`readBatch_one_eq_read`): the batch path and the plain path make the same
calls and agree on the result.
-/

namespace SrtGo

/-- How one pass of the loop body ends: `next n` goes on with `n` more bytes,
    `stop` is the `break` on a zero count, `exit` a `return`. -/
inductive BatchCtl where
  | next (n : Nat)
  | stop
  | exit (packetsRead totalBytes : Nat) (err : Option GoError)
deriving DecidableEq, Repr

namespace SrtSocket

variable (s : SrtSocket) (buffer : GoSlice)

/-- One pass of the loop body of `ReadBatch` at `packetsRead` packets, `offset`
    bytes into the buffer. -/
def readBatchBody (packetsRead offset totalBytes : Nat) : GoM BatchCtl := do
  let (n, readErr) ← srtRecvMsg2Impl s.socket (← buffer.sliceFrom offset)
  match readErr with
  | none => return if n = 0 then .stop else .next n
  | some _ =>
    if packetsRead = 0 && !s.blocking && errorsIs readErr EAsyncRCV then
      pdReset s.pd .ModeRead
      match ← pdWait s.pd .ModeRead with
      | some waitErr => return .exit 0 0 (some (.wait waitErr))
      | none =>
        let (n, readErr) ← srtRecvMsg2Impl s.socket (← buffer.sliceFrom offset)
        match readErr with
        | none => return if n = 0 then .stop else .next n
        | some _ =>
          return if packetsRead > 0 then .exit packetsRead totalBytes none else .exit 0 0 readErr
    else
      return if packetsRead > 0 then .exit packetsRead totalBytes none else .exit 0 0 readErr

/-- The loop of `ReadBatch`, with `fuel` passes left. -/
def readBatchLoop (maxPackets : Int) :
    Nat → Nat → Nat → Nat → GoM (Nat × Nat × Option GoError)
  | 0, packetsRead, _, totalBytes => return (packetsRead, totalBytes, none)
  | fuel + 1, packetsRead, offset, totalBytes =>
    if (packetsRead : Int) < maxPackets ∧ offset < buffer.len then do
      match ← s.readBatchBody buffer packetsRead offset totalBytes with
      | .next n => readBatchLoop maxPackets fuel (packetsRead + 1) (offset + n) (totalBytes + n)
      | .stop => return (packetsRead, totalBytes, none)
      | .exit p t err => return (p, t, err)
    else return (packetsRead, totalBytes, none)

/-- `SrtSocket.ReadBatch`. -/
def readBatch (maxPackets : Int) : GoM (Nat × Nat × Option GoError) :=
  if maxPackets ≤ 0 ∨ buffer.len = 0 then return (0, 0, none)
  else s.readBatchLoop buffer maxPackets maxPackets.toNat 0 0 0

end SrtSocket

/-! ### What a log of outside calls delivered -/

/-- The bytes a log's receives delivered, in order. -/
def readBytes : List Effect → List UInt8
  | [] => []
  | .recv _ _ _ r :: E => r.bytes ++ readBytes E
  | _ :: E => readBytes E

/-- How many of a log's receives delivered a non-empty packet. -/
def readCount : List Effect → Nat
  | [] => 0
  | .recv _ _ _ r :: E => (if r.bytes = [] then 0 else 1) + readCount E
  | _ :: E => readCount E

/-- Every receive of the log is on socket `u` and on `buffer[acc:]`, non-empty,
    where `acc` counts the bytes the receives before it delivered. -/
def SlicesOk (u : SRTSOCKET) (buffer : GoSlice) : Nat → List Effect → Prop
  | _, [] => True
  | acc, .recv u' off len r :: E =>
    u' = u ∧ off = buffer.off + acc ∧ acc < buffer.len ∧ len = buffer.len - acc ∧
      SlicesOk u buffer (acc + r.bytes.length) E
  | acc, _ :: E => SlicesOk u buffer acc E

@[simp] theorem readBytes_append (E F : List Effect) :
    readBytes (E ++ F) = readBytes E ++ readBytes F := by
  induction E with
  | nil => rfl
  | cons e E ih => cases e <;> simp [readBytes, ih]

@[simp] theorem readCount_append (E F : List Effect) :
    readCount (E ++ F) = readCount E + readCount F := by
  induction E with
  | nil => simp [readCount]
  | cons e E ih => cases e <;> simp [readCount, ih]; omega

theorem slicesOk_append {u : SRTSOCKET} {buffer : GoSlice} (E F : List Effect) :
    ∀ acc, SlicesOk u buffer acc (E ++ F) ↔
      SlicesOk u buffer acc E ∧ SlicesOk u buffer (acc + (readBytes E).length) F := by
  induction E with
  | nil => simp [SlicesOk, readBytes]
  | cons e E ih =>
    intro acc
    cases e <;> simp [SlicesOk, readBytes, ih, and_assoc, Nat.add_assoc]

/-- How a batch that read nothing fails: with its first receive's error, unless
    the socket is non-blocking and that error is `EAsyncRCV`; then with the
    wait's error, or with the error of the one receive after the wait. -/
inductive BatchFailure (s : SrtSocket) : List Effect → GoError → Prop
  | first {off len : Nat} {srterr syserr : Int}
      (h : ¬(s.blocking = false ∧ srterr = EAsyncRCV.code)) :
      BatchFailure s [.recv s.socket off len (.failed srterr syserr)] (.srt ⟨srterr⟩)
  | wait {off len : Nat} {syserr : Int} {e : WaitError} (h : s.blocking = false) :
      BatchFailure s [.recv s.socket off len (.failed EAsyncRCV.code syserr),
        .reset s.pd .ModeRead, .wait s.pd .ModeRead (some e)] (.wait e)
  | retry {off len : Nat} {syserr srterr syserr' : Int} (h : s.blocking = false) :
      BatchFailure s [.recv s.socket off len (.failed EAsyncRCV.code syserr),
        .reset s.pd .ModeRead, .wait s.pd .ModeRead none,
        .recv s.socket off len (.failed srterr syserr')] (.srt ⟨srterr⟩)

/-! ### One pass of the body -/

/-- How the body ends on a receive answer it does not wait on: the `break` on a
    zero count, the next packet, or the error, which a batch with packets drops. -/
def endOn (packetsRead totalBytes : Nat) : RecvRet → BatchCtl
  | .received d => if d.length = 0 then .stop else .next d.length
  | .failed srterr _ =>
    if packetsRead > 0 then .exit packetsRead totalBytes none else .exit 0 0 (some (.srt ⟨srterr⟩))

/-- The four paths through one pass of the body, given the engine's answers to
    its receives (`r₁`, then `r₂`) and to its wait (`ans`) on the slice `sl`:
    the log the pass writes, how it ends, and how many receives it makes. -/
inductive BodyPath (s : SrtSocket) (packetsRead totalBytes : Nat) (sl : GoSlice)
    (r₁ r₂ : RecvRet) (ans : Option WaitError) : List Effect → BatchCtl → Nat → Prop
  /-- the first receive delivers a packet, maybe an empty one -/
  | delivered {d : List UInt8} (h : r₁ = .received d) :
      BodyPath s packetsRead totalBytes sl r₁ r₂ ans [.recv s.socket sl.off sl.len r₁]
        (endOn packetsRead totalBytes r₁) 1
  /-- the first receive fails and the pass does not wait -/
  | failed {srterr syserr : Int} (h : r₁ = .failed srterr syserr)
      (hno : ¬(packetsRead = 0 ∧ s.blocking = false ∧ srterr = EAsyncRCV.code)) :
      BodyPath s packetsRead totalBytes sl r₁ r₂ ans [.recv s.socket sl.off sl.len r₁]
        (endOn packetsRead totalBytes r₁) 1
  /-- the first packet of a non-blocking socket would block, and the wait fails -/
  | waitFailed {syserr : Int} {e : WaitError} (h : r₁ = .failed EAsyncRCV.code syserr)
      (hp : packetsRead = 0) (hbl : s.blocking = false) (hw : ans = some e) :
      BodyPath s packetsRead totalBytes sl r₁ r₂ ans
        [.recv s.socket sl.off sl.len r₁, .reset s.pd .ModeRead, .wait s.pd .ModeRead ans]
        (.exit 0 0 (some (.wait e))) 1
  /-- it would block, the wait returns nil, and the pass receives once more -/
  | retried {syserr : Int} (h : r₁ = .failed EAsyncRCV.code syserr) (hp : packetsRead = 0)
      (hbl : s.blocking = false) (hw : ans = none) :
      BodyPath s packetsRead totalBytes sl r₁ r₂ ans
        [.recv s.socket sl.off sl.len r₁, .reset s.pd .ModeRead, .wait s.pd .ModeRead ans,
          .recv s.socket sl.off sl.len r₂]
        (endOn packetsRead totalBytes r₂) 2

/-- One pass of the body follows one of the four paths, on the engine's answers
    to its receives and its wait, and writes its log, the bytes its receives
    delivered and its engine calls into the state. -/
theorem readBatchBody_path (s : SrtSocket) (buffer : GoSlice) (packetsRead offset totalBytes : Nat)
    (st : IOState) (hoff : offset < buffer.len) :
    ∃ ctl st' E k, (s.readBatchBody buffer packetsRead offset totalBytes).run st = .ok (ctl, st') ∧
      BodyPath s packetsRead totalBytes ⟨buffer.off + offset, buffer.len - offset⟩
        (st.env.recv st.calls (buffer.len - offset))
        (st.env.recv (st.calls + 1) (buffer.len - offset)) (st.env.wait st.waits) E ctl k ∧
      st'.log = st.log ++ E ∧ st'.env = st.env ∧
      st'.mem = writeAt st.mem (buffer.off + offset) (readBytes E) ∧ st'.calls = st.calls + k := by
  have hlen : (⟨buffer.off + offset, buffer.len - offset⟩ : GoSlice).len ≠ 0 := by
    show buffer.len - offset ≠ 0; omega
  simp only [SrtSocket.readBatchBody, GoM.run_bind, GoSlice.sliceFrom_of_le hoff.le, GoM.run_pure,
    srtRecvMsg2Impl_run _ _ _ hlen, IOState.afterRecv]
  rcases h1 : st.env.recv st.calls (buffer.len - offset) with d | ⟨srterr, syserr⟩
  · exact ⟨_, _, _, _, rfl, .delivered rfl, rfl, rfl, by simp [readBytes], rfl⟩
  · simp only [RecvRet.result, RecvRet.bytes, writeAt_nil]
    by_cases hcond : (decide (packetsRead = 0) && !s.blocking &&
        errorsIs (some (GoError.srt ⟨srterr⟩)) EAsyncRCV) = true
    · -- the first packet of a non-blocking socket would block: reset, wait
      rw [if_pos hcond]
      obtain ⟨⟨hp, hbl⟩, hcode⟩ : (packetsRead = 0 ∧ s.blocking = false) ∧ srterr = EAsyncRCV.code := by
        simpa [errorsIs, EAsyncRCV] using hcond
      subst hcode
      simp only [GoM.run_bind, run_pdReset, run_pdWait, GoM.run_pure]
      rcases h2 : st.env.wait st.waits with _ | e
      · simp only [GoM.run_bind, GoM.run_pure, srtRecvMsg2Impl_run _ _ _ hlen, IOState.afterRecv,
          List.append_assoc, List.singleton_append]
        rcases st.env.recv (st.calls + 1) (buffer.len - offset) <;>
          exact ⟨_, _, _, _, rfl, .retried rfl hp hbl rfl, rfl, rfl,
            by simp [readBytes, RecvRet.bytes], rfl⟩
      · simp only [List.append_assoc, List.singleton_append]
        exact ⟨_, _, _, _, rfl, .waitFailed rfl hp hbl rfl, rfl, rfl,
          by simp [readBytes, RecvRet.bytes, writeAt_nil], rfl⟩
    · -- no wait: the error ends the pass
      rw [if_neg hcond]
      refine ⟨_, _, _, _, rfl, .failed rfl fun ⟨hp, hbl, hcode⟩ => hcond ?_, rfl, rfl,
        by simp [readBytes, RecvRet.bytes, writeAt_nil], rfl⟩
      simp [hp, hbl, errorsIs, hcode, EAsyncRCV]

/-- How one pass of the body ends, against the log it wrote. -/
def BodyOutcome (s : SrtSocket) (packetsRead totalBytes : Nat) (E : List Effect) :
    BatchCtl → Prop
  | .next n => n = (readBytes E).length ∧ 0 < n ∧ readCount E = 1
  | .stop => readBytes E = [] ∧ readCount E = 0
  | .exit p t err => readBytes E = [] ∧ readCount E = 0 ∧
      (0 < packetsRead → p = packetsRead ∧ t = totalBytes ∧ err = none) ∧
      (packetsRead = 0 → p = 0 ∧ t = 0 ∧ ∃ e, err = some e ∧ BatchFailure s E e)

theorem BodyOutcome.delivered {s : SrtSocket} {packetsRead totalBytes : Nat} (pre : List Effect)
    (hb : readBytes pre = []) (hc : readCount pre = 0) (u : SRTSOCKET) (off len : Nat)
    (d : List UInt8) :
    BodyOutcome s packetsRead totalBytes (pre ++ [.recv u off len (.received d)])
      (if d.length = 0 then .stop else .next d.length) := by
  by_cases hd : d = []
  · subst hd; simp [BodyOutcome, readBytes, readCount, RecvRet.bytes, hb, hc]
  · have : d.length ≠ 0 := by simpa using hd
    simp [BodyOutcome, readBytes, readCount, RecvRet.bytes, hb, hc, hd, this,
      Nat.pos_of_ne_zero this]

/-- What one pass of the body leaves when it starts at `packetsRead` packets and
    `offset` bytes: the log `E` it wrote, the bytes it stored, its engine calls,
    and how it ended. -/
structure BodyPost (s : SrtSocket) (buffer : GoSlice) (packetsRead offset totalBytes : Nat)
    (st st' : IOState) (E : List Effect) (ctl : BatchCtl) : Prop where
  log : st'.log = st.log ++ E
  env : st'.env = st.env
  mem : st'.mem = writeAt st.mem (buffer.off + offset) (readBytes E)
  fits : (readBytes E).length ≤ buffer.len - offset
  calls : st'.calls ≤ st.calls + (if packetsRead = 0 then 2 else 1)
  slices : SlicesOk s.socket buffer offset E
  outcome : BodyOutcome s packetsRead totalBytes E ctl

theorem readBatchBody_spec (s : SrtSocket) (buffer : GoSlice) (packetsRead offset totalBytes : Nat)
    (st : IOState) (hoff : offset < buffer.len)
    (hrecv : ∀ k len, (st.env.recv k len).bytes.length ≤ len) :
    ∃ ctl st' E, (s.readBatchBody buffer packetsRead offset totalBytes).run st = .ok (ctl, st') ∧
      BodyPost s buffer packetsRead offset totalBytes st st' E ctl := by
  obtain ⟨ctl, st', E, k, hrun, hpath, hlog, henv, hmem, hcalls⟩ :=
    readBatchBody_path s buffer packetsRead offset totalBytes st hoff
  have hb₁ := hrecv st.calls (buffer.len - offset)
  have hb₂ := hrecv (st.calls + 1) (buffer.len - offset)
  generalize st.env.recv st.calls (buffer.len - offset) = r₁ at hpath hb₁
  generalize st.env.recv (st.calls + 1) (buffer.len - offset) = r₂ at hpath hb₂
  generalize st.env.wait st.waits = ans at hpath
  refine ⟨ctl, st', E, hrun, ?_⟩
  cases hpath with
  | delivered h =>
    subst h
    exact ⟨hlog, henv, hmem, by simpa [readBytes, RecvRet.bytes] using hb₁,
      by rw [hcalls]; split <;> omega, ⟨rfl, rfl, hoff, rfl, trivial⟩,
      BodyOutcome.delivered [] rfl rfl _ _ _ _⟩
  | failed h hno =>
    subst h
    refine ⟨hlog, henv, hmem, by simp [readBytes, RecvRet.bytes], by rw [hcalls]; split <;> omega,
      ⟨rfl, rfl, hoff, rfl, trivial⟩, ?_⟩
    by_cases hp : 0 < packetsRead
    · simp [BodyOutcome, endOn, readBytes, readCount, RecvRet.bytes, hp, hp.ne']
    · obtain rfl : packetsRead = 0 := by omega
      simp only [endOn, gt_iff_lt, lt_self_iff_false, if_false, BodyOutcome]
      exact ⟨by simp [readBytes, RecvRet.bytes], by simp [readCount, RecvRet.bytes], nofun,
        fun _ => ⟨trivial, trivial, _, rfl, .first fun ⟨hbl, hcode⟩ => hno ⟨rfl, hbl, hcode⟩⟩⟩
  | waitFailed h hp hbl hw =>
    subst h hw hp
    exact ⟨hlog, henv, hmem, by simp [readBytes, RecvRet.bytes], by simp [hcalls],
      ⟨rfl, rfl, hoff, rfl, trivial⟩, by simp [readBytes, RecvRet.bytes],
      by simp [readCount, RecvRet.bytes], nofun, fun _ => ⟨rfl, rfl, _, rfl, .wait hbl⟩⟩
  | @retried syserr h hp hbl hw =>
    subst h hw hp
    refine ⟨hlog, henv, hmem, by simpa [readBytes, RecvRet.bytes] using hb₂, by simp [hcalls],
      ⟨rfl, rfl, hoff, rfl, rfl, rfl, hoff, rfl, trivial⟩, ?_⟩
    cases r₂ with
    | received d =>
      exact BodyOutcome.delivered [.recv s.socket (buffer.off + offset) (buffer.len - offset)
        (.failed EAsyncRCV.code syserr), .reset s.pd .ModeRead, .wait s.pd .ModeRead none]
        (by simp [readBytes, RecvRet.bytes]) (by simp [readCount, RecvRet.bytes]) _ _ _ d
    | failed srterr syserr =>
      exact ⟨by simp [readBytes, RecvRet.bytes], by simp [readCount, RecvRet.bytes], nofun,
        fun _ => ⟨rfl, rfl, _, rfl, .retry hbl⟩⟩

/-! ### The loop -/

/-- What the loop leaves when it starts at `packetsRead` packets and `offset`
    bytes: the log `E` it wrote, the bytes it stored, its engine calls, and its
    result `r`. -/
structure LoopPost (s : SrtSocket) (buffer : GoSlice) (maxPackets : Int)
    (packetsRead offset : Nat) (st st' : IOState) (E : List Effect)
    (r : Nat × Nat × Option GoError) : Prop where
  log : st'.log = st.log ++ E
  env : st'.env = st.env
  mem : st'.mem = writeAt st.mem (buffer.off + offset) (readBytes E)
  fits : offset + (readBytes E).length ≤ buffer.len
  calls : st'.calls ≤ st.calls + min (maxPackets.toNat - packetsRead) (buffer.len - offset) +
    (if packetsRead = 0 then 1 else 0)
  slices : SlicesOk s.socket buffer offset E
  result : (r.2.2 = none ∧ r.1 = packetsRead + readCount E ∧ r.1 ≤ maxPackets.toNat ∧
      r.2.1 = offset + (readBytes E).length) ∨
    (packetsRead = 0 ∧ ∃ e, r = (0, 0, some e) ∧ readCount E = 0 ∧ BatchFailure s E e)

theorem LoopPost.nil {s : SrtSocket} {buffer : GoSlice} {maxPackets : Int} {k offset : Nat}
    {st : IOState} (hoff : offset ≤ buffer.len) (hk : k ≤ maxPackets.toNat) :
    LoopPost s buffer maxPackets k offset st st [] (k, offset, none) :=
  ⟨by simp, rfl, by simp [readBytes, writeAt_nil], by simpa [readBytes] using hoff,
    by split <;> omega, trivial, .inl ⟨rfl, by simp [readCount], hk, by simp [readBytes]⟩⟩

theorem LoopPost.next {s : SrtSocket} {buffer : GoSlice} {maxPackets : Int} {k offset t n : Nat}
    {st st₁ st' : IOState} {E₁ E₂ : List Effect} {r : Nat × Nat × Option GoError}
    (hk : k < maxPackets.toNat) (hmem : buffer.off + buffer.len ≤ st.mem.length)
    (body : BodyPost s buffer k offset t st st₁ E₁ (.next n))
    (post : LoopPost s buffer maxPackets (k + 1) (offset + n) st₁ st' E₂ r) :
    LoopPost s buffer maxPackets k offset st st' (E₁ ++ E₂) r := by
  obtain ⟨hn, hnpos, hcount₁⟩ := body.outcome
  have hfits := post.fits
  have hcalls₁ := body.calls
  have hcalls₂ : st'.calls ≤ st₁.calls + min (maxPackets.toNat - (k + 1))
      (buffer.len - (offset + n)) := by simpa using post.calls
  refine ⟨by rw [post.log, body.log, List.append_assoc], post.env.trans body.env, ?_,
    by simp; omega, ?_, (slicesOk_append _ _ _).2 ⟨body.slices, hn ▸ post.slices⟩, ?_⟩
  · rw [post.mem, body.mem, readBytes_append, ← writeAt_append (by omega), ← hn, Nat.add_assoc]
  · have hmin : min (maxPackets.toNat - (k + 1)) (buffer.len - (offset + n)) + 1 ≤
        min (maxPackets.toNat - k) (buffer.len - offset) := by
      rw [hn] at hfits ⊢; omega
    split_ifs at hcalls₁ ⊢ <;> omega
  · rcases post.result with ⟨h₁, h₂, h₃, h₄⟩ | ⟨h, _⟩
    · exact .inl ⟨h₁, by simp [h₂, hcount₁]; omega, h₃, by simp [h₄, hn]; omega⟩
    · exact absurd h (by omega)

theorem LoopPost.stop {s : SrtSocket} {buffer : GoSlice} {maxPackets : Int} {k offset t : Nat}
    {st st₁ : IOState} {E₁ : List Effect} (hk : k < maxPackets.toNat) (hoff : offset < buffer.len)
    (body : BodyPost s buffer k offset t st st₁ E₁ .stop) :
    LoopPost s buffer maxPackets k offset st st₁ E₁ (k, offset, none) := by
  obtain ⟨hrb, hcount₁⟩ := body.outcome
  have hcalls₁ := body.calls
  exact ⟨body.log, body.env, body.mem, by simp [hrb]; omega, by split_ifs at hcalls₁ ⊢ <;> omega,
    body.slices, .inl ⟨rfl, by simp [hcount₁], by omega, by simp [hrb]⟩⟩

theorem LoopPost.exit {s : SrtSocket} {buffer : GoSlice} {maxPackets : Int} {k offset p t : Nat}
    {err : Option GoError} {st st₁ : IOState} {E₁ : List Effect} (hk : k < maxPackets.toNat)
    (hoff : offset < buffer.len) (body : BodyPost s buffer k offset offset st st₁ E₁ (.exit p t err)) :
    LoopPost s buffer maxPackets k offset st st₁ E₁ (p, t, err) := by
  obtain ⟨hrb, hcount₁, hpos, hzero⟩ := body.outcome
  have hcalls₁ := body.calls
  refine ⟨body.log, body.env, body.mem, by simp [hrb]; omega, by split_ifs at hcalls₁ ⊢ <;> omega,
    body.slices, ?_⟩
  by_cases hk0 : k = 0
  · obtain ⟨rfl, rfl, e, rfl, hfail⟩ := hzero hk0
    exact .inr ⟨hk0, e, rfl, hcount₁, hfail⟩
  · obtain ⟨rfl, rfl, rfl⟩ := hpos (Nat.pos_of_ne_zero hk0)
    exact .inl ⟨rfl, by simp [hcount₁], by omega, by simp [hrb]⟩

/-- The run lemma of the loop: from any state whose engine never delivers more
    than it is asked for, the loop returns, with its post. -/
theorem readBatchLoop_spec (s : SrtSocket) (buffer : GoSlice) (maxPackets : Int) :
    ∀ fuel packetsRead offset (st : IOState), fuel + packetsRead = maxPackets.toNat →
      offset ≤ buffer.len → packetsRead ≤ offset → buffer.off + buffer.len ≤ st.mem.length →
      (∀ k len, (st.env.recv k len).bytes.length ≤ len) →
      ∃ r st' E,
        (s.readBatchLoop buffer maxPackets fuel packetsRead offset offset).run st = .ok (r, st') ∧
        LoopPost s buffer maxPackets packetsRead offset st st' E r := by
  intro fuel
  induction fuel with
  | zero =>
    intro k offset st hfuel hoff _ _ _
    exact ⟨_, _, [], rfl, .nil hoff (by omega)⟩
  | succ fuel ih =>
    intro k offset st hfuel hoff hk hmem hrecv
    simp only [SrtSocket.readBatchLoop]
    by_cases hc : (k : Int) < maxPackets ∧ offset < buffer.len
    · rw [if_pos hc]
      have hk' : k < maxPackets.toNat := by omega
      obtain ⟨ctl, st₁, E₁, hrun₁, body⟩ := readBatchBody_spec s buffer k offset offset st hc.2 hrecv
      simp only [GoM.run_bind, hrun₁]
      cases ctl with
      | next n =>
        obtain ⟨hn, hnpos, -⟩ := body.outcome
        have hfits := body.fits
        have hmem₁ : buffer.off + buffer.len ≤ st₁.mem.length := by
          rw [body.mem, length_writeAt (by omega)]; exact hmem
        obtain ⟨r, st', E₂, hrun₂, post⟩ :=
          ih (k + 1) (offset + n) st₁ (by omega) (by omega) (by omega) hmem₁ (body.env ▸ hrecv)
        exact ⟨r, st', E₁ ++ E₂, hrun₂, .next hk' hmem body post⟩
      | stop => exact ⟨_, _, E₁, rfl, .stop hk' hc.2 body⟩
      | exit p t err => exact ⟨_, _, E₁, rfl, .exit hk' hc.2 body⟩
    · rw [if_neg hc]
      exact ⟨_, _, [], rfl, .nil hoff (by omega)⟩

/-! ### Bounds and accounting of a whole batch -/

/-- Every run of `ReadBatch` against an engine that never delivers more than the
    slice it is given, on a slice of its backing buffer, returns. It calls the
    engine at most `min(maxPackets, len(buffer)) + 1` times, each time on the
    non-empty suffix that starts after the bytes delivered so far. It returns
    either the number of non-empty packets and their total size, the packets
    lying one after another at the start of the buffer, or `(0, 0, e)` for a
    batch that read nothing, `e` being the first receive's error, the wait's
    error, or the error of the one receive after the wait. -/
theorem readBatch_bounds_and_accounting (s : SrtSocket) (buffer : GoSlice) (maxPackets : Int)
    (st : IOState) (hrecv : ∀ k len, (st.env.recv k len).bytes.length ≤ len)
    (hslice : buffer.off + buffer.len ≤ st.mem.length) :
    ∃ r st' E, (s.readBatch buffer maxPackets).run st = .ok (r, st') ∧ st'.log = st.log ++ E ∧
      st'.calls ≤ st.calls + min maxPackets.toNat buffer.len + 1 ∧
      SlicesOk s.socket buffer 0 E ∧
      ((r.2.2 = none ∧ r.1 = readCount E ∧ r.1 ≤ maxPackets.toNat ∧
          r.2.1 = (readBytes E).length ∧ r.2.1 ≤ buffer.len ∧
          (st'.mem.drop buffer.off).take r.2.1 = readBytes E) ∨
        (∃ e, r = (0, 0, some e) ∧ readCount E = 0 ∧ BatchFailure s E e)) := by
  unfold SrtSocket.readBatch
  split
  · exact ⟨_, _, [], rfl, by simp, by omega, trivial,
      .inl ⟨rfl, rfl, Nat.zero_le _, rfl, Nat.zero_le _, by simp [readBytes]⟩⟩
  · obtain ⟨r, st', E, hrun, hlog, -, hmem, hlen, hcalls, hsl, hres⟩ :=
      readBatchLoop_spec s buffer maxPackets maxPackets.toNat 0 0 st (by simp) (Nat.zero_le _)
        le_rfl hslice hrecv
    refine ⟨r, st', E, hrun, hlog, by simpa using hcalls, hsl, ?_⟩
    rcases hres with ⟨h₁, h₂, h₃, h₄⟩ | ⟨-, hfail⟩
    · refine .inl ⟨h₁, by simpa using h₂, h₃, by simpa using h₄, by omega, ?_⟩
      rw [hmem, h₄, Nat.zero_add, Nat.add_zero]
      exact take_drop_writeAt (by omega)
    · exact .inr hfail

def twoByteEnv : Env := ⟨fun _ len => .received (List.replicate (min len 2) 1), fun _ _ => .sent 1,
  fun _ => none⟩

theorem readBatch_bounds_and_accounting_two_bytes :
    (∀ k len, (twoByteEnv.recv k len).bytes.length ≤ len) ∧ 0 + 5 ≤ [0, 0, 0, 0, 0].length ∧
    ∃ r st' E, ((⟨7, false, ⟨1, 7⟩⟩ : SrtSocket).readBatch ⟨0, 5⟩ 4).run
        ⟨twoByteEnv, [0, 0, 0, 0, 0], 0, 0, []⟩ = .ok (r, st') ∧ st'.log = [] ++ E ∧
      st'.calls ≤ 0 + min (4 : Int).toNat 5 + 1 ∧
      SlicesOk 7 ⟨0, 5⟩ 0 E ∧
      ((r.2.2 = none ∧ r.1 = readCount E ∧ r.1 ≤ (4 : Int).toNat ∧
          r.2.1 = (readBytes E).length ∧ r.2.1 ≤ 5 ∧
          (st'.mem.drop 0).take r.2.1 = readBytes E) ∨
        (∃ e, r = (0, 0, some e) ∧ readCount E = 0 ∧ BatchFailure ⟨7, false, ⟨1, 7⟩⟩ E e)) :=
  have hrecv : ∀ k len, (twoByteEnv.recv k len).bytes.length ≤ len := fun _ _ =>
    (List.length_replicate _ _).trans_le (Nat.min_le_left _ _)
  ⟨hrecv, by decide, readBatch_bounds_and_accounting _ ⟨0, 5⟩ 4 ⟨twoByteEnv, _, 0, 0, []⟩ hrecv
    (by decide)⟩

example : Except.map (fun r => (r.1, r.2.mem))
    (((⟨7, false, ⟨1, 7⟩⟩ : SrtSocket).readBatch ⟨0, 5⟩ 4).run
      ⟨twoByteEnv, [0, 0, 0, 0, 0], 0, 0, []⟩) = .ok ((3, 5, none), [1, 1, 1, 1, 1]) := rfl

/-! ### When a batch waits -/

/-- No `pd.wait` of the log comes after a receive that delivered bytes. -/
def WaitsFirst : List Effect → Prop
  | [] => True
  | .recv _ _ _ r :: E => if r.bytes = [] then WaitsFirst E else ∀ e ∈ E, e.isWait = false
  | _ :: E => WaitsFirst E

theorem waitsFirst_of_noWait : ∀ {E : List Effect}, (∀ e ∈ E, e.isWait = false) → WaitsFirst E
  | [], _ => trivial
  | .recv .. :: E, h => by
    simp only [WaitsFirst]; split
    · exact waitsFirst_of_noWait fun e he => h e (.tail _ he)
    · exact fun e he => h e (.tail _ he)
  | .send .. :: E, h | .reset .. :: E, h | .wait .. :: E, h =>
    waitsFirst_of_noWait (E := E) fun e he => h e (.tail _ he)

theorem WaitsFirst.append {F : List Effect} (hF : ∀ e ∈ F, e.isWait = false) :
    ∀ {E : List Effect}, WaitsFirst E → WaitsFirst (E ++ F)
  | [], _ => waitsFirst_of_noWait hF
  | .recv _ _ _ r :: E, h => by
    simp only [WaitsFirst, List.cons_append] at h ⊢
    by_cases hr : r.bytes = []
    · simp only [hr, if_true] at h ⊢
      exact WaitsFirst.append hF h
    · simp only [hr, if_false] at h ⊢
      intro e he
      rcases List.mem_append.mp he with he | he
      · exact h e he
      · exact hF e he
  | .send .. :: E, h | .reset .. :: E, h | .wait .. :: E, h => WaitsFirst.append hF (E := E) h

/-- Where a pass or a run of the loop from `packetsRead` packets may wait: only
    at the first packet of a non-blocking socket, at most once, and before any
    byte arrives. -/
structure Waits (s : SrtSocket) (packetsRead : Nat) (E : List Effect) : Prop where
  none_after : (0 < packetsRead ∨ s.blocking = true) → ∀ e ∈ E, e.isWait = false
  at_most_one : (E.filter Effect.isWait).length ≤ 1
  first : WaitsFirst E

theorem Waits.nil (s : SrtSocket) (packetsRead : Nat) : Waits s packetsRead [] :=
  ⟨fun _ _ h => (by cases h), by simp, trivial⟩

theorem Waits.of_noWait {s : SrtSocket} {packetsRead : Nat} {E : List Effect}
    (h : ∀ e ∈ E, e.isWait = false) : Waits s packetsRead E :=
  ⟨fun _ => h, by simp [List.filter_eq_nil_iff.mpr (by simpa using h)], waitsFirst_of_noWait h⟩

theorem Waits.append {s : SrtSocket} {packetsRead : Nat} {E F : List Effect}
    (hE : Waits s packetsRead E) (hF : ∀ e ∈ F, e.isWait = false) : Waits s packetsRead (E ++ F) :=
  ⟨fun h e he => (List.mem_append.mp he).elim (hE.none_after h e) (hF e),
    by simp [List.filter_eq_nil_iff.mpr (by simpa using hF), hE.at_most_one],
    hE.first.append hF⟩

theorem Waits.afterWait {s : SrtSocket} {packetsRead : Nat} (hp : packetsRead = 0)
    (hbl : s.blocking = false) {u : SRTSOCKET} {off len : Nat} {srterr syserr : Int}
    {pd pd' : PollDesc} {mode mode' : PollMode} {ans : Option WaitError} {F : List Effect}
    (hF : ∀ e ∈ F, e.isWait = false) :
    Waits s packetsRead (.recv u off len (.failed srterr syserr) :: .reset pd mode ::
      .wait pd' mode' ans :: F) :=
  ⟨by simp [hp, hbl], by simp [Effect.isWait, List.filter_eq_nil_iff.mpr (by simpa using hF)],
    by simpa [WaitsFirst, RecvRet.bytes] using waitsFirst_of_noWait hF⟩

theorem readBatchBody_waits (s : SrtSocket) (buffer : GoSlice) (packetsRead offset totalBytes : Nat)
    (st : IOState) (hoff : offset < buffer.len) :
    ∃ ctl st' E, (s.readBatchBody buffer packetsRead offset totalBytes).run st = .ok (ctl, st') ∧
      st'.log = st.log ++ E ∧ Waits s packetsRead E := by
  obtain ⟨ctl, st', E, k, hrun, hpath, hlog, -⟩ :=
    readBatchBody_path s buffer packetsRead offset totalBytes st hoff
  refine ⟨ctl, st', E, hrun, hlog, ?_⟩
  generalize st.env.recv st.calls (buffer.len - offset) = r₁ at hpath
  cases hpath with
  | delivered | failed => exact .of_noWait (by simp [Effect.isWait])
  | waitFailed h hp hbl => subst h; exact .afterWait hp hbl nofun
  | retried h hp hbl => subst h; exact .afterWait hp hbl (by simp [Effect.isWait])

theorem readBatchLoop_waits (s : SrtSocket) (buffer : GoSlice) (maxPackets : Int) :
    ∀ fuel packetsRead offset totalBytes (st : IOState), ∃ r st' E,
      (s.readBatchLoop buffer maxPackets fuel packetsRead offset totalBytes).run st = .ok (r, st') ∧
      st'.log = st.log ++ E ∧ Waits s packetsRead E := by
  intro fuel
  induction fuel with
  | zero => exact fun _ _ _ st => ⟨_, st, [], rfl, by simp, .nil _ _⟩
  | succ fuel ih =>
    intro k offset t st
    simp only [SrtSocket.readBatchLoop]
    split
    · next hc =>
      obtain ⟨ctl, st₁, E₁, hrun₁, hlog₁, hw₁⟩ := readBatchBody_waits s buffer k offset t st hc.2
      simp only [GoM.run_bind, hrun₁]
      cases ctl with
      | next n =>
        -- the passes after the first packet never wait
        obtain ⟨r, st', E₂, hrun₂, hlog₂, hw₂⟩ := ih (k + 1) (offset + n) (t + n) st₁
        exact ⟨r, st', E₁ ++ E₂, hrun₂, by rw [hlog₂, hlog₁, List.append_assoc],
          hw₁.append (hw₂.none_after (.inl k.succ_pos))⟩
      | stop => exact ⟨_, _, E₁, rfl, hlog₁, hw₁⟩
      | exit p t' err => exact ⟨_, _, E₁, rfl, hlog₁, hw₁⟩
    · exact ⟨_, st, [], rfl, by simp, .nil _ _⟩

/-- `ReadBatch` blocks in `pd.wait` only on a non-blocking socket, at most once,
    and never after a packet has arrived: for every socket, buffer, packet limit
    and engine, it returns, and among the outside calls it made, a blocking
    socket made no wait, there is at most one wait, and no wait comes after a
    receive that delivered bytes. -/
theorem readBatch_waits_once_before_data (s : SrtSocket) (buffer : GoSlice) (maxPackets : Int)
    (st : IOState) :
    ∃ r st' E, (s.readBatch buffer maxPackets).run st = .ok (r, st') ∧ st'.log = st.log ++ E ∧
      (s.blocking = true → ∀ e ∈ E, e.isWait = false) ∧
      (E.filter Effect.isWait).length ≤ 1 ∧ WaitsFirst E := by
  unfold SrtSocket.readBatch
  split
  · exact ⟨_, st, [], rfl, by simp, nofun, by simp, trivial⟩
  · obtain ⟨r, st', E, hrun, hlog, hw⟩ := readBatchLoop_waits s buffer maxPackets maxPackets.toNat 0 0 0 st
    exact ⟨r, st', E, hrun, hlog, fun hb => hw.none_after (.inr hb), hw.at_most_one, hw.first⟩

/-! ### One packet is `Read` -/

/-- The result `ReadBatch` reports for the pair `Read` returns: one packet of
    `n` bytes, none for an empty packet, and `(0, 0, err)` for an error. -/
def batchOfRead : Nat × Option GoError → Nat × Nat × Option GoError
  | (n, none) => (if n = 0 then 0 else 1, n, none)
  | (_, some e) => (0, 0, some e)

theorem readBatchBody_first (s : SrtSocket) (b : GoSlice) (st : IOState) :
    (s.readBatchBody b 0 0 0).run st =
      ((s.read b).run st).map fun r =>
        (match r.1.2 with
         | none => if r.1.1 = 0 then .stop else .next r.1.1
         | some e => .exit 0 0 (some e), r.2) := by
  have hslice : (⟨b.off + 0, b.len - 0⟩ : GoSlice) = b := by cases b; simp
  simp only [SrtSocket.readBatchBody, SrtSocket.read, retryOnce, GoM.run_bind,
    GoSlice.sliceFrom_of_le (Nat.zero_le b.len), GoM.run_pure, hslice]
  rcases (srtRecvMsg2Impl s.socket b).run st with p | ⟨⟨n, err⟩, st₁⟩
  · rfl
  · dsimp only
    cases err with
    | none => rfl
    | some e =>
      simp only [decide_True, Bool.true_and]
      by_cases hw : (!s.blocking && errorsIs (some e) EAsyncRCV) = true
      · -- the would-block answer of a non-blocking socket: both reset, wait and retry
        obtain ⟨hb, he⟩ : s.blocking = false ∧ errorsIs (some e) EAsyncRCV = true := by
          simpa using hw
        simp only [hb, he, Option.isNone_some, Bool.and_self, Bool.not_false, Bool.not_true,
          Bool.or_false, Bool.false_or, Bool.false_eq_true, if_true, if_false, GoM.run_bind,
          GoM.run_pure, run_pdReset, run_pdWait]
        cases st₁.env.wait st₁.waits with
        | some we => rfl
        | none =>
          simp only [GoM.run_bind, GoM.run_pure]
          rcases (srtRecvMsg2Impl s.socket b).run _ with p | ⟨⟨n₂, err₂⟩, st₂⟩
          · rfl
          · cases err₂ <;> rfl
      · -- any other answer ends both calls with it
        have hr : (s.blocking || !errorsIs (some e) EAsyncRCV) = true := by
          cases hb : s.blocking <;> simp_all
        simp only [hw, Option.isNone_some, Bool.false_or, hr, if_true, Bool.false_eq_true,
          if_false, GoM.run_pure]
        rfl

/-- `ReadBatch(buffer, 1)` on a non-empty buffer is `Read(buffer)`: for every
    socket, every engine and every wait outcome it makes the same outside calls
    in the same order, stores the same bytes, and reports `Read`'s pair as one
    packet, an empty batch, or `(0, 0, err)`; a panic of one is a panic of the
    other. -/
theorem readBatch_one_eq_read (s : SrtSocket) {b : GoSlice} (hb : b.len ≠ 0) (st : IOState) :
    (s.readBatch b 1).run st = ((s.read b).run st).map fun r => (batchOfRead r.1, r.2) := by
  have hpass : ((0 : Nat) : Int) < 1 ∧ 0 < b.len := ⟨by decide, Nat.pos_of_ne_zero hb⟩
  simp only [SrtSocket.readBatch, show ¬((1 : Int) ≤ 0 ∨ b.len = 0) by omega, if_false,
    show (1 : Int).toNat = 1 from rfl, SrtSocket.readBatchLoop, if_pos hpass, GoM.run_bind,
    readBatchBody_first]
  rcases (s.read b).run st with p | ⟨⟨n, err⟩, st₁⟩
  · rfl
  · cases err with
    | none => by_cases hn : n = 0 <;> simp [hn, batchOfRead, Except.map, SrtSocket.readBatchLoop]
    | some e => rfl

theorem readBatch_one_eq_read_two_bytes :
    (⟨0, 5⟩ : GoSlice).len ≠ 0 ∧
    ((⟨7, false, ⟨1, 7⟩⟩ : SrtSocket).readBatch ⟨0, 5⟩ 1).run
        ⟨twoByteEnv, [0, 0, 0, 0, 0], 0, 0, []⟩ =
      (((⟨7, false, ⟨1, 7⟩⟩ : SrtSocket).read ⟨0, 5⟩).run
        ⟨twoByteEnv, [0, 0, 0, 0, 0], 0, 0, []⟩).map fun r => (batchOfRead r.1, r.2) :=
  ⟨by decide, readBatch_one_eq_read _ (by decide) _⟩

/-! ### The empty buffer -/

/-- `ReadBatch` checks `len(buffer) == 0` before its first receive and returns
    `(0, 0, nil)`; `Read` and `Write` have no such check, and `&buf[0]` panics. -/
theorem read_write_panic_where_readBatch_returns (s : SrtSocket) (off : Nat) (maxPackets : Int)
    (st : IOState) :
    (s.readBatch ⟨off, 0⟩ maxPackets).run st = .ok ((0, 0, none), st) ∧
    (s.read ⟨off, 0⟩).run st = .error (.indexOutOfRange 0 0) ∧
    (s.write ⟨off, 0⟩).run st = .error (.indexOutOfRange 0 0) :=
  ⟨by simp [SrtSocket.readBatch], retryOnce_run_of_error (srtRecvMsg2Impl_run_empty _ _ _ rfl) ..,
    retryOnce_run_of_error (srtSendMsg2Impl_run_empty _ _ _ rfl) ..⟩

end SrtGo