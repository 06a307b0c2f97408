import SrtGo.Dispatch

/-!
# Wakeups of a blocked call against the dispatch loop

`Read`, `Write` and `ReadBatch` before its first packet block the same way on a
non-blocking socket: they try the engine once, and on the would-block error
reset their direction of the poll descriptor and wait on it, then try once
more. A `Direction` is what the source passes for each (the poll mode, the
would-block code of the primitive, and the engine's readiness flag for that
direction), as `retryOnce` takes them. Meanwhile the engine reports readiness
edges to the shared epoll context, and the dispatch loop polls them and
unblocks the descriptor with the calls of `eventUnblocks`. Every party moves
one atomic step at a time, in any order; `World` is the state of all three for
one socket, and `step` the move of one party.

The poll descriptor is modelled from section 4.3 of the spec (`poll.go` is
not under src/): `reset` clears the direction's flags, `wait` returns at once
when a flag is set and otherwise parks the caller, and `unblock` sets the
flags and releases a parked caller. The engine reports an edge, as the spec
reads epoll: one event when the socket becomes ready or breaks, and nothing
more while it stays so.

The caller resets its direction after its failed fast path, so an unblock that
lands between the two is erased: `misses_unblock_before_reset` reaches a state
where the caller is parked although the socket became ready and this was
signalled after its failed attempt, and no later step short of the socket
breaking wakes it. It holds in both directions: for `Read`
(`read_misses_unblock_before_reset`) and for `Write`
(`write_misses_unblock_before_reset`). An unblock that lands after the reset is
never lost (`read_wait_sees_every_unblock_after_reset`), and a parked caller
whose socket breaks is released once the dispatcher has handled the error edge
(`parked_read_woken_by_failure`).
-/

namespace SrtGo.Wakeup

/-- `SRT_ECONNLOST` of srt.h: the engine's answer to a call on a broken
    connection. -/
def SRT_ECONNLOST : SRTErrno := ⟨2001⟩

/-- The direction a call blocks in, with the values the source passes for it:
    the poll mode, the would-block code of its primitive, and the engine's flag
    for its readiness. -/
structure Direction where
  mode : PollMode
  wouldBlock : SRTErrno
  edge : BitVec 32
deriving DecidableEq, Repr

/-- `Read`, and `ReadBatch` before its first packet. -/
def Direction.read : Direction := ⟨.ModeRead, EAsyncRCV, SRT_EPOLL_IN⟩

/-- `Write`. -/
def Direction.write : Direction := ⟨.ModeWrite, EAsyncSND, SRT_EPOLL_OUT⟩

/-- Modelled from the spec: one direction of a `pollDesc` (section 4.3). -/
structure PollDescDir where
  ready : Bool
  error : Bool
deriving DecidableEq, Repr

/-- `reset(direction)`: clear the ready and error flags. -/
def PollDescDir.reset (_ : PollDescDir) : PollDescDir := ⟨false, false⟩

/-- The flags after `unblock(direction, isError, isReady)`. -/
def PollDescDir.unblock (d : PollDescDir) (isError isReady : Bool) : PollDescDir :=
  ⟨d.ready || isReady, d.error || isError⟩

/-- What a `wait` that finds or is woken by these flags returns: `nil` on ready,
    the fatal wait error on error. -/
def PollDescDir.waitResult (d : PollDescDir) : Option (Option GoError) :=
  if d.ready then some none else if d.error then some (some (.wait .fatal)) else none

/-- Where the blocked call is. -/
inductive CallerPc where
  /-- before the fast-path attempt -/
  | fastPath
  /-- the fast path returned the would-block error; next `s.pd.reset(mode)` -/
  | wouldBlock
  /-- after the reset; next `s.pd.wait(mode)` -/
  | reset
  /-- blocked inside `wait` -/
  | parked
  /-- `wait` returned nil; next the second attempt -/
  | retry
  /-- returned, with this error -/
  | done (err : Option GoError)
deriving DecidableEq, Repr

/-- The caller, its direction of the descriptor, the engine's view of the
    socket (ready in the caller's direction, broken), the dispatcher's pending
    work, and three ghost flags: the fast path failed; an unblock of the
    direction arrived after that; one arrived after the reset. -/
structure World where
  caller : CallerPc
  pd : PollDescDir
  ready : Bool
  broken : Bool
  queued : List (BitVec 32)
  batch : List (BitVec 32)
  failed : Bool
  late : Bool
  sinceReset : Bool
deriving DecidableEq, Repr

/-- A fresh call on an idle socket. -/
def World.init : World := ⟨.fastPath, ⟨false, false⟩, false, false, [], [], false, false, false⟩

inductive Action where
  /-- the caller's next step -/
  | caller
  /-- the socket becomes ready in the caller's direction: data arrives, or
      room to send -/
  | arrive
  /-- the socket breaks -/
  | fail
  /-- the dispatcher's `srt_epoll_uwait` returns -/
  | poll
  /-- the dispatcher handles the next event of its batch -/
  | dispatch
deriving DecidableEq, Repr

/-! ### One step of each party -/

namespace World

variable (d : Direction)

/-- One attempt of the primitive against the engine: the connection error on a
    broken socket, success when the socket is ready, and otherwise `next`,
    where the would-block answer leads. -/
def attempt (w next : World) : World :=
  if w.broken then { w with caller := .done (some (.srt SRT_ECONNLOST)) }
  else if w.ready then { w with caller := .done none, ready := false }
  else next

/-- The caller's next step on a non-blocking socket. -/
def callerStep (w : World) : World :=
  match w.caller with
  | .fastPath => w.attempt { w with caller := .wouldBlock, failed := true }
  | .wouldBlock => { w with caller := .reset, pd := w.pd.reset, sinceReset := false }
  | .reset =>
    match w.pd.waitResult with
    | some err => { w with caller := match err with | none => .retry | some e => .done (some e) }
    | none => { w with caller := .parked }
  | .parked => w
  | .retry => w.attempt { w with caller := .done (some (.srt d.wouldBlock)) }
  | .done _ => w

/-- Deliver one `pd.unblock` call; only the caller's direction concerns it. A
    parked caller is released and its `wait` returns what the flags say. -/
def applyUnblock (w : World) (u : Unblock) : World :=
  if u.mode = d.mode then
    let w' := { w with
      pd := w.pd.unblock u.isError u.isReady
      late := w.late || w.failed
      sinceReset := w.sinceReset || decide (w.caller = .reset) || decide (w.caller = .parked) }
    if w.caller = .parked then
      match w'.pd.waitResult with
      | some err => { w' with caller := match err with | none => .retry | some e => .done (some e) }
      | none => w'
    else w'
  else w

end World

variable (d : Direction) (pd : PollDesc)

/-- One step of the system. The engine reports an edge when the socket becomes
    ready or broken, and nothing while it stays so; the dispatcher runs the
    unblocks `processEvents` makes for the socket's registered descriptor. -/
def step (w : World) : Action → World
  | .caller => w.callerStep d
  | .arrive =>
    if w.ready then w else { w with ready := true, queued := w.queued ++ [d.edge] }
  | .fail =>
    if w.broken then w else { w with broken := true, queued := w.queued ++ [SRT_EPOLL_ERR] }
  | .poll => { w with batch := w.batch ++ w.queued, queued := [] }
  | .dispatch =>
    match w.batch with
    | [] => w
    | eventFlags :: rest => (eventUnblocks pd eventFlags).foldl (World.applyUnblock d)
        { w with batch := rest }

def run (w : World) (acts : List Action) : World := acts.foldl (step d pd) w

@[simp] theorem run_nil (w : World) : run d pd w [] = w := rfl

@[simp] theorem run_cons (w : World) (a : Action) (acts : List Action) :
    run d pd w (a :: acts) = run d pd (step d pd w a) acts := rfl

/-! ### An unblock before the reset is lost -/

/-- The caller is parked on a ready socket with nothing left to dispatch. -/
def Stuck (w : World) : Prop :=
  w.caller = .parked ∧ w.ready = true ∧ w.queued = [] ∧ w.batch = []

theorem Stuck.step {w : World} (h : Stuck w) {a : Action} (ha : a ≠ .fail) :
    Stuck (step d pd w a) := by
  obtain ⟨hc, hr, hq, hb⟩ := h
  cases a with
  | caller => simpa only [SrtGo.Wakeup.step, World.callerStep, hc] using ⟨hc, hr, hq, hb⟩
  | arrive => simpa only [SrtGo.Wakeup.step, hr, if_true] using ⟨hc, hr, hq, hb⟩
  | fail => exact absurd rfl ha
  | poll => exact ⟨hc, hr, rfl, by simp [SrtGo.Wakeup.step, hb, hq]⟩
  | dispatch => simpa only [SrtGo.Wakeup.step, hb] using ⟨hc, hr, hq, hb⟩

theorem Stuck.run {w : World} (h : Stuck w) {acts : List Action} (hacts : Action.fail ∉ acts) :
    Stuck (run d pd w acts) := by
  induction acts generalizing w with
  | nil => exact h
  | cons a acts ih =>
    rw [List.mem_cons, not_or] at hacts
    exact ih (h.step d pd (Ne.symm hacts.1)) hacts.2

/-- The schedule of the lost wakeup: the fast path fails, the socket becomes
    ready, the dispatcher polls and delivers the edge, then the caller resets
    and waits. -/
def lostWakeup : List Action := [.caller, .arrive, .poll, .dispatch, .caller, .caller]

theorem run_lostWakeup (hd : d = .read ∨ d = .write) :
    run d pd World.init lostWakeup =
      ⟨.parked, ⟨false, false⟩, true, false, [], [], true, true, false⟩ := by
  rcases hd with rfl | rfl <;> rfl

/-- After `lostWakeup`, in either direction, the caller is parked although an
    unblock of its direction was delivered after its failed fast path. It
    stays parked on a ready socket in every schedule in which the socket does
    not break: the engine reports readiness only on the edge, so while the
    socket stays ready no new event comes. -/
theorem misses_unblock_before_reset (hd : d = .read ∨ d = .write) :
    (run d pd World.init lostWakeup).caller = .parked ∧
    (run d pd World.init lostWakeup).late = true ∧
    ∀ acts, Action.fail ∉ acts →
      (run d pd (run d pd World.init lostWakeup) acts).caller = .parked ∧
      (run d pd (run d pd World.init lostWakeup) acts).ready = true := by
  rw [run_lostWakeup d pd hd]
  refine ⟨rfl, rfl, fun acts hacts => ?_⟩
  have h := Stuck.run d pd
    (show Stuck ⟨.parked, ⟨false, false⟩, true, false, [], [], true, true, false⟩ from
      ⟨rfl, rfl, rfl, rfl⟩) hacts
  exact ⟨h.1, h.2.1⟩

/-- `Read` loses the wakeup: after `lostWakeup` the caller is parked although
    data arrived and its readable edge was delivered after the failed fast
    path, and from there no schedule in which the socket does not break ever
    wakes it, with the data still waiting. Nothing else wakes it because the
    engine reports readability only on the edge (the spec's reading of epoll):
    while the data stays queued, no new readable event comes. -/
theorem read_misses_unblock_before_reset :
    (run .read pd World.init lostWakeup).caller = .parked ∧
    (run .read pd World.init lostWakeup).late = true ∧
    ∀ acts, Action.fail ∉ acts →
      (run .read pd (run .read pd World.init lostWakeup) acts).caller = .parked ∧
      (run .read pd (run .read pd World.init lostWakeup) acts).ready = true :=
  misses_unblock_before_reset .read pd (.inl rfl)

/-- `Write` has the same window: after `lostWakeup` in the write direction the
    caller is parked although room to send appeared and its writable edge was
    delivered after the failed fast path, and no schedule in which the socket
    does not break wakes it while the socket stays writable. -/
theorem write_misses_unblock_before_reset :
    (run .write pd World.init lostWakeup).caller = .parked ∧
    (run .write pd World.init lostWakeup).late = true ∧
    ∀ acts, Action.fail ∉ acts →
      (run .write pd (run .write pd World.init lostWakeup) acts).caller = .parked ∧
      (run .write pd (run .write pd World.init lostWakeup) acts).ready = true :=
  misses_unblock_before_reset .write pd (.inr rfl)

/-! ### An unblock after the reset is never lost -/

/-- After the reset, a delivered unblock leaves a flag set until the wait, and a
    parked caller has had no unblock since its reset. -/
def ResetInv (w : World) : Prop :=
  (w.caller = .reset → w.sinceReset = true → w.pd.ready = true ∨ w.pd.error = true) ∧
  (w.caller = .parked → w.sinceReset = false)

theorem waitResult_isSome {p : PollDescDir} (h : p.ready = true ∨ p.error = true) :
    p.waitResult.isSome := by
  rcases p with ⟨_ | _, _ | _⟩ <;> simp_all [PollDescDir.waitResult]

theorem ResetInv.of_caller {w : World} (h₁ : w.caller ≠ .reset) (h₂ : w.caller ≠ .parked) :
    ResetInv w :=
  ⟨fun h => absurd h h₁, fun h => absurd h h₂⟩

theorem ResetInv.attempt {w next : World} (hnext : ResetInv next) :
    ResetInv (w.attempt next) := by
  unfold World.attempt
  split
  · exact .of_caller nofun nofun
  · split
    · exact .of_caller nofun nofun
    · exact hnext

theorem ResetInv.of_waitResult {w : World} {err : Option GoError}
    (h : w.caller = match err with | none => .retry | some e => .done (some e)) : ResetInv w := by
  cases err <;> exact .of_caller (by simp [h]) (by simp [h])

theorem ResetInv.callerStep {w : World} (hw : ResetInv w) : ResetInv (w.callerStep d) := by
  unfold World.callerStep
  split
  · exact ResetInv.attempt (.of_caller nofun nofun)
  · exact ⟨fun _ h => (nomatch h), nofun⟩
  · rename_i hc
    split
    · exact .of_waitResult rfl
    · rename_i hnone
      refine ⟨nofun, fun _ => ?_⟩
      by_contra hs
      have := waitResult_isSome (hw.1 hc (by simpa using hs))
      simp_all
  · exact hw
  · exact ResetInv.attempt (.of_caller nofun nofun)
  · exact hw

theorem ResetInv.applyUnblock {w : World} (hw : ResetInv w) {u : Unblock}
    (hu : u.isError = true ∨ u.isReady = true) : ResetInv (w.applyUnblock d u) := by
  unfold World.applyUnblock
  split
  · have hflag : (w.pd.unblock u.isError u.isReady).ready = true ∨
        (w.pd.unblock u.isError u.isReady).error = true := by
      rcases hu with h | h <;> simp [PollDescDir.unblock, h]
    split
    · obtain ⟨err, herr⟩ := Option.isSome_iff_exists.mp (waitResult_isSome hflag)
      simp only [herr]
      exact .of_waitResult rfl
    · exact ⟨fun _ _ => hflag, fun h => by contradiction⟩
  · exact hw

theorem ResetInv.foldl_applyUnblock {us : List Unblock}
    (hus : ∀ u ∈ us, u.isError = true ∨ u.isReady = true) :
    ∀ {w : World}, ResetInv w → ResetInv (us.foldl (World.applyUnblock d) w) := by
  induction us with
  | nil => exact fun hw => hw
  | cons u us ih =>
    exact fun hw => ih (fun u' hu' => hus u' (List.mem_cons_of_mem _ hu'))
      (hw.applyUnblock d (hus u (List.mem_cons_self _ _)))

theorem ResetInv.step {w : World} (hw : ResetInv w) (a : Action) : ResetInv (step d pd w a) := by
  cases a with
  | caller => exact hw.callerStep d
  | arrive => simp only [SrtGo.Wakeup.step]; split <;> exact hw
  | fail => simp only [SrtGo.Wakeup.step]; split <;> exact hw
  | poll => exact hw
  | dispatch =>
    simp only [SrtGo.Wakeup.step]
    split
    · exact hw
    · exact ResetInv.foldl_applyUnblock d (fun u hu => (mem_eventUnblocks hu).2) hw

theorem ResetInv.run {w : World} (hw : ResetInv w) (acts : List Action) :
    ResetInv (run d pd w acts) := by
  induction acts generalizing w with
  | nil => exact hw
  | cons a acts ih => exact ih (hw.step d pd a)

/-- In every schedule, a `Read` parked in `wait` has seen no unblock of its
    direction since its reset: the wait misses nothing delivered after the
    reset, only what lands between the fast path and the reset. -/
theorem read_wait_sees_every_unblock_after_reset (acts : List Action) :
    (run .read pd World.init acts).caller = .parked →
      (run .read pd World.init acts).sinceReset = false :=
  (ResetInv.run .read pd (.of_caller (by decide) (by decide)) acts).2

theorem read_wait_sees_every_unblock_after_reset_lost_wakeup :
    (run .read ⟨1, 7⟩ World.init lostWakeup).caller = .parked ∧
    (run .read ⟨1, 7⟩ World.init lostWakeup).sinceReset = false :=
  ⟨rfl, read_wait_sees_every_unblock_after_reset ⟨1, 7⟩ _ rfl⟩

/-! ### A failure releases a parked caller -/

/-- A caller that `wait` has released: to the retry, or with the fatal wait error. -/
def Woken (w : World) : Prop := w.caller = .retry ∨ w.caller = .done (some (.wait .fatal))

instance (w : World) : Decidable (Woken w) := inferInstanceAs (Decidable (_ ∨ _))

/-- The dispatcher handles every event of its current batch. -/
def dispatchAll (w : World) : World := run d pd w (List.replicate w.batch.length .dispatch)

theorem applyUnblock_batch (w : World) (u : Unblock) : (w.applyUnblock d u).batch = w.batch := by
  unfold World.applyUnblock
  split_ifs
  · dsimp only; split <;> rfl
  all_goals rfl

theorem applyUnblock_caller_of_ne {w : World} (h : w.caller ≠ .parked) (u : Unblock) :
    (w.applyUnblock d u).caller = w.caller := by
  unfold World.applyUnblock
  split_ifs <;> rfl

theorem Woken.applyUnblock {w : World} (h : Woken w) (u : Unblock) :
    Woken (w.applyUnblock d u) := by
  have hne : w.caller ≠ .parked := by rcases h with h | h <;> rw [h] <;> nofun
  unfold Woken
  rw [applyUnblock_caller_of_ne d hne]
  exact h

theorem applyUnblock_of_parked {w : World} (h : w.caller = .parked) (u : Unblock) :
    (w.applyUnblock d u).caller = .parked ∨ Woken (w.applyUnblock d u) := by
  simp only [World.applyUnblock, PollDescDir.waitResult]
  split_ifs <;> simp [Woken, h]

theorem woken_applyUnblock_error {w : World} (h : w.caller = .parked) (pd' : PollDesc) :
    Woken (w.applyUnblock d ⟨pd', d.mode, true, false⟩) := by
  simp only [World.applyUnblock, h, if_true, PollDescDir.unblock, Bool.or_true,
    PollDescDir.waitResult]
  split_ifs <;> simp [Woken]

theorem foldl_applyUnblock_batch (us : List Unblock) (w : World) :
    (us.foldl (World.applyUnblock d) w).batch = w.batch := by
  induction us generalizing w with
  | nil => rfl
  | cons u us ih => rw [List.foldl_cons, ih, applyUnblock_batch]

theorem Woken.foldl_applyUnblock (us : List Unblock) {w : World} (h : Woken w) :
    Woken (us.foldl (World.applyUnblock d) w) := by
  induction us generalizing w with
  | nil => exact h
  | cons u us ih => exact ih (h.applyUnblock d u)

theorem foldl_applyUnblock_of_parked (us : List Unblock) {w : World}
    (h : w.caller = .parked ∨ Woken w) :
    (us.foldl (World.applyUnblock d) w).caller = .parked ∨
      Woken (us.foldl (World.applyUnblock d) w) := by
  induction us generalizing w with
  | nil => exact h
  | cons u us ih =>
    rcases h with h | h
    · exact ih (applyUnblock_of_parked d h u)
    · exact .inr ((h.applyUnblock d u).foldl_applyUnblock d us)

theorem woken_foldl_applyUnblock_error {pd' : PollDesc} :
    ∀ {us : List Unblock}, (⟨pd', d.mode, true, false⟩ : Unblock) ∈ us → ∀ {w : World},
      (w.caller = .parked ∨ Woken w) → Woken (us.foldl (World.applyUnblock d) w)
  | u :: us, hm, w, h => by
    rw [List.foldl_cons]
    rcases List.mem_cons.mp hm with rfl | hm
    · rcases h with h | h
      · exact (woken_applyUnblock_error d h pd').foldl_applyUnblock d us
      · exact (h.applyUnblock d _).foldl_applyUnblock d us
    · exact woken_foldl_applyUnblock_error hm (h.elim (applyUnblock_of_parked d · u)
        fun h => .inr (h.applyUnblock d u))

theorem mem_eventUnblocks_err (pd : PollDesc) (mode : PollMode) :
    (⟨pd, mode, true, false⟩ : Unblock) ∈ eventUnblocks pd SRT_EPOLL_ERR := by
  have herr : (SRT_EPOLL_ERR &&& SRT_EPOLL_ERR != 0) = true := by decide
  rw [eventUnblocks, if_pos herr]
  cases mode <;> simp

theorem woken_run_dispatch : ∀ (B : List (BitVec 32)) (w : World), w.batch = B →
    (Woken w ∨ (w.caller = .parked ∧ SRT_EPOLL_ERR ∈ B)) →
    Woken (run d pd w (List.replicate B.length .dispatch))
  | [], _, _, h => h.resolve_right fun ⟨_, hm⟩ => nomatch hm
  | f :: B, w, hb, h => by
    have hstep : step d pd w .dispatch =
        (eventUnblocks pd f).foldl (World.applyUnblock d) { w with batch := B } := by
      simp only [SrtGo.Wakeup.step, hb]
    rw [List.length_cons, List.replicate_succ, run_cons, hstep]
    refine woken_run_dispatch B _ (by rw [foldl_applyUnblock_batch]) ?_
    rcases h with h | ⟨hp, hm⟩
    · exact .inl (Woken.foldl_applyUnblock d _ h)
    · rcases List.mem_cons.mp hm with rfl | hm
      · exact .inl (woken_foldl_applyUnblock_error d (mem_eventUnblocks_err pd d.mode) (.inl hp))
      · rcases foldl_applyUnblock_of_parked d (eventUnblocks pd f)
          (w := { w with batch := B }) (.inl hp) with hp' | hw
        · exact .inr ⟨hp', hm⟩
        · exact .inl hw

/-- A `Read` parked in `wait` on a socket that then breaks is released, by the
    error event or by readiness delivered before it, once the dispatcher has
    polled the error edge and handled its batch. -/
theorem parked_read_woken_by_failure {w : World} (hc : w.caller = .parked)
    (hb : w.broken = false) :
    Woken (dispatchAll .read pd (step .read pd (step .read pd w .fail) .poll)) := by
  unfold dispatchAll
  refine woken_run_dispatch .read pd _ _ rfl (.inr ⟨?_, ?_⟩)
  · simp only [SrtGo.Wakeup.step, hb]; exact hc
  · simp [SrtGo.Wakeup.step, hb]

theorem parked_read_woken_by_failure_idle :
    (run .read ⟨1, 7⟩ World.init [.caller, .caller, .caller]).caller = .parked ∧
    (run .read ⟨1, 7⟩ World.init [.caller, .caller, .caller]).broken = false ∧
    Woken (dispatchAll .read ⟨1, 7⟩ (step .read ⟨1, 7⟩
      (step .read ⟨1, 7⟩ (run .read ⟨1, 7⟩ World.init [.caller, .caller, .caller]) .fail) .poll)) :=
  ⟨rfl, rfl, parked_read_woken_by_failure ⟨1, 7⟩ rfl rfl⟩

end SrtGo.Wakeup
