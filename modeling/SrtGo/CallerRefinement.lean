import SrtGo.Wakeup
import SrtGo.ReadWrite

/-!
# The wakeup model's caller runs `Read`'s body

`Wakeup` follows a blocked call step by step among readiness edges, failures
and the dispatcher, with its own description of the caller
(`World.callerStep`). This module ties that caller, in the read direction, to
the source's body, `retryOnce` at `Read`'s values (read.go): a monitor beside
any interleaving
records what the caller observed, the engine's answer to each receive and the
outcome of each wait, and `caller_refines_read` shows that once the caller has
returned, `Read` run alone against an engine that gives exactly those answers
returns the same error, after exactly those calls.
-/

namespace SrtGo.Wakeup

/-- What the caller has observed so far: the engine's answers to its receives
    and the outcomes of its waits, in order. -/
structure CallerLog where
  recvs : List RecvRet
  waits : List (Option WaitError)
deriving DecidableEq, Repr

/-- An engine that gives the observed answers in order. -/
def CallerLog.env (L : CallerLog) : Env :=
  ⟨fun k _ => L.recvs.getD k (.received []), fun _ _ => .sent 0, fun k => L.waits.getD k none⟩

/-- The engine's would-block answer to a receive. -/
def wouldBlockAnswer : RecvRet := .failed EAsyncRCV.code 0

/-- The engine's answer to a receive in world `w`, as `World.attempt` decides:
    the connection error on a broken socket, the message `msg` when one is
    there, and otherwise would-block. -/
def World.recvAnswer (msg : List UInt8) (w : World) : RecvRet :=
  if w.broken then .failed SRT_ECONNLOST.code 0
  else if w.ready then .received msg
  else wouldBlockAnswer

/-- What a step from `w` to `w'` shows the caller: a receive answer when it
    leaves the fast path or the retry, a wait outcome when its `wait` returns. -/
def observe (msg : List UInt8) (w w' : World) (L : CallerLog) : CallerLog :=
  match w.caller, w'.caller with
  | .fastPath, .fastPath | .retry, .retry => L
  | .fastPath, _ | .retry, _ => ⟨L.recvs ++ [w.recvAnswer msg], L.waits⟩
  | .reset, .retry | .parked, .retry => ⟨L.recvs, L.waits ++ [none]⟩
  | .reset, .done (some (.wait e)) | .parked, .done (some (.wait e)) =>
    ⟨L.recvs, L.waits ++ [some e]⟩
  | _, _ => L

/-- The observations that bring `Read`'s body to each place of the caller. -/
def Matches : CallerPc → CallerLog → Prop
  | .fastPath, L => L = ⟨[], []⟩
  | .wouldBlock, L | .reset, L | .parked, L => L = ⟨[wouldBlockAnswer], []⟩
  | .retry, L => L = ⟨[wouldBlockAnswer], [none]⟩
  | .done err, L =>
    (∃ a, L = ⟨[a], []⟩ ∧ errorsIs a.result.2 EAsyncRCV = false ∧ err = a.result.2) ∨
    (∃ e, L = ⟨[wouldBlockAnswer], [some e]⟩ ∧ err = some (.wait e)) ∨
    (∃ a, L = ⟨[wouldBlockAnswer, a], [none]⟩ ∧ err = a.result.2)

variable (pd : PollDesc) (msg : List UInt8)

/-- A step of the system with the monitor beside it. -/
def observeStep (wl : World × CallerLog) (a : Action) : World × CallerLog :=
  (step .read pd wl.1 a, observe msg wl.1 (step .read pd wl.1 a) wl.2)

/-- A schedule from a fresh `Read`, with what its caller observed. -/
def observeRun (acts : List Action) : World × CallerLog :=
  acts.foldl (observeStep pd msg) (World.init, ⟨[], []⟩)

theorem foldl_observeStep_fst (acts : List Action) :
    ∀ wl : World × CallerLog, (acts.foldl (observeStep pd msg) wl).1 = run .read pd wl.1 acts := by
  induction acts with
  | nil => intro _; rfl
  | cons a acts ih => intro wl; exact ih _

theorem foldl_applyUnblock_caller_of_ne (us : List Unblock) {w : World}
    (h : w.caller ≠ .parked) : (us.foldl (World.applyUnblock .read) w).caller = w.caller := by
  induction us generalizing w with
  | nil => rfl
  | cons u us ih =>
    rw [List.foldl_cons, ih (by rw [applyUnblock_caller_of_ne .read h]; exact h),
      applyUnblock_caller_of_ne .read h]

theorem step_caller_cases (w : World) (a : Action) :
    (step .read pd w a).caller = w.caller ∨ (a = .caller ∧ step .read pd w a = w.callerStep .read) ∨
    (w.caller = .parked ∧ ((step .read pd w a).caller = .retry ∨
      (step .read pd w a).caller = .done (some (.wait .fatal)))) := by
  cases a with
  | caller => exact .inr (.inl ⟨rfl, rfl⟩)
  | arrive => left; simp only [step]; split <;> rfl
  | fail => left; simp only [step]; split <;> rfl
  | poll => exact .inl rfl
  | dispatch =>
    simp only [step]
    split
    · exact .inl rfl
    · rename_i f rest _
      by_cases hp : w.caller = .parked
      · rcases foldl_applyUnblock_of_parked .read (eventUnblocks pd f) (w := { w with batch := rest })
          (.inl hp) with h | h
        · exact .inl (h.trans hp.symm)
        · exact .inr (.inr ⟨hp, h⟩)
      · exact .inl (foldl_applyUnblock_caller_of_ne _ (w := { w with batch := rest }) hp)

theorem observe_of_caller_eq {w w' : World} (h : w'.caller = w.caller) (L : CallerLog) :
    observe msg w w' L = L := by
  unfold observe
  rw [h]
  cases w.caller with
  | done err => rcases err with _ | (_ | _) <;> rfl
  | _ => rfl

theorem attempt_cases (w next : World) :
    ((w.attempt next).caller = .done (w.recvAnswer msg).result.2 ∧
      errorsIs (w.recvAnswer msg).result.2 EAsyncRCV = false) ∨
    (w.attempt next = next ∧ w.recvAnswer msg = wouldBlockAnswer) := by
  unfold World.attempt World.recvAnswer
  split_ifs
  · exact .inl ⟨rfl, by decide⟩
  · exact .inl ⟨rfl, rfl⟩
  · exact .inr ⟨rfl, rfl⟩

theorem observe_of_attempt {w w' : World} (hw : w.caller = .fastPath ∨ w.caller = .retry)
    (h : w'.caller ≠ w.caller) (L : CallerLog) :
    observe msg w w' L = ⟨L.recvs ++ [w.recvAnswer msg], L.waits⟩ := by
  unfold observe
  rcases hw with hw | hw <;> rw [hw] at h ⊢ <;> cases hc : w'.caller <;> simp_all

theorem Matches.step {w : World} {L : CallerLog} (h : Matches w.caller L) (a : Action) :
    Matches (step .read pd w a).caller (observe msg w (step .read pd w a) L) := by
  rcases step_caller_cases pd w a with hc | ⟨-, hs⟩ | ⟨hp, hc⟩
  · rw [observe_of_caller_eq msg hc, hc]
    exact h
  · rw [hs]
    unfold World.callerStep
    cases hcw : w.caller with
    | fastPath =>
      rw [hcw] at h; subst h
      rcases attempt_cases msg w { w with caller := .wouldBlock, failed := true } with
        ⟨hc, he⟩ | ⟨hc, ha⟩ <;>
      rw [observe_of_attempt msg (.inl hcw) (by rw [hc, hcw]; simp), hc]
      · exact .inl ⟨_, rfl, he, rfl⟩
      · rw [ha]; rfl
    | wouldBlock => rw [hcw] at h; simpa [observe, hcw, Matches] using h
    | reset =>
      rw [hcw] at h; subst h
      unfold PollDescDir.waitResult
      split_ifs <;> simp [observe, hcw, Matches]
    | parked => rw [hcw] at h; simpa [observe, hcw, Matches] using h
    | retry =>
      rw [hcw] at h; subst h
      rcases attempt_cases msg w { w with caller := .done (some (.srt Direction.read.wouldBlock)) } with
        ⟨hc, he⟩ | ⟨hc, ha⟩ <;>
      rw [observe_of_attempt msg (.inr hcw) (by rw [hc, hcw]; simp), hc]
      · exact .inr (.inr ⟨_, rfl, rfl⟩)
      · rw [ha]; exact .inr (.inr ⟨_, rfl, rfl⟩)
    | done err => simpa [observe, hcw] using h
  · have hL : L = ⟨[wouldBlockAnswer], []⟩ := by rw [hp] at h; exact h
    subst hL
    rcases hc with hc | hc <;> simp [observe, hp, hc, Matches]

theorem Matches.observeRun (acts : List Action) :
    Matches (observeRun pd msg acts).1.caller (observeRun pd msg acts).2 := by
  suffices ∀ wl : World × CallerLog, Matches wl.1.caller wl.2 →
      Matches (acts.foldl (observeStep pd msg) wl).1.caller (acts.foldl (observeStep pd msg) wl).2
    from this _ rfl
  induction acts with
  | nil => exact fun _ h => h
  | cons a acts ih => exact fun wl h => ih _ (Matches.step pd msg h a)

theorem read_of_matches {err : Option GoError} {L : CallerLog} (h : Matches (.done err) L)
    (u : SRTSOCKET) {b : GoSlice} (hb : b.len ≠ 0) (mem : List UInt8) :
    ∃ n st', ((⟨u, false, pd⟩ : SrtSocket).read b).run ⟨L.env, mem, 0, 0, []⟩ = .ok ((n, err), st') ∧
      st'.calls = L.recvs.length ∧ st'.waits = L.waits.length := by
  rcases h with ⟨a, rfl, ha, rfl⟩ | ⟨e, rfl, rfl⟩ | ⟨a, rfl, rfl⟩
  · have hr : (CallerLog.env ⟨[a], []⟩).recv 0 b.len = a := rfl
    simp only [SrtSocket.read, retryOnce, GoM.run_bind, srtRecvMsg2Impl_run _ _ _ hb, hr]
    revert ha
    rcases a.result with ⟨n, e⟩
    intro ha
    simp only [ha, Bool.not_false, Bool.or_true, if_true, GoM.run_pure]
    exact ⟨_, _, rfl, rfl, rfl⟩
  all_goals
    simp [SrtSocket.read, retryOnce, srtRecvMsg2Impl_run _ _ _ hb, CallerLog.env, IOState.afterRecv,
      wouldBlockAnswer, RecvRet.result, errorsIs, EAsyncRCV]
    exact ⟨_, _, ⟨rfl, rfl⟩, rfl, rfl⟩

/-- The refinement: in any interleaving of the caller with data arrivals,
    failures and the dispatcher, once the caller has returned, `Read` on a
    non-blocking socket, run alone against an engine that answers as the caller
    observed, returns the caller's error after exactly the observed receives and
    waits. -/
theorem caller_refines_read (u : SRTSOCKET) {b : GoSlice} (hb : b.len ≠ 0) (mem : List UInt8)
    (acts : List Action) {err : Option GoError}
    (hdone : (run .read pd World.init acts).caller = .done err) :
    ∃ n st', ((⟨u, false, pd⟩ : SrtSocket).read b).run
        ⟨(observeRun pd msg acts).2.env, mem, 0, 0, []⟩ = .ok ((n, err), st') ∧
      st'.calls = (observeRun pd msg acts).2.recvs.length ∧
      st'.waits = (observeRun pd msg acts).2.waits.length := by
  have h := Matches.observeRun pd msg acts
  rw [observeRun, foldl_observeStep_fst] at h
  rw [hdone] at h
  exact read_of_matches pd h u hb mem

/-- The caller parks on an idle socket, data arrives, and the dispatcher's
    unblock sends it to the retry, which receives the message. -/
def parkThenWake : List Action := [.caller, .caller, .caller, .arrive, .poll, .dispatch, .caller]

theorem caller_refines_read_park_then_wake :
    (⟨0, 5⟩ : GoSlice).len ≠ 0 ∧ (run .read ⟨1, 7⟩ World.init parkThenWake).caller = .done none ∧
    ∃ n st', ((⟨7, false, ⟨1, 7⟩⟩ : SrtSocket).read ⟨0, 5⟩).run
        ⟨(observeRun ⟨1, 7⟩ [1, 2] parkThenWake).2.env, [0, 0, 0, 0, 0], 0, 0, []⟩ =
          .ok ((n, none), st') ∧
      st'.calls = (observeRun ⟨1, 7⟩ [1, 2] parkThenWake).2.recvs.length ∧
      st'.waits = (observeRun ⟨1, 7⟩ [1, 2] parkThenWake).2.waits.length :=
  ⟨by decide, rfl, caller_refines_read ⟨1, 7⟩ [1, 2] 7 (by decide) _ parkThenWake rfl⟩

end SrtGo.Wakeup
