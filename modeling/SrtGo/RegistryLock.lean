import SrtGo.Dispatch

/-!
# The registry lock across threads

`PollServer` runs registry calls one after another, in the order they take
effect. In the code no call is atomic. `pollOpen` takes `pollDescLock`,
subscribes the handle with `srt_epoll_add_usock`, stores the descriptor and
unlocks. `pollClose` asks `srt_getsockstate` and unsubscribes the handle with
`srt_epoll_remove_usock` while the lock is free, and only then locks to delete
the entry. The dispatcher meanwhile waits in `srt_epoll_uwait` and takes the lock
in `processEvents` for its snapshot. This module runs any number of client
threads, each making its own registry calls in order, beside the dispatcher and
the engine, in every interleaving.

Each branch of a client's step is one constructor of `ClientMove`
(`World.clientStep_move`), and each step of the system one of `Move`
(`step_move`). Every invariant below is proved once per constructor and
carried along every schedule by `run_invariant`.

* `registry_linearizable`: in every interleaving each call takes effect at one
  step, each thread's calls in program order, and the map is what the
  sequential `PollServer` model gives for the calls in that order; every
  result proved there holds of the concurrent registry.
* `snapshot_finds_every_subscribed_handle`: when no handle is used by two
  threads, every handle the engine has subscribed when the dispatcher takes its
  snapshot has a descriptor in the map. This is what holding the lock across
  `srt_epoll_add_usock` buys.
* `closed_descriptor_unblocked_only_in_flight`: after `pollClose(pd)` has
  deleted a live socket's entry, `pd` is unblocked only from a snapshot the
  dispatcher took before the delete and has not yet dispatched.
* `reused_handle_race_loses_descriptor`: when a `pollOpen` reuses the handle of
  a `pollClose` still in progress, the close deletes the new descriptor while
  the engine keeps the handle subscribed; whatever the other threads do, the
  handle stays without an entry and no descriptor on it is unblocked again.
-/

namespace SrtGo.RegistryLock

open PollServer

/-- Who holds `pollDescLock`. -/
inductive Holder where
  | client (i : Nat)
  | dispatcher
deriving DecidableEq, Repr

/-- Where a client thread is inside its current registry call. Past the
    engine's answer a call carries what the code has checked of it. -/
inductive ClientPc where
  /-- between calls -/
  | idle
  /-- `pollOpen` holds the lock; `srt_epoll_add_usock` is next -/
  | openLocked (pd : PollDesc) (ret : Int)
  /-- `pollOpen` has subscribed the handle; storing the descriptor is next -/
  | openAdded (pd : PollDesc) (ret : Int) (hret : ret ≠ -1)
  /-- `pollClose` found the socket live and unsubscribed it; the lock is next -/
  | closeRemoved (pd : PollDesc) (sockstate : SRT_SOCKSTATUS) (ret : Int)
      (hst : removedInternally sockstate = false) (hret : ret ≠ -1)
  /-- `pollClose` holds the lock; deleting the entry is next -/
  | closeLocked (pd : PollDesc) (sockstate : SRT_SOCKSTATUS) (ret : Int)
      (hst : removedInternally sockstate = false) (hret : ret ≠ -1)
deriving DecidableEq, Repr

/-- A client thread: where it is in its current call, and the calls after it. -/
structure Client where
  calls : List RegistryCall
  pc : ClientPc
deriving DecidableEq, Repr

/-- The calls the thread has still to complete, the current one first. -/
def Client.rest (c : Client) : List RegistryCall :=
  match c.pc with
  | .idle => c.calls
  | .openLocked pd ret | .openAdded pd ret _ => .pollOpen pd ret :: c.calls
  | .closeRemoved pd st ret _ _ | .closeLocked pd st ret _ _ => .pollClose pd st ret :: c.calls

def ClientPc.holdsLock : ClientPc → Bool
  | .openLocked .. | .openAdded .. | .closeLocked .. => true
  | _ => false

/-- Where the dispatcher is in an iteration of `run`. -/
inductive DispatcherPc where
  /-- in `srt_epoll_uwait` -/
  | polling
  /-- holds a batch; `pollDescLock.Lock()` of `processEvents` is next -/
  | fetched (events : List SRT_EPOLL_EVENT)
  /-- holds the lock; the snapshot is next -/
  | locked (events : List SRT_EPOLL_EVENT)
  /-- has released the lock; the unblock calls are next -/
  | dispatching (snap : List (Option PollDesc × BitVec 32))
deriving DecidableEq, Repr

/-- The threads, the lock, the map, the engine's subscribed handles and pending
    events, and two records: the calls in the order they took effect (with
    their thread), and the unblock calls made. A panic ends the process. -/
structure World where
  clients : Nat → Client
  lock : Option Holder
  registry : PollServer
  subscribed : SRTSOCKET → Bool
  pending : List SRT_EPOLL_EVENT
  dispatcher : DispatcherPc
  panicked : Option GoPanic
  done : List (Nat × RegistryCall)
  unblocks : List Unblock

/-- Threads running `progs`, one program each, before the poll server has
    seen anything. -/
def World.init (progs : List (List RegistryCall)) : World :=
  ⟨fun i => ⟨progs.getD i [], .idle⟩, none, PollServer.init, fun _ => false, [], .polling, none,
    [], []⟩

/-- What the sequential model would give: the map, or the panic. -/
def World.outcome (w : World) : Except GoPanic PollServer :=
  match w.panicked with
  | none => .ok w.registry
  | some p => .error p

/-- The calls of thread `i` that have taken effect, in order. -/
def World.doneBy (w : World) (i : Nat) : List RegistryCall :=
  (w.done.filter fun d => d.1 == i).map Prod.snd

inductive Action where
  /-- client thread `i` makes its next step -/
  | client (i : Nat)
  /-- the dispatcher makes its next step -/
  | dispatcher
  /-- the engine reports event `e` if its handle is subscribed -/
  | event (e : SRT_EPOLL_EVENT)
  /-- the engine drops a broken or closed socket from the context -/
  | drop (h : SRTSOCKET)
deriving DecidableEq, Repr

namespace World

def setClient (w : World) (i : Nat) (c : Client) : World :=
  { w with clients := Function.update w.clients i c }

/-- Thread `i`'s call `c` has taken effect and `calls` are left. -/
def finish (w : World) (i : Nat) (c : RegistryCall) (calls : List RegistryCall) : World :=
  { w.setClient i ⟨calls, .idle⟩ with done := w.done ++ [(i, c)] }

/-- Client thread `i`'s next step. -/
def clientStep (w : World) (i : Nat) : World :=
  match (w.clients i).pc, (w.clients i).calls with
  | .idle, [] => w
  | .idle, .pollOpen pd ret :: calls =>
    -- p.pollDescLock.Lock()
    if w.lock = none then { w.setClient i ⟨calls, .openLocked pd ret⟩ with lock := some (.client i) }
    else w
  | .openLocked pd ret, calls =>
    -- srt_epoll_add_usock
    if hret : ret = -1 then
      { w.finish i (.pollOpen pd ret) calls with panicked := some (.panic "ERROR ADDING FD TO EPOLL") }
    else
      { w.setClient i ⟨calls, .openAdded pd ret hret⟩ with
        subscribed := Function.update w.subscribed pd.fd true }
  | .openAdded pd ret _, calls =>
    -- p.pollDescs[pd.fd] = pd; p.pollDescLock.Unlock()
    { w.finish i (.pollOpen pd ret) calls with
      registry := ⟨w.registry.pollDescs.insert pd.fd pd⟩, lock := none }
  | .idle, .pollClose pd st ret :: calls =>
    -- srt_getsockstate, then srt_epoll_remove_usock
    if hst : removedInternally st = true then w.finish i (.pollClose pd st ret) calls
    else if hret : ret = -1 then
      { w.finish i (.pollClose pd st ret) calls with
        panicked := some (.panic "ERROR REMOVING FD FROM EPOLL") }
    else
      { w.setClient i ⟨calls, .closeRemoved pd st ret (Bool.eq_false_iff.mpr hst) hret⟩ with
        subscribed := Function.update w.subscribed pd.fd false }
  | .closeRemoved pd st ret hst hret, calls =>
    -- p.pollDescLock.Lock()
    if w.lock = none then
      { w.setClient i ⟨calls, .closeLocked pd st ret hst hret⟩ with lock := some (.client i) }
    else w
  | .closeLocked pd st ret _ _, calls =>
    -- delete(p.pollDescs, pd.fd); p.pollDescLock.Unlock()
    { w.finish i (.pollClose pd st ret) calls with
      registry := ⟨w.registry.pollDescs.erase pd.fd⟩, lock := none }

/-- The dispatcher's next step: `srt_epoll_uwait` returns the first `fdlen`
    pending events (or times out and polls again), then `processEvents` locks,
    snapshots, unlocks and makes the unblock calls. -/
def dispatcherStep (w : World) : World :=
  match w.dispatcher with
  | .polling =>
    if w.pending = [] then w
    else { w with pending := w.pending.drop fdlen.toNat,
                  dispatcher := .fetched (w.pending.take fdlen.toNat) }
  | .fetched events =>
    if w.lock = none then { w with lock := some .dispatcher, dispatcher := .locked events }
    else w
  | .locked events =>
    { w with lock := none, dispatcher := .dispatching (w.registry.snapshot events) }
  | .dispatching snap =>
    { w with unblocks := w.unblocks ++ dispatchSnapshot snap, dispatcher := .polling }

end World

/-- What one step of client thread `i` can do, one constructor for each branch
    of `World.clientStep`: the guard it passes and the world it leaves. -/
inductive ClientMove (w : World) (i : Nat) : World → Prop where
  /-- no call is left, or the lock is taken: nothing moves -/
  | stutter : ClientMove w i w
  /-- `pollOpen` takes the free lock -/
  | lockOpen {pd : PollDesc} {ret : Int} {calls : List RegistryCall}
      (hpc : (w.clients i).pc = .idle) (hcalls : (w.clients i).calls = .pollOpen pd ret :: calls)
      (hl : w.lock = none) :
      ClientMove w i { w.setClient i ⟨calls, .openLocked pd ret⟩ with lock := some (.client i) }
  /-- `srt_epoll_add_usock` fails and `pollOpen` panics -/
  | addFailed {pd : PollDesc} {ret : Int} {calls : List RegistryCall}
      (hpc : (w.clients i).pc = .openLocked pd ret) (hcalls : (w.clients i).calls = calls)
      (hret : ret = -1) :
      ClientMove w i { w.finish i (.pollOpen pd ret) calls with
        panicked := some (.panic "ERROR ADDING FD TO EPOLL") }
  /-- `srt_epoll_add_usock` subscribes the handle -/
  | added {pd : PollDesc} {ret : Int} {calls : List RegistryCall}
      (hpc : (w.clients i).pc = .openLocked pd ret) (hcalls : (w.clients i).calls = calls)
      (hret : ret ≠ -1) :
      ClientMove w i { w.setClient i ⟨calls, .openAdded pd ret hret⟩ with
        subscribed := Function.update w.subscribed pd.fd true }
  /-- `pollOpen` stores the descriptor and frees the lock -/
  | stored {pd : PollDesc} {ret : Int} {hret : ret ≠ -1} {calls : List RegistryCall}
      (hpc : (w.clients i).pc = .openAdded pd ret hret) (hcalls : (w.clients i).calls = calls) :
      ClientMove w i { w.finish i (.pollOpen pd ret) calls with
        registry := ⟨w.registry.pollDescs.insert pd.fd pd⟩, lock := none }
  /-- `pollClose` finds the socket removed internally and returns -/
  | closedEarly {pd : PollDesc} {st : SRT_SOCKSTATUS} {ret : Int} {calls : List RegistryCall}
      (hpc : (w.clients i).pc = .idle) (hcalls : (w.clients i).calls = .pollClose pd st ret :: calls)
      (hst : removedInternally st = true) :
      ClientMove w i (w.finish i (.pollClose pd st ret) calls)
  /-- `srt_epoll_remove_usock` fails and `pollClose` panics -/
  | removeFailed {pd : PollDesc} {st : SRT_SOCKSTATUS} {ret : Int} {calls : List RegistryCall}
      (hpc : (w.clients i).pc = .idle) (hcalls : (w.clients i).calls = .pollClose pd st ret :: calls)
      (hst : removedInternally st = false) (hret : ret = -1) :
      ClientMove w i { w.finish i (.pollClose pd st ret) calls with
        panicked := some (.panic "ERROR REMOVING FD FROM EPOLL") }
  /-- `srt_epoll_remove_usock` unsubscribes the handle -/
  | removed {pd : PollDesc} {st : SRT_SOCKSTATUS} {ret : Int} {calls : List RegistryCall}
      (hpc : (w.clients i).pc = .idle) (hcalls : (w.clients i).calls = .pollClose pd st ret :: calls)
      (hst : removedInternally st = false) (hret : ret ≠ -1) :
      ClientMove w i { w.setClient i ⟨calls, .closeRemoved pd st ret hst hret⟩ with
        subscribed := Function.update w.subscribed pd.fd false }
  /-- `pollClose` takes the free lock -/
  | lockClose {pd : PollDesc} {st : SRT_SOCKSTATUS} {ret : Int} {hst : removedInternally st = false}
      {hret : ret ≠ -1} {calls : List RegistryCall}
      (hpc : (w.clients i).pc = .closeRemoved pd st ret hst hret)
      (hcalls : (w.clients i).calls = calls) (hl : w.lock = none) :
      ClientMove w i { w.setClient i ⟨calls, .closeLocked pd st ret hst hret⟩ with
        lock := some (.client i) }
  /-- `pollClose` deletes the entry and frees the lock -/
  | deleted {pd : PollDesc} {st : SRT_SOCKSTATUS} {ret : Int} {hst : removedInternally st = false}
      {hret : ret ≠ -1} {calls : List RegistryCall}
      (hpc : (w.clients i).pc = .closeLocked pd st ret hst hret)
      (hcalls : (w.clients i).calls = calls) :
      ClientMove w i { w.finish i (.pollClose pd st ret) calls with
        registry := ⟨w.registry.pollDescs.erase pd.fd⟩, lock := none }

theorem World.clientStep_move (w : World) (i : Nat) : ClientMove w i (w.clientStep i) := by
  unfold World.clientStep
  split
  · exact .stutter
  · split
    · exact .lockOpen ‹_› ‹_› ‹_›
    · exact .stutter
  · split
    · exact .addFailed (by assumption) rfl ‹_›
    · exact .added (by assumption) rfl ‹_›
  · exact .stored (by assumption) rfl
  · split
    · exact .closedEarly ‹_› ‹_› ‹_›
    · split
      · exact .removeFailed ‹_› ‹_› (Bool.eq_false_iff.mpr ‹_›) ‹_›
      · exact .removed ‹_› ‹_› (Bool.eq_false_iff.mpr ‹_›) ‹_›
  · split
    · exact .lockClose (by assumption) rfl ‹_›
    · exact .stutter
  · exact .deleted (by assumption) rfl

namespace ClientMove

variable {w w' : World} {i : Nat}

theorem dispatcher_eq (hm : ClientMove w i w') : w'.dispatcher = w.dispatcher := by
  cases hm <;> rfl

theorem unblocks_eq (hm : ClientMove w i w') : w'.unblocks = w.unblocks := by
  cases hm <;> rfl

theorem pending_eq (hm : ClientMove w i w') : w'.pending = w.pending := by
  cases hm <;> rfl

theorem rest_subset (hm : ClientMove w i w') (j : Nat) :
    (w'.clients j).rest ⊆ (w.clients j).rest := by
  by_cases hj : j = i
  · subst hj
    cases hm <;> simp_all [World.finish, World.setClient, Client.rest, List.subset_cons_self]
  · cases hm <;> simp [World.finish, World.setClient, Function.update_noteq hj]

end ClientMove

@[simp] theorem World.dispatcherStep_registry (w : World) :
    w.dispatcherStep.registry = w.registry := by
  unfold World.dispatcherStep; split <;> (try split) <;> rfl

@[simp] theorem World.dispatcherStep_clients (w : World) :
    w.dispatcherStep.clients = w.clients := by
  unfold World.dispatcherStep; split <;> (try split) <;> rfl

@[simp] theorem World.dispatcherStep_subscribed (w : World) :
    w.dispatcherStep.subscribed = w.subscribed := by
  unfold World.dispatcherStep; split <;> (try split) <;> rfl

/-- One step of the system; after a panic nothing moves. -/
def step (w : World) (a : Action) : World :=
  if w.panicked.isSome then w
  else match a with
    | .client i => w.clientStep i
    | .dispatcher => w.dispatcherStep
    | .event e => if w.subscribed e.fd then { w with pending := w.pending ++ [e] } else w
    | .drop h => { w with subscribed := Function.update w.subscribed h false }

def run (w : World) (acts : List Action) : World := acts.foldl step w

@[simp] theorem run_nil (w : World) : run w [] = w := rfl

@[simp] theorem run_cons (w : World) (a : Action) (acts : List Action) :
    run w (a :: acts) = run (step w a) acts := rfl

theorem run_of_panicked {w : World} (hp : w.panicked.isSome) (acts : List Action) :
    run w acts = w := by
  induction acts with
  | nil => rfl
  | cons a acts ih => rw [run_cons, show step w a = w from if_pos hp, ih]

/-- What one step of the system can do: nothing (after a panic, or for an
    event on a handle the engine does not watch), a move of a client thread,
    the dispatcher's step, an event queued, or a handle the engine drops. -/
inductive Move (w : World) : Action → World → Prop where
  | stay {a : Action} : Move w a w
  | client {i : Nat} {w' : World} (hp : w.panicked = none) (hm : ClientMove w i w') :
      Move w (.client i) w'
  | dispatcher : Move w .dispatcher w.dispatcherStep
  | event (e : SRT_EPOLL_EVENT) : Move w (.event e) { w with pending := w.pending ++ [e] }
  | drop (h : SRTSOCKET) :
      Move w (.drop h) { w with subscribed := Function.update w.subscribed h false }

theorem step_move (w : World) (a : Action) : Move w a (step w a) := by
  unfold RegistryLock.step
  by_cases hp : w.panicked.isSome
  · rw [if_pos hp]; exact .stay
  · rw [if_neg hp]
    cases a with
    | client i => exact .client (Option.not_isSome_iff_eq_none.mp hp) (w.clientStep_move i)
    | dispatcher => exact .dispatcher
    | event e => dsimp only; split; exacts [.event e, .stay]
    | drop h => exact .drop h

/-- A property every move keeps holds after every schedule. -/
theorem run_invariant {I : World → Prop} (hI : ∀ {w a w'}, I w → Move w a w' → I w')
    {w : World} (hw : I w) (acts : List Action) : I (run w acts) := by
  induction acts generalizing w with
  | nil => exact hw
  | cons a acts ih => exact ih (hI hw (step_move w a))

/-! ### Every interleaving is a sequential run -/

theorem runCalls_append_of_ok {p q : PollServer} {cs : List RegistryCall} (h : p.runCalls cs = .ok q)
    (c : RegistryCall) : p.runCalls (cs ++ [c]) = q.apply c := by
  induction cs generalizing p with
  | nil =>
    simp only [runCalls, Except.ok.injEq] at h
    subst h
    simp only [List.nil_append, runCalls]
    cases p.apply c <;> rfl
  | cons c' cs ih =>
    simp only [runCalls] at h ⊢
    split at h
    · cases h
    · exact ih h

variable {progs : List (List RegistryCall)} {w w' : World}

/-- Each thread's completed calls followed by what it has left are its program,
    and the map is what the sequential model gives for the completed calls in
    the order they took effect. -/
structure Linear (progs : List (List RegistryCall)) (w : World) : Prop where
  order : ∀ i, w.doneBy i ++ (w.clients i).rest = progs.getD i []
  refines : PollServer.init.runCalls (w.done.map Prod.snd) = w.outcome

theorem linear_init : Linear progs (World.init progs) :=
  ⟨fun _ => rfl, rfl⟩

theorem rest_update_of_eq {i : Nat} {c : Client} (h : c.rest = (w.clients i).rest) (j : Nat) :
    (Function.update w.clients i c j).rest = (w.clients j).rest := by
  by_cases hj : j = i
  · subst hj; simpa using h
  · rw [Function.update_noteq hj]

theorem Linear.congr (hw : Linear progs w) (hd : w'.done = w.done) (ho : w'.outcome = w.outcome)
    (hr : ∀ j, (w'.clients j).rest = (w.clients j).rest) : Linear progs w' :=
  ⟨fun j => by rw [World.doneBy, hd, hr]; exact hw.order j, by rw [hd, ho]; exact hw.refines⟩

theorem Linear.finish (hw : Linear progs w) (hp : w.panicked = none) {i : Nat} {c : RegistryCall}
    {calls : List RegistryCall} (hr : (w.clients i).rest = c :: calls)
    (hd : w'.done = w.done ++ [(i, c)])
    (hcl : w'.clients = Function.update w.clients i ⟨calls, .idle⟩)
    (ho : w'.outcome = w.registry.apply c) : Linear progs w' := by
  constructor
  · intro j
    have := hw.order j
    by_cases hj : j = i
    · subst hj
      rw [hr] at this
      rw [← this]
      simp [World.doneBy, hd, hcl, Client.rest]
    · rw [← this]
      simp [World.doneBy, hd, hcl, Function.update_noteq hj, Ne.symm hj]
  · have hok : PollServer.init.runCalls (w.done.map Prod.snd) = .ok w.registry := by
      rw [hw.refines, World.outcome, hp]
    rw [hd, ho, List.map_append, List.map_singleton, runCalls_append_of_ok hok]

theorem Linear.clientMove (hw : Linear progs w) (hp : w.panicked = none) {i : Nat}
    (hm : ClientMove w i w') : Linear progs w' := by
  have move : ∀ {c : Client}, c.rest = (w.clients i).rest → ∀ j,
      (Function.update w.clients i c j).rest = (w.clients j).rest := rest_update_of_eq
  cases hm with
  | stutter => exact hw
  | lockOpen hpc hcalls | added hpc hcalls | removed hpc hcalls | lockClose hpc hcalls =>
    exact hw.congr rfl rfl (move (by simp [Client.rest, hpc, hcalls]))
  | addFailed hpc hcalls hret =>
    exact hw.finish hp (by simp [Client.rest, hpc, hcalls]) rfl rfl
      (by simp [World.outcome, apply, pollOpen, hret])
  | @stored pd ret hret calls hpc hcalls =>
    exact hw.finish hp (by simp [Client.rest, hpc, hcalls]) rfl rfl
      (by simp [World.outcome, World.finish, World.setClient, apply, pollOpen, hret, hp])
  | closedEarly hpc hcalls hst =>
    exact hw.finish hp (by simp [Client.rest, hpc, hcalls]) rfl rfl
      (by simp [World.outcome, World.finish, World.setClient, hp, apply, pollClose, hst])
  | removeFailed hpc hcalls hst hret =>
    exact hw.finish hp (by simp [Client.rest, hpc, hcalls]) rfl rfl
      (by simp [World.outcome, apply, pollClose, hst, hret])
  | @deleted pd st ret hst hret calls hpc hcalls =>
    exact hw.finish hp (by simp [Client.rest, hpc, hcalls]) rfl rfl
      (by simp [World.outcome, World.finish, World.setClient, apply, pollClose, hst, hret, hp])

theorem Linear.dispatcherStep (hw : Linear progs w) : Linear progs w.dispatcherStep := by
  unfold World.dispatcherStep
  split <;> (try split) <;> exact hw.congr rfl rfl fun _ => rfl

theorem Linear.move (hw : Linear progs w) {a : Action} (hm : Move w a w') : Linear progs w' := by
  cases hm with
  | stay => exact hw
  | client hp hm => exact hw.clientMove hp hm
  | dispatcher => exact hw.dispatcherStep
  | event | drop => exact hw.congr rfl rfl fun _ => rfl

theorem Linear.run (hw : Linear progs w) (acts : List Action) : Linear progs (run w acts) :=
  run_invariant (fun hw hm => Linear.move hw hm) hw acts

/-- Linearizability of the registry: in every interleaving of any client
    programs with the dispatcher and the engine, the calls that have taken
    effect are, thread by thread, a prefix of each thread's program, and the map
    (or the panic) is what the sequential model gives for them in the order
    they took effect. -/
theorem registry_linearizable (progs : List (List RegistryCall)) (acts : List Action) :
    (∀ i, (run (World.init progs) acts).doneBy i <+: progs.getD i []) ∧
    PollServer.init.runCalls ((run (World.init progs) acts).done.map Prod.snd) =
      (run (World.init progs) acts).outcome :=
  have h := linear_init.run acts
  ⟨fun i => ⟨_, h.order i⟩, h.refines⟩

theorem Linear.reachable (hw : Linear progs w) (hp : w.panicked = none) :
    PollServer.Reachable w.registry :=
  ⟨_, by rw [hw.refines, World.outcome, hp]⟩

/-! ### The map's entries -/

theorem ClientMove.lookup_cases {i : Nat} (hm : ClientMove w i w') (h : SRTSOCKET) :
    w'.registry.pollDescs.lookup h = w.registry.pollDescs.lookup h ∨
    (∃ pd ret, .pollOpen pd ret ∈ (w.clients i).rest ∧ pd.fd = h ∧
      w'.registry.pollDescs.lookup h = some pd) ∨
    w'.registry.pollDescs.lookup h = none := by
  cases hm with
  | @stored pd ret hret calls hpc hcalls =>
    by_cases hh : pd.fd = h
    · subst hh
      exact .inr (.inl ⟨pd, ret, by simp [Client.rest, hpc], rfl, by simp [AList.lookup_insert]⟩)
    · exact .inl (by simp [AList.lookup_insert_ne (Ne.symm hh)])
  | @deleted pd st ret hst hret calls hpc hcalls =>
    by_cases hh : pd.fd = h
    · subst hh; exact .inr (.inr (by simp [AList.lookup_erase]))
    · exact .inl (by simp [AList.lookup_erase_ne (Ne.symm hh)])
  | _ => exact .inl rfl

theorem fdKeyed_move (hw : FdKeyed w.registry) {a : Action} (hm : Move w a w') :
    FdKeyed w'.registry := by
  cases hm with
  | client _ hm =>
    intro h pd hl
    rcases hm.lookup_cases h with he | ⟨pd', -, -, hfd, he⟩ | he <;> rw [he] at hl
    · exact hw h pd hl
    · cases hl; exact hfd
    · cases hl
  | dispatcher => simpa using hw
  | _ => exact hw

theorem fdKeyed_run (progs : List (List RegistryCall)) (acts : List Action) :
    FdKeyed (run (World.init progs) acts).registry :=
  run_invariant (I := fun w => FdKeyed w.registry) (fun hw hm => fdKeyed_move hw hm) fdKeyed_init acts

/-! ### The lock -/

/-- A thread between `Lock` and `Unlock` holds `pollDescLock`. -/
structure LockInv (w : World) : Prop where
  client : ∀ i, (w.clients i).pc.holdsLock = true → w.lock = some (.client i)
  dispatcher : ∀ events, w.dispatcher = .locked events → w.lock = some .dispatcher

theorem lockInv_init (progs : List (List RegistryCall)) : LockInv (World.init progs) :=
  ⟨fun _ h => by simp [World.init, ClientPc.holdsLock] at h, fun _ h => by cases h⟩

theorem LockInv.free (hw : LockInv w) (hl : w.lock = none) (j : Nat) :
    (w.clients j).pc.holdsLock = false := by
  cases h : (w.clients j).pc.holdsLock
  · rfl
  · simpa [hl] using hw.client j h

theorem LockInv.update (hw : LockInv w) {i : Nat} {c : Client}
    (hcl : w'.clients = Function.update w.clients i c) (hd : w'.dispatcher = w.dispatcher)
    (hi : c.pc.holdsLock = true → w'.lock = some (.client i))
    (hl : w'.lock = w.lock ∨ w.lock = none ∨ w.lock = some (.client i)) : LockInv w' := by
  constructor
  · intro j hj
    by_cases hji : j = i
    · subst hji; simp only [hcl, Function.update_same] at hj; exact hi hj
    · rw [hcl, Function.update_noteq hji] at hj
      have := hw.client j hj
      rcases hl with hl | hl | hl <;> simp_all
  · intro events he
    have := hw.dispatcher events (hd ▸ he)
    rcases hl with hl | hl | hl <;> simp_all

theorem LockInv.clientMove (hw : LockInv w) {i : Nat} (hm : ClientMove w i w') : LockInv w' := by
  cases hm with
  | stutter => exact hw
  | lockOpen _ _ hl | lockClose _ _ hl => exact hw.update rfl rfl (fun _ => rfl) (.inr (.inl hl))
  | added hpc =>
    exact hw.update rfl rfl (fun _ => hw.client i (by simp [ClientPc.holdsLock, hpc])) (.inl rfl)
  | stored hpc | deleted hpc =>
    exact hw.update rfl rfl (by simp [ClientPc.holdsLock])
      (.inr (.inr (hw.client i (by simp [ClientPc.holdsLock, hpc]))))
  | _ => exact hw.update rfl rfl (by simp [ClientPc.holdsLock]) (.inl rfl)

theorem LockInv.dispatcherStep (hw : LockInv w) : LockInv w.dispatcherStep := by
  unfold World.dispatcherStep
  split
  · split
    · exact hw
    · exact ⟨hw.client, fun _ h => by cases h⟩
  · split
    · exact ⟨fun j h => by simp_all [hw.free], fun _ _ => rfl⟩
    · exact hw
  · refine ⟨fun j h => ?_, fun _ h => by cases h⟩
    have := hw.client j h
    simp_all [hw.dispatcher _ ‹_›]
  · exact ⟨hw.client, fun _ h => by cases h⟩

theorem LockInv.move (hw : LockInv w) {a : Action} (hm : Move w a w') : LockInv w' := by
  cases hm with
  | stay => exact hw
  | client _ hm => exact hw.clientMove hm
  | dispatcher => exact hw.dispatcherStep
  | event | drop => exact ⟨hw.client, hw.dispatcher⟩

theorem LockInv.run (hw : LockInv w) (acts : List Action) : LockInv (run w acts) :=
  run_invariant (fun hw hm => LockInv.move hw hm) hw acts

/-! ### What the snapshot sees -/

/-- The handle a thread's `pollOpen` has subscribed and not yet stored. -/
def ClientPc.openingFd : ClientPc → Option SRTSOCKET
  | .openAdded pd .. => some pd.fd
  | _ => none

/-- The handle a thread's `pollClose` has unsubscribed and not yet deleted. -/
def ClientPc.closingFd : ClientPc → Option SRTSOCKET
  | .closeRemoved pd .. | .closeLocked pd .. => some pd.fd
  | _ => none

/-- No handle is in the programs of two threads: each socket's registry calls
    are made by one thread, in order. -/
def SeparateHandles (progs : List (List RegistryCall)) : Prop :=
  progs.Pairwise fun p q => ∀ c ∈ p, ∀ c' ∈ q, c.fd ≠ c'.fd

instance : DecidablePred SeparateHandles := fun progs =>
  inferInstanceAs (Decidable (progs.Pairwise fun p q : List RegistryCall =>
    ∀ c ∈ p, ∀ c' ∈ q, RegistryCall.fd c ≠ RegistryCall.fd c'))

theorem SeparateHandles.fd_ne (hs : SeparateHandles progs) {i j : Nat} (hij : i ≠ j)
    {c c' : RegistryCall} (hc : c ∈ progs.getD i []) (hc' : c' ∈ progs.getD j []) :
    c.fd ≠ c'.fd := by
  simp only [List.getD_eq_getElem?_getD] at hc hc'
  cases hi : progs[i]? with
  | none => simp [hi] at hc
  | some p =>
    cases hj : progs[j]? with
    | none => simp [hj] at hc'
    | some q =>
      rw [hi, Option.getD_some] at hc
      rw [hj, Option.getD_some] at hc'
      obtain ⟨hi', rfl⟩ := List.getElem?_eq_some_iff.mp hi
      obtain ⟨hj', rfl⟩ := List.getElem?_eq_some_iff.mp hj
      rcases Nat.lt_or_gt_of_ne hij with h | h
      · exact List.pairwise_iff_getElem.mp hs i j hi' hj' h c hc c' hc'
      · exact (List.pairwise_iff_getElem.mp hs j i hj' hi' h c' hc' c hc).symm

theorem Linear.fd_ne (hw : Linear progs w) (hs : SeparateHandles progs) {i j : Nat} (hij : i ≠ j)
    {c c' : RegistryCall} (hc : c ∈ (w.clients i).rest) (hc' : c' ∈ (w.clients j).rest) :
    c.fd ≠ c'.fd :=
  hs.fd_ne hij (hw.order i ▸ List.mem_append_right _ hc) (hw.order j ▸ List.mem_append_right _ hc')

/-- Every subscribed handle has an entry, unless its `pollOpen` is between
    `srt_epoll_add_usock` and storing the descriptor; a handle a `pollClose` has
    unsubscribed stays unsubscribed until that close deletes the entry. -/
structure Covers (w : World) : Prop where
  entry : ∀ h, w.subscribed h = true →
    (w.registry.pollDescs.lookup h).isSome ∨ ∃ i, (w.clients i).pc.openingFd = some h
  closing : ∀ i h, (w.clients i).pc.closingFd = some h → w.subscribed h = false

theorem Client.exists_rest_of_closingFd (c : Client) {h : SRTSOCKET}
    (hc : c.pc.closingFd = some h) : ∃ call ∈ c.rest, call.fd = h := by
  rcases c with ⟨calls, _ | _ | _ | ⟨pd, _, _, _, _⟩ | ⟨pd, _, _, _, _⟩⟩ <;>
    simp_all [ClientPc.closingFd, Client.rest, RegistryCall.fd]

theorem covers_init (progs : List (List RegistryCall)) : Covers (World.init progs) :=
  ⟨fun _ h => (by cases h), fun _ _ h => (by cases h)⟩

theorem Covers.entry_other (hw : Covers w) {i : Nat} {c : Client} {h : SRTSOCKET}
    (hh : w.subscribed h = true) (hi : (w.clients i).pc.openingFd ≠ some h)
    (hlook : (w.registry.pollDescs.lookup h).isSome → (w'.registry.pollDescs.lookup h).isSome)
    (hcl : w'.clients = Function.update w.clients i c) :
    (w'.registry.pollDescs.lookup h).isSome ∨ ∃ j, (w'.clients j).pc.openingFd = some h := by
  rcases hw.entry h hh with he | ⟨j, hj⟩
  · exact .inl (hlook he)
  · have hji : j ≠ i := by rintro rfl; exact hi hj
    exact .inr ⟨j, by rw [hcl, Function.update_noteq hji]; exact hj⟩

theorem closingFd_of_update {i j : Nat} {c : Client} {h : SRTSOCKET}
    (hj : (w'.clients j).pc.closingFd = some h) (hcl : w'.clients = Function.update w.clients i c)
    (hc : c.pc.closingFd = none) :
    j ≠ i ∧ (w.clients j).pc.closingFd = some h := by
  have hji : j ≠ i := by rintro rfl; rw [hcl, Function.update_same, hc] at hj; cases hj
  rw [hcl, Function.update_noteq hji] at hj
  exact ⟨hji, hj⟩

theorem Covers.keep (hw : Covers w) {i : Nat} {c : Client}
    (hcl : w'.clients = Function.update w.clients i c) (hreg : w'.registry = w.registry)
    (hsub : w'.subscribed = w.subscribed) (hopen : (w.clients i).pc.openingFd = none)
    (hclose : c.pc.closingFd = none ∨ c.pc.closingFd = (w.clients i).pc.closingFd) : Covers w' := by
  refine ⟨fun h hh => hw.entry_other (hsub ▸ hh) (by simp [hopen]) (hreg ▸ id) hcl, fun j h hj => ?_⟩
  rw [hsub]
  rcases hclose with hc | hc
  · exact hw.closing j h (closingFd_of_update hj hcl hc).2
  · by_cases hji : j = i
    · subst hji
      rw [hcl, Function.update_same, hc] at hj
      exact hw.closing j h hj
    · rw [hcl, Function.update_noteq hji] at hj
      exact hw.closing j h hj

theorem Covers.clientMove (hw : Covers w) (hl : Linear progs w) (hs : SeparateHandles progs)
    {i : Nat} (hm : ClientMove w i w') : Covers w' := by
  cases hm with
  | stutter => exact hw
  | lockOpen hpc | addFailed hpc | closedEarly hpc | removeFailed hpc =>
    exact hw.keep rfl rfl rfl (by simp [ClientPc.openingFd, hpc]) (.inl rfl)
  | lockClose hpc =>
    exact hw.keep rfl rfl rfl (by simp [ClientPc.openingFd, hpc])
      (.inr (by simp [ClientPc.closingFd, hpc]))
  | @added pd ret calls hpc hcalls hret =>
    -- `srt_epoll_add_usock` opens the window of this thread on `pd.fd`
    refine ⟨fun h hh => ?_, fun j h hj => ?_⟩
    · by_cases hh' : h = pd.fd
      · exact .inr ⟨i, by simp [World.setClient, ClientPc.openingFd, hh']⟩
      · exact hw.entry_other (by simpa [Function.update_noteq hh'] using hh)
          (by simp [ClientPc.openingFd, hpc]) id rfl
    · obtain ⟨hji, hj⟩ := closingFd_of_update hj rfl rfl
      obtain ⟨c, hc, rfl⟩ := (w.clients j).exists_rest_of_closingFd hj
      have hne : c.fd ≠ pd.fd := hl.fd_ne hs hji hc
        (show RegistryCall.pollOpen pd ret ∈ (w.clients i).rest by simp [Client.rest, hpc])
      simp [Function.update_noteq hne, hw.closing j _ hj]
  | @stored pd ret hret calls hpc hcalls =>
    -- storing the descriptor closes the window
    refine ⟨fun h hh => ?_, fun j h hj => hw.closing j h (closingFd_of_update hj rfl rfl).2⟩
    by_cases hh' : h = pd.fd
    · subst hh'; simp [AList.lookup_insert]
    · exact hw.entry_other hh (by simpa [ClientPc.openingFd, hpc] using Ne.symm hh')
        (by simp [AList.lookup_insert_ne hh']) rfl
  | @removed pd st ret calls hpc hcalls hst hret =>
    -- `srt_epoll_remove_usock` unsubscribes `pd.fd` until the delete
    refine ⟨fun h hh => ?_, fun j h hj => ?_⟩
    · have hh' : h ≠ pd.fd := by rintro rfl; simp at hh
      exact hw.entry_other (by simpa [Function.update_noteq hh'] using hh)
        (by simp [ClientPc.openingFd, hpc]) id rfl
    · by_cases hh' : h = pd.fd
      · subst hh'; simp
      · have hji : j ≠ i := by
          rintro rfl; simp [World.setClient, ClientPc.closingFd] at hj; exact hh' hj.symm
        simp only [World.setClient, Function.update_noteq hji] at hj
        simp [Function.update_noteq hh', hw.closing j h hj]
  | @deleted pd st ret hst hret calls hpc hcalls =>
    -- the delete finds `pd.fd` unsubscribed
    have hoff : w.subscribed pd.fd = false := hw.closing i _ (by simp [ClientPc.closingFd, hpc])
    refine ⟨fun h hh => ?_, fun j h hj => hw.closing j h (closingFd_of_update hj rfl rfl).2⟩
    have hh' : h ≠ pd.fd := by rintro rfl; simp [World.finish, World.setClient, hoff] at hh
    exact hw.entry_other hh (by simp [ClientPc.openingFd, hpc]) (by simp [AList.lookup_erase_ne hh'])
      rfl

theorem Covers.dispatcherStep (hw : Covers w) : Covers w.dispatcherStep := by
  unfold World.dispatcherStep
  split <;> (try split) <;> exact ⟨hw.entry, hw.closing⟩

theorem Covers.move (hw : Covers w) (hl : Linear progs w) (hs : SeparateHandles progs)
    {a : Action} (hm : Move w a w') : Covers w' := by
  cases hm with
  | stay => exact hw
  | client _ hm => exact hw.clientMove hl hs hm
  | dispatcher => exact hw.dispatcherStep
  | event => exact ⟨hw.entry, hw.closing⟩
  | drop h =>
    -- the engine drops a handle: one subscription fewer
    refine ⟨fun h' hh => ?_, fun j h' hj => ?_⟩
    · by_cases hh' : h' = h
      · subst hh'; simp at hh
      · exact hw.entry h' (by simpa [Function.update_noteq hh'] using hh)
    · by_cases hh' : h' = h
      · subst hh'; simp
      · simpa [Function.update_noteq hh'] using hw.closing j h' hj

theorem Covers.run (hw : Covers w) (hl : Linear progs w) (hs : SeparateHandles progs)
    (acts : List Action) : Covers (run w acts) :=
  (run_invariant (I := fun w => Covers w ∧ Linear progs w)
    (fun ⟨hc, hl⟩ hm => ⟨hc.move hl hs hm, hl.move hm⟩) ⟨hw, hl⟩ acts).1

theorem ClientPc.holdsLock_of_openingFd {pc : ClientPc} {h : SRTSOCKET}
    (hpc : pc.openingFd = some h) : pc.holdsLock = true := by
  cases pc <;> simp_all [ClientPc.openingFd, ClientPc.holdsLock]

/-- Holding `pollDescLock` across `srt_epoll_add_usock` closes the window: when
    no handle is used by two threads, then in every interleaving, when the
    dispatcher holds the lock for its snapshot, every handle the engine has
    subscribed has a descriptor in the map, so an event on a subscribed socket
    always finds its descriptor. -/
theorem snapshot_finds_every_subscribed_handle (progs : List (List RegistryCall))
    (hs : SeparateHandles progs) (acts : List Action) {events : List SRT_EPOLL_EVENT}
    (hd : (run (World.init progs) acts).dispatcher = .locked events) {h : SRTSOCKET}
    (hh : (run (World.init progs) acts).subscribed h = true) :
    ((run (World.init progs) acts).registry.pollDescs.lookup h).isSome := by
  have hk := (lockInv_init progs).run acts
  rcases ((covers_init progs).run linear_init hs acts).entry h hh with he | ⟨i, hi⟩
  · exact he
  · have hlock := (hk.client i (ClientPc.holdsLock_of_openingFd hi)).symm.trans
      (hk.dispatcher events hd)
    cases hlock

def twoSockets : List (List RegistryCall) := [[.pollOpen ⟨1, 7⟩ 0], [.pollOpen ⟨2, 8⟩ 0]]

/-- Thread 0 locks and subscribes handle 7, the engine reports it readable and
    the dispatcher fetches the event, but must wait for the lock until the
    descriptor is stored. -/
def openRacesPoll : List Action :=
  [.client 0, .client 0, .event ⟨7, SRT_EPOLL_IN⟩, .dispatcher, .dispatcher, .client 0, .dispatcher]

theorem snapshot_finds_every_subscribed_handle_open_races_poll :
    SeparateHandles twoSockets ∧
    (run (World.init twoSockets) openRacesPoll).dispatcher = .locked [⟨7, SRT_EPOLL_IN⟩] ∧
    (run (World.init twoSockets) openRacesPoll).subscribed 7 = true ∧
    ((run (World.init twoSockets) openRacesPoll).registry.pollDescs.lookup 7).isSome :=
  ⟨by decide, rfl, rfl,
    @snapshot_finds_every_subscribed_handle twoSockets (by decide) openRacesPoll _ rfl 7 rfl⟩

/-! ### What the dispatcher can still reach -/

/-- The unblocks of a snapshot the dispatcher has taken and not yet made. -/
def DispatcherPc.inFlight : DispatcherPc → List Unblock
  | .dispatching snap => dispatchSnapshot snap
  | _ => []

theorem ClientMove.subscribed_eq {i : Nat} (hm : ClientMove w i w') {h : SRTSOCKET}
    (hh : ∀ c ∈ (w.clients i).rest, c.fd ≠ h) : w'.subscribed h = w.subscribed h := by
  cases hm with
  | @added pd ret calls hpc hcalls hret =>
    have hne : pd.fd ≠ h := hh (.pollOpen pd ret) (by simp [Client.rest, hpc])
    simp [Function.update_noteq hne.symm]
  | @removed pd st ret calls hpc hcalls hst hret =>
    have hne : pd.fd ≠ h := hh (.pollClose pd st ret) (by simp [Client.rest, hpc, hcalls])
    simp [Function.update_noteq hne.symm]
  | _ => rfl

/-- No descriptor satisfying `P` is in the map or in a `pollOpen` a thread has
    left, and every unblock of such a descriptor that is in flight or was made
    since `w₀` was already in flight at `w₀`. -/
structure Quiet (P : PollDesc → Prop) (w₀ w : World) : Prop where
  registry : ∀ h pd, w.registry.pollDescs.lookup h = some pd → ¬ P pd
  opens : ∀ j pd r, .pollOpen pd r ∈ (w.clients j).rest → ¬ P pd
  inFlight : ∀ u ∈ w.dispatcher.inFlight, P u.pd → u ∈ w₀.dispatcher.inFlight
  made : w₀.unblocks <+: w.unblocks
  unblocks : ∀ u ∈ w.unblocks.drop w₀.unblocks.length, P u.pd → u ∈ w₀.dispatcher.inFlight

section Quiet

variable {P : PollDesc → Prop} {w₀ : World}

theorem quiet_self (hr : ∀ h pd, w.registry.pollDescs.lookup h = some pd → ¬ P pd)
    (ho : ∀ j pd r, .pollOpen pd r ∈ (w.clients j).rest → ¬ P pd) : Quiet P w w :=
  ⟨hr, ho, fun _ hu _ => hu, List.prefix_refl _, by simp⟩

theorem Quiet.clientMove (hw : Quiet P w₀ w) {i : Nat} (hm : ClientMove w i w') :
    Quiet P w₀ w' := by
  refine ⟨fun h pd hl => ?_, fun j pd r hr => hw.opens j pd r (hm.rest_subset j hr),
    hm.dispatcher_eq ▸ hw.inFlight, hm.unblocks_eq ▸ hw.made, hm.unblocks_eq ▸ hw.unblocks⟩
  rcases hm.lookup_cases h with he | ⟨pd', r, hr, -, he⟩ | he <;> rw [he] at hl
  · exact hw.registry h pd hl
  · cases hl; exact hw.opens i pd r hr
  · cases hl

theorem Quiet.dispatcherStep (hw : Quiet P w₀ w) : Quiet P w₀ w.dispatcherStep := by
  have idle : ∀ {w' : World}, w'.registry = w.registry → w'.clients = w.clients →
      w'.unblocks = w.unblocks → w'.dispatcher.inFlight = [] → Quiet P w₀ w' :=
    fun hr hc hu hf => ⟨hr ▸ hw.registry, hc ▸ hw.opens, by simp [hf], hu ▸ hw.made, hu ▸ hw.unblocks⟩
  unfold World.dispatcherStep
  split
  · split
    · exact hw
    · exact idle rfl rfl rfl rfl
  · split
    · exact idle rfl rfl rfl rfl
    · exact hw
  · -- the snapshot, taken under the lock, finds no descriptor satisfying `P`
    refine ⟨hw.registry, hw.opens, fun u hu hP => absurd hP ?_, hw.made, hw.unblocks⟩
    obtain ⟨e, -, hl⟩ := mem_processEvents (p := w.registry) hu
    exact hw.registry _ _ hl
  · next snap hd =>
    -- the unblocks made are the ones in flight
    refine ⟨hw.registry, hw.opens, fun _ h => (by cases h), hw.made.trans (List.prefix_append _ _),
      fun u hu hP => ?_⟩
    rw [List.drop_append_of_le_length hw.made.length_le, List.mem_append] at hu
    rcases hu with hu | hu
    · exact hw.unblocks u hu hP
    · exact hw.inFlight u (by rw [hd]; exact hu) hP

theorem Quiet.move (hw : Quiet P w₀ w) {a : Action} (hm : Move w a w') : Quiet P w₀ w' := by
  cases hm with
  | stay => exact hw
  | client _ hm => exact hw.clientMove hm
  | dispatcher => exact hw.dispatcherStep
  | event | drop => exact ⟨hw.registry, hw.opens, hw.inFlight, hw.made, hw.unblocks⟩

theorem Quiet.run (hw : Quiet P w₀ w) (acts : List Action) : Quiet P w₀ (run w acts) :=
  run_invariant (fun hw hm => Quiet.move hw hm) hw acts

end Quiet

/-- Once `pollClose(pd)` has deleted the entry of a socket it found live, and
    as long as no `pollOpen(pd)` follows, the dispatcher can unblock `pd` only
    from a snapshot it already holds: in every interleaving, from any point
    after such a close, every later unblock of `pd` is one that was in flight
    at that point. A snapshot taken before the delete can still unblock `pd`
    after it; none taken after the delete does. -/
theorem closed_descriptor_unblocked_only_in_flight (progs : List (List RegistryCall))
    (acts₀ acts : List Action) {pd : PollDesc} {sockstate : SRT_SOCKSTATUS} {ret : Int}
    {pre post : List RegistryCall}
    (hdone : (run (World.init progs) acts₀).done.map Prod.snd =
      pre ++ .pollClose pd sockstate ret :: post)
    (hlive : removedInternally sockstate = false) (hpost : ∀ r, .pollOpen pd r ∉ post)
    (hrest : ∀ j r, .pollOpen pd r ∉ ((run (World.init progs) acts₀).clients j).rest) :
    (run (World.init progs) acts₀).unblocks <+:
      (run (run (World.init progs) acts₀) acts).unblocks ∧
    ∀ u ∈ (run (run (World.init progs) acts₀) acts).unblocks.drop
        (run (World.init progs) acts₀).unblocks.length,
      u.pd = pd → u ∈ (run (World.init progs) acts₀).dispatcher.inFlight := by
  have hl : Linear progs (run (World.init progs) acts₀) := linear_init.run acts₀
  have hk := fdKeyed_run progs acts₀
  generalize run (World.init progs) acts₀ = w₀ at *
  cases hp : w₀.panicked with
  | some _ => rw [run_of_panicked (by simp [hp])]; exact ⟨List.prefix_refl _, by simp⟩
  | none =>
    -- the calls done, run in order, leave no entry `pd`
    have hgone : w₀.registry.pollDescs.lookup pd.fd ≠ some pd := by
      have hrun : PollServer.init.runCalls (w₀.done.map Prod.snd) = .ok w₀.registry := by
        rw [hl.refines, World.outcome, hp]
      rw [lookup_runCalls hrun, hdone, List.foldl_append, List.foldl_cons]
      exact foldl_entryStep_ne hpost (by simp [entryStep, hlive])
    have hq : Quiet (· = pd) w₀ w₀ := quiet_self
      (fun h pd' hl' hpd => hgone (by subst hpd; rwa [hk h _ hl']))
      (fun j pd' r hr hpd => hrest j r (hpd ▸ hr))
    exact ⟨(hq.run acts).made, (hq.run acts).unblocks⟩

def openThenClose : List (List RegistryCall) :=
  [[.pollOpen ⟨1, 7⟩ 0, .pollClose ⟨1, 7⟩ .SRTS_CONNECTED 0]]

/-- The socket is opened and reported readable; the dispatcher snapshots its
    descriptor and releases the lock; then the close runs to its end before the
    dispatcher makes its unblock calls. -/
def closeRacesDispatch : List Action :=
  [.client 0, .client 0, .client 0, .event ⟨7, SRT_EPOLL_IN⟩, .dispatcher, .dispatcher, .dispatcher,
    .client 0, .client 0, .client 0]

theorem closed_descriptor_unblocked_only_in_flight_close_races_dispatch :
    (run (World.init openThenClose) closeRacesDispatch).done.map Prod.snd =
      [.pollOpen ⟨1, 7⟩ 0] ++ .pollClose ⟨1, 7⟩ .SRTS_CONNECTED 0 :: [] ∧
    removedInternally .SRTS_CONNECTED = false ∧
    (∀ r, RegistryCall.pollOpen ⟨1, 7⟩ r ∉ ([] : List RegistryCall)) ∧
    (∀ j r, RegistryCall.pollOpen ⟨1, 7⟩ r ∉
      ((run (World.init openThenClose) closeRacesDispatch).clients j).rest) ∧
    ((run (World.init openThenClose) closeRacesDispatch).unblocks <+:
        (run (run (World.init openThenClose) closeRacesDispatch) [.dispatcher]).unblocks ∧
      ∀ u ∈ (run (run (World.init openThenClose) closeRacesDispatch) [.dispatcher]).unblocks.drop
          (run (World.init openThenClose) closeRacesDispatch).unblocks.length,
        u.pd = ⟨1, 7⟩ →
          u ∈ (run (World.init openThenClose) closeRacesDispatch).dispatcher.inFlight) ∧
    (⟨⟨1, 7⟩, .ModeRead, false, true⟩ : Unblock) ∈
      (run (run (World.init openThenClose) closeRacesDispatch) [.dispatcher]).unblocks.drop
        (run (World.init openThenClose) closeRacesDispatch).unblocks.length :=
  have hrest : ∀ j r, RegistryCall.pollOpen ⟨1, 7⟩ r ∉
      ((run (World.init openThenClose) closeRacesDispatch).clients j).rest := fun j _ => by
    rcases j with _ | j <;> exact List.not_mem_nil _
  ⟨rfl, rfl, by simp, hrest,
    @closed_descriptor_unblocked_only_in_flight openThenClose closeRacesDispatch [.dispatcher] ⟨1, 7⟩
      .SRTS_CONNECTED 0 [.pollOpen ⟨1, 7⟩ 0] [] rfl rfl (by simp) hrest, by decide⟩

/-! ### A handle reused while its close is in progress -/

theorem untouched_move {h : SRTSOCKET} (hu : ∀ j, ∀ c ∈ (w.clients j).rest, c.fd ≠ h)
    {a : Action} (ha : a ≠ .drop h) (hm : Move w a w') :
    (∀ j, ∀ c ∈ (w'.clients j).rest, c.fd ≠ h) ∧ w'.subscribed h = w.subscribed h := by
  cases hm with
  | stay | event => exact ⟨hu, rfl⟩
  | client _ hm => exact ⟨fun j c hc => hu j c (hm.rest_subset j hc), hm.subscribed_eq (hu _)⟩
  | dispatcher => simpa using hu
  | drop h' =>
    have hne : h ≠ h' := fun e => ha (e ▸ rfl)
    exact ⟨hu, by simp [Function.update_noteq hne]⟩

theorem untouched_run {h : SRTSOCKET} (hu : ∀ j, ∀ c ∈ (w.clients j).rest, c.fd ≠ h)
    {acts : List Action} (hacts : Action.drop h ∉ acts) :
    (∀ j, ∀ c ∈ ((run w acts).clients j).rest, c.fd ≠ h) ∧
      (run w acts).subscribed h = w.subscribed h := by
  induction acts generalizing w with
  | nil => exact ⟨hu, rfl⟩
  | cons a acts ih =>
    rw [List.mem_cons, not_or] at hacts
    obtain ⟨hu', hs⟩ := untouched_move hu (Ne.symm hacts.1) (step_move w a)
    exact ⟨(ih hu' hacts.2).1, (ih hu' hacts.2).2.trans hs⟩

/-- Thread 0 opens socket `pd₁` and closes it, thread 1 opens a new socket
    `pd₂`, and the other threads run `others`. The engine answers every add and
    remove with success. -/
def reusePrograms (pd₁ pd₂ : PollDesc) (st : SRT_SOCKSTATUS) (others : List (List RegistryCall)) :
    List (List RegistryCall) :=
  [.pollOpen pd₁ 0, .pollClose pd₁ st 0] :: [.pollOpen pd₂ 0] :: others

/-- Thread 0 opens, then unsubscribes its handle for its close; thread 1 locks,
    subscribes the handle and stores its descriptor; thread 0 locks and deletes
    the entry. -/
def reuseRace : List Action :=
  [.client 0, .client 0, .client 0, .client 0, .client 1, .client 1, .client 1, .client 0, .client 0]

section Race

variable {pd₁ pd₂ : PollDesc} {st : SRT_SOCKSTATUS} {others : List (List RegistryCall)}

theorem reuseRace_run (hfd : pd₂.fd = pd₁.fd) (hlive : removedInternally st = false)
    (hothers : ∀ p ∈ others, ∀ c ∈ p, c.fd ≠ pd₁.fd) :
    (run (World.init (reusePrograms pd₁ pd₂ st others)) reuseRace).done =
      [(0, .pollOpen pd₁ 0), (1, .pollOpen pd₂ 0), (0, .pollClose pd₁ st 0)] ∧
    (run (World.init (reusePrograms pd₁ pd₂ st others)) reuseRace).subscribed pd₁.fd = true ∧
    (run (World.init (reusePrograms pd₁ pd₂ st others)) reuseRace).registry.pollDescs.lookup
      pd₁.fd = none ∧
    (run (World.init (reusePrograms pd₁ pd₂ st others)) reuseRace).dispatcher = .polling ∧
    (run (World.init (reusePrograms pd₁ pd₂ st others)) reuseRace).unblocks = [] ∧
    ∀ j, ∀ c ∈ ((run (World.init (reusePrograms pd₁ pd₂ st others)) reuseRace).clients j).rest,
      c.fd ≠ pd₁.fd := by
  simp only [reuseRace, run_cons, run_nil]
  simp [step, World.clientStep, World.init, reusePrograms, World.setClient, World.finish, hlive,
    hfd]
  intro j c hc
  -- threads 0 and 1 are done; the others have not moved
  rcases j with _ | _ | j <;> simp [Function.update_noteq, Client.rest] at hc
  cases hp : others[j]? with
  | none => simp [hp] at hc
  | some p => rw [hp, Option.getD_some] at hc; exact hothers p (List.getElem?_mem hp) c hc

/-- A `pollOpen` that reuses the handle of a `pollClose` still in progress is
    lost. Whatever the two descriptors on the handle, the live state the close
    found, and the programs of the other threads on other handles: after the
    race, the new socket's `pollOpen` has returned, and in every schedule that
    follows, with the other threads, the dispatcher and the engine all moving,
    as long as the engine keeps the handle, the handle stays subscribed with no
    entry and no descriptor on it is ever unblocked. -/
theorem reused_handle_race_loses_descriptor (hfd : pd₂.fd = pd₁.fd)
    (hlive : removedInternally st = false) (hothers : ∀ p ∈ others, ∀ c ∈ p, c.fd ≠ pd₁.fd)
    (acts : List Action) (hacts : Action.drop pd₁.fd ∉ acts) :
    (1, RegistryCall.pollOpen pd₂ 0) ∈
      (run (World.init (reusePrograms pd₁ pd₂ st others)) reuseRace).done ∧
    (run (run (World.init (reusePrograms pd₁ pd₂ st others)) reuseRace) acts).subscribed
      pd₁.fd = true ∧
    (run (run (World.init (reusePrograms pd₁ pd₂ st others)) reuseRace) acts).registry.pollDescs.lookup
      pd₁.fd = none ∧
    ∀ u ∈ (run (run (World.init (reusePrograms pd₁ pd₂ st others)) reuseRace) acts).unblocks,
      u.pd.fd ≠ pd₁.fd := by
  obtain ⟨hdone, hsub, habsent, hdisp, hunbl, hrest⟩ := reuseRace_run hfd hlive hothers
  have hk : FdKeyed (run (run (World.init (reusePrograms pd₁ pd₂ st others)) reuseRace) acts).registry := by
    rw [run, run, ← List.foldl_append]; exact fdKeyed_run _ _
  have hk₀ := fdKeyed_run (reusePrograms pd₁ pd₂ st others) reuseRace
  generalize run (World.init (reusePrograms pd₁ pd₂ st others)) reuseRace = w₀ at *
  -- no entry and no call left on the handle, and nothing in flight
  have hq : Quiet (·.fd = pd₁.fd) w₀ w₀ := quiet_self
    (fun h pd hl hpd => by rw [← hk₀ h pd hl, hpd, habsent] at hl; cases hl)
    (fun j pd r hr => hrest j _ hr)
  have hq' := hq.run acts
  refine ⟨by simp [hdone], (untouched_run hrest hacts).2.trans hsub, ?_, fun u hu hpd => ?_⟩
  · cases hl : (run w₀ acts).registry.pollDescs.lookup pd₁.fd with
    | none => rfl
    | some pd => exact absurd (hk _ pd hl) (hq'.registry _ pd hl)
  · have := hq'.unblocks u (by simpa [hunbl] using hu) hpd
    simp [hdisp, DispatcherPc.inFlight] at this

end Race

def otherThread : List (List RegistryCall) := [[.pollOpen ⟨3, 8⟩ 0]]

/-- After the race, the third thread opens its socket, the engine reports both
    handles readable, and the dispatcher handles the batch. -/
def afterRace : List Action :=
  [.client 2, .client 2, .client 2, .event ⟨7, SRT_EPOLL_IN⟩, .event ⟨8, SRT_EPOLL_IN⟩,
    .dispatcher, .dispatcher, .dispatcher, .dispatcher]

theorem reused_handle_race_loses_descriptor_other_thread :
    (⟨2, 7⟩ : PollDesc).fd = (⟨1, 7⟩ : PollDesc).fd ∧ removedInternally .SRTS_CONNECTED = false ∧
    (∀ p ∈ otherThread, ∀ c ∈ p, c.fd ≠ (⟨1, 7⟩ : PollDesc).fd) ∧
    Action.drop (⟨1, 7⟩ : PollDesc).fd ∉ afterRace ∧
    (1, RegistryCall.pollOpen ⟨2, 7⟩ 0) ∈
      (run (World.init (reusePrograms ⟨1, 7⟩ ⟨2, 7⟩ .SRTS_CONNECTED otherThread)) reuseRace).done ∧
    (run (run (World.init (reusePrograms ⟨1, 7⟩ ⟨2, 7⟩ .SRTS_CONNECTED otherThread)) reuseRace)
      afterRace).subscribed (⟨1, 7⟩ : PollDesc).fd = true ∧
    (run (run (World.init (reusePrograms ⟨1, 7⟩ ⟨2, 7⟩ .SRTS_CONNECTED otherThread)) reuseRace)
      afterRace).registry.pollDescs.lookup (⟨1, 7⟩ : PollDesc).fd = none ∧
    ∀ u ∈ (run (run (World.init (reusePrograms ⟨1, 7⟩ ⟨2, 7⟩ .SRTS_CONNECTED otherThread))
      reuseRace) afterRace).unblocks, u.pd.fd ≠ (⟨1, 7⟩ : PollDesc).fd :=
  have hothers : ∀ p ∈ otherThread, ∀ c ∈ p, c.fd ≠ (⟨1, 7⟩ : PollDesc).fd := by decide
  have hacts : Action.drop (⟨1, 7⟩ : PollDesc).fd ∉ afterRace := by decide
  ⟨rfl, rfl, hothers, hacts,
    @reused_handle_race_loses_descriptor ⟨1, 7⟩ ⟨2, 7⟩ .SRTS_CONNECTED otherThread rfl rfl hothers
      afterRace hacts⟩

end SrtGo.RegistryLock
