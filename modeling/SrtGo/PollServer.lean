import SrtGo.Basic
import Mathlib.Data.List.AList

/-!
# The poll registry: `pollOpen` and `pollClose`

`pollServer` (pollserver.go) maps socket handles to their poll descriptors.
`pollOpen` subscribes the handle to the shared epoll context and stores the
descriptor; `pollClose` asks the engine for the socket's state, returns at once
for a socket the engine already dropped, and otherwise unsubscribes it and
deletes the entry. The engine's answers (`srt_epoll_add_usock`,
`srt_getsockstate`, `srt_epoll_remove_usock`) are arguments of each call.

Each call updates the map once, inside `pollDescLock`, at its end; calls on
different handles touch different keys. A run is therefore modelled as the
sequence of calls in the order they took the lock, and `lookup_runCalls` shows
that what a run leaves under a handle depends only on the calls on that handle,
in their order: every interleaving that keeps the per-handle order ends in the
same entry.
-/

namespace SrtGo

/-- `SRT_SOCKSTATUS` of srt.h, the answer of `srt_getsockstate`. -/
inductive SRT_SOCKSTATUS where
  | SRTS_INIT
  | SRTS_OPENED
  | SRTS_LISTENING
  | SRTS_CONNECTING
  | SRTS_CONNECTED
  | SRTS_BROKEN
  | SRTS_CLOSING
  | SRTS_CLOSED
  | SRTS_NONEXIST
deriving DecidableEq, Repr

open SRT_SOCKSTATUS

/-- The states for which `pollClose` returns early: "Broken/closed sockets get
    removed internally by SRT lib". -/
def removedInternally (sockstate : SRT_SOCKSTATUS) : Bool :=
  sockstate == SRTS_BROKEN || sockstate == SRTS_CLOSING || sockstate == SRTS_CLOSED ||
    sockstate == SRTS_NONEXIST

/-- The registry of `pollServer`. The epoll id is only passed to the engine,
    whose answers the calls take as arguments, so the model keeps the map. -/
structure PollServer where
  pollDescs : AList (fun _ : SRTSOCKET => PollDesc)

/-- `pollServerCtxInit`: an empty map. -/
def PollServer.init : PollServer := ⟨∅⟩

namespace PollServer

/-- `pollOpen(pd)`, where `ret` is what `srt_epoll_add_usock` returned. -/
def pollOpen (p : PollServer) (pd : PollDesc) (ret : Int) : Except GoPanic PollServer :=
  if ret = -1 then .error (.panic "ERROR ADDING FD TO EPOLL")
  else .ok ⟨p.pollDescs.insert pd.fd pd⟩

/-- `pollClose(pd)`, where `sockstate` is what `srt_getsockstate` returned and
    `ret` what `srt_epoll_remove_usock` returned. -/
def pollClose (p : PollServer) (pd : PollDesc) (sockstate : SRT_SOCKSTATUS) (ret : Int) :
    Except GoPanic PollServer :=
  if removedInternally sockstate then .ok p
  else if ret = -1 then .error (.panic "ERROR REMOVING FD FROM EPOLL")
  else .ok ⟨p.pollDescs.erase pd.fd⟩

end PollServer

/-- One registry call with the engine's answers to it. -/
inductive RegistryCall where
  | pollOpen (pd : PollDesc) (ret : Int)
  | pollClose (pd : PollDesc) (sockstate : SRT_SOCKSTATUS) (ret : Int)
deriving DecidableEq, Repr

def RegistryCall.fd : RegistryCall → SRTSOCKET
  | .pollOpen pd _ | .pollClose pd _ _ => pd.fd

/-- A call that takes no early return. -/
def RegistryCall.Effective : RegistryCall → Prop
  | .pollOpen .. => True
  | .pollClose _ sockstate _ => removedInternally sockstate = false

/-- The entry such a call leaves under its own handle. -/
def RegistryCall.lastEntry : RegistryCall → Option PollDesc
  | .pollOpen pd _ => some pd
  | .pollClose .. => none

namespace PollServer

/-- Perform one call. -/
def apply (p : PollServer) : RegistryCall → Except GoPanic PollServer
  | .pollOpen pd ret => p.pollOpen pd ret
  | .pollClose pd sockstate ret => p.pollClose pd sockstate ret

/-- Perform calls in order; a panic ends the run. -/
def runCalls : PollServer → List RegistryCall → Except GoPanic PollServer
  | p, [] => .ok p
  | p, c :: cs => match p.apply c with
    | .error e => .error e
    | .ok p' => p'.runCalls cs

/-- A registry some run of calls from the initial one has reached. -/
def Reachable (p : PollServer) : Prop := ∃ calls, init.runCalls calls = .ok p

/-- Every entry is stored under its own handle. -/
def FdKeyed (p : PollServer) : Prop := ∀ h pd, p.pollDescs.lookup h = some pd → pd.fd = h

/-! ### What a call does to one handle's entry -/

/-- The entry under `h` after a call that returned, from the entry before it. -/
def entryStep (h : SRTSOCKET) (e : Option PollDesc) : RegistryCall → Option PollDesc
  | .pollOpen pd _ => if pd.fd = h then some pd else e
  | .pollClose pd sockstate _ =>
    if pd.fd = h ∧ removedInternally sockstate = false then none else e

theorem entryStep_of_fd_ne {h : SRTSOCKET} (e : Option PollDesc) {c : RegistryCall}
    (hc : c.fd ≠ h) : entryStep h e c = e := by
  cases c <;> simp_all [entryStep, RegistryCall.fd]

theorem lookup_apply {p p' : PollServer} {c : RegistryCall} (hc : p.apply c = .ok p')
    (h : SRTSOCKET) : p'.pollDescs.lookup h = entryStep h (p.pollDescs.lookup h) c := by
  cases c with
  | pollOpen pd ret =>
    simp only [apply, pollOpen] at hc
    split at hc
    · cases hc
    · cases hc
      by_cases hh : pd.fd = h
      · subst hh; simp [entryStep, AList.lookup_insert]
      · simp [entryStep, hh, AList.lookup_insert_ne (Ne.symm hh)]
  | pollClose pd sockstate ret =>
    simp only [apply, pollClose] at hc
    cases hr : removedInternally sockstate
    · simp only [hr, Bool.false_eq_true, if_false] at hc
      by_cases hret : ret = -1
      · rw [if_pos hret] at hc; cases hc
      · rw [if_neg hret] at hc
        cases hc
        by_cases hh : pd.fd = h
        · subst hh; simp [entryStep, hr, AList.lookup_erase]
        · simp [entryStep, hh, AList.lookup_erase_ne (Ne.symm hh)]
    · simp only [hr, if_true, Except.ok.injEq] at hc
      subst hc; simp [entryStep, hr]

theorem lookup_runCalls {p p' : PollServer} {calls : List RegistryCall}
    (hrun : p.runCalls calls = .ok p') (h : SRTSOCKET) :
    p'.pollDescs.lookup h = calls.foldl (entryStep h) (p.pollDescs.lookup h) := by
  induction calls generalizing p with
  | nil => cases hrun; rfl
  | cons c cs ih =>
    simp only [runCalls] at hrun
    split at hrun
    · cases hrun
    · rename_i q hq
      rw [ih hrun, List.foldl_cons, lookup_apply hq]

theorem foldl_entryStep_filter (h : SRTSOCKET) (e : Option PollDesc)
    (calls : List RegistryCall) :
    calls.foldl (entryStep h) e = (calls.filter (·.fd = h)).foldl (entryStep h) e := by
  induction calls generalizing e with
  | nil => rfl
  | cons c cs ih =>
    by_cases hc : c.fd = h
    · simp [hc, ih]
    · simp [hc, entryStep_of_fd_ne e hc, ih]

theorem fdKeyed_init : FdKeyed init := by
  intro h pd hl; simp [init] at hl

theorem FdKeyed.apply {p p' : PollServer} (hp : FdKeyed p) {c : RegistryCall}
    (hc : p.apply c = .ok p') : FdKeyed p' := by
  intro h pd hl
  rw [lookup_apply hc] at hl
  cases c with
  | pollOpen pd' _ =>
    simp only [entryStep] at hl
    split at hl
    · cases hl; assumption
    · exact hp h pd hl
  | pollClose pd' _ _ =>
    simp only [entryStep] at hl
    split at hl
    · cases hl
    · exact hp h pd hl

theorem FdKeyed.runCalls {p p' : PollServer} (hp : FdKeyed p) {calls : List RegistryCall}
    (hrun : p.runCalls calls = .ok p') : FdKeyed p' := by
  induction calls generalizing p with
  | nil => cases hrun; exact hp
  | cons c cs ih =>
    simp only [PollServer.runCalls] at hrun
    split at hrun
    · cases hrun
    · exact ih (hp.apply ‹_›) hrun

theorem Reachable.fdKeyed {p : PollServer} (hp : Reachable p) : FdKeyed p := by
  obtain ⟨calls, hrun⟩ := hp
  exact fdKeyed_init.runCalls hrun

/-! ### Registry contents over a run -/

/-- What a run from the initial registry leaves under a handle is decided by the
    calls on that handle alone, one `entryStep` each: a `pollOpen` stores its
    descriptor, a `pollClose` that found the socket live removes the entry, and
    a `pollClose` that found it broken, closing, closed or gone leaves the entry
    as it was. -/
theorem registry_entry_of_run {calls : List RegistryCall} {p : PollServer}
    (hrun : init.runCalls calls = .ok p) (h : SRTSOCKET) :
    p.pollDescs.lookup h = (calls.filter (·.fd = h)).foldl (entryStep h) none := by
  rw [lookup_runCalls hrun, foldl_entryStep_filter]
  rfl

theorem registry_entry_of_run_broken_close :
    init.runCalls [.pollOpen ⟨1, 7⟩ 0, .pollClose ⟨1, 7⟩ .SRTS_BROKEN 0] =
      .ok ⟨(∅ : AList fun _ : SRTSOCKET => PollDesc).insert 7 ⟨1, 7⟩⟩ ∧
    (⟨(∅ : AList fun _ : SRTSOCKET => PollDesc).insert 7 ⟨1, 7⟩⟩ : PollServer).pollDescs.lookup 7 =
      ([RegistryCall.pollOpen ⟨1, 7⟩ 0, .pollClose ⟨1, 7⟩ .SRTS_BROKEN 0].filter (·.fd = 7)).foldl
        (entryStep 7) none :=
  ⟨rfl, @registry_entry_of_run [.pollOpen ⟨1, 7⟩ 0, .pollClose ⟨1, 7⟩ .SRTS_BROKEN 0] _ rfl 7⟩

/-- A `pollClose(pd)` on a socket the engine reports broken returns normally
    and leaves `pd.fd` a key of `pollDescs`. -/
theorem pollClose_broken_socket_keeps_entry :
    ∃ p, init.runCalls [.pollOpen ⟨1, 7⟩ 0, .pollClose ⟨1, 7⟩ .SRTS_BROKEN 0] = .ok p ∧
      p.pollDescs.lookup 7 = some ⟨1, 7⟩ :=
  ⟨_, rfl, rfl⟩

theorem foldl_entryStep_of_effective {h : SRTSOCKET} :
    ∀ {l : List RegistryCall}, (∀ c ∈ l, c.fd = h ∧ c.Effective) → ∀ e,
      l.foldl (entryStep h) e = l.getLast?.elim e RegistryCall.lastEntry
  | [], _, _ => rfl
  | c :: cs, hl, e => by
    have hc : entryStep h e c = c.lastEntry := by
      obtain ⟨hfd, heff⟩ := hl c (List.mem_cons_self _ _)
      cases c <;> simp_all [entryStep, RegistryCall.lastEntry, RegistryCall.Effective,
        RegistryCall.fd]
    rw [List.foldl_cons, hc,
      foldl_entryStep_of_effective (fun c hc => hl c (List.mem_cons_of_mem _ hc))]
    cases cs with
    | nil => rfl
    | cons d ds =>
      simp only [List.getLast?_cons_cons, List.getLast?_eq_getLast (d :: ds) (List.cons_ne_nil _ _),
        Option.elim]

/-- When every `pollClose` of a run found its socket live, the registry holds
    exactly the handles whose last call was `pollOpen`, each with that call's
    descriptor. -/
theorem registry_entry_last_call_of_live_closes {calls : List RegistryCall} {p : PollServer}
    (hlive : ∀ c ∈ calls, c.Effective) (hrun : init.runCalls calls = .ok p) (h : SRTSOCKET) :
    p.pollDescs.lookup h = (calls.filter (·.fd = h)).getLast?.bind RegistryCall.lastEntry := by
  rw [lookup_runCalls hrun, foldl_entryStep_filter, foldl_entryStep_of_effective]
  · cases (calls.filter (·.fd = h)).getLast? <;> rfl
  · intro c hc
    rw [List.mem_filter] at hc
    exact ⟨by simpa using hc.2, hlive c hc.1⟩

theorem registry_entry_last_call_two_handles :
    (∀ c ∈ [RegistryCall.pollOpen ⟨1, 7⟩ 0, .pollOpen ⟨2, 8⟩ 0,
      .pollClose ⟨1, 7⟩ .SRTS_CONNECTED 0], c.Effective) ∧
    init.runCalls [.pollOpen ⟨1, 7⟩ 0, .pollOpen ⟨2, 8⟩ 0, .pollClose ⟨1, 7⟩ .SRTS_CONNECTED 0] =
      .ok ⟨(((∅ : AList fun _ : SRTSOCKET => PollDesc).insert 7 ⟨1, 7⟩).insert 8 ⟨2, 8⟩).erase 7⟩ ∧
    (⟨(((∅ : AList fun _ : SRTSOCKET => PollDesc).insert 7 ⟨1, 7⟩).insert 8 ⟨2, 8⟩).erase 7⟩ :
        PollServer).pollDescs.lookup 8 =
      ([RegistryCall.pollOpen ⟨1, 7⟩ 0, .pollOpen ⟨2, 8⟩ 0,
        .pollClose ⟨1, 7⟩ .SRTS_CONNECTED 0].filter (·.fd = 8)).getLast?.bind
        RegistryCall.lastEntry :=
  have hlive : ∀ c ∈ [RegistryCall.pollOpen ⟨1, 7⟩ 0, .pollOpen ⟨2, 8⟩ 0,
      .pollClose ⟨1, 7⟩ .SRTS_CONNECTED 0], c.Effective := by
    simp [RegistryCall.Effective, removedInternally]
  ⟨hlive, rfl, registry_entry_last_call_of_live_closes hlive rfl 8⟩

/-! ### A second `pollOpen` on a registered handle -/

/-- `pollOpen(pd₂)` on a handle that maps to another descriptor `pd₁` panics only
    when the engine's add answers `-1`. On any other answer it returns with `pd₂`
    stored in place of `pd₁`, and `pd₁` is then under no key at all: the registry
    leaves the rejection of a duplicate to the engine. -/
theorem pollOpen_duplicate_replaces_previous {p : PollServer} (hp : Reachable p)
    {pd₁ pd₂ : PollDesc} (h₁ : p.pollDescs.lookup pd₂.fd = some pd₁) (hne : pd₁ ≠ pd₂)
    (ret : Int) :
    (ret = -1 → p.pollOpen pd₂ ret = .error (.panic "ERROR ADDING FD TO EPOLL")) ∧
    (ret ≠ -1 → ∃ p', p.pollOpen pd₂ ret = .ok p' ∧ p'.pollDescs.lookup pd₂.fd = some pd₂ ∧
      ∀ h, p'.pollDescs.lookup h ≠ some pd₁) := by
  refine ⟨fun hr => by simp [pollOpen, hr],
    fun hr => ⟨⟨p.pollDescs.insert pd₂.fd pd₂⟩, by simp [pollOpen, hr], ?_, ?_⟩⟩
  · exact AList.lookup_insert _
  · intro h hl
    have hfd : pd₁.fd = pd₂.fd := hp.fdKeyed _ _ h₁
    by_cases hh : h = pd₂.fd
    · subst hh
      rw [AList.lookup_insert, Option.some.injEq] at hl
      exact hne hl.symm
    · rw [AList.lookup_insert_ne hh] at hl
      exact hh (hfd ▸ (hp.fdKeyed h pd₁ hl).symm)

theorem pollOpen_duplicate_on_handle_seven :
    Reachable ⟨(∅ : AList fun _ : SRTSOCKET => PollDesc).insert 7 ⟨1, 7⟩⟩ ∧
    (⟨1, 7⟩ : PollDesc) ≠ ⟨2, 7⟩ ∧
    ∃ p', (PollServer.mk ((∅ : AList fun _ : SRTSOCKET => PollDesc).insert 7 ⟨1, 7⟩)).pollOpen
        ⟨2, 7⟩ 0 = .ok p' ∧ p'.pollDescs.lookup 7 = some ⟨2, 7⟩ ∧
      ∀ h, p'.pollDescs.lookup h ≠ some ⟨1, 7⟩ :=
  have hr : Reachable ⟨(∅ : AList fun _ : SRTSOCKET => PollDesc).insert 7 ⟨1, 7⟩⟩ :=
    ⟨[.pollOpen ⟨1, 7⟩ 0], rfl⟩
  ⟨hr, by decide, (@pollOpen_duplicate_replaces_previous _ hr _ ⟨2, 7⟩ rfl (by decide) 0).2 (by decide)⟩

theorem pollOpen_duplicate_returns_overwritten :
    ∃ p, init.runCalls [.pollOpen ⟨1, 7⟩ 0, .pollOpen ⟨2, 7⟩ 0] = .ok p ∧
      p.pollDescs.lookup 7 = some ⟨2, 7⟩ :=
  ⟨_, rfl, rfl⟩

end PollServer

end SrtGo
