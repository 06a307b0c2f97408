import SrtGo.PollServer

/-!
# The dispatch loop: `run` and `processEvents`

One iteration of `pollServer.run` waits on the shared epoll context into a
512-entry event array and hands the first `min(res, 512)` events to
`processEvents`. That takes a snapshot of the registry under the lock (the
descriptor and flags of each event whose handle is registered) and then, with
the lock released, unblocks each snapshotted descriptor: both directions with
an error on `SRT_EPOLL_ERR`, otherwise the read direction on `SRT_EPOLL_IN` and
the write direction on `SRT_EPOLL_OUT`.

An iteration's output is the list of `pd.unblock` calls it makes, in order.
`runIteration_unblocks` states that list for every reachable registry, every
positive poll result and every event array, and shows that each unblock goes
to a descriptor opened for the event's own handle. From that follow the
dispatcher's two promises to blocked callers: events on other handles never
reach a descriptor (`processEvents_no_cross_wake`), and a batch of readable
events on distinct handles wakes each descriptor exactly once
(`runIteration_readable_wakes_each_once`).
-/

namespace SrtGo

/-- `SRT_EPOLL_EVENT`: a handle and its event flags, a C `int`. -/
structure SRT_EPOLL_EVENT where
  fd : SRTSOCKET
  events : BitVec 32
deriving DecidableEq, Repr

/-- The event flags of srt.h that the loop tests. -/
def SRT_EPOLL_IN : BitVec 32 := 0x1
def SRT_EPOLL_OUT : BitVec 32 := 0x4
def SRT_EPOLL_ERR : BitVec 32 := 0x8

def SRT_ETIMEOUT : Int := 6003

/-- One call `pd.unblock(mode, isError, isReady)`. -/
structure Unblock where
  pd : PollDesc
  mode : PollMode
  isError : Bool
  isReady : Bool
deriving DecidableEq, Repr

/-- The array `fds := [512]C.SRT_EPOLL_EVENT{}` of `run`. -/
structure EventArray where
  events : List SRT_EPOLL_EVENT
  length_eq : events.length = 512

/-- `fdlen := C.int(512)`. -/
def fdlen : Int := 512

/-- `fds[:high]`: Go checks `0 <= high <= cap(fds)`. -/
def EventArray.sliceTo (fds : EventArray) (high : Int) : Except GoPanic (List SRT_EPOLL_EVENT) :=
  if 0 ≤ high ∧ high ≤ fds.events.length then .ok (fds.events.take high.toNat)
  else .error (.sliceOutOfRange 0 high.toNat)

/-- The body of the dispatch loop for one snapshotted descriptor and its flags. -/
def eventUnblocks (pd : PollDesc) (eventFlags : BitVec 32) : List Unblock :=
  if eventFlags &&& SRT_EPOLL_ERR != 0 then
    [⟨pd, .ModeRead, true, false⟩, ⟨pd, .ModeWrite, true, false⟩]
  else
    (if eventFlags &&& SRT_EPOLL_IN != 0 then [⟨pd, .ModeRead, false, true⟩] else []) ++
    (if eventFlags &&& SRT_EPOLL_OUT != 0 then [⟨pd, .ModeWrite, false, true⟩] else [])

theorem mem_eventUnblocks {pd : PollDesc} {eventFlags : BitVec 32} {u : Unblock}
    (hu : u ∈ eventUnblocks pd eventFlags) :
    u.pd = pd ∧ (u.isError = true ∨ u.isReady = true) := by
  simp only [eventUnblocks] at hu
  split at hu
  · simp at hu; rcases hu with rfl | rfl <;> simp
  · simp only [List.mem_append] at hu
    rcases hu with hu | hu <;> (split at hu <;> simp at hu; subst hu; simp)

/-- The second loop of `processEvents`, over `eventPds` and `eventTypes`:
    a nil descriptor is skipped. -/
def dispatchSnapshot : List (Option PollDesc × BitVec 32) → List Unblock
  | [] => []
  | (none, _) :: rest => dispatchSnapshot rest
  | (some pd, eventFlags) :: rest => eventUnblocks pd eventFlags ++ dispatchSnapshot rest

namespace PollServer

/-- One entry of the snapshot: the registered descriptor and the event's flags,
    or the zero values `nil` and `0`. -/
def snapshotEntry (p : PollServer) (event : SRT_EPOLL_EVENT) : Option PollDesc × BitVec 32 :=
  match p.pollDescs.lookup event.fd with
  | some pd => (some pd, event.events)
  | none => (none, 0)

/-- The snapshot `processEvents` takes under the lock (`eventPds`, `eventTypes`). -/
def snapshot (p : PollServer) (events : List SRT_EPOLL_EVENT) :
    List (Option PollDesc × BitVec 32) :=
  events.map p.snapshotEntry

/-- `processEvents`: the unblock calls for one batch, in order. -/
def processEvents (p : PollServer) (events : List SRT_EPOLL_EVENT) : List Unblock :=
  dispatchSnapshot (p.snapshot events)

/-- One iteration of `run` after `srt_epoll_uwait` returned `res` (and, for `-1`,
    `srt_getlasterror` returned `errno`): the unblocks it makes, or the panic. -/
def runIteration (p : PollServer) (fds : EventArray) (res errno : Int) :
    Except GoPanic (List Unblock) :=
  if res = 0 then .ok []
  else if res = -1 then
    if errno = SRT_ETIMEOUT then .ok [] else .error (.panic "srt_epoll_error")
  else if res > 0 then
    let max := if fdlen < res then fdlen else res
    (fds.sliceTo max).map p.processEvents
  else .ok []

/-- The unblocks for one event against the registry, as one pass. -/
def unblocksFor (p : PollServer) (event : SRT_EPOLL_EVENT) : List Unblock :=
  match p.pollDescs.lookup event.fd with
  | none => []
  | some pd => eventUnblocks pd event.events

theorem processEvents_eq_flatMap (p : PollServer) (events : List SRT_EPOLL_EVENT) :
    p.processEvents events = events.flatMap p.unblocksFor := by
  induction events with
  | nil => rfl
  | cons e es ih =>
    rw [List.flatMap_cons, ← ih]
    simp only [processEvents, snapshot, List.map_cons, unblocksFor, snapshotEntry]
    cases p.pollDescs.lookup e.fd <;> rfl

theorem runIteration_of_pos (p : PollServer) (fds : EventArray) {res : Int} (hres : 0 < res)
    (errno : Int) :
    p.runIteration fds res errno =
      .ok ((fds.events.take (min res 512).toNat).flatMap p.unblocksFor) := by
  have hmax : (if fdlen < res then fdlen else res) = min res 512 := by
    simp only [fdlen]; split <;> omega
  have hslice : fds.sliceTo (min res 512) = .ok (fds.events.take (min res 512).toNat) := by
    simp only [EventArray.sliceTo, fds.length_eq]
    rw [if_pos (by omega)]
  simp only [runIteration, if_neg (show res ≠ 0 by omega), if_neg (show res ≠ -1 by omega),
    if_pos hres, hmax, hslice, Except.map, processEvents_eq_flatMap]

/-- For every reachable registry, positive poll result and event array, one
    iteration makes exactly these unblocks, in order: for each of the first
    `min(res, 512)` events, none when its handle is not registered, both
    directions with an error on `ERR`, and otherwise read on `IN` followed by
    write on `OUT`. The slice never passes the array, and each registered
    event's descriptor was opened for that event's own handle. -/
theorem runIteration_unblocks {p : PollServer} (hp : Reachable p) (fds : EventArray)
    {res : Int} (hres : 0 < res) (errno : Int) :
    p.runIteration fds res errno = .ok ((fds.events.take (min res 512).toNat).flatMap fun e =>
      match p.pollDescs.lookup e.fd with
      | none => []
      | some pd =>
        if e.events &&& SRT_EPOLL_ERR != 0 then
          [⟨pd, .ModeRead, true, false⟩, ⟨pd, .ModeWrite, true, false⟩]
        else
          (if e.events &&& SRT_EPOLL_IN != 0 then [⟨pd, .ModeRead, false, true⟩] else []) ++
          (if e.events &&& SRT_EPOLL_OUT != 0 then [⟨pd, .ModeWrite, false, true⟩] else [])) ∧
    ∀ e ∈ fds.events.take (min res 512).toNat, ∀ pd,
      p.pollDescs.lookup e.fd = some pd → pd.fd = e.fd :=
  ⟨runIteration_of_pos p fds hres errno, fun e _ pd hl => hp.fdKeyed e.fd pd hl⟩

def readableOnSeven : EventArray :=
  ⟨List.replicate 512 ⟨7, SRT_EPOLL_IN⟩, List.length_replicate _ _⟩

def openedSeven : PollServer := ⟨(∅ : AList fun _ : SRTSOCKET => PollDesc).insert 7 ⟨1, 7⟩⟩

theorem runIteration_unblocks_readable_seven :
    Reachable openedSeven ∧ (0 : Int) < 3 ∧
    (openedSeven.runIteration readableOnSeven (3 : Int) 0 =
      .ok ((readableOnSeven.events.take (min (3 : Int) 512).toNat).flatMap fun e =>
        match openedSeven.pollDescs.lookup e.fd with
        | none => []
        | some pd =>
          if e.events &&& SRT_EPOLL_ERR != 0 then
            [⟨pd, .ModeRead, true, false⟩, ⟨pd, .ModeWrite, true, false⟩]
          else
            (if e.events &&& SRT_EPOLL_IN != 0 then [⟨pd, .ModeRead, false, true⟩] else []) ++
            (if e.events &&& SRT_EPOLL_OUT != 0 then [⟨pd, .ModeWrite, false, true⟩] else [])) ∧
      ∀ e ∈ readableOnSeven.events.take (min (3 : Int) 512).toNat, ∀ pd,
        openedSeven.pollDescs.lookup e.fd = some pd → pd.fd = e.fd) :=
  have hr : Reachable openedSeven := ⟨[.pollOpen ⟨1, 7⟩ 0], rfl⟩
  ⟨hr, by decide, runIteration_unblocks hr readableOnSeven (by decide) 0⟩

example : openedSeven.runIteration readableOnSeven (3 : Int) 0 =
    .ok (List.replicate 3 ⟨⟨1, 7⟩, .ModeRead, false, true⟩) := by
  rw [runIteration_of_pos _ _ (by decide : (0 : Int) < 3)]
  rfl

/-! ### Events on one handle wake only that handle's descriptor -/

theorem unblocksFor_filter_of_fd_ne {p : PollServer} (hp : FdKeyed p) {pd : PollDesc}
    {e : SRT_EPOLL_EVENT} (he : e.fd ≠ pd.fd) :
    (p.unblocksFor e).filter (fun u => u.pd = pd) = [] := by
  unfold unblocksFor
  split
  · rfl
  · rename_i pd' hl
    refine List.filter_eq_nil_iff.mpr fun u hu => ?_
    have hpd' : pd'.fd = e.fd := hp e.fd pd' hl
    rw [(mem_eventUnblocks hu).1, decide_eq_true_iff]
    rintro rfl
    exact he hpd'.symm

/-- A blocked call on one socket is unaffected by events on the others: for
    every reachable registry and every batch, `processEvents` makes the same
    unblocks on `pd` as it makes for the batch's events on `pd`'s own handle
    alone. -/
theorem processEvents_no_cross_wake {p : PollServer} (hp : Reachable p) (pd : PollDesc)
    (events : List SRT_EPOLL_EVENT) :
    (p.processEvents events).filter (fun u => u.pd = pd) =
      (p.processEvents (events.filter fun e => e.fd = pd.fd)).filter (fun u => u.pd = pd) := by
  simp only [processEvents_eq_flatMap]
  induction events with
  | nil => rfl
  | cons e es ih =>
    rw [List.flatMap_cons, List.filter_append, ih, List.filter_cons]
    by_cases he : e.fd = pd.fd
    · simp only [he, decide_True, if_true, List.flatMap_cons, List.filter_append]
    · simp only [he, decide_False, Bool.false_eq_true, if_false,
        unblocksFor_filter_of_fd_ne hp.fdKeyed he, List.nil_append]

def openedSevenEight : PollServer :=
  ⟨((∅ : AList fun _ : SRTSOCKET => PollDesc).insert 7 ⟨1, 7⟩).insert 8 ⟨2, 8⟩⟩

theorem reachable_openedSevenEight : Reachable openedSevenEight :=
  ⟨[.pollOpen ⟨1, 7⟩ 0, .pollOpen ⟨2, 8⟩ 0], rfl⟩

theorem processEvents_no_cross_wake_seven :
    Reachable openedSevenEight ∧
    (openedSevenEight.processEvents [⟨7, SRT_EPOLL_IN⟩, ⟨8, SRT_EPOLL_ERR⟩]).filter
        (fun u => u.pd = ⟨1, 7⟩) =
      (openedSevenEight.processEvents ([⟨7, SRT_EPOLL_IN⟩, ⟨8, SRT_EPOLL_ERR⟩].filter
        fun e => e.fd = (⟨1, 7⟩ : PollDesc).fd)).filter (fun u => u.pd = ⟨1, 7⟩) :=
  ⟨reachable_openedSevenEight,
    processEvents_no_cross_wake reachable_openedSevenEight ⟨1, 7⟩ _⟩

theorem unblocksFor_readable {p : PollServer} {e : SRT_EPOLL_EVENT} {pd : PollDesc}
    (hl : p.pollDescs.lookup e.fd = some pd) (hin : e.events = SRT_EPOLL_IN) :
    p.unblocksFor e = [⟨pd, .ModeRead, false, true⟩] := by
  simp only [unblocksFor, hl, hin]
  rfl

theorem flatMap_unblocksFor_readable {p : PollServer} (hp : FdKeyed p) :
    ∀ {events : List SRT_EPOLL_EVENT}, (events.map (·.fd)).Nodup →
      (∀ e ∈ events, (p.pollDescs.lookup e.fd).isSome) →
      (∀ e ∈ events, e.events = SRT_EPOLL_IN) →
      (events.flatMap p.unblocksFor).length = events.length ∧
      (events.flatMap p.unblocksFor).Nodup ∧
      (∀ u ∈ events.flatMap p.unblocksFor, u.mode = .ModeRead ∧ u.isError = false ∧
        u.isReady = true ∧ ∃ e ∈ events, p.pollDescs.lookup e.fd = some u.pd) ∧
      ∀ e ∈ events, ∀ pd, p.pollDescs.lookup e.fd = some pd →
        (⟨pd, .ModeRead, false, true⟩ : Unblock) ∈ events.flatMap p.unblocksFor
  | [], _, _, _ => by simp
  | e :: es, hnd, hreg, hin => by
    obtain ⟨pd, hl⟩ := Option.isSome_iff_exists.mp (hreg e (List.mem_cons_self _ _))
    rw [List.map_cons, List.nodup_cons] at hnd
    obtain ⟨hlen, hnodup, hmem, hcov⟩ := flatMap_unblocksFor_readable hp hnd.2
      (fun e' h => hreg e' (List.mem_cons_of_mem _ h)) (fun e' h => hin e' (List.mem_cons_of_mem _ h))
    rw [List.flatMap_cons, unblocksFor_readable hl (hin e (List.mem_cons_self _ _)),
      List.singleton_append]
    refine ⟨by simp [hlen], List.nodup_cons.mpr ⟨fun h => hnd.1 ?_, hnodup⟩, fun u hu => ?_,
      fun e' he' pd' hl' => ?_⟩
    · -- another event of the batch with `pd` registered has `pd`'s handle
      obtain ⟨-, -, -, e', he', hl'⟩ := hmem _ h
      rw [← hp e.fd pd hl, hp e'.fd pd hl']
      exact List.mem_map_of_mem _ he'
    · rcases List.mem_cons.mp hu with rfl | hu
      · exact ⟨rfl, rfl, rfl, e, List.mem_cons_self _ _, hl⟩
      · obtain ⟨h₁, h₂, h₃, e', he', hl'⟩ := hmem u hu
        exact ⟨h₁, h₂, h₃, e', List.mem_cons_of_mem _ he', hl'⟩
    · rcases List.mem_cons.mp he' with rfl | he'
      · rw [hl] at hl'; cases hl'; exact List.mem_cons_self _ _
      · exact List.mem_cons_of_mem _ (hcov e' he' pd' hl')

/-- One iteration over readable events on distinct registered handles wakes
    each of their descriptors exactly once: for every reachable registry and
    positive poll result, it makes `min(res, 512)` read unblocks, all different,
    each to the descriptor registered for one of the batch's events, and the
    descriptor of every event of the batch among them. -/
theorem runIteration_readable_wakes_each_once {p : PollServer} (hp : Reachable p)
    (fds : EventArray) {res : Int} (hres : 0 < res) (errno : Int)
    (hfd : ((fds.events.take (min res 512).toNat).map (·.fd)).Nodup)
    (hreg : ∀ e ∈ fds.events.take (min res 512).toNat, (p.pollDescs.lookup e.fd).isSome)
    (hin : ∀ e ∈ fds.events.take (min res 512).toNat, e.events = SRT_EPOLL_IN) :
    ∃ us, p.runIteration fds res errno = .ok us ∧ us.length = (min res 512).toNat ∧ us.Nodup ∧
      (∀ u ∈ us, u.mode = .ModeRead ∧ u.isError = false ∧ u.isReady = true ∧
        ∃ e ∈ fds.events.take (min res 512).toNat, p.pollDescs.lookup e.fd = some u.pd) ∧
      ∀ e ∈ fds.events.take (min res 512).toNat, ∀ pd, p.pollDescs.lookup e.fd = some pd →
        (⟨pd, .ModeRead, false, true⟩ : Unblock) ∈ us := by
  obtain ⟨hlen, hnodup, hmem, hcov⟩ := flatMap_unblocksFor_readable hp.fdKeyed hfd hreg hin
  refine ⟨_, runIteration_of_pos p fds hres errno, ?_, hnodup, hmem, hcov⟩
  rw [hlen, List.length_take, fds.length_eq]
  omega

def readableOnSevenEight : EventArray :=
  ⟨⟨7, SRT_EPOLL_IN⟩ :: ⟨8, SRT_EPOLL_IN⟩ :: List.replicate 510 ⟨7, SRT_EPOLL_OUT⟩,
    by rw [List.length_cons, List.length_cons, List.length_replicate]⟩

theorem runIteration_readable_wakes_each_once_two :
    Reachable openedSevenEight ∧ (0 : Int) < 2 ∧
    ((readableOnSevenEight.events.take (min (2 : Int) 512).toNat).map (·.fd)).Nodup ∧
    (∀ e ∈ readableOnSevenEight.events.take (min (2 : Int) 512).toNat,
      (openedSevenEight.pollDescs.lookup e.fd).isSome) ∧
    (∀ e ∈ readableOnSevenEight.events.take (min (2 : Int) 512).toNat, e.events = SRT_EPOLL_IN) ∧
    ∃ us, openedSevenEight.runIteration readableOnSevenEight 2 0 = .ok us ∧
      us.length = (min (2 : Int) 512).toNat ∧ us.Nodup ∧
      (∀ u ∈ us, u.mode = .ModeRead ∧ u.isError = false ∧ u.isReady = true ∧
        ∃ e ∈ readableOnSevenEight.events.take (min (2 : Int) 512).toNat,
          openedSevenEight.pollDescs.lookup e.fd = some u.pd) ∧
      ∀ e ∈ readableOnSevenEight.events.take (min (2 : Int) 512).toNat, ∀ pd,
        openedSevenEight.pollDescs.lookup e.fd = some pd →
          (⟨pd, .ModeRead, false, true⟩ : Unblock) ∈ us :=
  have hfd : ((readableOnSevenEight.events.take (min (2 : Int) 512).toNat).map (·.fd)).Nodup := by
    decide
  have hreg : ∀ e ∈ readableOnSevenEight.events.take (min (2 : Int) 512).toNat,
      (openedSevenEight.pollDescs.lookup e.fd).isSome := by decide
  have hin : ∀ e ∈ readableOnSevenEight.events.take (min (2 : Int) 512).toNat,
      e.events = SRT_EPOLL_IN := by decide
  ⟨reachable_openedSevenEight, by decide, hfd, hreg, hin,
    runIteration_readable_wakes_each_once reachable_openedSevenEight readableOnSevenEight
      (by decide) 0 hfd hreg hin⟩

/-! ### Which descriptors a batch can reach -/

theorem mem_processEvents {p : PollServer} {events : List SRT_EPOLL_EVENT} {u : Unblock}
    (hu : u ∈ p.processEvents events) : ∃ e ∈ events, p.pollDescs.lookup e.fd = some u.pd := by
  rw [processEvents_eq_flatMap, List.mem_flatMap] at hu
  obtain ⟨e, he, hu⟩ := hu
  unfold unblocksFor at hu
  split at hu
  · cases hu
  · rename_i pd hl
    exact ⟨e, he, (mem_eventUnblocks hu).1 ▸ hl⟩

theorem foldl_entryStep_ne {pd : PollDesc} {h : SRTSOCKET} :
    ∀ {calls : List RegistryCall}, (∀ r, .pollOpen pd r ∉ calls) → ∀ {e : Option PollDesc},
      e ≠ some pd → calls.foldl (entryStep h) e ≠ some pd
  | [], _, _, he => he
  | c :: cs, hno, e, he => by
    rw [List.foldl_cons]
    refine foldl_entryStep_ne (fun r hr => hno r (List.mem_cons_of_mem _ hr)) ?_
    cases c with
    | pollOpen pd' r =>
      have hne : pd' ≠ pd := by rintro rfl; exact hno r (List.mem_cons_self _ _)
      simp only [entryStep]
      split
      · exact fun hs => hne (Option.some.inj hs)
      · exact he
    | pollClose pd' sockstate r =>
      simp only [entryStep]
      split
      · exact nofun
      · exact he

end PollServer

end SrtGo
