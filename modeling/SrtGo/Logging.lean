import SrtGo.Basic
import Mathlib.Data.List.Count

/-!
# The log-handler bridge under concurrent installation

`SrtSetLogHandler(cb)` (logging.go) saves `cb` in go-pointer's registry,
installs the saved pointer as the engine's log-handler opaque value, and then,
under `logCBPtrLock`, unrefs the previously stored pointer and stores the new
one. `SrtUnsetLogHandler` installs nil and stores nil the same way. The engine
calls `srtLogCBWrapper` with the installed pointer, which restores the
callback from the registry.

Each call is a small thread; `LogWorld` holds every thread's place, the
registry, the engine's installed pointer and `logCBPtr`, and `logStep` moves one
thread one step. The engine step is outside the lock, so two installations can
interleave crosswise: `crossed_installs_leave_dead_pointer` ends with the engine
holding a pointer that the other call already unref'd. Calls that do not
overlap keep the engine and `logCBPtr` in step (`sequential_calls_keep_handler`).
The bridge's own state is sound under every interleaving
(`every_interleaving_keeps_logCBPtr_live`): the invariant `LogWorld.Sound`
holds initially and after every step of every thread, so what `logCBPtr` holds
always restores and no pointer is unref'd twice.
-/

namespace SrtGo.Logging

/-- Where a call of the bridge is. Pointers are go-pointer's keys, callbacks are
    named by a number. -/
inductive LogPc where
  /-- `SrtSetLogHandler(cb)`, before `gopointer.Save(cb)` -/
  | setStart (cb : Nat)
  /-- after the save; next `srt_setloghandler(ptr, srtLogCB)` -/
  | setSaved (ptr : Nat)
  /-- `SrtUnsetLogHandler`, before `srt_setloghandler(nil, nil)` -/
  | unsetStart
  /-- next `storeLogCBPtr(ptr)` -/
  | store (ptr : Option Nat)
  /-- returned -/
  | done
deriving DecidableEq, Repr

/-- The bridge's shared state and the threads calling into it. `unrefs` logs
    every `gopointer.Unref` and `saved` every pointer `gopointer.Save` handed
    out. -/
structure LogWorld where
  next : Nat
  registry : List (Nat × Nat)
  engine : Option Nat
  logCBPtr : Option Nat
  saved : List Nat
  unrefs : List Nat
  threads : List LogPc
deriving DecidableEq, Repr

/-- The package before any call, with these calls started. -/
def LogWorld.init (threads : List LogPc) : LogWorld := ⟨1, [], none, none, [], [], threads⟩

/-- `gopointer.Restore(ptr)`. -/
def LogWorld.restore (w : LogWorld) (ptr : Nat) : Option Nat :=
  (w.registry.find? (·.1 = ptr)).map (·.2)

/-- `srtLogCBWrapper(arg)`: the callback it calls, or the panic of the type
    assertion on the nil `Restore` returns for an unknown pointer. -/
def srtLogCBWrapper (w : LogWorld) (arg : Nat) : Except GoPanic Nat :=
  match w.restore arg with
  | some cb => .ok cb
  | none => .error .nilTypeAssertion

/-- `storeLogCBPtr(ptr)`, atomic under `logCBPtrLock`. -/
def LogWorld.storeLogCBPtr (w : LogWorld) (ptr : Option Nat) : LogWorld :=
  match w.logCBPtr with
  | some old => { w with registry := w.registry.filter (·.1 ≠ old), unrefs := w.unrefs ++ [old],
                         logCBPtr := ptr }
  | none => { w with logCBPtr := ptr }

/-- One step of the call at `pc`, and where it goes next. -/
def LogWorld.callStep (w : LogWorld) : LogPc → LogWorld × LogPc
  | .setStart cb =>
    ({ w with next := w.next + 1, registry := w.registry ++ [(w.next, cb)],
              saved := w.saved ++ [w.next] }, .setSaved w.next)
  | .setSaved ptr => ({ w with engine := some ptr }, .store (some ptr))
  | .unsetStart => ({ w with engine := none }, .store none)
  | .store ptr => (w.storeLogCBPtr ptr, .done)
  | .done => (w, .done)

/-- Thread `i` moves one step. -/
def logStep (w : LogWorld) (i : Nat) : LogWorld :=
  match w.threads[i]? with
  | some pc =>
    let r := w.callStep pc
    { r.1 with threads := w.threads.set i r.2 }
  | none => w

def logRun (w : LogWorld) (sched : List Nat) : LogWorld := sched.foldl logStep w

/-! ### Two installations that cross -/

/-- Two `SrtSetLogHandler` calls: the first saves and installs its pointer, the
    second saves, installs and stores its own, and the first stores last. -/
def crossedInstalls : List Nat := [0, 0, 1, 1, 1, 0]

/-- After the crossed schedule both calls have returned, the engine holds the
    second call's pointer, `logCBPtr` the first's, and the second pointer is
    gone from the registry: the engine's next log line makes `srtLogCBWrapper`
    panic. -/
theorem crossed_installs_leave_dead_pointer :
    (logRun (.init [.setStart 10, .setStart 20]) crossedInstalls).threads = [.done, .done] ∧
    (logRun (.init [.setStart 10, .setStart 20]) crossedInstalls).engine = some 2 ∧
    (logRun (.init [.setStart 10, .setStart 20]) crossedInstalls).logCBPtr = some 1 ∧
    srtLogCBWrapper (logRun (.init [.setStart 10, .setStart 20]) crossedInstalls) 2 =
      .error .nilTypeAssertion :=
  ⟨rfl, rfl, rfl, rfl⟩

/-! ### Calls that do not overlap -/

namespace LogWorld

/-- A call run by itself for at most `fuel` steps. -/
def runAlone (w : LogWorld) : Nat → LogPc → LogWorld
  | 0, _ => w
  | _, .done => w
  | fuel + 1, pc => (w.callStep pc).1.runAlone fuel (w.callStep pc).2

/-- `SrtSetLogHandler(cb)` (`some cb`) or `SrtUnsetLogHandler()` (`none`), with
    no other call overlapping it. -/
def applyCall (w : LogWorld) : Option Nat → LogWorld
  | some cb => w.runAlone 3 (.setStart cb)
  | none => w.runAlone 2 .unsetStart

/-- The pointers go-pointer still holds. -/
def live (w : LogWorld) : List Nat := w.registry.map Prod.fst

/-- The bookkeeping the bridge is meant to keep: the engine holds `logCBPtr`,
    the registry holds exactly that pointer, and every other pointer ever saved
    was unref'd exactly once. -/
structure Bookkept (w : LogWorld) : Prop where
  engine_eq : w.engine = w.logCBPtr
  live_eq : w.live = w.logCBPtr.toList
  count_unrefs : ∀ p ∈ w.saved, w.unrefs.count p = if p ∈ w.live then 0 else 1
  unrefs_saved : ∀ p ∈ w.unrefs, p ∈ w.saved
  live_saved : ∀ p ∈ w.live, p ∈ w.saved
  saved_lt : ∀ p ∈ w.saved, p < w.next

theorem bookkept_init : Bookkept (init []) :=
  ⟨rfl, rfl, by simp [init], by simp [init], by simp [init, live], by simp [init]⟩

theorem applyCall_some (w : LogWorld) (cb : Nat) :
    w.applyCall (some cb) =
      { w with next := w.next + 1, registry := w.registry ++ [(w.next, cb)],
               saved := w.saved ++ [w.next], engine := some w.next }.storeLogCBPtr
        (some w.next) := rfl

theorem applyCall_none (w : LogWorld) :
    w.applyCall none = { w with engine := none }.storeLogCBPtr none := rfl

theorem live_filter (w : LogWorld) (old : Nat) :
    (w.registry.filter (·.1 ≠ old)).map Prod.fst = w.live.filter (· ≠ old) := by
  simp [live, List.filter_map, Function.comp_def]

theorem Bookkept.storeLogCBPtr {w : LogWorld} {ptr : Option Nat} (hengine : w.engine = ptr)
    (hlive : w.live = w.logCBPtr.toList ++ ptr.toList)
    (hcount : ∀ p ∈ w.saved, w.unrefs.count p = if p ∈ w.live then 0 else 1)
    (hunrefs : ∀ p ∈ w.unrefs, p ∈ w.saved) (hlsaved : ∀ p ∈ w.live, p ∈ w.saved)
    (hlt : ∀ p ∈ w.saved, p < w.next) (hne : ∀ q, ptr = some q → w.logCBPtr ≠ some q) :
    Bookkept (w.storeLogCBPtr ptr) := by
  unfold LogWorld.storeLogCBPtr
  cases hc : w.logCBPtr with
  | none =>
    simp only [hc, Option.toList_none, List.nil_append] at hlive
    exact ⟨hengine, hlive, hcount, hunrefs, hlsaved, hlt⟩
  | some old =>
    simp only [hc, Option.toList_some, List.singleton_append] at hlive
    have hold : old ∉ ptr.toList := by
      rw [Option.mem_toList, Option.mem_def]; exact fun h => hne old h hc
    have hlive' : (w.registry.filter (·.1 ≠ old)).map Prod.fst = ptr.toList := by
      rw [live_filter, hlive, List.filter_cons_of_neg (by simp), List.filter_eq_self]
      exact fun q hq => by simpa using ne_of_mem_of_not_mem hq hold
    refine ⟨hengine, hlive', fun p hp => ?_, fun p hp => ?_, fun p hp => ?_, hlt⟩
    · show List.count p (w.unrefs ++ [old]) =
        if p ∈ (w.registry.filter (·.1 ≠ old)).map Prod.fst then 0 else 1
      simp only [hlive', List.count_append, hcount p hp, hlive, List.mem_cons,
        List.count_singleton']
      by_cases hpo : p = old
      · subst hpo; simp [hold]
      · simp [hpo, Ne.symm hpo]
    · rcases List.mem_append.mp hp with hp | hp
      · exact hunrefs p hp
      · rw [List.mem_singleton.mp hp]; exact hlsaved old (by simp [hlive])
    · simp only [LogWorld.live, hlive'] at hp
      exact hlsaved p (by rw [hlive]; exact List.mem_cons_of_mem _ hp)

theorem Bookkept.applyCall {w : LogWorld} (hw : Bookkept w) : ∀ c, Bookkept (w.applyCall c)
  | some cb => by
    have hfresh : ∀ p ∈ w.saved, p ≠ w.next := fun p hp => (hw.saved_lt p hp).ne
    have hlive : (w.registry ++ [(w.next, cb)]).map Prod.fst = w.live ++ [w.next] := by
      simp [live]
    rw [applyCall_some]
    refine Bookkept.storeLogCBPtr rfl ?_ (fun p hp => ?_) (fun p hp => ?_) (fun p hp => ?_)
      (fun p hp => ?_) (fun q hq hc => ?_)
    · show (w.registry ++ [(w.next, cb)]).map Prod.fst = _
      rw [hlive, hw.live_eq]; rfl
    · show List.count p w.unrefs = if p ∈ (w.registry ++ [(w.next, cb)]).map Prod.fst then 0 else 1
      rw [hlive]
      rcases List.mem_append.mp hp with hp | hp
      · simp [hw.count_unrefs p hp, hfresh p hp]
      · rw [List.mem_singleton.mp hp, List.count_eq_zero.mpr fun h =>
          hfresh _ (hw.unrefs_saved _ h) rfl]
        simp
    · exact List.mem_append_left _ (hw.unrefs_saved p hp)
    · change p ∈ (w.registry ++ [(w.next, cb)]).map Prod.fst at hp
      rw [hlive, List.mem_append] at hp
      exact List.mem_append.mpr (hp.imp (hw.live_saved p) id)
    · rcases List.mem_append.mp hp with hp | hp
      · exact Nat.lt_succ_of_lt (hw.saved_lt p hp)
      · rw [List.mem_singleton.mp hp]; exact Nat.lt_succ_self _
    · cases hq
      exact hfresh _ (hw.live_saved _ (by rw [hw.live_eq, hc]; simp)) rfl
  | none => by
    rw [applyCall_none]
    exact Bookkept.storeLogCBPtr rfl (by simpa using hw.live_eq) hw.count_unrefs hw.unrefs_saved
      hw.live_saved hw.saved_lt nofun

theorem Bookkept.foldl_applyCall {w : LogWorld} (hw : Bookkept w) :
    ∀ calls : List (Option Nat), Bookkept (calls.foldl LogWorld.applyCall w)
  | [] => hw
  | c :: cs => (hw.applyCall c).foldl_applyCall cs

end LogWorld

theorem srtLogCBWrapper_of_mem_live {w : LogWorld} {p : Nat} (hp : p ∈ w.live) :
    ∃ cb, srtLogCBWrapper w p = .ok cb := by
  obtain ⟨⟨q, cb⟩, hq, rfl⟩ := List.mem_map.mp hp
  obtain ⟨e, he⟩ : ∃ e, w.registry.find? (·.1 = q) = some e :=
    Option.isSome_iff_exists.mp (List.find?_isSome.mpr ⟨_, hq, by simp⟩)
  exact ⟨e.2, by simp [srtLogCBWrapper, LogWorld.restore, he]⟩

/-- Calls that do not overlap keep the bridge in step: after any sequence of
    `SrtSetLogHandler` and `SrtUnsetLogHandler` calls, each returning before the
    next starts, the engine holds `logCBPtr`, go-pointer holds exactly that
    pointer, every other saved pointer was unref'd exactly once, and
    `srtLogCBWrapper` on the installed pointer finds its callback. -/
theorem sequential_calls_keep_handler (calls : List (Option Nat)) :
    (calls.foldl LogWorld.applyCall (.init [])).Bookkept ∧
    ∀ p, (calls.foldl LogWorld.applyCall (.init [])).engine = some p →
      ∃ cb, srtLogCBWrapper (calls.foldl LogWorld.applyCall (.init [])) p = .ok cb := by
  have hw := LogWorld.bookkept_init.foldl_applyCall calls
  refine ⟨hw, fun p hp => srtLogCBWrapper_of_mem_live ?_⟩
  rw [hw.live_eq, ← hw.engine_eq, hp]
  exact List.mem_singleton_self p

/-! ### Every interleaving keeps the bridge's own state -/

/-- The call `SrtSetLogHandler(cb)` (`some cb`) or `SrtUnsetLogHandler()`
    (`none`) before its first step. -/
def LogPc.start : Option Nat → LogPc
  | some cb => .setStart cb
  | none => .unsetStart

/-- The pointer a call has saved and not yet stored in `logCBPtr`. -/
def LogPc.pending : LogPc → Option Nat
  | .setSaved ptr => some ptr
  | .store ptr => ptr
  | _ => none

theorem LogPc.pending_start (c : Option Nat) : (LogPc.start c).pending = none := by
  cases c <;> rfl

theorem getElem?_set_cases {ts : List LogPc} {i j : Nat} {pc' q : LogPc}
    (hj : (ts.set i pc')[j]? = some q) : (j = i ∧ q = pc') ∨ (j ≠ i ∧ ts[j]? = some q) := by
  rw [List.getElem?_set] at hj
  split_ifs at hj with hij
  · exact .inl ⟨hij.symm, (Option.some.inj hj).symm⟩
  · exact .inr ⟨Ne.symm hij, hj⟩

namespace LogWorld

/-- What the bridge keeps under every interleaving: `logCBPtr` and each pointer
    a call has saved but not yet stored are in go-pointer's registry, pointers
    are handed out below `next`, no pointer is unref'd twice or while it is
    registered, and no two calls hold the same pending pointer. -/
structure Sound (w : LogWorld) : Prop where
  logCBPtr_live : ∀ p, w.logCBPtr = some p → p ∈ w.live
  live_lt : ∀ p ∈ w.live, p < w.next
  unrefs_lt : ∀ p ∈ w.unrefs, p < w.next
  live_unrefs : ∀ p ∈ w.live, p ∉ w.unrefs
  unrefs_nodup : w.unrefs.Nodup
  pending_live : ∀ (j : Nat) (pc : LogPc) (p : Nat), w.threads[j]? = some pc →
    pc.pending = some p → p ∈ w.live ∧ w.logCBPtr ≠ some p
  pending_unique : ∀ (j k : Nat) (pc pc' : LogPc) (p : Nat), w.threads[j]? = some pc →
    w.threads[k]? = some pc' → pc.pending = some p → pc'.pending = some p → j = k

theorem sound_init (calls : List (Option Nat)) : Sound (init (calls.map LogPc.start)) := by
  have hnone : ∀ (j : Nat) (pc : LogPc), (calls.map LogPc.start)[j]? = some pc →
      pc.pending = none := by
    intro j pc hj
    obtain ⟨c, -, rfl⟩ := List.mem_map.mp (List.getElem?_mem hj)
    exact LogPc.pending_start c
  refine ⟨nofun, nofun, nofun, nofun, .nil, fun j pc p hj hp => ?_,
    fun j _ pc _ p hj _ hp _ => ?_⟩ <;>
    · rw [hnone j pc hj] at hp; cases hp

theorem Sound.setThread {w : LogWorld} (hw : Sound w) {i : Nat} {pc : LogPc}
    (hi : w.threads[i]? = some pc) (pc' : LogPc) (hp : pc'.pending = pc.pending) (e : Option Nat) :
    Sound { w with engine := e, threads := w.threads.set i pc' } := by
  have hth : ∀ (j : Nat) (q : LogPc), (w.threads.set i pc')[j]? = some q →
      ∃ q₀ : LogPc, w.threads[j]? = some q₀ ∧ q.pending = q₀.pending := by
    intro j q hj
    rcases getElem?_set_cases hj with ⟨rfl, rfl⟩ | ⟨-, hj⟩
    · exact ⟨pc, hi, hp⟩
    · exact ⟨q, hj, rfl⟩
  refine ⟨hw.logCBPtr_live, hw.live_lt, hw.unrefs_lt, hw.live_unrefs, hw.unrefs_nodup,
    fun j q p hj hq => ?_, fun j k q q' p hj hk hq hq' => ?_⟩
  · obtain ⟨q₀, hj₀, he⟩ := hth j q hj
    exact hw.pending_live j q₀ p hj₀ (he ▸ hq)
  · obtain ⟨q₀, hj₀, he⟩ := hth j q hj
    obtain ⟨q₀', hk₀, he'⟩ := hth k q' hk
    exact hw.pending_unique j k q₀ q₀' p hj₀ hk₀ (he ▸ hq) (he' ▸ hq')

theorem Sound.save {w : LogWorld} (hw : Sound w) {i cb : Nat}
    (hi : w.threads[i]? = some (.setStart cb)) :
    Sound { w with next := w.next + 1, registry := w.registry ++ [(w.next, cb)],
                   saved := w.saved ++ [w.next], threads := w.threads.set i (.setSaved w.next) } := by
  have hlive : ∀ p, p ∈ (w.registry ++ [(w.next, cb)]).map Prod.fst ↔ p ∈ w.live ∨ p = w.next := by
    simp [live]
  -- no pending pointer and not `logCBPtr` is the fresh one
  have hfresh : ∀ (j : Nat) (q : LogPc), w.threads[j]? = some q → q.pending ≠ some w.next :=
    fun j q hj hq =>
    (hw.live_lt _ (hw.pending_live j q _ hj hq).1).false
  refine ⟨fun p h => (hlive p).2 (.inl (hw.logCBPtr_live p h)), fun p hp => ?_,
    fun p hp => Nat.lt_succ_of_lt (hw.unrefs_lt p hp), fun p hp => ?_, hw.unrefs_nodup,
    fun j q p hj hq => ?_, fun j k q q' p hj hk hq hq' => ?_⟩
  · rcases (hlive p).1 hp with hp | rfl
    · exact Nat.lt_succ_of_lt (hw.live_lt p hp)
    · exact Nat.lt_succ_self _
  · rcases (hlive p).1 hp with hp | rfl
    · exact hw.live_unrefs p hp
    · exact fun h => (hw.unrefs_lt _ h).false
  · rcases getElem?_set_cases hj with ⟨rfl, rfl⟩ | ⟨-, hj⟩
    · cases hq
      exact ⟨(hlive _).2 (.inr rfl), fun h => (hw.live_lt _ (hw.logCBPtr_live _ h)).false⟩
    · obtain ⟨h₁, h₂⟩ := hw.pending_live j q p hj hq
      exact ⟨(hlive p).2 (.inl h₁), h₂⟩
  · rcases getElem?_set_cases hj with ⟨rfl, rfl⟩ | ⟨-, hj₀⟩ <;>
      rcases getElem?_set_cases hk with ⟨rfl, rfl⟩ | ⟨-, hk₀⟩
    · rfl
    · cases hq; exact absurd hq' (hfresh k q' hk₀)
    · cases hq'; exact absurd hq (hfresh j q hj₀)
    · exact hw.pending_unique j k q q' p hj₀ hk₀ hq hq'

theorem Sound.store {w : LogWorld} (hw : Sound w) {i : Nat} {ptr : Option Nat}
    (hi : w.threads[i]? = some (.store ptr)) :
    Sound { w.storeLogCBPtr ptr with threads := w.threads.set i .done } := by
  have hptr : ∀ q, ptr = some q → q ∈ w.live ∧ w.logCBPtr ≠ some q := fun q hq =>
    hw.pending_live i _ q hi hq
  have hothers : ∀ (j : Nat) (q : LogPc) (p : Nat), w.threads[j]? = some q →
      q.pending = some p → j ≠ i → ptr ≠ some p := fun j q p hj hq hji hp =>
    hji (hw.pending_unique j i q _ p hj hi hq hp)
  -- the other threads keep their pending pointers; thread `i` has none left
  have hth : ∀ (j : Nat) (q : LogPc) (p : Nat), (w.threads.set i .done)[j]? = some q →
      q.pending = some p → j ≠ i ∧ w.threads[j]? = some q := by
    intro j q p hj hq
    rcases getElem?_set_cases hj with ⟨-, rfl⟩ | h
    · cases hq
    · exact h
  unfold storeLogCBPtr
  cases hc : w.logCBPtr with
  | none =>
    refine ⟨fun q hq => (hptr q hq).1, hw.live_lt, hw.unrefs_lt, hw.live_unrefs, hw.unrefs_nodup,
      fun j q p hj hq => ?_, fun j k q q' p hj hk hq hq' => ?_⟩
    · obtain ⟨hji, hj⟩ := hth j q p hj hq
      exact ⟨(hw.pending_live j q p hj hq).1, hothers j q p hj hq hji⟩
    · exact hw.pending_unique j k q q' p (hth j q p hj hq).2 (hth k q' p hk hq').2 hq hq'
  | some old =>
    have hold : old ∈ w.live := hw.logCBPtr_live old hc
    have hlive : ∀ p, p ∈ (w.registry.filter (·.1 ≠ old)).map Prod.fst ↔ p ∈ w.live ∧ p ≠ old := by
      intro p; rw [live_filter, List.mem_filter, decide_eq_true_iff]
    refine ⟨fun q hq => (hlive q).2 ⟨(hptr q hq).1, fun h => (hptr q hq).2 (h ▸ hc)⟩,
      fun p hp => hw.live_lt p ((hlive p).1 hp).1, fun p hp => ?_, fun p hp => ?_, ?_,
      fun j q p hj hq => ?_, fun j k q q' p hj hk hq hq' => ?_⟩
    · rcases List.mem_append.mp hp with hp | hp
      · exact hw.unrefs_lt p hp
      · rw [List.mem_singleton.mp hp]; exact hw.live_lt old hold
    · obtain ⟨hp, hne⟩ := (hlive p).1 hp
      rw [List.mem_append, List.mem_singleton, not_or]
      exact ⟨hw.live_unrefs p hp, hne⟩
    · refine List.pairwise_append.mpr ⟨hw.unrefs_nodup, List.pairwise_singleton _ _,
        fun p hp q hq => ?_⟩
      rw [List.mem_singleton.mp hq]
      exact fun h => hw.live_unrefs old hold (h ▸ hp)
    · obtain ⟨hji, hj⟩ := hth j q p hj hq
      obtain ⟨hp, hne⟩ := hw.pending_live j q p hj hq
      exact ⟨(hlive p).2 ⟨hp, fun h => hne (h ▸ hc)⟩, hothers j q p hj hq hji⟩
    · exact hw.pending_unique j k q q' p (hth j q p hj hq).2 (hth k q' p hk hq').2 hq hq'

theorem Sound.logStep {w : LogWorld} (hw : Sound w) (i : Nat) :
    Sound (Logging.logStep w i) := by
  unfold Logging.logStep
  split
  · rename_i pc hi
    cases pc with
    | setStart cb => exact hw.save hi
    | setSaved ptr => exact hw.setThread hi (.store (some ptr)) rfl (some ptr)
    | unsetStart => exact hw.setThread hi (.store none) rfl none
    | store ptr => exact hw.store hi
    | done => exact hw.setThread hi .done rfl w.engine
  · exact hw

theorem Sound.logRun {w : LogWorld} (hw : Sound w) : ∀ sched, Sound (Logging.logRun w sched)
  | [] => hw
  | i :: sched => (hw.logStep i).logRun sched

end LogWorld

/-- In every interleaving of any `SrtSetLogHandler` and `SrtUnsetLogHandler`
    calls, the bridge's own state stays sound: the pointer in `logCBPtr` always
    restores to a callback, and no pointer is unref'd twice. Only the engine's
    copy can go stale (`crossed_installs_leave_dead_pointer`). -/
theorem every_interleaving_keeps_logCBPtr_live (calls : List (Option Nat)) (sched : List Nat) :
    (∀ p, (logRun (.init (calls.map LogPc.start)) sched).logCBPtr = some p →
      ∃ cb, srtLogCBWrapper (logRun (.init (calls.map LogPc.start)) sched) p = .ok cb) ∧
    (logRun (.init (calls.map LogPc.start)) sched).unrefs.Nodup :=
  have hw := (LogWorld.sound_init calls).logRun sched
  ⟨fun p hp => srtLogCBWrapper_of_mem_live (hw.logCBPtr_live p hp), hw.unrefs_nodup⟩

example : (logRun (.init [.setStart 10, .setStart 20]) crossedInstalls).logCBPtr = some 1 ∧
    srtLogCBWrapper (logRun (.init [.setStart 10, .setStart 20]) crossedInstalls) 1 = .ok 10 :=
  ⟨rfl, rfl⟩

end SrtGo.Logging
