import SrtGo.Basic
import SrtGo.Strconv
import Mathlib.Data.List.Perm.Basic

/-!
# Socket options: the table, the setter and the validator

`SocketOptions` lists every option the package can set: its name, the engine's
option id, the lifecycle stage it needs and how its value is encoded.
`setSocketOption` parses a value by that encoding and hands it to
`srt_setsockflag`; `setSocketOptionsForLifecycle` runs over an options map,
rejecting unknown names and options that cannot be set at the given stage and
setting the rest; `ValidateSocketOptionsForLifecycle` makes the same checks
without setting anything.

The declaration of `SrtOptionLifecycle`, its three stages and its `String`
method are not under src/: they are the parameter `L : Lifecycles α`, and
nothing below assumes the three stages differ. A Go map is iterated in an order
the program does not choose: the loops here run over an explicit order, and the
results hold for every order that is a permutation of the map
(`validation_agrees_with_setting`).

The engine's answers to `srt_setsockflag`, and what `srtGetAndClearError`
reports after a failed call, come from an oracle indexed by the call's number;
the state logs every call. A 32-bit value is parsed by `strconv.Atoi` and cut
to 32 bits by `int32(v)`: `setSocketOption_latency_out_of_range` follows a
value that `Atoi` accepts and the cut changes.

The deprecated `setSocketOptions` maps its binding to the pre or the post
stage, never to prebind (`setSocketOptions_rejects_prebind_options`). The
linger option's two helpers are modelled as the `syscall.Linger` they write
and read.
-/

namespace SrtGo.Options

open Strconv

/-! ### The option table -/

/-- The engine's option ids (`SRT_SOCKOPT`) that the table names. -/
inductive SRT_SOCKOPT where
  | SRTO_TRANSTYPE | SRTO_MAXBW | SRTO_PBKEYLEN | SRTO_PASSPHRASE | SRTO_MSS | SRTO_FC
  | SRTO_SNDBUF | SRTO_RCVBUF | SRTO_IPTTL | SRTO_IPTOS | SRTO_INPUTBW | SRTO_OHEADBW
  | SRTO_LATENCY | SRTO_TSBPDMODE | SRTO_TLPKTDROP | SRTO_SNDDROPDELAY | SRTO_NAKREPORT
  | SRTO_CONNTIMEO | SRTO_LOSSMAXTTL | SRTO_RCVLATENCY | SRTO_PEERLATENCY | SRTO_MINVERSION
  | SRTO_STREAMID | SRTO_CONGESTION | SRTO_MESSAGEAPI | SRTO_PAYLOADSIZE | SRTO_KMREFRESHRATE
  | SRTO_KMPREANNOUNCE | SRTO_ENFORCEDENCRYPTION | SRTO_PEERIDLETIMEO | SRTO_PACKETFILTER
  | SRTO_UDP_RCVBUF | SRTO_UDP_SNDBUF | SRTO_MININPUTBW | SRTO_SENDER | SRTO_REUSEADDR
deriving DecidableEq, Repr

/-- The engine's transport types. -/
inductive SRT_TRANSTYPE where
  | SRTT_LIVE
  | SRTT_FILE
deriving DecidableEq, Repr

/-- The table's data types: `tInteger32` and `tInteger64`, a decimal passed as a 32-bit or a
64-bit integer; `tString`, a C string; `tBoolean`, `1`, `true`, `0` or `false` passed as a C
char; `tTransType`, `live` or `file`. -/
def tInteger32 : Nat := 0
def tInteger64 : Nat := 1
def tString : Nat := 2
def tBoolean : Nat := 3
def tTransType : Nat := 4

/-- The type `SrtOptionLifecycle`, its constants and its `String` method, which
    src/ uses but does not declare. -/
structure Lifecycles (α : Type) where
  LifecyclePrebind : α
  LifecyclePre : α
  LifecyclePost : α
  stageString : α → String

/-- `socketOption`; its `level` field, which no function here reads, is left out. -/
structure SocketOption (α : Type) where
  name : String
  option : SRT_SOCKOPT
  lifecycle : α
  dataType : Nat
deriving DecidableEq, Repr

section Table

variable {α : Type} (L : Lifecycles α)

/-- `socketOption.CanSetAt`: prebind options only before bind, pre options
    before bind or before connecting, the others at any stage. -/
def SocketOption.canSetAt [DecidableEq α] (so : SocketOption α) (stage : α) : Bool :=
  if so.lifecycle = L.LifecyclePrebind then stage = L.LifecyclePrebind
  else if so.lifecycle = L.LifecyclePre then stage = L.LifecyclePrebind ∨ stage = L.LifecyclePre
  else true

open SRT_SOCKOPT in
/-- `SocketOptions`, in the source's order. -/
def SocketOptions : List (SocketOption α) :=
  [⟨"mss", SRTO_MSS, L.LifecyclePrebind, tInteger32⟩,
   ⟨"sndbuf", SRTO_SNDBUF, L.LifecyclePrebind, tInteger32⟩,
   ⟨"rcvbuf", SRTO_RCVBUF, L.LifecyclePrebind, tInteger32⟩,
   ⟨"udp_sndbuf", SRTO_UDP_SNDBUF, L.LifecyclePrebind, tInteger32⟩,
   ⟨"udp_rcvbuf", SRTO_UDP_RCVBUF, L.LifecyclePrebind, tInteger32⟩,
   ⟨"ipttl", SRTO_IPTTL, L.LifecyclePrebind, tInteger32⟩,
   ⟨"iptos", SRTO_IPTOS, L.LifecyclePrebind, tInteger32⟩,
   ⟨"reuseaddr", SRTO_REUSEADDR, L.LifecyclePrebind, tBoolean⟩,
   ⟨"transtype", SRTO_TRANSTYPE, L.LifecyclePrebind, tTransType⟩,
   ⟨"fc", SRTO_FC, L.LifecyclePre, tInteger32⟩,
   ⟨"sender", SRTO_SENDER, L.LifecyclePre, tBoolean⟩,
   ⟨"tsbpdmode", SRTO_TSBPDMODE, L.LifecyclePre, tBoolean⟩,
   ⟨"latency", SRTO_LATENCY, L.LifecyclePre, tInteger32⟩,
   ⟨"rcvlatency", SRTO_RCVLATENCY, L.LifecyclePre, tInteger32⟩,
   ⟨"peerlatency", SRTO_PEERLATENCY, L.LifecyclePre, tInteger32⟩,
   ⟨"passphrase", SRTO_PASSPHRASE, L.LifecyclePre, tString⟩,
   ⟨"pbkeylen", SRTO_PBKEYLEN, L.LifecyclePre, tInteger32⟩,
   ⟨"tlpktdrop", SRTO_TLPKTDROP, L.LifecyclePre, tBoolean⟩,
   ⟨"nakreport", SRTO_NAKREPORT, L.LifecyclePre, tBoolean⟩,
   ⟨"conntimeo", SRTO_CONNTIMEO, L.LifecyclePre, tInteger32⟩,
   ⟨"streamid", SRTO_STREAMID, L.LifecyclePre, tString⟩,
   ⟨"payloadsize", SRTO_PAYLOADSIZE, L.LifecyclePre, tInteger32⟩,
   ⟨"messageapi", SRTO_MESSAGEAPI, L.LifecyclePre, tBoolean⟩,
   ⟨"minversion", SRTO_MINVERSION, L.LifecyclePre, tInteger32⟩,
   ⟨"enforcedencryption", SRTO_ENFORCEDENCRYPTION, L.LifecyclePre, tBoolean⟩,
   ⟨"peeridletimeo", SRTO_PEERIDLETIMEO, L.LifecyclePre, tInteger32⟩,
   ⟨"packetfilter", SRTO_PACKETFILTER, L.LifecyclePre, tString⟩,
   ⟨"congestion", SRTO_CONGESTION, L.LifecyclePre, tString⟩,
   ⟨"kmrefreshrate", SRTO_KMREFRESHRATE, L.LifecyclePre, tInteger32⟩,
   ⟨"kmpreannounce", SRTO_KMPREANNOUNCE, L.LifecyclePre, tInteger32⟩,
   ⟨"maxbw", SRTO_MAXBW, L.LifecyclePost, tInteger64⟩,
   ⟨"inputbw", SRTO_INPUTBW, L.LifecyclePost, tInteger64⟩,
   ⟨"mininputbw", SRTO_MININPUTBW, L.LifecyclePost, tInteger64⟩,
   ⟨"oheadbw", SRTO_OHEADBW, L.LifecyclePost, tInteger32⟩,
   ⟨"snddropdelay", SRTO_SNDDROPDELAY, L.LifecyclePost, tInteger32⟩,
   ⟨"lossmaxttl", SRTO_LOSSMAXTTL, L.LifecyclePost, tInteger32⟩]

/-- `FindSocketOption`: the first table entry with that name. -/
def findSocketOption (name : String) : Option (SocketOption α) :=
  (SocketOptions L).find? fun o => o.name == name

theorem findSocketOption_name {name : String} {o : SocketOption α}
    (h : findSocketOption L name = some o) : o.name = name := by
  unfold findSocketOption at h
  simpa using List.find?_some h

end Table

/-! ### The engine and `setSocketOption` -/

/-- The value `srt_setsockflag` is pointed at. -/
inductive FlagValue where
  /-- `int32(v)` of a parsed `int` -/
  | int32 (v : BitVec 32)
  /-- a parsed `int64` -/
  | int64 (v : BitVec 64)
  /-- `C.CString(val)` -/
  | cstring (s : String)
  /-- a `C.char` -/
  | char (v : BitVec 8)
  /-- an `int32` holding `C.SRTT_LIVE` or `C.SRTT_FILE` -/
  | transType (t : SRT_TRANSTYPE)
deriving DecidableEq, Repr

/-- One `srt_setsockflag(socket, option, &value, optlen)` call. -/
structure FlagCall where
  socket : Int
  option : SRT_SOCKOPT
  value : FlagValue
  optlen : BitVec 32
deriving DecidableEq, Repr

/-- The engine's answers: what the `k`-th `srt_setsockflag` returns, and what
    `srtGetAndClearError` reports after it. -/
structure OptEnv where
  result : Nat → Int
  error : Nat → SRTErrno

/-- The engine as the option code sees it: the answers, the number of calls so
    far, and every call made. -/
structure OptState where
  env : OptEnv
  calls : Nat
  log : List FlagCall

/-- The errors `setSocketOption` returns. -/
inductive SetError where
  /-- `fmt.Errorf("invalid integer value: %w", err)` -/
  | invalidInteger (err : NumError)
  /-- `fmt.Errorf("invalid integer64 value: %w", err)` -/
  | invalidInteger64 (err : NumError)
  /-- `srtGetAndClearError()` -/
  | srt (err : SRTErrno)
  /-- `fmt.Errorf("invalid boolean value: %s", val)` -/
  | invalidBoolean (val : String)
  /-- `fmt.Errorf("invalid transtype value: %s (must be ...)", val)` -/
  | invalidTranstype (val : String)
  /-- `fmt.Errorf("unsupported data type %d", optDef.dataType)` -/
  | unsupportedDataType (dataType : Nat)
deriving DecidableEq, Repr

/-- `srt_setsockflag` with the call's arguments, then `srtGetAndClearError()` if
    it returned -1. -/
def OptState.setsockflag (st : OptState) (call : FlagCall) : Option SetError × OptState :=
  (if st.env.result st.calls = -1 then some (.srt (st.env.error st.calls)) else none,
    { st with calls := st.calls + 1, log := st.log ++ [call] })

/-- `setSocketOption(socket, optDef, val)`. -/
def setSocketOption {α : Type} (socket : Int) (optDef : SocketOption α) (val : String)
    (st : OptState) : Option SetError × OptState :=
  if optDef.dataType = tInteger32 then
    match atoi val with
    | .error e => (some (.invalidInteger e), st)
    | .ok v => st.setsockflag ⟨socket, optDef.option, .int32 (BitVec.ofInt 32 v), 4⟩
  else if optDef.dataType = tInteger64 then
    match parseInt val with
    | .error e => (some (.invalidInteger64 e), st)
    | .ok v => st.setsockflag ⟨socket, optDef.option, .int64 (BitVec.ofInt 64 v), 8⟩
  else if optDef.dataType = tString then
    st.setsockflag ⟨socket, optDef.option, .cstring val, BitVec.ofNat 32 (bytes val).length⟩
  else if optDef.dataType = tBoolean then
    if val = "1" ∨ val = "true" then st.setsockflag ⟨socket, optDef.option, .char 1, 1⟩
    else if val = "0" ∨ val = "false" then st.setsockflag ⟨socket, optDef.option, .char 0, 1⟩
    else (some (.invalidBoolean val), st)
  else if optDef.dataType = tTransType then
    if val = "live" then st.setsockflag ⟨socket, optDef.option, .transType .SRTT_LIVE, 4⟩
    else if val = "file" then st.setsockflag ⟨socket, optDef.option, .transType .SRTT_FILE, 4⟩
    else (some (.invalidTranstype val), st)
  else (some (.unsupportedDataType optDef.dataType), st)

def acceptingEngine : OptState := ⟨⟨fun _ => 0, fun _ => ⟨0⟩⟩, 0, []⟩

/-! ### Integer options -/

theorem toInt_ofInt_32 (v : Int) : (BitVec.ofInt 32 v).toInt = v ↔ -2 ^ 31 ≤ v ∧ v < 2 ^ 31 := by
  rw [BitVec.toInt_ofInt, Int.bmod_def]
  split <;> omega

/-- A 32-bit option's value goes through `Atoi`. When `Atoi` accepts it, it is a
    decimal literal and the engine gets its value cut to 32 bits, which is the
    value itself only when that is a 32-bit integer. When `Atoi` refuses it,
    `setSocketOption` returns that error, which names `Atoi` and quotes the
    value, and makes no engine call. -/
theorem setSocketOption_integer32 {α : Type} (socket : Int) (optDef : SocketOption α)
    (hdt : optDef.dataType = tInteger32) (val : String) (st : OptState) :
    (∀ v, atoi val = .ok v →
      decimalLiteral val = some v ∧ ((BitVec.ofInt 32 v).toInt = v ↔ -2 ^ 31 ≤ v ∧ v < 2 ^ 31) ∧
      setSocketOption socket optDef val st =
        st.setsockflag ⟨socket, optDef.option, .int32 (BitVec.ofInt 32 v), 4⟩) ∧
    (∀ e, atoi val = .error e →
      e.func = "Atoi" ∧ e.num = val ∧
      setSocketOption socket optDef val st = (some (.invalidInteger e), st)) := by
  refine ⟨fun v hv => ⟨atoi_ok hv, toInt_ofInt_32 v, ?_⟩, fun e he => ⟨(atoi_error he).1,
    (atoi_error he).2, ?_⟩⟩
  · simp only [setSocketOption, if_pos hdt, hv]
  · simp only [setSocketOption, if_pos hdt, he]

theorem setSocketOption_integer32_latency :
    (⟨"latency", .SRTO_LATENCY, (), tInteger32⟩ : SocketOption Unit).dataType = tInteger32 ∧
    (∀ v, atoi "120" = .ok v →
      decimalLiteral "120" = some v ∧ ((BitVec.ofInt 32 v).toInt = v ↔ -2 ^ 31 ≤ v ∧ v < 2 ^ 31) ∧
      setSocketOption 3 (⟨"latency", .SRTO_LATENCY, (), tInteger32⟩ : SocketOption Unit) "120"
          acceptingEngine =
        acceptingEngine.setsockflag ⟨3, .SRTO_LATENCY, .int32 (BitVec.ofInt 32 v), 4⟩) ∧
    (∀ e, atoi "120" = .error e →
      e.func = "Atoi" ∧ e.num = "120" ∧
      setSocketOption 3 (⟨"latency", .SRTO_LATENCY, (), tInteger32⟩ : SocketOption Unit) "120"
          acceptingEngine = (some (.invalidInteger e), acceptingEngine)) :=
  ⟨rfl, setSocketOption_integer32 3 _ rfl "120" acceptingEngine⟩

/-- A 32-bit option's value reaches the engine exactly when it is a decimal
    literal whose value fits 64 bits: every such value outside 32 bits reaches it
    wrapped. -/
theorem setSocketOption_integer32_calls_engine_iff {α : Type} (socket : Int)
    (optDef : SocketOption α) (hdt : optDef.dataType = tInteger32) (val : String)
    (st : OptState) :
    (setSocketOption socket optDef val st).2.log ≠ st.log ↔
      ∃ v, decimalLiteral val = some v ∧ -2 ^ 63 ≤ v ∧ v < 2 ^ 63 := by
  unfold setSocketOption
  rw [if_pos hdt]
  split
  · rename_i e he
    simp only [ne_eq, not_true_eq_false, false_iff, not_exists, not_and]
    intro v hv h₁ h₂
    rw [(atoi_eq_ok_iff val v).mpr ⟨hv, h₁, h₂⟩] at he
    contradiction
  · rename_i v hv
    exact iff_of_true (by simp [OptState.setsockflag]) ⟨v, (atoi_eq_ok_iff val v).mp hv⟩

theorem setSocketOption_integer32_calls_engine_latency :
    (⟨"latency", .SRTO_LATENCY, (), tInteger32⟩ : SocketOption Unit).dataType = tInteger32 ∧
    ((setSocketOption 3 (⟨"latency", .SRTO_LATENCY, (), tInteger32⟩ : SocketOption Unit)
        "4294967296" acceptingEngine).2.log ≠ acceptingEngine.log ↔
      ∃ v, decimalLiteral "4294967296" = some v ∧ -2 ^ 63 ≤ v ∧ v < 2 ^ 63) :=
  ⟨rfl, setSocketOption_integer32_calls_engine_iff 3 _ rfl "4294967296" acceptingEngine⟩

/-- A 64-bit option's value goes through `ParseInt`. When `ParseInt` accepts
    it, it is a decimal literal and the engine gets exactly its value. When
    `ParseInt` refuses it, `setSocketOption` returns that error, which names
    `ParseInt` and quotes the value, and makes no engine call. -/
theorem setSocketOption_integer64 {α : Type} (socket : Int) (optDef : SocketOption α)
    (hdt : optDef.dataType = tInteger64) (val : String) (st : OptState) :
    (∀ v, parseInt val = .ok v →
      decimalLiteral val = some v ∧ (BitVec.ofInt 64 v).toInt = v ∧
      setSocketOption socket optDef val st =
        st.setsockflag ⟨socket, optDef.option, .int64 (BitVec.ofInt 64 v), 8⟩) ∧
    (∀ e, parseInt val = .error e →
      e.func = "ParseInt" ∧ e.num = val ∧
      setSocketOption socket optDef val st = (some (.invalidInteger64 e), st)) := by
  have h32 : ¬ optDef.dataType = tInteger32 := by rw [hdt]; decide
  refine ⟨fun v hv => ⟨parseInt_ok hv, ?_, ?_⟩, fun e he => ⟨(parseInt_error he).1,
    (parseInt_error he).2, ?_⟩⟩
  · obtain ⟨h₁, h₂⟩ := parseInt_bounds hv
    rw [BitVec.toInt_ofInt, Int.bmod_def]
    split <;> omega
  · simp only [setSocketOption, if_neg h32, if_pos hdt, hv]
  · simp only [setSocketOption, if_neg h32, if_pos hdt, he]

theorem setSocketOption_integer64_maxbw :
    (⟨"maxbw", .SRTO_MAXBW, (), tInteger64⟩ : SocketOption Unit).dataType = tInteger64 ∧
    (∀ v, parseInt "4294967296" = .ok v →
      decimalLiteral "4294967296" = some v ∧ (BitVec.ofInt 64 v).toInt = v ∧
      setSocketOption 3 (⟨"maxbw", .SRTO_MAXBW, (), tInteger64⟩ : SocketOption Unit) "4294967296"
          acceptingEngine =
        acceptingEngine.setsockflag ⟨3, .SRTO_MAXBW, .int64 (BitVec.ofInt 64 v), 8⟩) ∧
    (∀ e, parseInt "4294967296" = .error e →
      e.func = "ParseInt" ∧ e.num = "4294967296" ∧
      setSocketOption 3 (⟨"maxbw", .SRTO_MAXBW, (), tInteger64⟩ : SocketOption Unit) "4294967296"
          acceptingEngine = (some (.invalidInteger64 e), acceptingEngine)) :=
  ⟨rfl, setSocketOption_integer64 3 _ rfl "4294967296" acceptingEngine⟩

/-! ### Setting and validating a map of options -/

/-- The errors `setSocketOptionsForLifecycle` and
    `ValidateSocketOptionsForLifecycle` collect, one for each failing key. -/
inductive OptionError (α : Type) where
  /-- `fmt.Sprintf("unknown option: %s", name)` -/
  | unknownOption (name : String)
  /-- `fmt.Sprintf("option ... cannot be set at %s stage (requires %s)", ...)` -/
  | cannotSetAt (name : String) (stage required : α)
  /-- `fmt.Sprintf("%s: %v", name, err)` -/
  | setFailed (name : String) (err : SetError)
deriving DecidableEq, Repr

/-- An error that rejects its key before any engine call. -/
def OptionError.isRejection {α : Type} : OptionError α → Bool
  | .setFailed .. => false
  | _ => true

theorem filter_setFailed {α : Type} (name : String) (err : Option SetError) :
    ((err.map (OptionError.setFailed (α := α) name)).toList).filter OptionError.isRejection = [] := by
  cases err <;> rfl

/-- A Go `map[string]string`: its entries, each key once. -/
structure OptionsMap where
  entries : List (String × String)
  nodup : (entries.map Prod.fst).Nodup

def OptionsMap.keys (m : OptionsMap) : List String := m.entries.map Prod.fst

section Lifecycle

variable {α : Type} [DecidableEq α] (L : Lifecycles α)

/-- One pass of the loop of `setSocketOptionsForLifecycle`, on the entry
    `name, val`, with the loop's own search of the table. -/
def setSocketOptionsStep (socket : Int) (stage : α) (name val : String) (st : OptState) :
    Option (OptionError α) × OptState :=
  match (SocketOptions L).find? (fun o => o.name == name) with
  | none => (some (.unknownOption name), st)
  | some optDef =>
    if !optDef.canSetAt L stage then (some (.cannotSetAt name stage optDef.lifecycle), st)
    else
      let (err, st') := setSocketOption socket optDef val st
      (err.map (.setFailed name), st')

/-- The loop of `setSocketOptionsForLifecycle` over the entries in `order`, the
    order `range` visits them in. -/
def setSocketOptionsLoop (socket : Int) (stage : α) :
    List (String × String) → OptState → List (OptionError α) × OptState
  | [], st => ([], st)
  | (name, val) :: rest, st =>
    let (err, st₁) := setSocketOptionsStep L socket stage name val st
    let (errors, st₂) := setSocketOptionsLoop socket stage rest st₁
    (err.toList ++ errors, st₂)

/-- `setSocketOptionsForLifecycle(socket, stage, options)`, the map visited in
    `order`: the errors if there are any, and the engine afterwards. -/
def setSocketOptionsForLifecycle (socket : Int) (stage : α) (order : List (String × String))
    (st : OptState) : Option (List (OptionError α)) × OptState :=
  let (errors, st') := setSocketOptionsLoop L socket stage order st
  (if errors.length > 0 then some errors else none, st')

/-- The checks `ValidateSocketOptionsForLifecycle` makes on one key. -/
def validateStep (stage : α) (name : String) : Option (OptionError α) :=
  match findSocketOption L name with
  | none => some (.unknownOption name)
  | some optDef =>
    if !optDef.canSetAt L stage then some (.cannotSetAt name stage optDef.lifecycle) else none

/-- `ValidateSocketOptionsForLifecycle(stage, options)`, the keys visited in `keys`. -/
def validateSocketOptionsForLifecycle (stage : α) (keys : List String) :
    Option (List (OptionError α)) :=
  let errors := keys.filterMap (validateStep L stage)
  if errors.length > 0 then some errors else none

/-! ### Error texts -/

/-- The texts src/ takes from elsewhere: `strconv.Quote` and `SRTErrno.Error`. -/
structure ErrorTexts where
  quote : String → String
  srtErrno : SRTErrno → String

/-- `NumError.Error()`. -/
def numErrorText (T : ErrorTexts) (e : NumError) : String :=
  "strconv." ++ e.func ++ ": parsing " ++ T.quote e.num ++ ": " ++
    match e.err with
    | .ErrRange => "value out of range"
    | .ErrSyntax => "invalid syntax"

/-- The text of a `setSocketOption` error. -/
def SetError.text (T : ErrorTexts) : SetError → String
  | .invalidInteger e => "invalid integer value: " ++ numErrorText T e
  | .invalidInteger64 e => "invalid integer64 value: " ++ numErrorText T e
  | .srt e => T.srtErrno e
  | .invalidBoolean val => "invalid boolean value: " ++ val
  | .invalidTranstype val =>
    "invalid transtype value: " ++ val ++ " (must be \x27live\x27 or \x27file\x27)"
  | .unsupportedDataType d => "unsupported data type " ++ toString d

/-- The text of one collected error. -/
def OptionError.text (T : ErrorTexts) : OptionError α → String
  | .unknownOption name => "unknown option: " ++ name
  | .cannotSetAt name stage required =>
    "option \x27" ++ name ++ "\x27 cannot be set at " ++ L.stageString stage ++
      " stage (requires " ++ L.stageString required ++ ")"
  | .setFailed name err => name ++ ": " ++ err.text T

/-- The text of the error `setSocketOptionsForLifecycle` returns. -/
def setErrorsText (T : ErrorTexts) (errors : List (OptionError α)) : String :=
  "socket option errors: " ++ "; ".intercalate (errors.map (·.text L T))

/-- The text of the error `ValidateSocketOptionsForLifecycle` returns. -/
def validationErrorsText (T : ErrorTexts) (errors : List (OptionError α)) : String :=
  "socket option validation errors: " ++ "; ".intercalate (errors.map (·.text L T))

/-! ### The loop and the validator agree -/

/-- The table entry for `name` when both functions let it through. -/
def settable (stage : α) (name : String) : Option (SocketOption α) :=
  (findSocketOption L name).filter (·.canSetAt L stage)

/-- The entries of `order` that get set, with their option and value. -/
def settableEntries (stage : α) (order : List (String × String)) :
    List (SocketOption α × String) :=
  order.filterMap fun kv => (settable L stage kv.1).map (·, kv.2)

theorem setSocketOptionsStep_cases (socket : Int) (stage : α) (name val : String)
    (st : OptState) :
    (∃ e, validateStep L stage name = some e ∧ e.isRejection ∧ settable L stage name = none ∧
      setSocketOptionsStep L socket stage name val st = (some e, st)) ∨
    (∃ o, settable L stage name = some o ∧ validateStep L stage name = none ∧
      setSocketOptionsStep L socket stage name val st =
        ((setSocketOption socket o val st).1.map (.setFailed name),
          (setSocketOption socket o val st).2)) := by
  unfold setSocketOptionsStep validateStep settable findSocketOption
  generalize (SocketOptions L).find? (fun o => o.name == name) = found
  rcases found with _ | o
  · exact .inl ⟨_, rfl, rfl, rfl, rfl⟩
  · by_cases hc : o.canSetAt L stage
    · exact .inr ⟨o, by simp [hc], by simp [hc], by simp [hc]⟩
    · exact .inl ⟨.cannotSetAt name stage o.lifecycle, by simp [hc], rfl, by simp [hc],
        by simp [hc]⟩

theorem setSocketOptionsLoop_spec (socket : Int) (stage : α) :
    ∀ (order : List (String × String)) (st : OptState),
      (setSocketOptionsLoop L socket stage order st).1.filter OptionError.isRejection =
        order.filterMap (fun kv => validateStep L stage kv.1) ∧
      (setSocketOptionsLoop L socket stage order st).2 =
        (settableEntries L stage order).foldl (fun st ov => (setSocketOption socket ov.1 ov.2 st).2) st
  | [], _ => ⟨rfl, rfl⟩
  | (name, val) :: rest, st => by
    rcases setSocketOptionsStep_cases L socket stage name val st with
      ⟨e, hv, hrej, hs, hstep⟩ | ⟨o, hs, hv, hstep⟩
    · obtain ⟨ih₁, ih₂⟩ := setSocketOptionsLoop_spec socket stage rest st
      simp only [setSocketOptionsLoop, hstep, settableEntries, List.filterMap_cons, hs, hv,
        Option.map_none', Option.toList_some, List.singleton_append, List.filter_cons, hrej,
        if_true]
      exact ⟨congrArg _ ih₁, ih₂⟩
    · obtain ⟨ih₁, ih₂⟩ := setSocketOptionsLoop_spec socket stage rest (setSocketOption socket o val st).2
      refine ⟨?_, ?_⟩
      · simpa [setSocketOptionsLoop, hstep, hv, filter_setFailed] using ih₁
      · simpa [setSocketOptionsLoop, hstep, settableEntries, hs] using ih₂

theorem settable_name {stage : α} {name : String} {o : SocketOption α}
    (h : settable L stage name = some o) : o.name = name := by
  unfold settable at h
  rcases hf : findSocketOption L name with _ | found
  · simp [hf] at h
  · rw [hf] at h
    simp only [Option.filter] at h
    split at h
    · cases h
      exact findSocketOption_name L hf
    · contradiction

theorem settableEntries_names (stage : α) (order : List (String × String)) :
    (settableEntries L stage order).map (·.1.name) =
      (order.map Prod.fst).filter fun name => (settable L stage name).isSome := by
  induction order with
  | nil => rfl
  | cons kv rest ih =>
    simp only [settableEntries, List.filterMap_cons, List.map_cons, List.filter_cons] at ih ⊢
    rcases hs : settable L stage kv.1 with _ | o
    · simpa using ih
    · simpa [settable_name L hs] using ih

theorem validateStep_eq_none_iff (stage : α) (name : String) :
    validateStep L stage name = none ↔ (settable L stage name).isSome := by
  unfold validateStep settable
  generalize findSocketOption L name = found
  rcases found with _ | o
  · simp
  · by_cases hc : o.canSetAt L stage <;> simp [Option.filter, hc]

theorem validateSocketOptionsForLifecycle_eq_none_iff (stage : α) (keys : List String) :
    validateSocketOptionsForLifecycle L stage keys = none ↔
      ∀ name ∈ keys, (settable L stage name).isSome := by
  simp only [validateSocketOptionsForLifecycle, ← validateStep_eq_none_iff,
    ← List.filterMap_eq_nil_iff]
  split <;> simp_all [List.length_pos]

theorem getD_errors {β : Type} (l : List β) :
    (if l.length > 0 then some l else none).getD [] = l := by
  cases l <;> simp

/-- For every stage, every map and any two orders in which Go may iterate it:
    the loop searches the table as `FindSocketOption` does; the keys it rejects
    before any engine call are, with the same errors, those the validator
    reports; its effect on the engine is one `setSocketOption` call for each
    remaining entry, in iteration order; those entries are the map's keys that
    pass, each once; and the validator finds nothing exactly when the loop sets
    every key. -/
theorem validation_agrees_with_setting (socket : Int) (stage : α) (m : OptionsMap)
    (order : List (String × String)) (keys : List String)
    (horder : order.Perm m.entries) (hkeys : keys.Perm m.keys) (st : OptState) :
    (∀ name, (SocketOptions L).find? (fun o => o.name == name) = findSocketOption L name) ∧
    (((setSocketOptionsForLifecycle L socket stage order st).1.getD []).filter
        OptionError.isRejection).Perm
      ((validateSocketOptionsForLifecycle L stage keys).getD []) ∧
    (setSocketOptionsForLifecycle L socket stage order st).2 =
      (settableEntries L stage order).foldl
        (fun st ov => (setSocketOption socket ov.1 ov.2 st).2) st ∧
    ((settableEntries L stage order).map (·.1.name)).Perm
      (m.keys.filter fun name => (settable L stage name).isSome) ∧
    (validateSocketOptionsForLifecycle L stage keys = none ↔
      ((settableEntries L stage order).map (·.1.name)).Perm m.keys) := by
  obtain ⟨hrej, hstate⟩ := setSocketOptionsLoop_spec L socket stage order st
  have hkeys' : (order.map Prod.fst).Perm keys := (horder.map Prod.fst).trans hkeys.symm
  have hnames : ((settableEntries L stage order).map (·.1.name)).Perm
      (m.keys.filter fun name => (settable L stage name).isSome) := by
    rw [settableEntries_names]
    exact (horder.map Prod.fst).filter _
  refine ⟨fun _ => rfl, ?_, hstate, hnames, ?_⟩
  · simp only [setSocketOptionsForLifecycle, validateSocketOptionsForLifecycle, getD_errors, hrej]
    simpa only [List.filterMap_map, Function.comp_def] using hkeys'.filterMap (validateStep L stage)
  · rw [validateSocketOptionsForLifecycle_eq_none_iff]
    constructor
    · intro h
      rwa [List.filter_eq_self.mpr fun name hmem => h name (hkeys.mem_iff.mpr hmem)] at hnames
    · intro h name hmem
      exact List.filter_length_eq_length.mp (hnames.symm.trans h).length_eq name
        (hkeys.mem_iff.mp hmem)

/-! ### The deprecated binding entry point -/

/-- `setSocketOptions(s, binding, options)`, kept for old callers: the binding
    `bindingPre` (declared outside src/) selects the pre stage, any other the
    post stage. -/
def setSocketOptions (bindingPre socket binding : Int) (order : List (String × String))
    (st : OptState) : Option (List (OptionError α)) × OptState :=
  setSocketOptionsForLifecycle L socket
    (if binding = bindingPre then L.LifecyclePre else L.LifecyclePost) order st

/-- Neither binding of the deprecated entry point reaches the prebind stage, so
    every key of an option that can only be set before bind is rejected there. -/
theorem setSocketOptions_rejects_prebind_options (hpre : L.LifecyclePrebind ≠ L.LifecyclePre)
    (hpost : L.LifecyclePrebind ≠ L.LifecyclePost) (bindingPre socket binding : Int)
    (order : List (String × String)) (st : OptState) {name val : String}
    (hmem : (name, val) ∈ order) {o : SocketOption α} (ho : findSocketOption L name = some o)
    (hpb : o.lifecycle = L.LifecyclePrebind) :
    OptionError.cannotSetAt name (if binding = bindingPre then L.LifecyclePre else L.LifecyclePost)
        L.LifecyclePrebind ∈ (setSocketOptions L bindingPre socket binding order st).1.getD [] := by
  generalize hstage : (if binding = bindingPre then L.LifecyclePre else L.LifecyclePost) = stage
  have hne : stage ≠ L.LifecyclePrebind := by
    rw [← hstage]; split <;> exact Ne.symm ‹_›
  have hv : validateStep L stage name = some (.cannotSetAt name stage L.LifecyclePrebind) := by
    simp [validateStep, ho, SocketOption.canSetAt, hpb, hne]
  have hrej := (setSocketOptionsLoop_spec L socket stage order st).1
  simp only [setSocketOptions, hstage, setSocketOptionsForLifecycle, getD_errors]
  exact List.mem_of_mem_filter (hrej ▸ List.mem_filterMap.mpr ⟨(name, val), hmem, hv⟩)

end Lifecycle

def numberedStages : Lifecycles Nat := ⟨0, 1, 2, fun n => toString n⟩

def sampleOptions : OptionsMap := ⟨[("latency", "120"), ("mss", "1500"), ("bogus", "1")], by decide⟩

theorem validation_agrees_with_setting_sample :
    [("bogus", "1"), ("latency", "120"), ("mss", "1500")].Perm sampleOptions.entries ∧
    ["mss", "bogus", "latency"].Perm sampleOptions.keys ∧
    (∀ name, (SocketOptions numberedStages).find? (fun o => o.name == name) =
      findSocketOption numberedStages name) ∧
    (((setSocketOptionsForLifecycle numberedStages 3 1
        [("bogus", "1"), ("latency", "120"), ("mss", "1500")] acceptingEngine).1.getD []).filter
        OptionError.isRejection).Perm
      ((validateSocketOptionsForLifecycle numberedStages 1 ["mss", "bogus", "latency"]).getD []) ∧
    (setSocketOptionsForLifecycle numberedStages 3 1
        [("bogus", "1"), ("latency", "120"), ("mss", "1500")] acceptingEngine).2 =
      (settableEntries numberedStages 1 [("bogus", "1"), ("latency", "120"), ("mss", "1500")]).foldl
        (fun st ov => (setSocketOption 3 ov.1 ov.2 st).2) acceptingEngine ∧
    ((settableEntries numberedStages 1 [("bogus", "1"), ("latency", "120"), ("mss", "1500")]).map
        (·.1.name)).Perm
      (sampleOptions.keys.filter fun name => (settable numberedStages 1 name).isSome) ∧
    (validateSocketOptionsForLifecycle numberedStages 1 ["mss", "bogus", "latency"] = none ↔
      ((settableEntries numberedStages 1 [("bogus", "1"), ("latency", "120"), ("mss", "1500")]).map
        (·.1.name)).Perm sampleOptions.keys) :=
  have horder : [("bogus", "1"), ("latency", "120"), ("mss", "1500")].Perm sampleOptions.entries := by
    decide
  have hkeys : ["mss", "bogus", "latency"].Perm sampleOptions.keys := by decide
  ⟨horder, hkeys, validation_agrees_with_setting numberedStages 3 1 sampleOptions _ _ horder hkeys
    acceptingEngine⟩

example : (setSocketOptionsForLifecycle numberedStages 3 1
    [("bogus", "1"), ("latency", "120"), ("mss", "1500")] acceptingEngine).1 =
      some [.unknownOption "bogus", .cannotSetAt "mss" 1 0] := by decide

theorem setSocketOptions_rejects_mss :
    (numberedStages.LifecyclePrebind ≠ numberedStages.LifecyclePre) ∧
    (numberedStages.LifecyclePrebind ≠ numberedStages.LifecyclePost) ∧
    ("mss", "1500") ∈ [("mss", "1500")] ∧
    findSocketOption numberedStages "mss" = some ⟨"mss", .SRTO_MSS, 0, tInteger32⟩ ∧
    (⟨"mss", .SRTO_MSS, 0, tInteger32⟩ : SocketOption Nat).lifecycle =
      numberedStages.LifecyclePrebind ∧
    OptionError.cannotSetAt "mss" (if (1 : Int) = 0 then numberedStages.LifecyclePre
        else numberedStages.LifecyclePost) numberedStages.LifecyclePrebind ∈
      (setSocketOptions numberedStages 0 3 1 [("mss", "1500")] acceptingEngine).1.getD [] :=
  have hpre : numberedStages.LifecyclePrebind ≠ numberedStages.LifecyclePre := by decide
  have hpost : numberedStages.LifecyclePrebind ≠ numberedStages.LifecyclePost := by decide
  have hmem : ("mss", "1500") ∈ [("mss", "1500")] := List.mem_singleton_self _
  have ho : findSocketOption numberedStages "mss" = some ⟨"mss", .SRTO_MSS, 0, tInteger32⟩ := rfl
  ⟨hpre, hpost, hmem, ho, rfl,
    setSocketOptions_rejects_prebind_options numberedStages hpre hpost 0 3 1 _ acceptingEngine hmem
      ho rfl⟩

/-! ### Linger -/

def SRT_ERROR : Int := -1

/-- `syscall.Linger`. -/
structure Linger where
  onoff : BitVec 32
  linger : BitVec 32
deriving DecidableEq, Repr

/-- `setSocketLingerOption(s, li)`: the `syscall.Linger` it hands to
    `srt_setsockopt`, and its error when the engine answers `res`. -/
def setSocketLingerOption (li : BitVec 32) (res : Int) : Linger × Option String :=
  (⟨if BitVec.slt 0 li then 1 else 0, li⟩,
    if res = SRT_ERROR then some "failed to set linger" else none)

/-- `getSocketLingerOption(s)`, from what `getSockOpt` (declared outside src/)
    answers. -/
def getSocketLingerOption {ε : Type} (answer : Except ε Linger) : BitVec 32 × Option ε :=
  match answer with
  | .error err => (0, some err)
  | .ok lin => if lin.onoff = 0 then (0, none) else (lin.linger, none)

/-- The out-of-range value `4294967296` for `latency` is accepted by `Atoi` and
    reaches the engine as `0`. -/
theorem setSocketOption_latency_out_of_range {α : Type} (L : Lifecycles α) (socket : Int)
    (st : OptState) :
    ∃ optDef, findSocketOption L "latency" = some optDef ∧ optDef.dataType = tInteger32 ∧
      decimalLiteral "4294967296" = some 4294967296 ∧
      (setSocketOption socket optDef "4294967296" st).2.log =
        st.log ++ [⟨socket, .SRTO_LATENCY, .int32 0, 4⟩] :=
  ⟨_, rfl, rfl, rfl, rfl⟩

end SrtGo.Options
