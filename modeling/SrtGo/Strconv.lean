import Mathlib.Data.List.Basic
import Mathlib.Algebra.Group.Nat.Basic
import Mathlib.Algebra.Group.Int

/-!
# The decimal parsers behind the option setter

`setSocketOption` (socket options file) parses a 32-bit option's value with
`strconv.Atoi` and a 64-bit one's with `strconv.ParseInt(val, 10, 64)`. Both
belong to Go's standard library, not to the repository: they are modelled here
as they run on a 64-bit platform (`strconv.IntSize = 64`), over the bytes of
the string, which is how Go indexes one. A byte is a `Nat` below 256, and the
byte arithmetic of `Atoi`'s fast path is written with its `% 256`.

An error keeps `NumError`'s three fields. Go returns a value beside an error
too; no caller here reads it, so it is left out.

`atoi_eq_ok_iff` and `parseInt_eq_ok_iff` say exactly what either parser
accepts: the decimal literals (`decimalLiteral`: an optional sign and one digit
or more) whose value is a 64-bit integer, read as that value. Nothing bounds
the value to 32 bits, which is what the 32-bit option setter relies on.
-/

namespace SrtGo.Strconv

/-! ### Strings as bytes -/

/-- The bytes of a Go string: its UTF-8 encoding. -/
def bytes (s : String) : List Nat := s.toUTF8.data.toList.map UInt8.toNat

theorem bytes_lt (s : String) : ∀ c ∈ bytes s, c < 256 := by
  simp only [bytes, List.mem_map]
  rintro _ ⟨b, -, rfl⟩
  exact b.val.isLt

def isDigit (c : Nat) : Bool := 48 ≤ c && c ≤ 57

/-- The value of decimal digits read after the value `n`, most significant first. -/
def digitsValue (n : Nat) (ds : List Nat) : Nat := ds.foldl (fun n c => n * 10 + (c - 48)) n

@[simp] theorem digitsValue_nil (n : Nat) : digitsValue n [] = n := rfl

@[simp] theorem digitsValue_cons (n c : Nat) (ds : List Nat) :
    digitsValue n (c :: ds) = digitsValue (n * 10 + (c - 48)) ds := rfl

theorem isDigit_iff {c : Nat} : isDigit c = true ↔ 48 ≤ c ∧ c ≤ 57 := by simp [isDigit]

/-- A leading `-` or `+` split off, as `ParseInt` and `Atoi` both do. -/
def splitSign : List Nat → Bool × List Nat
  | 45 :: rest => (true, rest)
  | 43 :: rest => (false, rest)
  | b => (false, b)

/-- The integer a string denotes as a decimal literal: an optional sign and one
    digit or more, leading zeros allowed. -/
def decimalLiteral (s : String) : Option Int :=
  let (neg, digits) := splitSign (bytes s)
  if digits ≠ [] ∧ digits.all isDigit then
    some (if neg then -(digitsValue 0 digits : Int) else digitsValue 0 digits)
  else none

/-! ### `NumError` -/

/-- `strconv.ErrRange` and `strconv.ErrSyntax`. -/
inductive NumErr where
  | ErrRange
  | ErrSyntax
deriving DecidableEq, Repr

/-- `strconv.NumError`: the function that failed, its input, and why. -/
structure NumError where
  func : String
  num : String
  err : NumErr
deriving DecidableEq, Repr

/-- `syntaxError(fn, str)`. -/
def syntaxError (fn str : String) : NumError := ⟨fn, str, .ErrSyntax⟩

/-- `rangeError(fn, str)`. -/
def rangeError (fn str : String) : NumError := ⟨fn, str, .ErrRange⟩

/-! ### `ParseUint`, `ParseInt` and `Atoi` -/

/-- `maxVal` of `ParseUint` at `bitSize` 64. -/
def maxUint64 : Nat := 2 ^ 64 - 1

/-- `cutoff` of `ParseUint` for base 10: `maxUint64 / 10 + 1`. -/
def cutoff : Nat := maxUint64 / 10 + 1

/-- The digit loop of `ParseUint(s, 10, 64)` from the value `n` read so far.
    A letter's digit is 10 or more and fails `d >= base` with the same syntax
    error as any other non-digit. Below `cutoff`, `n * 10` cannot wrap, so the
    test `n1 < n` on the wrapped sum is `maxUint64 < n * 10 + d`. Errors quote
    `s0`, the string `ParseInt` was given. -/
def parseUintLoop (s0 : String) : Nat → List Nat → Except NumError Nat
  | n, [] => .ok n
  | n, c :: cs =>
    if !isDigit c then .error (syntaxError "ParseUint" s0)
    else if cutoff ≤ n then .error (rangeError "ParseUint" s0)
    else if maxUint64 < n * 10 + (c - 48) then .error (rangeError "ParseUint" s0)
    else parseUintLoop s0 (n * 10 + (c - 48)) cs

/-- `ParseUint(s, 10, 64)` on the bytes `b`. -/
def parseUint (s0 : String) (b : List Nat) : Except NumError Nat :=
  if b = [] then .error (syntaxError "ParseUint" s0) else parseUintLoop s0 0 b

/-- `strconv.ParseInt(s, 10, 64)`. On a range error `ParseUint` hands back
    `maxVal`, which is past `cutoff` for either sign, so `ParseInt` reports its
    own range error; any other error is `ParseUint`'s, renamed. -/
def parseInt (s : String) : Except NumError Int :=
  if bytes s = [] then .error (syntaxError "ParseInt" s)
  else
    let (neg, digits) := splitSign (bytes s)
    match parseUint s digits with
    | .error e =>
      if e.err = .ErrRange then .error (rangeError "ParseInt" s)
      else .error { e with func := "ParseInt", num := s }
    | .ok un =>
      if !neg ∧ 2 ^ 63 ≤ un then .error (rangeError "ParseInt" s)
      else if neg ∧ 2 ^ 63 < un then .error (rangeError "ParseInt" s)
      else .ok (if neg then -(un : Int) else un)

/-- The digit loop of `Atoi`'s fast path: `ch -= '0'` wraps as a byte, so every
    byte but a digit lands above 9. At most 18 digits reach it, so `n` stays
    far below the 64-bit bound. -/
def atoiDigits (n : Nat) : List Nat → Option Nat
  | [] => some n
  | c :: cs =>
    if 9 < (c + 256 - 48) % 256 then none else atoiDigits (n * 10 + (c + 256 - 48) % 256) cs

/-- `strconv.Atoi` with `intSize = 64`: strings of 1 to 18 bytes take the fast
    path (a sign alone is a syntax error there), all others `ParseInt(s, 10, 0)`,
    whose errors are renamed. -/
def atoi (s : String) : Except NumError Int :=
  if 0 < (bytes s).length ∧ (bytes s).length < 19 then
    let (neg, digits) := splitSign (bytes s)
    if digits = [] then .error (syntaxError "Atoi" s)
    else match atoiDigits 0 digits with
      | none => .error (syntaxError "Atoi" s)
      | some n => .ok (if neg then -(n : Int) else n)
  else match parseInt s with
    | .error e => .error { e with func := "Atoi" }
    | .ok v => .ok v

/-! ### What the parsers accept -/

theorem atoi_digit_test {c : Nat} (hc : c < 256) :
    (9 < (c + 256 - 48) % 256) = (isDigit c = false) := by
  simp only [isDigit, Bool.and_eq_false_iff, decide_eq_false_iff_not, eq_iff_iff]
  omega

theorem atoiDigits_eq {n : Nat} {ds : List Nat} (hds : ∀ c ∈ ds, c < 256) :
    atoiDigits n ds = if ds.all isDigit then some (digitsValue n ds) else none := by
  induction ds generalizing n with
  | nil => rfl
  | cons c cs ih =>
    have hc := hds c (List.mem_cons_self c cs)
    simp only [atoiDigits, atoi_digit_test hc]
    by_cases hdig : isDigit c = true
    · have hval : (c + 256 - 48) % 256 = c - 48 := by have := isDigit_iff.mp hdig; omega
      simp only [hdig, Bool.true_eq_false, if_false, hval, List.all_cons, Bool.true_and,
        digitsValue_cons]
      exact ih fun c' h' => hds c' (List.mem_cons_of_mem c h')
    · simp [hdig]

theorem parseUintLoop_eq_ok {s0 : String} {n m : Nat} {ds : List Nat}
    (h : parseUintLoop s0 n ds = .ok m) : ds.all isDigit ∧ m = digitsValue n ds := by
  induction ds generalizing n with
  | nil => exact ⟨rfl, by cases h; rfl⟩
  | cons c cs ih =>
    simp only [parseUintLoop] at h
    split_ifs at h with hdig
    obtain ⟨hall, rfl⟩ := ih h
    simp_all

theorem parseUint_eq_ok {s0 : String} {b : List Nat} {m : Nat} (h : parseUint s0 b = .ok m) :
    b ≠ [] ∧ b.all isDigit ∧ m = digitsValue 0 b := by
  unfold parseUint at h
  split at h
  · contradiction
  · exact ⟨‹_›, parseUintLoop_eq_ok h⟩

theorem parseInt_ok {s : String} {v : Int} (h : parseInt s = .ok v) : decimalLiteral s = some v := by
  unfold parseInt at h
  unfold decimalLiteral
  split at h
  · contradiction
  generalize splitSign (bytes s) = p at h ⊢
  obtain ⟨neg, digits⟩ := p
  dsimp only at h ⊢
  split at h
  · split at h <;> contradiction
  · rename_i un hun
    obtain ⟨hne, hall, rfl⟩ := parseUint_eq_ok hun
    rw [if_pos ⟨hne, hall⟩]
    split_ifs at h <;> cases h <;> simp [*]

theorem parseInt_bounds {s : String} {v : Int} (h : parseInt s = .ok v) :
    -2 ^ 63 ≤ v ∧ v < 2 ^ 63 := by
  unfold parseInt at h
  split at h
  · contradiction
  generalize splitSign (bytes s) = p at h
  obtain ⟨neg, digits⟩ := p
  dsimp only at h
  split at h
  · split at h <;> contradiction
  · split_ifs at h with h₁ h₂ hneg <;> cases h
    · simp [hneg] at h₂ ⊢; omega
    · simp [hneg] at h₁ ⊢; omega

theorem splitSign_bytes_lt (s : String) : ∀ c ∈ (splitSign (bytes s)).2, c < 256 := by
  unfold splitSign
  split <;> intro c hc <;> apply bytes_lt s <;> simp_all

theorem splitSign_length_le (b : List Nat) : (splitSign b).2.length ≤ b.length := by
  unfold splitSign
  split <;> simp

theorem atoi_ok {s : String} {v : Int} (h : atoi s = .ok v) : decimalLiteral s = some v := by
  unfold atoi at h
  split at h
  · unfold decimalLiteral
    have hlt := splitSign_bytes_lt s
    generalize splitSign (bytes s) = p at h hlt ⊢
    obtain ⟨neg, digits⟩ := p
    dsimp only at h hlt ⊢
    split at h
    · contradiction
    · rw [atoiDigits_eq hlt] at h
      by_cases hall : digits.all isDigit = true
      · simp only [hall, if_true] at h
        cases h
        rw [if_pos ⟨‹_›, hall⟩]
      · simp [hall] at h
  · split at h
    · contradiction
    · cases h
      exact parseInt_ok ‹_›

/-! ### What the parsers accept, exactly -/

theorem le_digitsValue (n : Nat) (ds : List Nat) : n ≤ digitsValue n ds := by
  induction ds generalizing n with
  | nil => exact le_rfl
  | cons c cs ih => exact (by omega : n ≤ n * 10 + (c - 48)).trans (ih _)

theorem digitsValue_lt {n : Nat} {ds : List Nat} (h : ds.all isDigit) :
    digitsValue n ds < (n + 1) * 10 ^ ds.length := by
  induction ds generalizing n with
  | nil => simp
  | cons c cs ih =>
    simp only [List.all_cons, Bool.and_eq_true] at h
    have hc := isDigit_iff.mp h.1
    calc digitsValue n (c :: cs) = digitsValue (n * 10 + (c - 48)) cs := rfl
      _ < (n * 10 + (c - 48) + 1) * 10 ^ cs.length := ih h.2
      _ ≤ (n + 1) * 10 * 10 ^ cs.length := Nat.mul_le_mul_right _ (by omega)
      _ = (n + 1) * 10 ^ (c :: cs).length := by
        rw [List.length_cons, Nat.pow_succ, Nat.mul_comm (10 ^ _) 10, Nat.mul_assoc]

theorem parseUintLoop_of_digits {s0 : String} {n : Nat} {ds : List Nat} (h : ds.all isDigit)
    (hv : digitsValue n ds ≤ maxUint64) : parseUintLoop s0 n ds = .ok (digitsValue n ds) := by
  induction ds generalizing n with
  | nil => rfl
  | cons c cs ih =>
    simp only [List.all_cons, Bool.and_eq_true] at h
    have hstep : n * 10 + (c - 48) ≤ maxUint64 := (le_digitsValue _ cs).trans hv
    have hcut : ¬cutoff ≤ n := by simp only [cutoff, maxUint64] at hstep ⊢; omega
    simp only [parseUintLoop, h.1, Bool.not_true, Bool.false_eq_true, if_false, hcut,
      Nat.not_lt.mpr hstep]
    exact ih h.2 hv

theorem parseInt_of_decimalLiteral {s : String} {v : Int} (h : decimalLiteral s = some v)
    (h₁ : -2 ^ 63 ≤ v) (h₂ : v < 2 ^ 63) : parseInt s = .ok v := by
  unfold decimalLiteral at h
  unfold parseInt
  have hb : bytes s ≠ [] := by
    intro hb
    simp [hb, splitSign] at h
  rw [if_neg hb]
  generalize splitSign (bytes s) = p at h ⊢
  obtain ⟨neg, digits⟩ := p
  dsimp only at h ⊢
  by_cases hd : digits ≠ [] ∧ digits.all isDigit
  · rw [if_pos hd] at h
    obtain rfl := Option.some.inj h
    have hle : digitsValue 0 digits ≤ 2 ^ 63 := by
      cases neg <;> simp only [Bool.false_eq_true, if_true, if_false] at h₁ h₂ <;> omega
    rw [parseUint, if_neg hd.1, parseUintLoop_of_digits hd.2 (hle.trans (by decide))]
    cases neg <;> simp at h₁ h₂ ⊢ <;> omega
  · rw [if_neg hd] at h
    contradiction

/-- `ParseInt(s, 10, 64)` accepts exactly the decimal literals whose value is a
    64-bit integer, and returns that value. -/
theorem parseInt_eq_ok_iff (s : String) (v : Int) :
    parseInt s = .ok v ↔ decimalLiteral s = some v ∧ -2 ^ 63 ≤ v ∧ v < 2 ^ 63 :=
  ⟨fun h => ⟨parseInt_ok h, parseInt_bounds h⟩, fun ⟨h, h₁, h₂⟩ => parseInt_of_decimalLiteral h h₁ h₂⟩

theorem atoi_bounds {s : String} {v : Int} (h : atoi s = .ok v) : -2 ^ 63 ≤ v ∧ v < 2 ^ 63 := by
  unfold atoi at h
  split at h
  · rename_i hlen
    have hle := splitSign_length_le (bytes s)
    have hlt := splitSign_bytes_lt s
    generalize splitSign (bytes s) = p at h hle hlt
    obtain ⟨neg, digits⟩ := p
    dsimp only at h hle hlt
    split at h
    · contradiction
    · rw [atoiDigits_eq hlt] at h
      by_cases hall : digits.all isDigit = true
      · simp only [hall, if_true] at h
        cases h
        have h10 : digitsValue 0 digits < 10 ^ 18 := by
          have := digitsValue_lt (n := 0) hall
          rw [Nat.zero_add, Nat.one_mul] at this
          exact this.trans_le (Nat.pow_le_pow_right (by decide) (by omega))
        cases neg <;> simp <;> omega
      · simp [hall] at h
  · split at h
    · contradiction
    · cases h
      exact parseInt_bounds ‹_›

theorem atoi_of_decimalLiteral {s : String} {v : Int} (h : decimalLiteral s = some v)
    (h₁ : -2 ^ 63 ≤ v) (h₂ : v < 2 ^ 63) : atoi s = .ok v := by
  unfold atoi
  split
  · unfold decimalLiteral at h
    have hlt := splitSign_bytes_lt s
    generalize splitSign (bytes s) = p at h hlt ⊢
    obtain ⟨neg, digits⟩ := p
    dsimp only at h hlt ⊢
    by_cases hd : digits ≠ [] ∧ digits.all isDigit
    · rw [if_pos hd] at h
      rw [if_neg hd.1, atoiDigits_eq hlt, if_pos hd.2]
      exact congrArg Except.ok (Option.some.inj h)
    · rw [if_neg hd] at h
      contradiction
  · rw [parseInt_of_decimalLiteral h h₁ h₂]

/-- `Atoi` accepts exactly what `ParseInt(s, 10, 64)` accepts: the decimal
    literals whose value is a 64-bit integer. -/
theorem atoi_eq_ok_iff (s : String) (v : Int) :
    atoi s = .ok v ↔ decimalLiteral s = some v ∧ -2 ^ 63 ≤ v ∧ v < 2 ^ 63 :=
  ⟨fun h => ⟨atoi_ok h, atoi_bounds h⟩, fun ⟨h, h₁, h₂⟩ => atoi_of_decimalLiteral h h₁ h₂⟩

/-! ### What the parsers reject -/

theorem parseInt_error {s : String} {e : NumError} (h : parseInt s = .error e) :
    e.func = "ParseInt" ∧ e.num = s := by
  unfold parseInt at h
  split at h
  · cases h; exact ⟨rfl, rfl⟩
  · generalize splitSign (bytes s) = p at h
    obtain ⟨neg, digits⟩ := p
    dsimp only at h
    split at h <;> split_ifs at h <;> cases h <;> exact ⟨rfl, rfl⟩

theorem atoi_error {s : String} {e : NumError} (h : atoi s = .error e) :
    e.func = "Atoi" ∧ e.num = s := by
  unfold atoi at h
  split at h
  · generalize splitSign (bytes s) = p at h
    obtain ⟨neg, digits⟩ := p
    dsimp only at h
    split at h
    · cases h; exact ⟨rfl, rfl⟩
    · split at h <;> cases h; exact ⟨rfl, rfl⟩
  · split at h
    · next e' he' => cases h; exact ⟨rfl, (parseInt_error he').2⟩
    · cases h

end SrtGo.Strconv
