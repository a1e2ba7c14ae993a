import Mathlib.Tactic.Common
import ScriptSurvey.Rules.LiveCode

/-!
# States of a line

A lexer reads a line byte by byte and is in code, in a string, behind a backslash of a string, or in a
comment. A place of the line is live just when the lexer comes to it in code. What it reads up to
there is told by the bytes in front of the place and the one behind it.
-/
namespace ScriptSurvey.LiveCode

/-! ## The lexer -/

/-- What the next byte of a line belongs to. -/
inductive State where
  | code
  | string (quote : UInt8)
  | escape (quote : UInt8)
  | comment
  deriving DecidableEq, Repr

namespace State

/-- The state behind a byte. A slash begins a comment when another slash follows. -/
def next (state : State) (byte : UInt8) (following : Option UInt8) : State :=
  match state with
  | code =>
    if byte ∈ quotes then string byte
    else if byte = slash ∧ following = some slash then comment
    else code
  | string quote =>
    if byte = backslash then escape quote
    else if byte = quote then code
    else string quote
  | escape quote => string quote
  | comment => comment

def read (state : State) : List UInt8 → ℕ → State
  | _, 0 => state
  | [], _ => state
  | byte :: rest, count + 1 => (state.next byte rest.head?).read rest count

section

variable (state : State)

@[simp] lemma read_zero (line : List UInt8) : state.read line 0 = state := by
  cases line <;> rfl

@[simp] lemma read_nil (count : ℕ) : state.read [] count = state := by
  cases count <;> rfl

@[simp] lemma read_cons (byte : UInt8) (rest : List UInt8) (count : ℕ) :
    state.read (byte :: rest) (count + 1) = (state.next byte rest.head?).read rest count := rfl

@[simp] lemma read_comment (line : List UInt8) (count : ℕ) : comment.read line count = comment := by
  induction line generalizing count with
  | nil => simp
  | cons byte rest ih =>
    cases count with
    | zero => simp
    | succ count => simp [next, ih]

lemma read_min_length (line : List UInt8) (count : ℕ) :
    state.read line (min count line.length) = state.read line count := by
  induction line generalizing state count with
  | nil => simp
  | cons byte rest ih =>
    cases count with
    | zero => simp
    | succ count => simp [Nat.succ_min_succ, ih]

/-- The state tells of the bytes that are read and of the one that follows. -/
lemma read_take (line : List UInt8) (count : ℕ) :
    state.read (line.take (count + 1)) count = state.read line count := by
  induction line generalizing state count with
  | nil => simp
  | cons byte rest ih =>
    cases count with
    | zero => simp
    | succ count =>
      rw [List.take_succ_cons, read_cons, read_cons, ih, List.head?_take, if_neg count.succ_ne_zero]

lemma read_add (line : List UInt8) (first second : ℕ) :
    state.read line (first + second) = (state.read line first).read (line.drop first) second := by
  induction line generalizing state first with
  | nil => simp
  | cons byte rest ih =>
    cases first with
    | zero => simp
    | succ first => rw [Nat.succ_add, read_cons, read_cons, List.drop_succ_cons, ih]

end

/-! ## Strings end at quotes -/

/-- The string that is open was opened by a quote. -/
def Opened : State → Prop
  | string quote | escape quote => quote ∈ quotes
  | _ => True

section

variable {state : State}

lemma Opened.next (h : state.Opened) (byte : UInt8) (following : Option UInt8) :
    (state.next byte following).Opened := by
  cases state with
  | code =>
    rw [State.next]
    split_ifs with hquote
    · exact hquote
    · trivial
    · trivial
  | string quote =>
    rw [State.next]
    split_ifs
    · exact h
    · trivial
    · exact h
  | escape quote => exact h
  | comment => trivial

lemma Opened.read (h : state.Opened) (line : List UInt8) (count : ℕ) :
    (state.read line count).Opened := by
  induction line generalizing state count with
  | nil => rwa [read_nil]
  | cons byte rest ih =>
    cases count with
    | zero => rwa [read_zero]
    | succ count => exact ih (h.next byte rest.head?) count

lemma next_ne_code (h : state.Opened) (hstate : state ≠ code) {byte : UInt8} (hbyte : byte ∉ quotes)
    (following : Option UInt8) : state.next byte following ≠ code := by
  cases state with
  | code => exact absurd rfl hstate
  | string quote =>
    have hne : byte ≠ quote := fun heq => hbyte (heq ▸ h)
    rw [next, if_neg hne]
    split_ifs <;> simp
  | escape quote => simp [next]
  | comment => simp [next]

/-- Without a quote there is no way back to code. -/
lemma read_ne_code (h : state.Opened) (hstate : state ≠ code) {line : List UInt8} {count : ℕ}
    (hbytes : ∀ b ∈ line.take count, b ∉ quotes) : state.read line count ≠ code := by
  induction line generalizing state count with
  | nil => rwa [read_nil]
  | cons byte rest ih =>
    cases count with
    | zero => rwa [read_zero]
    | succ count =>
      rw [List.take_succ_cons, List.forall_mem_cons] at hbytes
      exact ih (h.next byte rest.head?) (next_ne_code h hstate hbytes.1 _) hbytes.2

end

end State

/-! ## The scan reads as the lexer does -/

def State.ofQuote? : Option UInt8 → State
  | none => .code
  | some quote => .string quote

lemma isNone_iff_code (quote? : Option UInt8) :
    quote?.isNone = true ↔ State.ofQuote? quote? = .code := by
  cases quote? <;> simp [State.ofQuote?]

/-- By induction on the scan. An escape is one step of the scan and two of the lexer. -/
lemma isLiveFrom_iff (quote? : Option UInt8) (count : ℕ) (line : List UInt8) :
    isLiveFrom quote? count line = true ↔ (State.ofQuote? quote?).read line count = .code := by
  fun_induction isLiveFrom quote? count line with
  | case1 quote? line => rw [State.read_zero, isNone_iff_code]
  | case2 count quote? hcount => rw [State.read_nil, isNone_iff_code]
  | case3 count byte rest hquote ih =>
    have hnext : State.code.next byte rest.head? = .string byte :=
      if_pos (List.contains_iff_mem.mp hquote)
    rw [ih, State.ofQuote?, State.ofQuote?, State.read_cons, hnext]
  | case4 count byte rest hquote hcomment =>
    have hnext : State.code.next byte rest.head? = .comment := by
      simp_all [State.next]
    simp [State.ofQuote?, hnext]
  | case5 count byte rest hquote hcomment ih =>
    have hnext : State.code.next byte rest.head? = .code := by
      simp_all [State.next]
    rw [ih, State.ofQuote?, State.read_cons, hnext]
  | case6 byte quote hbackslash count escaped rest ih =>
    have hnext : (State.string quote).next byte (some escaped) = .escape quote :=
      if_pos (beq_iff_eq.mp hbackslash)
    rw [ih, State.ofQuote?, State.read_cons, List.head?_cons, hnext, State.read_cons, State.next]
  | case7 count byte rest quote hbackslash hend =>
    have hnext : (State.string quote).next byte rest.head? = .escape quote :=
      if_pos (beq_iff_eq.mp hbackslash)
    rw [State.ofQuote?, State.read_cons, hnext]
    cases count with
    | zero => simp
    | succ count =>
      cases rest with
      | nil => simp
      | cons escaped rest => exact absurd rfl (hend count escaped rest rfl)
  | case8 count byte rest quote hbackslash ih =>
    have hnext : (State.string quote).next byte rest.head? =
        State.ofQuote? (if (byte == quote) = true then none else some quote) := by
      rw [State.next, if_neg (mt beq_iff_eq.mpr hbackslash)]
      simp only [beq_iff_eq]
      split_ifs <;> rfl
    rw [ih, State.ofQuote?, State.read_cons, hnext]

lemma isLive_iff {line : List UInt8} {offset : ℕ} :
    isLive line offset = true ↔ State.code.read line offset = .code :=
  isLiveFrom_iff none offset line

/-- No place is live between a dead place and the next quote. -/
lemma not_isLive_add {line : List UInt8} {offset count : ℕ} (h : ¬ isLive line offset = true)
    (hbytes : ∀ b ∈ (line.drop offset).take count, b ∉ quotes) :
    ¬ isLive line (offset + count) = true := by
  rw [isLive_iff] at h ⊢
  rw [State.read_add]
  have hopened : State.code.Opened := trivial
  exact State.read_ne_code (hopened.read line offset) h hbytes

/-- A place is live just when the lexer, having read the bytes in front of it, is in code. This tells
of these bytes and the next one only. -/
theorem isLive_iff_code (line : List UInt8) (offset : ℕ) :
    (isLive line offset = true ↔ State.code.read line (min offset line.length) = .code) ∧
      isLive (line.take (offset + 1)) offset = isLive line offset := by
  refine ⟨?_, Bool.eq_iff_iff.mpr ?_⟩
  · rw [isLive_iff, State.read_min_length]
  · rw [isLive_iff, isLive_iff, State.read_take]

/-- The slashes of a string begin no comment, and the quote behind them closes it. -/
example :
    let line := "u = \"http://x\"; foo()".toUTF8.toList
    isLive line 13 = false ∧ isLive line 16 = true := by
  decide +kernel

end ScriptSurvey.LiveCode
