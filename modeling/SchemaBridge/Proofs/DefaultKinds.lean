/-
What an expression is read as.

`DefaultValue.ofExpression?` tries the kinds of expressions in order. What it comes to is one of seven (`ReadAs`), each
with what was found in the expression: so facts on defaults are proved kind by kind, without going through the order
again. A number is read as the regular expression for it allows (`IsDecimalNumber`), in the digits of any script.

Result:
- `readAs_of_ofExpression?`: the kinds of defaults of an expression.
-/
import SchemaBridge.Proofs.Spellings
import SchemaBridge.Model.Default

namespace SchemaBridge.Model

open Text Ddl

/-! ## Numbers -/

/-- decimal digits, not none -/
def IsDigits (s : Text) : Prop :=
  s ≠ [] ∧ ∀ c ∈ s, isDigit c = true

/-- a sign or none -/
def IsSign (s : Text) : Prop :=
  s ∈ [[], ['+'], ['-']]

/-- digits with a point after, among or before them, or without one -/
inductive IsMantissa : Text → Prop where
  | whole {digits : Text} : IsDigits digits → IsMantissa digits
  | fraction {digits decimals : Text} : IsDigits digits → (∀ c ∈ decimals, isDigit c = true) →
      IsMantissa (digits ++ '.' :: decimals)
  | point {decimals : Text} : IsDigits decimals → IsMantissa ('.' :: decimals)

/-- a power of ten or none -/
inductive IsExponent : Text → Prop where
  | none : IsExponent []
  | power {mark : Char} {sign digits : Text} : mark = 'e' ∨ mark = 'E' → IsSign sign → IsDigits digits →
      IsExponent (mark :: (sign ++ digits))

/-- a decimal number: a sign, a mantissa and an exponent -/
inductive IsDecimalNumber : Text → Prop where
  | mk {sign mantissa exponent : Text} : IsSign sign → IsMantissa mantissa → IsExponent exponent →
      IsDecimalNumber (sign ++ (mantissa ++ exponent))

theorem isDigits_of_skipRun {s rest : Text} (h : skipRun isDigit s = some rest) :
    ∃ digits, IsDigits digits ∧ s = digits ++ rest := by
  obtain ⟨digits, hne, hdigits, hs⟩ := skipRun_eq_some h
  exact ⟨digits, ⟨hne, hdigits⟩, hs⟩

theorem isSign_of_optional (s : Text) : ∃ sign, IsSign sign ∧ s = sign ++ Ddl.optional skipSign s := by
  cases hsign : skipSign s with
  | none => exact ⟨[], by simp [IsSign], by rw [Ddl.optional, hsign]; rfl⟩
  | some rest =>
    rw [Ddl.optional, hsign, Option.getD_some]
    rcases Option.or_eq_some_iff.1 hsign with h | ⟨-, h⟩
    · exact ⟨['+'], by simp [IsSign], skipChar_eq_some h⟩
    · exact ⟨['-'], by simp [IsSign], skipChar_eq_some h⟩

theorem isMantissa_of_skipMantissa {s rest : Text} (h : skipMantissa s = some rest) :
    ∃ mantissa, IsMantissa mantissa ∧ s = mantissa ++ rest := by
  unfold skipMantissa at h
  split at h
  · next after hrun =>
    obtain ⟨digits, hdigits, rfl⟩ := isDigits_of_skipRun hrun
    have hrest := Option.some.inj h
    cases hpoint : skipChar '.' after with
    | none =>
      rw [Ddl.optional, hpoint] at hrest
      exact ⟨digits, .whole hdigits, congrArg (digits ++ ·) hrest⟩
    | some decimals =>
      rw [Ddl.optional, hpoint] at hrest
      refine ⟨digits ++ '.' :: decimals.takeWhile isDigit, .fraction hdigits fun c hc => List.mem_takeWhile_imp hc, ?_⟩
      rw [skipChar_eq_some hpoint, ← hrest]
      simp [List.takeWhile_append_dropWhile]
  · obtain ⟨after, hpoint, hrun⟩ := Option.bind_eq_some_iff.1 h
    obtain ⟨decimals, hdecimals, rfl⟩ := isDigits_of_skipRun hrun
    exact ⟨'.' :: decimals, .point hdecimals, skipChar_eq_some hpoint⟩

theorem isExponent_of_skipExponent {s rest : Text} (h : skipExponent s = some rest) :
    ∃ exponent, IsExponent exponent ∧ s = exponent ++ rest := by
  obtain ⟨after, hmark, hrun⟩ := Option.bind_eq_some_iff.1 h
  obtain ⟨digits, hdigits, hafter⟩ := isDigits_of_skipRun hrun
  obtain ⟨sign, hsign, hsplit⟩ := isSign_of_optional after
  obtain ⟨mark, hletter, hs⟩ : ∃ mark, (mark = 'e' ∨ mark = 'E') ∧ s = mark :: after := by
    rcases Option.or_eq_some_iff.1 hmark with h | ⟨-, h⟩
    · exact ⟨'e', Or.inl rfl, skipChar_eq_some h⟩
    · exact ⟨'E', Or.inr rfl, skipChar_eq_some h⟩
  refine ⟨mark :: (sign ++ digits), .power hletter hsign hdigits, ?_⟩
  rw [hs, hsplit, hafter]
  simp

/-- **Numbers** have the form of one. -/
theorem isDecimalNumber_of_isNumber {s : Text} (h : isNumber s = true) : IsDecimalNumber s := by
  obtain ⟨sign, hsign, hs⟩ := isSign_of_optional s
  unfold isNumber at h
  cases hmantissa : skipMantissa (Ddl.optional skipSign s) with
  | none =>
    rw [hmantissa] at h
    cases h
  | some rest =>
    rw [hmantissa, Option.any_some, List.isEmpty_iff] at h
    obtain ⟨mantissa, hmantissa, hsplit⟩ := isMantissa_of_skipMantissa hmantissa
    have hexponent : IsExponent rest := by
      cases hskip : skipExponent rest with
      | none =>
        rw [Ddl.optional, hskip] at h
        rw [show rest = [] from h]
        exact .none
      | some end_ =>
        rw [Ddl.optional, hskip] at h
        obtain ⟨exponent, hexponent, hrest⟩ := isExponent_of_skipExponent hskip
        rw [show end_ = [] from h, List.append_nil] at hrest
        rwa [hrest]
    rw [hs, hsplit]
    exact .mk hsign hmantissa hexponent

/-- a character of a decimal number -/
def IsNumberChar (c : Char) : Prop :=
  isDigit c = true ∨ c ∈ ['+', '-', '.', 'e', 'E']

instance (c : Char) : Decidable (IsNumberChar c) := by
  unfold IsNumberChar; infer_instance

theorem IsDecimalNumber.isNumberChar {s : Text} (h : IsDecimalNumber s) : ∀ c ∈ s, IsNumberChar c := by
  have hdigits {digits : Text} (h : ∀ c ∈ digits, isDigit c = true) : ∀ c ∈ digits, IsNumberChar c := fun c hc =>
    Or.inl (h c hc)
  have hsign : ∀ sign ∈ [[], ['+'], ['-']], ∀ c ∈ sign, IsNumberChar c := by decide
  obtain ⟨hsigned, hmantissa, hexponent⟩ := h
  refine List.forall_mem_append.2 ⟨hsign _ hsigned, List.forall_mem_append.2 ⟨?_, ?_⟩⟩
  · cases hmantissa with
    | whole h => exact hdigits h.2
    | fraction h h' =>
      exact List.forall_mem_append.2 ⟨hdigits h.2, List.forall_mem_cons.2 ⟨by decide, hdigits h'⟩⟩
    | point h => exact List.forall_mem_cons.2 ⟨by decide, hdigits h.2⟩
  · cases hexponent with
    | none => exact List.forall_mem_nil _
    | power hmark hsigned h =>
      refine List.forall_mem_cons.2 ⟨?_, List.forall_mem_append.2 ⟨hsign _ hsigned, hdigits h.2⟩⟩
      rcases hmark with rfl | rfl <;> decide

/-! ## Kinds of expressions -/

/-- what an expression may be read as, given the enumeration of its column -/
inductive ReadAs (enum : Option Enumeration) (expression : Text) : DefaultValue → Prop where
  | now : ReadAs enum expression .now
  | boolean (value : Bool) : ReadAs enum expression (.boolean value)
  | number : IsDecimalNumber expression → ReadAs enum expression (.number expression)
  | uuid : callsUuid expression = true → ReadAs enum expression (.dbgenerated expression)
  | document : callsUuid expression = false → ReadAs enum expression (.dbgenerated (stripParentheses expression))
  | member {e : Enumeration} : e ∈ enum → literalText expression ∈ e.values →
      ReadAs enum expression (.member (literalText expression))
  | text : ReadAs enum expression (.text (literalText expression))

/-- **What an expression is read as** is one of these. -/
theorem readAs_of_ofExpression? {enum : Option Enumeration} {written : Text} {value : DefaultValue}
    (h : DefaultValue.ofExpression? enum written = some value) : ReadAs enum (trim written) value := by
  have hskip {p : Prop} [Decidable p] {o o' : Option DefaultValue} (ho : p → o = some value → ReadAs enum (trim written) value)
      (ho' : ¬ p → o' = some value → ReadAs enum (trim written) value) (h : (if p then o else o') = some value) :
      ReadAs enum (trim written) value := by
    split_ifs at h with hp
    · exact ho hp h
    · exact ho' hp h
  have hthis {v : DefaultValue} (hv : ReadAs enum (trim written) v) (h : some v = some value) :
      ReadAs enum (trim written) value :=
    Option.some.inj h ▸ hv
  unfold DefaultValue.ofExpression? at h
  -- the kinds of expressions in the order in which they are tried
  refine hskip (fun _ => hthis .now) (fun _ => ?_) h
  refine hskip (fun huuid => hthis (.uuid huuid)) fun huuid => ?_
  refine hskip (fun _ => nofun) fun _ => ?_
  refine hskip (fun _ => hthis (.boolean true)) fun _ => ?_
  refine hskip (fun _ => hthis (.boolean false)) fun _ => ?_
  refine hskip (fun hnumber => hthis (.number (isDecimalNumber_of_isNumber hnumber))) fun _ => ?_
  refine hskip (fun _ => hthis .now) fun _ => ?_
  refine hskip (fun _ => hthis (.document (Bool.eq_false_iff.2 huuid))) fun _ => ?_
  refine hskip (fun hmember => ?_) fun _ => hthis .text
  obtain ⟨e, he, hvalue⟩ := (Option.any_eq_true _ _).1 hmember
  exact hthis (.member he (List.contains_iff_mem.1 hvalue))

end SchemaBridge.Model
