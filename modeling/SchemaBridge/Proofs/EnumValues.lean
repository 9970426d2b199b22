/-
Values of an enumeration, as declared and as defaults.

The list of values is cut at its commas and each part loses its blanks and its quotes. A literal is not cut, whatever its
text says (`inside_literal`), so each value is read from its own literal. But only the outer quotes are taken off: what is
read is the text as it stands between them, trimmed once more (`listedValue`). A default is read the other way, with
doubled marks made one and blanks kept (`ofExpression?_literal`). The two agree on a text without quotation marks and
without blanks at its ends, and on no other (`listedValue_eq_self_iff`).

Results:
- `parseEnum_literals`: the enumeration that a list of literals declares.
- `default_mem_columnAttributes`: the default of a field.
- `listed_values_are_members`: the values that are read, and which defaults they take.
- `doubled_mark_is_no_member`: a value with a quotation mark, and the default that names it.
-/
import SchemaBridge.Model.Basic
import SchemaBridge.Proofs.AttributeOrder
import SchemaBridge.Proofs.LiteralDefaults
import SchemaBridge.Proofs.Nesting

namespace SchemaBridge

open Text Ddl

namespace Ddl

/-! ## Literals in a list -/

/-- a literal is one text in quotes after another, so a comma or a parenthesis in it is inside of quotes -/
theorem inside_literal {depth : Nat} (s : Text) : Inside depth (literal s) := by
  have hrest (p : Text) (hp : '\'' ∉ p) : Inside depth (inQuotes '\'' (p ++ doubled s)) := by
    induction s generalizing p with
    | nil => exact (List.append_nil p).symm ▸ Inside.quoted (Or.inl rfl) hp
    | cons c s ih =>
      by_cases hc : c = '\''
      · -- the first of the two marks closes a literal, and the second one opens the next
        have hsplit : inQuotes '\'' (p ++ doubled (c :: s)) = inQuotes '\'' p ++ inQuotes '\'' ([] ++ doubled s) := by
          simp [hc, doubled_mark, inQuotes]
        exact hsplit ▸ (Inside.quoted (Or.inl rfl) hp).append (ih [] List.not_mem_nil)
      · have hsplit : p ++ doubled (c :: s) = (p ++ [c]) ++ doubled s := by simp [doubled_cons hc]
        exact hsplit ▸ ih (p ++ [c]) (by simp [hp, Ne.symm hc])
  exact hrest [] List.not_mem_nil

theorem inside_blanks {depth : Nat} {v : Text} (hv : ∀ c ∈ v, isBlank c = true) : Inside depth v := by
  refine Inside.of_plain fun c hc => ⟨Nesting.isMark_of_isBlank (hv c hc), ?_⟩
  rintro rfl
  exact absurd (hv ',' hc) (by decide)

/-- so is a part of a list that is a literal with blanks around it -/
theorem inside_of_trim {depth : Nat} {part v : Text} (h : trim part = literal v) : Inside depth part := by
  obtain ⟨before, after, hbefore, hafter, hpart⟩ := trim_eq part
  rw [hpart, h]
  exact (inside_blanks hbefore).append ((inside_literal v).append (inside_blanks hafter))

/-! ## Values -/

theorem trimStart_doubled (s : Text) : trimStart (doubled s) = doubled (trimStart s) := by
  induction s with
  | nil => rfl
  | cons c s ih =>
    by_cases hc : c = '\''
    · rw [hc, doubled_mark]
      rfl
    · cases hblank : isBlank c with
      | true => simpa [doubled_cons hc, trimStart, hblank] using ih
      | false => simp [doubled_cons hc, trimStart, hblank]

theorem doubled_reverse (s : Text) : doubled s.reverse = (doubled s).reverse := by
  rw [doubled, doubled, List.reverse_flatMap]
  refine congrArg s.reverse.flatMap (funext fun c => ?_)
  rw [Function.comp_apply]
  split_ifs <;> rfl

theorem trim_doubled (s : Text) : trim (doubled s) = doubled (trim s) := by
  have hend (t : Text) : trimEnd (doubled t) = doubled (trimEnd t) := by
    have hstart := trimStart_doubled t.reverse
    rw [trimStart, trimStart, doubled_reverse] at hstart
    rw [trimEnd, trimEnd, hstart, doubled_reverse]
  rw [trim, trim, trimStart_doubled, hend]

theorem length_doubled (s : Text) : (doubled s).length = s.length + s.count '\'' := by
  induction s with
  | nil => rfl
  | cons c s ih =>
    by_cases hc : c = '\''
    · rw [hc, doubled_mark, List.count_cons_self]
      simp only [List.length_cons, ih]
      omega
    · rw [doubled_cons hc, List.count_cons_of_ne hc]
      simp only [List.length_cons, ih]
      omega

theorem doubled_eq_self_iff {s : Text} : doubled s = s ↔ '\'' ∉ s := by
  constructor
  · intro h
    have hlength := length_doubled s
    rw [h] at hlength
    exact List.count_eq_zero.1 (by omega)
  · intro h
    induction s with
    | nil => rfl
    | cons c s ih =>
      rw [List.mem_cons, not_or] at h
      rw [doubled_cons (Ne.symm h.1), ih h.2]

/-- the value that the literal of a text is read as in the list of an enumeration -/
def listedValue (s : Text) : Text :=
  doubled (trim s)

/-- **A value is read as it is meant** exactly if it has no blanks at its ends and no quotation marks. -/
theorem listedValue_eq_self_iff {s : Text} : listedValue s = s ↔ trim s = s ∧ '\'' ∉ s := by
  constructor
  · intro h
    have htrim : trim s = s := by
      rw [← h, listedValue, ← trim_doubled, trim_trim]
    rw [listedValue, htrim] at h
    exact ⟨htrim, doubled_eq_self_iff.1 h⟩
  · rintro ⟨htrim, hmark⟩
    rw [listedValue, htrim, doubled_eq_self_iff.2 hmark]

theorem listedValue_ne_nil {s : Text} (h : trim s ≠ []) : listedValue s ≠ [] := by
  intro hnil
  have hlength := length_doubled (trim s)
  rw [← listedValue, hnil, List.length_nil] at hlength
  exact h (List.length_eq_zero_iff.1 (by omega))

/-- **A list of literals** declares their texts as they stand between the quotes, trimmed. -/
theorem parseEnum_literals {statement name : Text} {parts values : List Text} (hparts : parts.map trim = values.map literal)
    (hvalues : ∀ v ∈ values, trim v ≠ []) (hread : readEnum statement = some (name, joinWith [','] parts)) :
    parseEnum statement = .ok ⟨baseName name, values.map listedValue⟩ := by
  have hinside : ∀ part ∈ parts, Inside 0 part := by
    intro part hpart
    obtain ⟨v, -, hv⟩ := List.mem_map.1 (hparts ▸ List.mem_map_of_mem hpart)
    exact inside_of_trim hv.symm
  have hsplit : splitTop ',' (joinWith [','] parts) = values.map literal := by
    rw [splitTop_commas hinside, hparts]
    refine List.filter_eq_self.2 fun part hpart => ?_
    obtain ⟨v, -, rfl⟩ := List.mem_map.1 hpart
    rfl
  have hunquote : (values.map literal).map (fun part => trim (unquote part)) = values.map listedValue := by
    rw [List.map_map]
    refine List.map_congr_left fun v _ => ?_
    rw [Function.comp_apply, literal, unquote_inQuotes_single, trim_doubled, listedValue]
  have hkept : (values.map listedValue).filter (!·.isEmpty) = values.map listedValue := by
    refine List.filter_eq_self.2 fun value hvalue => ?_
    obtain ⟨v, hv, rfl⟩ := List.mem_map.1 hvalue
    simpa using listedValue_ne_nil (hvalues v hv)
  simp only [parseEnum, hread, hsplit, hunquote, hkept]

end Ddl

namespace Model

/-! ## Defaults -/

/-- **The default** of a field is that of an identifier, or that of the expression. -/
theorem default_mem_columnAttributes {c : Column} {field : Text} {isId isUnique : Bool} {enum : Option Enumeration}
    {d : DefaultValue} :
    Attribute.default d ∈ columnAttributes c field isId isUnique enum ↔
      (if isId then keyDefault? c else plainDefault? enum c) = some d :=
  mem_columnAttributes

theorem DefaultValue.ofText_some (e : Enumeration) (s : Text) :
    ofText (some e) s = if s ∈ e.values then .member s else .text s := by
  simp [ofText]

/-- **Values and defaults.** A list of literals with blanks around them declares an enumeration, whose values are the
texts themselves exactly if these have no blanks at their ends and no quotation marks. A field that is of the
enumeration and no identifier has a literal of its column for the default: the bare text if it is one of the values that
were read, and the text in quotes if not. -/
theorem listed_values_are_members {parts values : List Text} (hparts : parts.map trim = values.map literal)
    (hvalues : ∀ v ∈ values, trim v ≠ []) :
    (∀ q : Spelling, q.Valid →
        parseEnum (enumStatement q (joinWith [','] parts)) = .ok ⟨q.name, values.map listedValue⟩) ∧
      (∀ statement name, readEnum statement = some (name, joinWith [','] parts) →
        parseEnum statement = .ok ⟨baseName name, values.map listedValue⟩) ∧
      (values.map listedValue = values ↔ ∀ v ∈ values, trim v = v ∧ '\'' ∉ v) ∧
      ∀ enums t c name v, enumOf? enums c = some ⟨name, values.map listedValue⟩ → isId t c = false →
        c.default = some (literal v) → IsPlainDefault v →
        (∀ d, Attribute.default d ∈ (columnField enums t c).attributes ↔
          d = if ∃ w ∈ values, listedValue w = v then .member v else .text v) ∧
        (v ∈ values → trim v = v → '\'' ∉ v → Attribute.default (.member v) ∈ (columnField enums t c).attributes) := by
  refine ⟨fun q hq => ?_, fun _ _ hread => parseEnum_literals hparts hvalues hread, ?_, ?_⟩
  · rw [parseEnum_literals hparts hvalues (readEnum_enumStatement hq _), baseName_spelling hq]
  · have hself : values.map listedValue = values ↔ ∀ v ∈ values, listedValue v = v :=
      ⟨fun h => List.map_inj_left.1 (h.trans (List.map_id values).symm),
        fun h => (List.map_inj_left.2 h).trans (List.map_id values)⟩
    simp only [hself, listedValue_eq_self_iff]
  · intro enums t c name v henum hid hdefault hplain
    have hvalue : plainDefault? (enumOf? enums c) c =
        some (if ∃ w ∈ values, listedValue w = v then .member v else .text v) := by
      have hcast : ∀ w ∈ (none : Option Text), IsCastName w := fun w hw => by cases hw
      have hliteral := ofExpression?_literal hplain hcast (enumOf? enums c)
      rw [writeCast, List.append_nil, henum, DefaultValue.ofText_some] at hliteral
      unfold plainDefault?
      rw [hdefault, henum]
      simpa only [List.mem_map] using hliteral
    have hmem (d : DefaultValue) : Attribute.default d ∈ (columnField enums t c).attributes ↔
        d = if ∃ w ∈ values, listedValue w = v then .member v else .text v := by
      rw [columnField, default_mem_columnAttributes, hid, if_neg Bool.false_ne_true, hvalue, Option.some_inj, eq_comm]
    refine ⟨hmem, fun hv htrim hmark => ?_⟩
    rw [hmem, if_pos ⟨v, hv, listedValue_eq_self_iff.2 ⟨htrim, hmark⟩⟩]

/-- a comma and parentheses in a value, and the default that names it -/
theorem listed_values_are_members_mood :
    let e : Enumeration := ⟨"mood".toList, ["ok".toList, "so, (so)".toList, "it''s".toList]⟩
    let c : Column :=
      { name := "m".toList, type := "mood".toList, isEnum := true, default := some "'so, (so)'".toList }
    parseEnum "CREATE TYPE mood AS ENUM ('ok','so, (so)' , 'it''s')".toList = .ok e ∧
      Attribute.default (.member "so, (so)".toList) ∈ (columnField [e] ⟨"t".toList, [c], []⟩ c).attributes := by
  intro e c
  let values := ["ok".toList, "so, (so)".toList, "it's".toList]
  have hparts : ["'ok'".toList, "'so, (so)' ".toList, " 'it''s'".toList].map trim = values.map literal := by decide
  have hvalues : ∀ v ∈ values, trim v ≠ [] := by decide
  have hplain : IsPlainDefault "so, (so)".toList := ⟨by decide, by decide, by decide, by decide⟩
  obtain ⟨hdeclared, -, -, hdefault⟩ := listed_values_are_members hparts hvalues
  obtain ⟨-, hmember⟩ := hdefault [e] ⟨"t".toList, [c], []⟩ c "mood".toList "so, (so)".toList (by decide) (by decide)
    (by decide) hplain
  exact ⟨hdeclared (.plain (.bare "mood".toList)) (by decide), hmember (by decide) (by decide) (by decide)⟩

/-- a value with a quotation mark keeps it doubled, so the default that names the value is no value -/
theorem doubled_mark_is_no_member :
    let e : Enumeration := ⟨"mood".toList, ["it''s".toList, "ok".toList]⟩
    parseEnum "CREATE TYPE mood AS ENUM ('it''s', 'ok')".toList = .ok e ∧
      DefaultValue.ofExpression? (some e) "'it''s'".toList = some (.text "it's".toList) := by
  decide +kernel

end Model

end SchemaBridge
