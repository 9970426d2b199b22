/-
Columns of an enumeration, as read and as generated.

Reading takes a column for one of an enumeration if its type is the enumeration's name up to ASCII case
(`Enumeration.IsTypeOf`). Generating compares the two in pascal case instead, where the brackets of an array drop out
(`fieldType_eq_enumeration_iff`). Pascal case keeps the capitals of a mixed word, so the two agree on an ASCII name
exactly if its words and those of the type are capitalised alike (`fieldType_of_isEnum`): `STATUS` is of `status`, but a
column of type `orderstatus` is read as one of `orderStatus` and generated as text (`orderstatus_is_text`).
-/
import SchemaBridge.Proofs.KeyNames
import SchemaBridge.Proofs.Written

namespace SchemaBridge

open Text

namespace Text

/-- characters that are cut at leave empty pieces only -/
theorem splitWhere_append_of_pos {p : Char → Bool} (s : Text) {t : Text} (ht : ∀ c ∈ t, p c = true) :
    splitWhere p (s ++ t) = splitWhere p s ++ List.replicate t.length [] := by
  have hpieces (t : Text) (ht : ∀ c ∈ t, p c = true) : splitWhere p t = [] :: List.replicate t.length [] := by
    induction t with
    | nil => rfl
    | cons d t ih =>
      obtain ⟨hd, ht⟩ := List.forall_mem_cons.1 ht
      rw [splitWhere_cons_of_pos hd, ih ht]
      rfl
  cases t with
  | nil => simp
  | cons d t =>
    obtain ⟨hd, ht⟩ := List.forall_mem_cons.1 ht
    rw [splitWhere_append_cons hd, hpieces t ht]
    rfl

end Text

namespace Column

theorem dropBrackets_append (s : Text) : ∃ t, s = t ++ dropBrackets s ∧ ∀ x ∈ t, x ∈ ['[', ']'] := by
  fun_induction dropBrackets s with
  | case1 rest ih =>
    obtain ⟨t, ht, hbrackets⟩ := ih
    refine ⟨']' :: '[' :: t, by rw [List.cons_append, List.cons_append, ← ht], ?_⟩
    simpa using hbrackets
  | case2 s _ => exact ⟨[], rfl, by simp⟩

/-- a type is its element type with brackets after it -/
theorem type_eq_elementType (c : Column) : ∃ t, c.type = c.elementType ++ t ∧ ∀ x ∈ t, x ∈ ['[', ']'] := by
  obtain ⟨t, ht, hbrackets⟩ := dropBrackets_append c.type.reverse
  refine ⟨t.reverse, ?_, by simpa using hbrackets⟩
  rw [elementType, ← List.reverse_append, ← ht, List.reverse_reverse]

end Column

/-- the column's type is the enumeration's name up to ASCII case, with brackets after it if the column is an array -/
def Enumeration.IsTypeOf (e : Enumeration) (c : Column) : Prop :=
  ∃ isArray : Bool, sameName (e.name ++ arraySuffix isArray) c.type = true

namespace Model

/-! ## Brackets -/

/-- brackets are in no word -/
theorem words_append_brackets (s : Text) {t : Text} (ht : ∀ x ∈ t, x ∈ ['[', ']']) : words (s ++ t) = words s := by
  have hcut : ∀ x ∈ ['[', ']'], (!isAlphanumeric x) = true := by decide
  rw [words, splitWhere_append_of_pos s fun x hx => hcut x (ht x hx), List.filter_append, List.filter_replicate_of_neg]
  · exact List.append_nil _
  · simp

theorem pascalCase_append_brackets (s : Text) {t : Text} (ht : ∀ x ∈ t, x ∈ ['[', ']']) :
    pascalCase (s ++ t) = pascalCase s := by
  rw [pascalCase, words_append_brackets s ht, pascalCase]

theorem arraySuffix_brackets (isArray : Bool) : ∀ x ∈ arraySuffix isArray, x ∈ ['[', ']'] := by
  cases isArray <;> decide

theorem pascalCase_elementType (c : Column) : pascalCase c.elementType = pascalCase c.type := by
  obtain ⟨t, ht, hbrackets⟩ := c.type_eq_elementType
  rw [ht, pascalCase_append_brackets _ hbrackets]

/-! ## The type of a field -/

variable {enums : List Enumeration} {c : Column}

/-- **A field is of an enumeration** exactly if the column's type and the enumeration's name are one in pascal case. -/
theorem fieldType_eq_enumeration_iff {n : Text} :
    fieldType enums c = .enumeration n ↔ n = pascalCase c.type ∧ ∃ e ∈ enums, pascalCase e.name = pascalCase c.type := by
  unfold fieldType enumOf? enumNamed?
  rw [pascalCase_elementType]
  cases hfind : enums.find? (pascalCase ·.name == pascalCase c.type) with
  | none =>
    rw [List.find?_eq_none] at hfind
    simp only [beq_iff_eq] at hfind
    refine ⟨fun h => ?_, fun ⟨_, e, he, hsame⟩ => absurd hsame (hfind e he)⟩
    cases h
  | some e =>
    have hsame : pascalCase e.name = pascalCase c.type := by simpa using List.find?_some hfind
    rw [FieldType.enumeration.injEq, hsame]
    exact ⟨fun h => ⟨h.symm, e, List.mem_of_find?_eq_some hfind, hsame⟩, fun h => h.1.symm⟩

/-- in pascal case an ASCII name and a type that spells it agree if word by word they are capitalised alike -/
theorem pascalCase_eq_type_iff {e : Enumeration} (he : ∀ x ∈ e.name, isAscii x = true) (h : e.IsTypeOf c) :
    pascalCase e.name = pascalCase c.type ↔ (words e.name).map capitalize = (words c.type).map capitalize := by
  obtain ⟨isArray, hsame⟩ := h
  have hascii : ∀ x ∈ e.name ++ arraySuffix isArray, isAscii x = true := by
    refine List.forall_mem_append.2 ⟨he, fun x hx => ?_⟩
    have hbrackets : ∀ x ∈ ['[', ']'], isAscii x = true := by decide
    exact hbrackets x (arraySuffix_brackets isArray x hx)
  have hiff := pascalCase_eq_iff hascii hsame
  rwa [pascalCase_append_brackets _ (arraySuffix_brackets isArray),
    words_append_brackets _ (arraySuffix_brackets isArray)] at hiff

end Model

namespace Ddl

/-- what reading makes of the name of a column's type -/
theorem columnType_of_readColumn {enums : List Enumeration} {clause : Text} {c : Column} {key : Option ForeignKey}
    (h : readColumn enums clause = some (c, key)) :
    ∃ name isArray, columnType enums name isArray = (c.type, c.isEnum) := by
  simp only [readColumn, Option.bind_eq_bind, Option.bind_eq_some_iff, Option.some.injEq, Prod.mk.injEq] at h
  obtain ⟨_, _, declared, _, rfl, _⟩ := h
  exact ⟨_, declared.isArray, rfl⟩

/-- a column that is read as one of an enumeration has an enumeration's name as its type, up to ASCII case -/
theorem isTypeOf_of_isEnum {enums : List Enumeration} {clause : Text} {c : Column} {key : Option ForeignKey}
    (h : readColumn enums clause = some (c, key)) (hc : c.isEnum = true) : ∃ e ∈ enums, e.IsTypeOf c := by
  obtain ⟨name, isArray, htype⟩ := columnType_of_readColumn h
  rw [columnType, Prod.mk.injEq] at htype
  obtain ⟨htype, henum⟩ := htype
  rw [hc] at henum
  rw [henum, if_pos rfl] at htype
  obtain ⟨e, he, hsame⟩ := List.any_eq_true.1 henum
  refine ⟨e, he, isArray, ?_⟩
  have hname : fold e.name = fold name := by simpa [sameName] using hsame
  simp only [← htype, sameName, fold, List.map_append, beq_iff_eq] at hname ⊢
  rw [hname]
  rfl

theorem readColumn_of_parseColumn {enums : List Enumeration} {table clause : Text} {constraints : List Constraint}
    {c : Column} (h : (parseColumn enums table constraints clause).1 = .ok c) :
    ∃ key, readColumn enums clause = some (c, key) := by
  unfold parseColumn at h
  split at h
  · cases h
  · next column key hread =>
    cases h
    exact ⟨key, hread⟩

end Ddl

namespace Model

open Ddl

/-- **Reading and generating** agree on a column of an enumeration exactly if its type is, up to ASCII case, the name of
an enumeration that is the same in pascal case. For an ASCII name that means that its words and those of the type are
capitalised alike. -/
theorem fieldType_of_isEnum {enums : List Enumeration} {table clause : Text} {constraints : List Constraint} {c : Column}
    (h : (parseColumn enums table constraints clause).1 = .ok c) (hc : c.isEnum = true) :
    (∃ e ∈ enums, e.IsTypeOf c) ∧
      ((∃ e ∈ enums, e.IsTypeOf c ∧ fieldType enums c = .enumeration (pascalCase e.name)) ↔
        ∃ e ∈ enums, e.IsTypeOf c ∧ pascalCase e.name = pascalCase c.type) ∧
      ∀ e ∈ enums, e.IsTypeOf c → (∀ x ∈ e.name, isAscii x = true) →
        (pascalCase e.name = pascalCase c.type ↔ (words e.name).map capitalize = (words c.type).map capitalize) := by
  obtain ⟨key, hread⟩ := readColumn_of_parseColumn h
  refine ⟨isTypeOf_of_isEnum hread hc, ?_, fun e _ htype hascii => pascalCase_eq_type_iff hascii htype⟩
  constructor
  · rintro ⟨e, he, htype, hfield⟩
    exact ⟨e, he, htype, (fieldType_eq_enumeration_iff.1 hfield).1⟩
  · rintro ⟨e, he, htype, hsame⟩
    exact ⟨e, he, htype, fieldType_eq_enumeration_iff.2 ⟨hsame, e, he, hsame⟩⟩

/-- the enumeration of a column is found in capitals and in brackets -/
theorem fieldType_of_isEnum_status :
    let enums : List Enumeration := [⟨"order_status".toList, []⟩]
    let c : Column := { name := ['c'], type := "ORDER_STATUS[]".toList, isEnum := true }
    (parseColumn enums ['t'] [] "c ORDER_STATUS[]".toList).1 = .ok c ∧
      ∃ e ∈ enums, e.IsTypeOf c ∧ fieldType enums c = .enumeration (pascalCase e.name) := by
  intro enums c
  have hparse : (parseColumn enums ['t'] [] "c ORDER_STATUS[]".toList).1 = .ok c := by decide
  have htype : Enumeration.IsTypeOf ⟨"order_status".toList, []⟩ c := ⟨true, by decide⟩
  have h := fieldType_of_isEnum hparse rfl
  refine ⟨hparse, h.2.1.2 ⟨_, List.mem_singleton_self _, htype, ?_⟩⟩
  exact (h.2.2 _ (List.mem_singleton_self _) htype (by decide)).2 (by decide)

/-- a column that is read as one of an enumeration and generated as text -/
theorem orderstatus_is_text :
    let enums : List Enumeration := [⟨"orderStatus".toList, ["NEW".toList]⟩]
    ∃ c : Column, (parseColumn enums ['t'] [] "status orderstatus".toList).1 = .ok c ∧ c.isEnum = true ∧
      fieldType enums c = .scalar .string := by
  refine ⟨{ name := "status".toList, type := "orderstatus".toList, isEnum := true }, ?_, rfl, ?_⟩ <;> decide

end Model

end SchemaBridge
