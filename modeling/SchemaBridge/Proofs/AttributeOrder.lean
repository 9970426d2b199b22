/-
The attributes of a column's field: which they are, their order, and what a default may be.

When an attribute is one of the field's is said once for each attribute (`mem_columnAttributes`). The kinds of
attributes are told apart by what they begin with (`AttributeKind.mark`), and a field has those that apply to it, each
once and in one order (`columnAttributes_eq_filterMap`). A default counts up, makes a new identifier, or is what the column's
expression is read as (`DefaultOf`), so one that does not show by how it is written what it is, is a value of the
column's enumeration (`DefaultOf.isDefaultText`).

Results:
- `mem_columnAttributes`: the attributes of a field.
- `columnAttributes_in_order`: the written attributes, whatever the column, the field's name, the keys and the
  enumeration.
-/
import SchemaBridge.Model.Attribute
import SchemaBridge.Proofs.DefaultKinds

namespace SchemaBridge.Model

open Text

/-! ## Attributes -/

variable {c : Column} {field : Text} {isId isUnique : Bool} {enum : Option Enumeration}

/-- the attribute is one of the field of a column, given the field's name, the keys and the enumeration -/
def Attribute.IsOf (c : Column) (field : Text) (isId isUnique : Bool) (enum : Option Enumeration) : Attribute → Prop
  | id => isId = true
  | unique => isUnique = true ∧ isId = false
  | default value => (if isId then keyDefault? c else plainDefault? enum c) = some value
  | updatedAt => isTemporal c = true ∧ namesUpdate c = true
  | map column => field ≠ c.name ∧ column = c.name
  | native type => nativeType? c = some type
  | relation _ _ => False

/-- **The attributes** of a column's field. -/
theorem mem_columnAttributes {a : Attribute} :
    a ∈ columnAttributes c field isId isUnique enum ↔ a.IsOf c field isId isUnique enum := by
  simp only [columnAttributes, List.mem_append, Option.mem_toList, Option.map_eq_some_iff]
  cases a <;> cases isId <;> simp [Attribute.IsOf]

/-! ## Kinds -/

/-- a kind of attribute of a column's field -/
inductive AttributeKind where
  | id
  | unique
  | default
  | updatedAt
  | map
  | native
  deriving DecidableEq, Repr

namespace AttributeKind

/-- the kinds in the order in which they are written -/
def all : List AttributeKind :=
  [id, unique, default, updatedAt, map, native]

/-- what an attribute of the kind begins with -/
def mark : AttributeKind → Text
  | id => "@id".toList
  | unique => "@unique".toList
  | default => "@default(".toList
  | updatedAt => "@updatedAt".toList
  | map => "@map(".toList
  | native => "@db.".toList

/-- the kind of a written attribute -/
def of? (written : Text) : Option AttributeKind :=
  all.find? (·.mark.isPrefixOf written)

/-- the attribute of the kind at the field of a column with the given name, keys and enumeration, if it applies -/
def attribute? (c : Column) (field : Text) (isId isUnique : Bool) (enum : Option Enumeration) :
    AttributeKind → Option Attribute
  | id => if isId then some .id else none
  | unique => if isUnique && !isId then some .unique else none
  | default => (if isId then keyDefault? c else plainDefault? enum c).map .default
  | updatedAt => if isTemporal c && namesUpdate c then some .updatedAt else none
  | map => if field = c.name then none else some (.map c.name)
  | native => (nativeType? c).map .native

end AttributeKind

/-- the kind of an attribute; a relation is an attribute of other fields -/
def Attribute.kind? : Attribute → Option AttributeKind
  | id => some .id
  | unique => some .unique
  | default _ => some .default
  | updatedAt => some .updatedAt
  | map _ => some .map
  | native _ => some .native
  | relation _ _ => none

/-- the kind of an attribute is read off its first characters -/
theorem AttributeKind.of?_render (a : Attribute) : of? a.render = a.kind? := by
  cases a with
  | relation name link => cases link <;> rfl
  | native type => cases type <;> rfl
  | id => rfl
  | unique => rfl
  | default value => rfl
  | updatedAt => rfl
  | map column => rfl

/-- **Kind by kind:** the attributes of a field are, in the order of the kinds, those that apply. -/
theorem columnAttributes_eq_filterMap : columnAttributes c field isId isUnique enum =
    AttributeKind.all.filterMap (AttributeKind.attribute? c field isId isUnique enum) := by
  have hkeys : (if isId then [Attribute.id] else if isUnique then [.unique] else []) =
      (if isId then some Attribute.id else none).toList ++
        (if isUnique && !isId then some Attribute.unique else none).toList := by
    cases isId <;> cases isUnique <;> rfl
  have hupdated : (if isTemporal c && namesUpdate c then [Attribute.updatedAt] else []) =
      (if isTemporal c && namesUpdate c then some Attribute.updatedAt else none).toList := by
    split <;> rfl
  have hname : (if field = c.name then [] else [Attribute.map c.name]) =
      (if field = c.name then none else some (Attribute.map c.name)).toList := by
    split <;> rfl
  rw [columnAttributes, hkeys, hupdated, hname, List.filterMap_eq_flatMap_toList]
  simp only [AttributeKind.all, List.flatMap_cons, List.flatMap_nil, AttributeKind.attribute?, List.append_assoc,
    List.append_nil]

theorem AttributeKind.kind?_of_attribute? {k : AttributeKind} {a : Attribute}
    (h : k.attribute? c field isId isUnique enum = some a) : a.kind? = some k := by
  have hmap {α : Type} {o : Option α} {make : α → Attribute} (hmake : ∀ x, (make x).kind? = some k)
      (h : o.map make = some a) : a.kind? = some k := by
    obtain ⟨x, -, rfl⟩ := Option.map_eq_some_iff.1 h
    exact hmake x
  cases k with
  | default => exact hmap (fun _ => rfl) h
  | native => exact hmap (fun _ => rfl) h
  | _ =>
    simp only [attribute?] at h
    split_ifs at h
    cases h
    rfl

/-- what is made of each element tells the element, so what is told of all is what something is made of -/
theorem map_filterMap_eq {α β : Type} {make : α → Option β} {tell : β → Option α}
    (h : ∀ x y, make x = some y → tell y = some x) (xs : List α) :
    (xs.filterMap make).map tell = (xs.filter fun x => (make x).isSome).map some := by
  induction xs with
  | nil => rfl
  | cons x xs ih => cases hmake : make x <;> simp [hmake, ih, h x]

/-! ## Defaults -/

/-- the defaults of identifiers -/
theorem keyDefault?_eq_some {d : DefaultValue} (h : keyDefault? c = some d) : d = .autoincrement ∨ d = .uuid := by
  unfold keyDefault? at h
  split_ifs at h
  · exact Or.inl (Option.some.inj h).symm
  · exact Or.inr (Option.some.inj h).symm

/-- what the default of a field may be, given its column and the column's enumeration -/
inductive DefaultOf (c : Column) (enum : Option Enumeration) : DefaultValue → Prop where
  | autoincrement : DefaultOf c enum .autoincrement
  | uuid : DefaultOf c enum .uuid
  | expression {written : Text} {d : DefaultValue} : written ∈ c.default → ReadAs enum (trim written) d →
      DefaultOf c enum d

/-- **The default** of a field is one of these. -/
theorem defaultOf_of_mem {d : DefaultValue} (h : Attribute.default d ∈ columnAttributes c field isId isUnique enum) :
    DefaultOf c enum d := by
  have hdefault : (if isId then keyDefault? c else plainDefault? enum c) = some d := mem_columnAttributes.1 h
  split_ifs at hdefault
  · obtain rfl | rfl := keyDefault?_eq_some hdefault
    · exact .autoincrement
    · exact .uuid
  · unfold plainDefault? at hdefault
    split at hdefault
    · next written hwritten => exact .expression hwritten (readAs_of_ofExpression? hdefault)
    · split_ifs at hdefault
      exact Option.some.inj hdefault ▸ .autoincrement

/-- what stands between the parentheses of a default, given the enumeration of the column: a literal, a call, a boolean
or a number, or else a value of the enumeration -/
inductive IsDefaultText (enum : Option Enumeration) : Text → Prop where
  | literal (s : Text) : IsDefaultText enum (quote s)
  | call {made : Text} : made ∈ ["autoincrement()".toList, "uuid()".toList, "now()".toList] →
      IsDefaultText enum made
  | database (expression : Text) : IsDefaultText enum ("dbgenerated(".toList ++ quote expression ++ [')'])
  | boolean {word : Text} : word ∈ ["true".toList, "false".toList] → IsDefaultText enum word
  | number {written : Text} : IsDecimalNumber written → IsDefaultText enum written
  | member {e : Enumeration} {value : Text} : e ∈ enum → value ∈ e.values → IsDefaultText enum value

theorem ReadAs.isDefaultText {expression : Text} {d : DefaultValue} (h : ReadAs enum expression d) :
    IsDefaultText enum d.render := by
  cases h with
  | now => exact .call (by decide)
  | boolean value => exact .boolean (by cases value <;> decide)
  | number hnumber => exact .number hnumber
  | uuid _ => exact .database _
  | document _ => exact .database _
  | member he hvalue => exact .member he hvalue
  | text => exact .literal _

theorem DefaultOf.isDefaultText {d : DefaultValue} (h : DefaultOf c enum d) : IsDefaultText enum d.render := by
  cases h with
  | autoincrement => exact .call (by decide)
  | uuid => exact .call (by decide)
  | expression _ hread => exact hread.isDefaultText

/-! ## Written attributes -/

/-- an attribute that is written as a default is one -/
theorem exists_default_of_kind {written : Text}
    (hmem : written ∈ (columnAttributes c field isId isUnique enum).map Attribute.render)
    (hkind : AttributeKind.of? written = some .default) :
    ∃ d, written = (Attribute.default d).render ∧ Attribute.default d ∈ columnAttributes c field isId isUnique enum := by
  obtain ⟨a, ha, rfl⟩ := List.mem_map.1 hmem
  rw [AttributeKind.of?_render] at hkind
  cases a with
  | default d => exact ⟨d, rfl, ha⟩
  | _ => cases hkind

/-- **The attributes of a column's field** are of kinds that can be told from what is written, each at most once and in
order: those that apply to the column. A field is not marked as an identifier and as unique as well. Beside the mark of
an identifier a default makes new values, and a default that is no literal, call, boolean or number is a value of the
column's enumeration. -/
theorem columnAttributes_in_order (c : Column) (field : Text) (isId isUnique : Bool) (enum : Option Enumeration) :
    let written := (columnAttributes c field isId isUnique enum).map Attribute.render
    ∃ kinds : List AttributeKind,
      written.map AttributeKind.of? = kinds.map some ∧
      kinds.Sublist AttributeKind.all ∧ kinds.Nodup ∧
      (∀ k, k ∈ kinds ↔ (k.attribute? c field isId isUnique enum).isSome = true) ∧
      ¬ (AttributeKind.id ∈ kinds ∧ AttributeKind.unique ∈ kinds) ∧
      (AttributeKind.id ∈ kinds → ∀ a ∈ written, AttributeKind.of? a = some .default →
        a = "@default(autoincrement())".toList ∨ a = "@default(uuid())".toList) ∧
      ∀ a ∈ written, AttributeKind.of? a = some .default →
        ∃ body, a = "@default(".toList ++ body ++ [')'] ∧ IsDefaultText enum body := by
  intro written
  let kinds := AttributeKind.all.filter fun k => (k.attribute? c field isId isUnique enum).isSome
  have hof : AttributeKind.of? ∘ Attribute.render = Attribute.kind? := funext AttributeKind.of?_render
  have hwritten : written.map AttributeKind.of? = kinds.map some := by
    calc written.map AttributeKind.of?
      _ = (columnAttributes c field isId isUnique enum).map Attribute.kind? := by rw [List.map_map, hof]
      _ = kinds.map some := by
          rw [columnAttributes_eq_filterMap, map_filterMap_eq fun _ _ => AttributeKind.kind?_of_attribute?]
  have hall (k : AttributeKind) : k ∈ AttributeKind.all := by cases k <;> decide
  have hkinds (k : AttributeKind) : k ∈ kinds ↔ (k.attribute? c field isId isUnique enum).isSome = true := by
    simp only [kinds, List.mem_filter, hall, true_and]
  have hid : AttributeKind.id ∈ kinds ↔ isId = true := by
    rw [hkinds]
    cases isId <;> simp [AttributeKind.attribute?]
  have hunique : AttributeKind.unique ∈ kinds ↔ isUnique = true ∧ isId = false := by
    rw [hkinds]
    cases isId <;> cases isUnique <;> simp [AttributeKind.attribute?]
  have hsublist : kinds.Sublist AttributeKind.all := List.filter_sublist
  have hnodup : AttributeKind.all.Nodup := by decide
  refine ⟨kinds, hwritten, hsublist, hnodup.sublist hsublist, hkinds, ?_, ?_, ?_⟩
  · rw [hid, hunique]
    rintro ⟨htrue, -, hfalse⟩
    rw [htrue] at hfalse
    cases hfalse
  · intro hmark a ha hkind
    obtain ⟨d, rfl, hdefault⟩ := exists_default_of_kind ha hkind
    have hkey : (if isId then keyDefault? c else plainDefault? enum c) = some d := mem_columnAttributes.1 hdefault
    rw [if_pos (hid.1 hmark)] at hkey
    obtain rfl | rfl := keyDefault?_eq_some hkey
    · exact Or.inl rfl
    · exact Or.inr rfl
  · intro a ha hkind
    obtain ⟨d, rfl, hdefault⟩ := exists_default_of_kind ha hkind
    exact ⟨d.render, rfl, (defaultOf_of_mem hdefault).isDefaultText⟩

/-- a unique column with a name of its own, a default and a time of update -/
example : (columnAttributes
      { name := "updated_at".toList, type := "TIMESTAMP".toList, default := some "now()".toList }
      "updatedAt".toList false true none).map Attribute.render =
    ["@unique".toList, "@default(now())".toList, "@updatedAt".toList, "@map(\"updated_at\")".toList] := by
  decide +kernel

end SchemaBridge.Model
