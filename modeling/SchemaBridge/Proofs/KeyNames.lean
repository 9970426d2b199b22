/-
Names that keys list, against the fields there are.

A key lists the field names made from its own spelling of its columns, while the fields are named for the columns as
declared. So a listed name is the name of a field exactly if some column gives the same name
(`noDangling_iff`). Keys name columns ignoring ASCII case, but the naming does not: two spellings of an ASCII name give
one field name only if they are capitalised alike word by word (`fieldName_eq_iff`), as `USER_ID` and `user_id` are,
but not `USERID` and `userId` (`dangling_userId`).
-/
import SchemaBridge.Proofs.GeneratedNames
import SchemaBridge.Proofs.Relations

namespace SchemaBridge

namespace Text

/-! ## Spellings of one text -/

/-- two ASCII characters that differ at most in case -/
def SameLetter (c d : Char) : Prop :=
  c.toLower = d.toLower ∧ isAscii c = true ∧ isAscii d = true

theorem isAlphanumeric_toLower {c : Char} (hc : isAscii c = true) : isAlphanumeric c.toLower = isAlphanumeric c :=
  ascii_cases (p := fun c => isAlphanumeric c.toLower = isAlphanumeric c) (by decide) hc

theorem toUpper_toLower {c : Char} (hc : isAscii c = true) : c.toLower.toUpper = c.toUpper :=
  ascii_cases (p := fun c => c.toLower.toUpper = c.toUpper) (by decide) hc

/-- an ASCII text and its other spellings agree letter by letter -/
theorem sameLetters_of_sameName {s t : Text} (hs : ∀ c ∈ s, isAscii c = true) (h : sameName s t = true) :
    List.Forall₂ SameLetter s t := by
  simp only [sameName, fold, beq_iff_eq] at h
  induction s generalizing t with
  | nil =>
    obtain rfl : t = [] := by simpa [eq_comm] using h
    exact .nil
  | cons c s ih =>
    obtain ⟨hc, hs⟩ := List.forall_mem_cons.1 hs
    cases t with
    | nil => simp at h
    | cons d t =>
      simp only [List.map_cons, List.cons.injEq] at h
      exact .cons ⟨h.1, hc, isAscii_of_toLower_eq hc h.1⟩ (ih hs h.2)

/-- pieces of two spellings of one text are spellings of the same pieces -/
theorem splitWhere_forall₂ {r : Char → Char → Prop} {p : Char → Bool} (hp : ∀ c d, r c d → p c = p d) {s t : Text}
    (h : List.Forall₂ r s t) : List.Forall₂ (List.Forall₂ r) (splitWhere p s) (splitWhere p t) := by
  induction h with
  | nil => exact .cons .nil .nil
  | @cons c d s t hcd _ ih =>
    simp only [splitWhere, ← hp c d hcd]
    generalize splitWhere p s = pieces at ih ⊢
    generalize splitWhere p t = pieces' at ih ⊢
    cases ih with
    | nil => exact .cons (.cons hcd .nil) .nil
    | cons hpiece hpieces =>
      dsimp only
      split
      · exact .cons .nil (.cons hpiece hpieces)
      · exact .cons (.cons hcd hpiece) hpieces

end Text

namespace Model

open Text

/-! ## Field names of spellings -/

/-- the words of two spellings of an ASCII text are spellings of the same words -/
theorem words_forall₂ {s t : Text} (h : List.Forall₂ SameLetter s t) :
    List.Forall₂ (fun w v => List.Forall₂ SameLetter w v ∧ w ≠ []) (words s) (words t) := by
  have hpieces := splitWhere_forall₂ (p := (!isAlphanumeric ·)) (fun c d hcd => by
    have hc := isAlphanumeric_toLower hcd.2.1
    rw [hcd.1, isAlphanumeric_toLower hcd.2.2] at hc
    simp [hc]) h
  unfold words
  generalize splitWhere (!isAlphanumeric ·) s = pieces at hpieces ⊢
  generalize splitWhere (!isAlphanumeric ·) t = pieces' at hpieces ⊢
  induction hpieces with
  | nil => exact .nil
  | @cons w v ws vs hwv _ ih =>
    cases hwv with
    | nil => exact ih
    | cons hcd hwv =>
      rw [List.filter_cons_of_pos rfl, List.filter_cons_of_pos rfl]
      exact .cons ⟨.cons hcd hwv, List.cons_ne_nil _ _⟩ ih

/-- an ASCII text in small letters -/
theorem lower_ascii {s : Text} (hs : ∀ c ∈ s, isAscii c = true) : lower s = s.map Char.toLower := by
  rw [lower_eq_map fun c hc => Or.inl (hs c hc)]
  exact List.map_congr_left fun c hc => if_pos (hs c hc)

/-- the capital that an ASCII word begins with does not depend on its spelling, nor does its length -/
theorem capitalize_cons {c : Char} {w : Text} (hc : isAscii c = true) (hw : ∀ d ∈ w, isAscii d = true) :
    ∃ body : Text, capitalize (c :: w) = c.toUpper :: body ∧ body.length = w.length := by
  unfold capitalize
  split_ifs with hshout
  · have hlower : lower (c :: w) = c.toLower :: w.map Char.toLower := lower_ascii (List.forall_mem_cons.2 ⟨hc, hw⟩)
    rw [hlower]
    refine ⟨w.map Char.toLower, ?_, List.length_map _⟩
    simp only [upperChar_ascii _ (isAscii_toLower hc), toUpper_toLower hc]
    rfl
  · exact ⟨w, by simp only [upperChar_ascii c hc]; rfl, rfl⟩

/-- two spellings of an ASCII word are capitalised to the same first letter and the same length -/
theorem capitalize_spellings {w v : Text} (h : List.Forall₂ SameLetter w v) (hne : w ≠ []) :
    ∃ c a b, isAscii c = true ∧ capitalize w = c :: a ∧ capitalize v = c :: b ∧ a.length = b.length := by
  have hascii : ∀ {w v : Text}, List.Forall₂ SameLetter w v →
      (∀ d ∈ w, isAscii d = true) ∧ ∀ d ∈ v, isAscii d = true := by
    intro w v h
    induction h with
    | nil => simp
    | cons hcd _ ih => exact ⟨List.forall_mem_cons.2 ⟨hcd.2.1, ih.1⟩, List.forall_mem_cons.2 ⟨hcd.2.2, ih.2⟩⟩
  cases h with
  | nil => exact absurd rfl hne
  | @cons c d w v hcd hwv =>
    obtain ⟨a, ha, halen⟩ := capitalize_cons hcd.2.1 (hascii hwv).1
    obtain ⟨b, hb, hblen⟩ := capitalize_cons hcd.2.2 (hascii hwv).2
    have hupper : c.toUpper = d.toUpper := by rw [← toUpper_toLower hcd.2.1, hcd.1, toUpper_toLower hcd.2.2]
    have hcapital : isAscii c.toUpper = true :=
      ascii_cases (p := fun c => isAscii c.toUpper = true) (by decide) hcd.2.1
    exact ⟨c.toUpper, a, b, hcapital, ha, by rw [hb, hupper], by rw [halen, hblen, hwv.length_eq]⟩

/-- texts of equal lengths, put together, are equal only if they are equal one by one -/
theorem flatMap_eq_iff {f : Text → Text} {ws vs : List Text}
    (h : List.Forall₂ (fun w v => (f w).length = (f v).length) ws vs) :
    ws.flatMap f = vs.flatMap f ↔ ws.map f = vs.map f := by
  induction h with
  | nil => simp
  | cons hlen _ ih =>
    rw [List.flatMap_cons, List.flatMap_cons, List.map_cons, List.map_cons, List.cons.injEq, ← ih]
    exact ⟨fun heq => List.append_inj heq hlen, fun ⟨h₁, h₂⟩ => by rw [h₁, h₂]⟩

theorem capitalize_lengths {s t : Text} (h : List.Forall₂ SameLetter s t) :
    List.Forall₂ (fun w v => (capitalize w).length = (capitalize v).length) (words s) (words t) := by
  refine (words_forall₂ h).imp fun w v hwv => ?_
  obtain ⟨c, a, b, -, ha, hb, hlen⟩ := capitalize_spellings hwv.1 hwv.2
  simp [ha, hb, hlen]

/-- two spellings of an ASCII name are one in pascal case exactly if word by word they are capitalised alike -/
theorem pascalCase_eq_iff {s t : Text} (hs : ∀ c ∈ s, isAscii c = true) (h : sameName s t = true) :
    pascalCase s = pascalCase t ↔ (words s).map capitalize = (words t).map capitalize :=
  flatMap_eq_iff (capitalize_lengths (sameLetters_of_sameName hs h))

/-- **Two spellings of an ASCII name** give one field name exactly if word by word they are capitalised alike. -/
theorem fieldName_eq_iff {s t : Text} (hs : ∀ c ∈ s, isAscii c = true) (h : sameName s t = true) :
    fieldName s = fieldName t ↔ (words s).map capitalize = (words t).map capitalize := by
  have hwords := words_forall₂ (sameLetters_of_sameName hs h)
  rw [← pascalCase_eq_iff hs h]
  simp only [fieldName, camelCase, pascalCase]
  generalize words s = ws at hwords ⊢
  generalize words t = vs at hwords ⊢
  -- the first letters agree, so making them small loses nothing
  cases hwords with
  | nil => simp
  | @cons w v ws vs hwv _ =>
    obtain ⟨c, a, b, hc, ha, hb, -⟩ := capitalize_spellings hwv.1 hwv.2
    simp only [List.flatMap_cons, ha, hb, List.cons_append, lowerFirst, lowerChar_ascii c hc, List.cons.injEq, true_and,
      List.nil_append]

/-! ## Listed names -/

/-- the names that an attribute of a model lists -/
def BlockAttribute.fields : BlockAttribute → List Text
  | id fields => fields
  | unique fields => fields
  | map _ => []

/-- the names of the columns' fields -/
def scalarNames (m : Model) : List Text :=
  m.scalars.map (·.name)

/-- every listed name is the name of a column's field. The fields that a relation refers to are those of the model with
its other end. -/
structure NoDangling (models : List Model) : Prop where
  keys : ∀ m ∈ models, ∀ a ∈ m.attributes, ∀ n ∈ a.fields, n ∈ scalarNames m
  fields : ∀ m ∈ models, ∀ f ∈ m.relations, ∀ name link, .relation name (some link) ∈ f.attributes →
    ∀ n ∈ link.fields, n ∈ scalarNames m
  references : ∀ m ∈ models, ∀ f ∈ m.relations, ∀ name link, .relation name (some link) ∈ f.attributes →
    ∀ m' ∈ models, ∀ f' ∈ m'.relations, .relation name none ∈ f'.attributes → ∀ n ∈ link.references, n ∈ scalarNames m'

/-- some column of the table gives a field of the name that the given name of a column gives -/
def NamesField (t : Table) (column : Text) : Prop :=
  ∃ c ∈ t.columns, fieldName c.name = fieldName column

instance (t : Table) (column : Text) : Decidable (NamesField t column) := by
  unfold NamesField; infer_instance

/-- the columns that a foreign key refers to, `id` if it lists none -/
def referredColumns (key : ForeignKey) : List Text :=
  if key.references.isEmpty then [['i', 'd']] else key.references

/-- every column that is listed, in a key of several columns or in a foreign key, gives the name of a field -/
structure KeysNameFields (s : Schema) : Prop where
  keys : ∀ t ∈ s.tables, ∀ key ∈ t.primaryKeys ++ t.uniqueKeys, 1 < key.length → ∀ k ∈ key, NamesField t k
  fields : ∀ t ∈ s.tables, ∀ key ∈ t.foreignKeys, ∀ k ∈ key.columns, NamesField t k
  references : ∀ t ∈ s.tables, ∀ key ∈ t.foreignKeys, key.columns ≠ [] → ∀ j ∈ targetIndex? s key,
    ∀ t' ∈ s.tables[j]?, ∀ k ∈ referredColumns key, NamesField t' k

/-- the listed names of a table's own keys -/
theorem forall_tableAttributes {t : Table} {p : Text → Prop} :
    (∀ a ∈ tableAttributes t, ∀ n ∈ a.fields, p n) ↔
      ∀ key ∈ t.primaryKeys ++ t.uniqueKeys, 1 < key.length → ∀ k ∈ key, p (fieldName k) := by
  have hmap : ∀ a ∈ (if modelName t.name = t.name then [] else [BlockAttribute.map t.name]), ∀ n ∈ a.fields, p n := by
    split <;> simp [BlockAttribute.fields]
  simp only [tableAttributes, List.forall_mem_append, List.forall_mem_map, List.mem_filter, decide_eq_true_eq,
    BlockAttribute.fields, and_imp]
  exact ⟨fun h => h.1, fun h => ⟨h, hmap⟩⟩

/-! ## Relations by their ends -/

section Ends

variable {s : Schema} {rs : List Relation} (hjoins : ∀ r ∈ rs, r.Joins s)
include hjoins

/-- the end of a relation that links fields stands on the model of the key's own table -/
theorem forward_end {i : Nat} {name : Text} {link : Link} :
    (∃ f ∈ rs.flatMap (·.fieldsOn i), .relation name (some link) ∈ f.attributes) ↔
      ∃ r ∈ rs, r.source = i ∧ r.name = name ∧ linkOf r.key = link := by
  constructor
  · rintro ⟨f, hf, hattribute⟩
    obtain ⟨r, hr, hf⟩ := List.mem_flatMap.1 hf
    rcases Relation.mem_fieldsOn.1 hf with ⟨hsource, rfl⟩ | hback
    · rw [(hjoins r hr).forward_name] at hattribute
      simp only [List.mem_singleton, Attribute.relation.injEq, Option.some.injEq] at hattribute
      exact ⟨r, hr, hsource, hattribute.1.symm, hattribute.2.symm⟩
    · rw [(hjoins r hr).back_name _ hback] at hattribute
      simp at hattribute
  · rintro ⟨r, hr, hsource, rfl, rfl⟩
    refine ⟨r.forward, List.mem_flatMap.2 ⟨r, hr, Relation.mem_fieldsOn.2 (Or.inl ⟨hsource, rfl⟩)⟩, ?_⟩
    rw [(hjoins r hr).forward_name]
    exact List.mem_singleton_self _

/-- the other end stands on the model of the referenced table -/
theorem back_end {j : Nat} {name : Text} :
    (∃ f ∈ rs.flatMap (·.fieldsOn j), .relation name none ∈ f.attributes) ↔
      ∃ r ∈ rs, targetIndex? s r.key = some j ∧ r.name = name := by
  constructor
  · rintro ⟨f, hf, hattribute⟩
    obtain ⟨r, hr, hf⟩ := List.mem_flatMap.1 hf
    rcases Relation.mem_fieldsOn.1 hf with ⟨-, rfl⟩ | hback
    · rw [(hjoins r hr).forward_name] at hattribute
      simp at hattribute
    · rw [(hjoins r hr).back_name _ hback] at hattribute
      simp only [List.mem_singleton, Attribute.relation.injEq, and_true] at hattribute
      exact ⟨r, hr, by rw [← (hjoins r hr).back_index, hback]; rfl, hattribute.symm⟩
  · rintro ⟨r, hr, htarget, rfl⟩
    rw [← (hjoins r hr).back_index, Option.map_eq_some_iff] at htarget
    obtain ⟨⟨j', f⟩, hback, rfl⟩ := htarget
    refine ⟨f, List.mem_flatMap.2 ⟨r, hr, Relation.mem_fieldsOn.2 (Or.inr hback)⟩, ?_⟩
    rw [(hjoins r hr).back_name _ hback]
    exact List.mem_singleton_self _

end Ends

section Listed

variable {s : Schema} {rs : List Relation} (horigin : rs.map (·.origin) = (allKeys s).filter hasColumn)
  (hjoins : ∀ r ∈ rs, r.Joins s)

theorem mem_scalarNames {enums : List Enumeration} {t : Table} {added : List Field} {k : Text} :
    fieldName k ∈ scalarNames { ofTable enums t with relations := added } ↔ NamesField t k := by
  simp [scalarNames, ofTable, columnField, NamesField]

include horigin hjoins

theorem keysNameFields_of_noDangling (h : NoDangling (grow (ofSchema s) fun i => rs.flatMap (·.fieldsOn i))) :
    KeysNameFields s := by
  obtain ⟨hkeys, hfields, hreferences⟩ := h
  rw [forall_mem_grow_ofSchema] at hkeys hfields hreferences
  refine ⟨fun t ht => ?_, fun t ht key hkey k hk => ?_, fun t ht key hkey hne j hj t' ht' k hk => ?_⟩
  · obtain ⟨i, hi⟩ := List.mem_iff_getElem?.1 ht
    have hlisted := forall_tableAttributes.1 (hkeys i t hi)
    simpa only [mem_scalarNames] using hlisted
  · obtain ⟨i, hi⟩ := List.mem_iff_getElem?.1 ht
    obtain ⟨r, hr, hkeyof⟩ := (exists_relation_iff horigin).2 ⟨hi, hkey, List.ne_nil_of_mem hk⟩
    cases hkeyof
    obtain ⟨f, hf, hattribute⟩ := (forward_end hjoins).2 ⟨r, hr, rfl, rfl, rfl⟩
    exact mem_scalarNames.1 (hfields _ _ hi f hf _ _ hattribute _ (List.mem_map_of_mem hk))
  · obtain ⟨i, hi⟩ := List.mem_iff_getElem?.1 ht
    obtain ⟨r, hr, hkeyof⟩ := (exists_relation_iff horigin).2 ⟨hi, hkey, hne⟩
    cases hkeyof
    obtain ⟨f, hf, hattribute⟩ := (forward_end hjoins).2 ⟨r, hr, rfl, rfl, rfl⟩
    obtain ⟨f', hf', hattribute'⟩ := (back_end hjoins).2 ⟨r, hr, hj, rfl⟩
    have htarget := forall_mem_grow_ofSchema.1 (hreferences _ _ hi f hf _ _ hattribute) j t' ht'
    exact mem_scalarNames.1 (htarget f' hf' hattribute' _ (List.mem_map_of_mem hk))

theorem noDangling_of_keysNameFields (hnodup : (rs.map (·.name)).Nodup) (h : KeysNameFields s) :
    NoDangling (grow (ofSchema s) fun i => rs.flatMap (·.fieldsOn i)) := by
  obtain ⟨hkeys, hfields, hreferences⟩ := h
  refine ⟨?_, ?_, ?_⟩ <;> rw [forall_mem_grow_ofSchema]
  · intro i t ht
    refine forall_tableAttributes.2 ?_
    simp only [mem_scalarNames]
    exact hkeys t (List.mem_of_getElem? ht)
  · intro i t ht f hf name link hattribute n hn
    obtain ⟨r, hr, rfl, -, rfl⟩ := (forward_end hjoins).1 ⟨f, hf, hattribute⟩
    obtain ⟨k, hk, rfl⟩ := List.mem_map.1 hn
    obtain ⟨hi, hkey, -⟩ := (exists_relation_iff horigin).1 ⟨r, hr, rfl⟩
    obtain rfl := Option.some.inj (hi.symm.trans ht)
    exact mem_scalarNames.2 (hfields _ (List.mem_of_getElem? hi) _ hkey k hk)
  · intro i t ht f hf name link hattribute
    rw [forall_mem_grow_ofSchema]
    intro j t' ht' f' hf' hattribute' n hn
    obtain ⟨r, hr, rfl, rfl, rfl⟩ := (forward_end hjoins).1 ⟨f, hf, hattribute⟩
    obtain ⟨r', hr', htarget, hname⟩ := (back_end hjoins).1 ⟨f', hf', hattribute'⟩
    -- the two ends carry one name, so they are of one relation
    obtain rfl := List.inj_on_of_nodup_map hnodup hr' hr hname
    obtain ⟨k, hk, rfl⟩ := List.mem_map.1 hn
    obtain ⟨hi, hkey, hne⟩ := (exists_relation_iff horigin).1 ⟨r', hr, rfl⟩
    exact mem_scalarNames.2 (hreferences _ (List.mem_of_getElem? hi) _ hkey hne j htarget t' ht' k hk)

end Listed

/-- the names that are listed are names of fields exactly if the columns that are listed name fields -/
theorem noDangling_iff (s : Schema) : NoDangling (relate s).models ↔ KeysNameFields s := by
  obtain ⟨rs, horigin, hjoins, hnodup, hmodels, -⟩ := exists_relations s
  rw [hmodels]
  exact ⟨keysNameFields_of_noDangling horigin hjoins, noDangling_of_keysNameFields horigin hjoins hnodup⟩

/-- **Listed names** are names of fields exactly if every listed column gives the name that a column of its table
gives. Of two spellings of an ASCII name this holds exactly if word by word they are capitalised alike. -/
theorem noDangling_relate (s : Schema) :
    (NoDangling (relate s).models ↔ KeysNameFields s) ∧
      ∀ k c : Text, (∀ x ∈ k, isAscii x = true) → sameName k c = true →
        (fieldName k = fieldName c ↔ (words k).map capitalize = (words c).map capitalize) :=
  ⟨noDangling_iff s, fun _ _ hk h => fieldName_eq_iff hk h⟩

/-- a table with a key on two columns, the first of which the key spells in its own way -/
def spelledSchema (column key : Text) : Schema where
  tables := [
    { name := ['t']
      columns := [{ name := column, type := "INT".toList }, { name := ['x'], type := "INT".toList }]
      constraints := [.primaryKey [key, ['x']]] }]

theorem noDangling_user_id :
    NoDangling (relate (spelledSchema "user_id".toList "USER_ID".toList)).models ∧
      fieldName "USER_ID".toList = fieldName "user_id".toList := by
  have h := noDangling_relate (spelledSchema "user_id".toList "USER_ID".toList)
  have hname := (h.2 "USER_ID".toList "user_id".toList (by decide) (by decide)).2 (by decide)
  have hreferences : ∀ t ∈ (spelledSchema "user_id".toList "USER_ID".toList).tables, t.foreignKeys = [] := by decide
  refine ⟨h.1.2 ⟨by decide, by decide, fun t ht key hkey => ?_⟩, hname⟩
  rw [hreferences t ht] at hkey
  cases hkey

/-- every column of a constraint is a column of its table up to ASCII case, and so are the columns referred to -/
structure KeysMatchColumns (s : Schema) : Prop where
  own : ∀ t ∈ s.tables, ∀ constraint ∈ t.constraints, ∀ k ∈ constraint.columns,
    ∃ c ∈ t.columns, sameName k c.name = true
  referred : ∀ t ∈ s.tables, ∀ key ∈ t.foreignKeys, ∀ j ∈ targetIndex? s key, ∀ t' ∈ s.tables[j]?,
    ∀ k ∈ key.references, ∃ c ∈ t'.columns, sameName k c.name = true

/-- a key whose columns match up to case, and that still lists a name no field has -/
theorem dangling_userId : KeysMatchColumns (spelledSchema "userId".toList "USERID".toList) ∧
    ¬ NoDangling (relate (spelledSchema "userId".toList "USERID".toList)).models := by
  have hreferences : ∀ t ∈ (spelledSchema "userId".toList "USERID".toList).tables, t.foreignKeys = [] := by decide
  refine ⟨⟨by decide, fun t ht key hkey => ?_⟩, fun h => ?_⟩
  · rw [hreferences t ht] at hkey
    cases hkey
  · have hkeys := ((noDangling_iff _).1 h).keys
    revert hkeys
    decide

end Model

end SchemaBridge
