/-
Columns that share a field name.

The name of a field keeps the letters and numerals of its column and nothing else. Where its words begin shows in
capitals only, and so do capitals inside a word that has small letters (`raised`). So two columns may share a field name
although their own names differ by more than case: `user_id` and `userId`, or `line1` and `line_1`
(`fields_collide`). Nothing numbers the fields of columns apart, as it does those of relations.

Results:
- `fieldName_eq_iff_sharesField`: when two columns share a field name, if only ASCII letters have a case.
- `sameName_of_fieldName_eq`: names in snake case do so only if they differ in the case of letters at most.
- `same_of_fieldName_eq`: whatever the characters, names that give one field name are the same up to case and separators.
- `distinctFields_ofTable`: when the fields of a table's columns have distinct names.
-/
import SchemaBridge.Proofs.BlockNames
import SchemaBridge.Proofs.LetterCase
import SchemaBridge.Proofs.Names
import SchemaBridge.Proofs.PrimaryKeys

namespace SchemaBridge

open Text

namespace Text

/-! ## Capitals of a text -/

theorem isAscii_of_isAlpha {c : Char} (h : c.isAlpha = true) : isAscii c = true :=
  isAscii_of_isAlphanum (Bool.or_eq_true_iff.2 (Or.inl h))

theorem isAscii_of_isUpper {c : Char} (h : c.isUpper = true) : isAscii c = true :=
  isAscii_of_isAlpha (Bool.or_eq_true_iff.2 (Or.inl h))

theorem toLower_of_not_isUpper {c : Char} (h : c.isUpper = false) : c.toLower = c := by
  cases hc : isAscii c with
  | true => exact ascii_cases (p := fun c => c.isUpper = false → c.toLower = c) (by decide) hc h
  | false => exact toLower_eq_self (Or.inr (by simp [isAscii] at hc; omega))

/-- a character is known by its small letter if it is known whether it is a capital -/
theorem eq_of_toLower_eq {c d : Char} (hlower : c.toLower = d.toLower) (hupper : c.isUpper = d.isUpper) : c = d := by
  cases hc : c.isUpper with
  | false => rw [← toLower_of_not_isUpper hc, hlower, toLower_of_not_isUpper (hupper ▸ hc)]
  | true =>
    have hback {c : Char} (h : c.isUpper = true) : c.toLower.toUpper = c :=
      ascii_cases (p := fun c => c.isUpper = true → c.toLower.toUpper = c) (by decide) (isAscii_of_isUpper h) h
    rw [← hback hc, hlower, hback (hupper ▸ hc)]

/-- a text is known by its small letters and where its capitals stand -/
theorem eq_iff_fold_and_capitals {s t : Text} :
    s = t ↔ fold s = fold t ∧ s.map Char.isUpper = t.map Char.isUpper := by
  refine ⟨fun h => h ▸ ⟨rfl, rfl⟩, ?_⟩
  rintro ⟨hfold, hcapitals⟩
  induction s generalizing t with
  | nil => simpa [fold, eq_comm] using hfold
  | cons c s ih =>
    cases t with
    | nil => simp [fold] at hfold
    | cons d t =>
      simp only [fold, List.map_cons, List.cons.injEq] at hfold hcapitals
      rw [eq_of_toLower_eq hfold.1 hcapitals.1, ih hfold.2 hcapitals.2]

/-- the mapping to a capital, where only ASCII letters have a case -/
theorem HasAsciiCase.upperChar {c : Char} (h : HasAsciiCase c) : upperChar c = [if isAscii c then c.toUpper else c] := by
  split_ifs with hascii
  · exact upperChar_ascii c hascii
  · exact (h.resolve_left hascii).1

/-- the mapping to a small letter, where only ASCII letters have a case -/
theorem HasAsciiCase.lowerChar {c : Char} (h : HasAsciiCase c) : lowerChar c = [if isAscii c then c.toLower else c] := by
  split_ifs with hascii
  · exact lowerChar_ascii c hascii
  · exact (h.resolve_left hascii).2

theorem same_lowerChar (c : Char) : SameUpToCase [c] (lowerChar c) := by
  have hbetween : lowerBetween [] c [] = lowerChar c := by
    unfold lowerBetween
    split_ifs with hsigma hfinal
    · exact absurd hfinal (by decide)
    · rw [hsigma]
      decide
    · rfl
  exact hbetween ▸ .lower [] c []

end Text

namespace Model

/-! ## Raised letters -/

/-- the letters of a word that are capitals in a name: the first one, and those written so in a word with small
letters -/
def raised : Text → List Bool
  | [] => []
  | c :: rest => c.isAlpha :: rest.map fun d => d.isUpper && (c :: rest).any isLowercase

/-- where only ASCII letters have a case, no small letter is a capital -/
theorem isUpper_small (c : Char) : (if isAscii c then c.toLower else c).isUpper = false := by
  split_ifs with hascii
  · exact ascii_cases (p := fun c => c.toLower.isUpper = false) (by decide) hascii
  · exact Bool.eq_false_iff.2 (mt isAscii_of_isUpper hascii)

/-- where only ASCII letters have a case, the capital of a letter is one -/
theorem capitals_upperChar {c : Char} (h : HasAsciiCase c) : (upperChar c).map Char.isUpper = [c.isAlpha] := by
  rw [h.upperChar, List.map_singleton]
  split_ifs with hascii
  · exact congrArg ([·]) (ascii_cases (p := fun c => c.toUpper.isUpper = c.isAlpha) (by decide) hascii)
  · rw [Bool.eq_false_iff.2 (mt isAscii_of_isUpper hascii), Bool.eq_false_iff.2 (mt isAscii_of_isAlpha hascii)]

theorem capitals_capitalize {w : Text} (h : ∀ c ∈ w, HasAsciiCase c) :
    (capitalize w).map Char.isUpper = raised w := by
  cases w with
  | nil => rfl
  | cons c rest =>
    obtain ⟨hc, hrest⟩ := List.forall_mem_cons.1 h
    rw [capitalize, raised]
    split_ifs with hshout
    · have hnone : (c :: rest).any isLowercase = false := by
        rw [List.any_eq_false]
        exact fun d hd => by simpa using List.all_eq_true.1 hshout d hd
      have hsmall := hasAsciiCase_lower h
      rw [lower_eq_map h, List.map_cons] at hsmall ⊢
      have halpha : (if isAscii c then c.toLower else c).isAlpha = c.isAlpha := by
        split_ifs with hascii
        · exact ascii_cases (p := fun c => c.toLower.isAlpha = c.isAlpha) (by decide) hascii
        · rfl
      simp only [List.map_append, capitals_upperChar (List.forall_mem_cons.1 hsmall).1, halpha, List.map_map,
        Function.comp_def, isUpper_small, hnone, Bool.and_false]
      rfl
    · have hsome : (c :: rest).any isLowercase = true := by
        rw [List.any_eq_not_all_not]
        simpa only [Bool.not_eq_true, Bool.not_eq_true'] using hshout
      simp only [List.map_append, capitals_upperChar hc, hsome, Bool.and_true]
      rfl

/-! ## Field names -/

theorem hasAsciiCase_upperChar {c : Char} (h : HasAsciiCase c) : ∀ d ∈ upperChar c, HasAsciiCase d := by
  rw [h.upperChar, List.forall_mem_singleton]
  split_ifs with hascii
  · exact Or.inl (ascii_cases (p := fun c => isAscii c.toUpper = true) (by decide) hascii)
  · exact h

theorem hasAsciiCase_pascalCase {name : Text} (h : ∀ c ∈ name, HasAsciiCase c) :
    ∀ c ∈ pascalCase name, HasAsciiCase c := by
  intro c hc
  obtain ⟨w, hw, hc⟩ := List.mem_flatMap.1 hc
  have hword : ∀ d ∈ w, HasAsciiCase d := fun d hd => h d (mem_of_mem_words hw hd)
  obtain ⟨v, hv, hcapital⟩ := capitalize_cases w
  have hsmall : ∀ d ∈ v, HasAsciiCase d := by
    rcases hv with rfl | rfl
    · exact hasAsciiCase_lower hword
    · exact hword
  rcases hcapital with ⟨rfl, hnil⟩ | ⟨first, rest, rfl, hcons⟩
  · rw [hnil] at hc
    cases hc
  · rw [hcons] at hc
    obtain ⟨hfirst, hrest⟩ := List.forall_mem_cons.1 hsmall
    exact (List.mem_append.1 hc).elim (hasAsciiCase_upperChar hfirst c) (hrest c)

/-- making the first letter small changes its case only -/
theorem fold_lowerFirst {p : Text} (h : ∀ c ∈ p, HasAsciiCase c) : fold (lowerFirst p) = fold p := by
  cases p with
  | nil => rfl
  | cons c rest =>
    rw [lowerFirst, (List.forall_mem_cons.1 h).1.lowerChar, List.singleton_append, fold_cons, fold_cons]
    split_ifs with hascii
    · rw [ascii_cases (p := fun c => c.toLower.toLower = c.toLower) (by decide) hascii]
    · rfl

theorem capitals_lowerFirst {c : Char} (h : HasAsciiCase c) (rest : Text) :
    (lowerFirst (c :: rest)).map Char.isUpper = false :: rest.map Char.isUpper := by
  rw [lowerFirst, h.lowerChar, List.singleton_append, List.map_cons, isUpper_small]

theorem lowerFirst_eq_iff {p q : Text} (hp : ∀ c ∈ p, HasAsciiCase c) (hq : ∀ c ∈ q, HasAsciiCase c) :
    lowerFirst p = lowerFirst q ↔
      fold p = fold q ∧ (p.map Char.isUpper).tail = (q.map Char.isUpper).tail := by
  rw [eq_iff_fold_and_capitals, fold_lowerFirst hp, fold_lowerFirst hq]
  refine and_congr_right fun hfold => ?_
  cases p with
  | nil =>
    cases q with
    | nil => rfl
    | cons d q => simp [fold] at hfold
  | cons c p =>
    cases q with
    | nil => simp [fold] at hfold
    | cons d q =>
      rw [capitals_lowerFirst (List.forall_mem_cons.1 hp).1, capitals_lowerFirst (List.forall_mem_cons.1 hq).1]
      simp

/-- the columns have the same letters, and capitals in a name at the same places, but for the first letter -/
def SharesField (a b : Text) : Prop :=
  sameName (words a).flatten (words b).flatten = true ∧
    ((words a).flatMap raised).tail = ((words b).flatMap raised).tail

instance (a b : Text) : Decidable (SharesField a b) := by
  unfold SharesField; infer_instance

/-- **Two columns share a field name** exactly if their words have the same letters and the same of them are raised. -/
theorem fieldName_eq_iff_sharesField {a b : Text} (ha : ∀ c ∈ a, HasAsciiCase c) (hb : ∀ c ∈ b, HasAsciiCase c) :
    fieldName a = fieldName b ↔ SharesField a b := by
  have hwords {name : Text} (h : ∀ c ∈ name, HasAsciiCase c) : ∀ w ∈ words name, ∀ c ∈ w, HasAsciiCase c :=
    fun w hw c hc => h c (mem_of_mem_words hw hc)
  have hcapitals {name : Text} (h : ∀ c ∈ name, HasAsciiCase c) :
      (pascalCase name).map Char.isUpper = (words name).flatMap raised := by
    rw [pascalCase, List.map_flatMap]
    exact List.flatMap_congr fun w hw => capitals_capitalize (hwords h w hw)
  rw [fieldName, fieldName, camelCase, camelCase,
    lowerFirst_eq_iff (hasAsciiCase_pascalCase ha) (hasAsciiCase_pascalCase hb), hcapitals ha, hcapitals hb, pascalCase,
    pascalCase, fold_flatMap_capitalize (hwords ha), fold_flatMap_capitalize (hwords hb), SharesField, sameName,
    beq_iff_eq]

/-- **Nothing but case and separators is lost**: names that give one field name are the same without them. -/
theorem same_of_fieldName_eq {a b : Text} (h : fieldName a = fieldName b) :
    SameUpToCase (words a).flatten (words b).flatten := by
  have hfirst (p : Text) : SameUpToCase p (lowerFirst p) := by
    cases p with
    | nil => exact .refl []
    | cons c rest => exact .append (same_lowerChar c) (.refl rest)
  have hfield (name : Text) : SameUpToCase (words name).flatten (fieldName name) :=
    (same_flatMap_capitalize (words name)).trans (hfirst _)
  exact (hfield a).trans (h ▸ (hfield b).symm)

/-! ## Plain words -/

/-- an ASCII word that begins with a letter and has no capitals among small letters, but for the first -/
def IsPlainWord (w : Text) : Prop :=
  (∀ c ∈ w, isAscii c = true) ∧ (∀ c ∈ w.head?, c.isAlpha = true) ∧
    (w.any isLowercase = true → ∀ c ∈ w.tail, c.isUpper = false)

/-- plain words with one underscore between any two -/
def IsSnakeCase (name : Text) : Prop :=
  name = joinWith ['_'] (words name) ∧ ∀ w ∈ words name, IsPlainWord w

instance (w : Text) : Decidable (IsPlainWord w) := by
  unfold IsPlainWord; infer_instance

instance (name : Text) : Decidable (IsSnakeCase name) := by
  unfold IsSnakeCase; infer_instance

/-- only the first letter of a plain word is raised -/
theorem raised_plain {c : Char} {rest : Text} (h : IsPlainWord (c :: rest)) :
    raised (c :: rest) = true :: List.replicate rest.length false := by
  obtain ⟨-, hhead, htail⟩ := h
  rw [raised, hhead c rfl, ← List.map_const']
  refine congrArg (true :: ·) (List.map_congr_left fun d hd => ?_)
  cases hsmall : (c :: rest).any isLowercase with
  | false => rw [Bool.and_false]
  | true => rw [htail hsmall d hd, Bool.false_and]

/-- what follows a run of letters that are not raised begins with a raised one, so the run is known -/
theorem replicate_false_append_inj {n m : Nat} {x y : List Bool} (hx : ∀ b ∈ x.head?, b = true)
    (hy : ∀ b ∈ y.head?, b = true) (h : List.replicate n false ++ x = List.replicate m false ++ y) :
    n = m ∧ x = y := by
  have hrun {n : Nat} {x : List Bool} (hx : ∀ b ∈ x.head?, b = true) :
      (List.replicate n false ++ x).takeWhile (!·) = List.replicate n false := by
    rw [List.takeWhile_append_of_pos (by simp)]
    cases x with
    | nil => simp
    | cons b x => simp [hx b rfl]
  have hlength : n = m := by
    have hruns := congrArg (fun l => (l.takeWhile (!·)).length) h
    simpa only [hrun hx, hrun hy, List.length_replicate] using hruns
  subst hlength
  exact ⟨rfl, List.append_cancel_left h⟩

theorem eq_of_tail_eq {x y : List Bool} (hx : ∀ b ∈ x.head?, b = true) (hy : ∀ b ∈ y.head?, b = true)
    (hlength : x.length = y.length) (htail : x.tail = y.tail) : x = y := by
  cases x with
  | nil => exact (List.length_eq_zero_iff.1 hlength.symm).symm
  | cons b x =>
    cases y with
    | nil => simp at hlength
    | cons d y => rw [hx b rfl, hy d rfl, show x = y from htail]

theorem length_raised (w : Text) : (raised w).length = w.length := by
  cases w <;> simp [raised]

/-- plain words begin with a raised letter -/
theorem head?_raised {ws : List Text} (h : ∀ w ∈ ws, w ≠ [] ∧ IsPlainWord w) :
    ∀ b ∈ (ws.flatMap raised).head?, b = true := by
  cases ws with
  | nil => simp
  | cons w ws =>
    obtain ⟨hne, hplain⟩ := h w List.mem_cons_self
    obtain ⟨c, rest, rfl⟩ := List.exists_cons_of_ne_nil hne
    simp [raised_plain hplain]

/-- **Plain words are told apart** by their letters and the raised ones among them. -/
theorem map_fold_eq_of_raised {ws vs : List Text} (hws : ∀ w ∈ ws, w ≠ [] ∧ IsPlainWord w)
    (hvs : ∀ v ∈ vs, v ≠ [] ∧ IsPlainWord v) (hfold : fold ws.flatten = fold vs.flatten)
    (hraised : ws.flatMap raised = vs.flatMap raised) : ws.map fold = vs.map fold := by
  induction ws generalizing vs with
  | nil =>
    cases vs with
    | nil => rfl
    | cons v vs =>
      have hnil := congrArg List.length hfold.symm
      simp [(hvs v List.mem_cons_self).1] at hnil
  | cons w ws ih =>
    obtain ⟨⟨hne, hplain⟩, hws'⟩ := List.forall_mem_cons.1 hws
    cases vs with
    | nil =>
      have hnil := congrArg List.length hfold
      simp [hne] at hnil
    | cons v vs =>
      obtain ⟨⟨hne', hplain'⟩, hvs'⟩ := List.forall_mem_cons.1 hvs
      obtain ⟨c, w, rfl⟩ := List.exists_cons_of_ne_nil hne
      obtain ⟨d, v, rfl⟩ := List.exists_cons_of_ne_nil hne'
      rw [List.flatMap_cons, List.flatMap_cons, raised_plain hplain, raised_plain hplain', List.cons_append,
        List.cons_append, List.cons.injEq] at hraised
      obtain ⟨hlength, hraised⟩ := replicate_false_append_inj (head?_raised hws') (head?_raised hvs') hraised.2
      rw [List.flatten_cons, List.flatten_cons, fold_append, fold_append] at hfold
      obtain ⟨hword, hfold⟩ := List.append_inj hfold (by simp [hlength])
      rw [List.map_cons, List.map_cons, hword, ih hws' hvs' hfold hraised]

/-- **Names in snake case keep apart**: their fields have one name only if they differ in case at most. -/
theorem sameName_of_fieldName_eq {a b : Text} (ha : IsSnakeCase a) (hb : IsSnakeCase b)
    (h : fieldName a = fieldName b) : sameName a b = true := by
  have hword {name : Text} (hname : IsSnakeCase name) : ∀ w ∈ words name, w ≠ [] ∧ IsPlainWord w :=
    fun w hw => ⟨by simpa using (List.mem_filter.1 hw).2, hname.2 w hw⟩
  have hascii {name : Text} (hname : IsSnakeCase name) : ∀ c ∈ name, HasAsciiCase c := by
    rw [hname.1]
    intro c hc
    rcases Ddl.mem_joinWith hc with hc | ⟨w, hw, hc⟩
    · exact Or.inl (by simp_all; decide)
    · exact Or.inl ((hname.2 w hw).1 c hc)
  obtain ⟨hsame, hraised⟩ := (fieldName_eq_iff_sharesField (hascii ha) (hascii hb)).1 h
  have hfold : fold (words a).flatten = fold (words b).flatten := beq_iff_eq.1 hsame
  have hlength : ((words a).flatMap raised).length = ((words b).flatMap raised).length := by
    simpa [List.length_flatMap, length_raised, List.length_flatten] using congrArg List.length hfold
  have hall := eq_of_tail_eq (head?_raised (hword ha)) (head?_raised (hword hb)) hlength hraised
  have hwords := map_fold_eq_of_raised (hword ha) (hword hb) hfold hall
  rw [sameName, beq_iff_eq, ha.1, hb.1, fold_joinWith, fold_joinWith, hwords]

/-! ## The fields of a table -/

/-- **When the fields of columns have distinct names.** Nothing keeps them apart but the names of the columns: where only
ASCII letters have a case, no two columns may share a field. Columns in snake case do not. Nor do columns whose names
still differ, up to case, without their separators. -/
theorem distinctFields_ofTable (enums : List Enumeration) {t : Table} (hdistinct : DistinctColumns t) :
    ((∀ c ∈ t.columns, ∀ d ∈ c.name, HasAsciiCase d) →
        ((scalarNames (ofTable enums t)).Nodup ↔ t.columns.Pairwise fun a b => ¬ SharesField a.name b.name)) ∧
      ((∀ c ∈ t.columns, IsSnakeCase c.name) → (scalarNames (ofTable enums t)).Nodup) ∧
      (DistinctUpToCase (t.columns.map fun c => (words c.name).flatten) → (scalarNames (ofTable enums t)).Nodup) := by
  have hnames : scalarNames (ofTable enums t) = t.columns.map fun c => fieldName c.name := by
    rw [scalarNames, ofTable, List.map_map]
    rfl
  rw [hnames, List.Nodup, List.pairwise_map, DistinctUpToCase, List.pairwise_map]
  refine ⟨fun hascii => ?_, fun hsnake => ?_, fun hapart => ?_⟩
  · exact List.Pairwise.iff_of_mem fun {a b} ha hb =>
      not_congr (fieldName_eq_iff_sharesField (hascii a ha) (hascii b hb))
  · refine List.Pairwise.imp_of_mem (fun {a b} ha hb hab hfield => ?_) hdistinct
    rw [sameName_of_fieldName_eq (hsnake a ha) (hsnake b hb) hfield] at hab
    cases hab
  · exact hapart.imp fun hab hfield => hab (same_of_fieldName_eq hfield)

/-- a table of columns of the given names -/
def namedColumns (names : List Text) : Table where
  name := "t".toList
  columns := names.map fun name => { name, type := "INT".toList }

/-- words may be capitals throughout, and numerals may stand in them -/
theorem distinctFields_posts :
    (scalarNames (ofTable [] (namedColumns ["id".toList, "AUTHOR_ID".toList, "line2_of3".toList]))).Nodup :=
  (distinctFields_ofTable [] (by unfold DistinctColumns; decide)).2.1 (by decide)

/-- columns whose names differ by more than the case of ASCII letters, and two fields of one name -/
def FieldsCollide (names : List Text) : Prop :=
  DistinctColumns (namedColumns names) ∧ ¬ (scalarNames (ofTable [] (namedColumns names))).Nodup

instance (names : List Text) : Decidable (FieldsCollide names) := by
  unfold FieldsCollide DistinctColumns; infer_instance

/-- a capital for a separator, a separator before a numeral, and one separator for another make no difference -/
theorem fields_collide : FieldsCollide ["user_id".toList, "userId".toList] ∧
    FieldsCollide ["line1".toList, "line_1".toList] ∧ FieldsCollide ["a-b".toList, "a_b".toList] := by
  decide +kernel

end Model

end SchemaBridge
