/-
The kind of a constraint clause.

A clause opens with the keyword of its kind, which the constraint's name may precede (`ConstraintKind.opens`,
`IsLabel`). What is read from it is of the first kind, in a fixed order, that is found at the beginning of any word of
the clause (`kind_readConstraint`). So a clause is of the kind that it opens with, unless one that is looked for earlier
stands further on in it, in an expression or in a literal.

Results:
- `ConstraintKind.occurs_iff`: where a kind is looked for.
- `kind_readConstraint`: the kind of the constraint that is read from any clause.
- `readConstraint_opens`: when this is the kind that the clause opens with.
- `check_reads_as_unique`: a check on a literal that is read as a unique constraint.
-/
import SchemaBridge.Proofs.Words

namespace SchemaBridge

open Text

/-- the kinds of constraint clauses, in the order in which they are looked for; an exclusion is never looked for -/
inductive ConstraintKind where
  | foreignKey
  | primaryKey
  | unique
  | check
  | exclusion
  deriving DecidableEq, Repr

def Constraint.kind : Constraint → ConstraintKind
  | primaryKey _ => .primaryKey
  | unique _ => .unique
  | check => .check
  | foreignKey _ => .foreignKey

/-! ## Kinds in a clause -/

namespace ConstraintKind

open Ddl

/-- the clause, without the constraint's name, begins as one of the kind does -/
def opens : ConstraintKind → Text → Bool
  | foreignKey, s => (((Keyword.skipAll [.FOREIGN] s).bind Keyword.KEY.skip).bind wordEnd).isSome
  | primaryKey, s => (skipPrimaryKey s).isSome
  | unique, s => (Keyword.UNIQUE.skip s).any (followedBy .NULLS)
  | check, s => ((Keyword.CHECK.skip s).bind (skipMark '(')).isSome
  | exclusion, s => (Keyword.EXCLUDE.skip s).any (followedBy .USING)

/-- a constraint of the kind can be read here -/
def reads : ConstraintKind → Text → Bool
  | foreignKey, s => (readForeignKey s).isSome
  | primaryKey, s => (readPrimaryKey s).isSome
  | unique, s => (readUnique s).isSome
  | check, s => (skipCheck s).isSome
  | exclusion, _ => false

/-- a constraint of the kind can be read at some place where a word may begin -/
def occurs (k : ConstraintKind) (clause : Text) : Bool :=
  (findWord (fun s => if k.reads s then some () else none) clause).isSome

/-- the kind of the constraint that is kept for one of the kind -/
def kept : ConstraintKind → Option ConstraintKind
  | exclusion => none
  | k => some k

/-- the kinds that are looked for, in order -/
def tried : List ConstraintKind :=
  [foreignKey, primaryKey, unique, check]

/-- the kinds that are looked for before -/
def earlier (k : ConstraintKind) : List ConstraintKind :=
  tried.takeWhile (· ≠ k)

/-- the word that a constraint of the kind begins with -/
def keyword : ConstraintKind → Keyword
  | foreignKey => .FOREIGN
  | primaryKey => .PRIMARY
  | unique => .UNIQUE
  | check => .CHECK
  | exclusion => .EXCLUDE

variable {k : ConstraintKind} {s : Text}

theorem occurs_iff : k.occurs s = true ↔ ∃ t, Place false s t ∧ k.reads t = true := by
  have hguard (t : Text) : (if k.reads t then some () else none).isSome = k.reads t := by
    cases k.reads t <;> rfl
  rw [occurs, findWord, isSome_findWordAfter_iff]
  simp only [hguard]

/-- the kind occurs where the search for a constraint of it succeeds -/
theorem occurs_eq {α : Type} {read : Text → Option α} (h : ∀ t, k.reads t = (read t).isSome) :
    k.occurs s = (findWord read s).isSome := by
  rw [Bool.eq_iff_iff, occurs_iff, findWord, isSome_findWordAfter_iff]
  simp only [h]

/-- the first member that is found is `k` if `k` is found and none before it is -/
theorem find?_eq_some_iff_takeWhile {found : ConstraintKind → Bool} {ks : List ConstraintKind} (hk : k ∈ ks) :
    ks.find? found = some k ↔ found k = true ∧ ∀ k' ∈ ks.takeWhile (· ≠ k), found k' = false := by
  induction ks with
  | nil => cases hk
  | cons first ks ih =>
    by_cases hfirst : first = k
    · subst hfirst
      cases hfound : found first with
      | true => simp [hfound]
      | false => simpa [List.find?_cons, hfound] using fun h => absurd (List.find?_some h) (by simp [hfound])
    · have hrest : k ∈ ks := (List.mem_cons.1 hk).resolve_left (Ne.symm hfirst)
      cases hfound : found first with
      | true => simp [hfirst, hfound]
      | false => simpa [List.find?_cons, List.takeWhile_cons, hfirst, hfound] using ih hrest

theorem find?_tried_iff (found : ConstraintKind → Bool) :
    tried.find? found = k.kept ↔ (k ≠ exclusion → found k = true) ∧ ∀ k' ∈ k.earlier, found k' = false := by
  by_cases hk : k = exclusion
  · subst hk
    have hearlier : exclusion.earlier = tried := by decide
    rw [hearlier, kept, List.find?_eq_none]
    simp
  · have hkept : k.kept = some k := by
      cases k <;> first | rfl | exact absurd rfl hk
    have htried : k ∈ tried := by
      cases k <;> first | decide | exact absurd rfl hk
    rw [hkept, find?_eq_some_iff_takeWhile htried, earlier]
    simp [hk]

/-- where the keyword cannot be read, nothing of the kind can -/
theorem reads_eq_false (h : k.keyword.skip s = none) : k.reads s = false := by
  cases k with
  | foreignKey => simp [reads, readForeignKey, Keyword.skipAll, show Keyword.FOREIGN.skip s = none from h]
  | primaryKey => simp [reads, readPrimaryKey, Keyword.skipAll, show Keyword.PRIMARY.skip s = none from h]
  | unique => simp [reads, readUnique, show Keyword.UNIQUE.skip s = none from h]
  | check => simp [reads, skipCheck, show Keyword.CHECK.skip s = none from h]
  | exclusion => rfl

end ConstraintKind

namespace Ddl

open ConstraintKind

/-- **The kind that is read** is the first of those tried that occurs in the clause. -/
theorem kind_readConstraint (clause : Text) : (readConstraint clause).map (·.kind) = tried.find? (·.occurs clause) := by
  have hforeign : foreignKey.occurs clause = (findWord readForeignKey clause).isSome := occurs_eq fun _ => rfl
  have hprimary : primaryKey.occurs clause = (findWord readPrimaryKey clause).isSome := occurs_eq fun _ => rfl
  have hunique : unique.occurs clause = (findWord readUnique clause).isSome := occurs_eq fun _ => rfl
  have hcheck : check.occurs clause = (findWord skipCheck clause).isSome := occurs_eq fun _ => rfl
  simp only [readConstraint, readKey, tried, List.find?, hforeign, hprimary, hunique, hcheck]
  cases findWord readForeignKey clause with
  | some key => rfl
  | none =>
    cases findWord readPrimaryKey clause with
    | some columns => rfl
    | none =>
      cases findWord readUnique clause with
      | some columns => rfl
      | none => cases findWord skipCheck clause <;> rfl

/-- no word of the text begins with the keyword -/
def Keyword.BeginsNoWord (k : Keyword) (s : Text) : Prop :=
  ∀ w ∈ splitWhere (!isWord ·) s, k.skip w = none

instance (k : Keyword) (s : Text) : Decidable (k.BeginsNoWord s) := by
  unfold Keyword.BeginsNoWord; infer_instance

/-- a kind whose keyword begins no word does not occur -/
theorem occurs_eq_false {k : ConstraintKind} {s : Text} (h : k.keyword.BeginsNoWord s) : k.occurs s = false := by
  have hstart : StartsWord fun t => if k.reads t then some () else none := by
    intro t ht
    exact if_neg (by rw [reads_eq_false (k.keyword.startsWord_skip t ht)]; decide)
  have hpass {w t : Text} (hw : ∀ c ∈ w, isWord c = true) (hskip : k.keyword.skip w = none)
      (ht : beginsWord t = false) : k.occurs (w ++ t) = k.occurs t := by
    have hnone : k.keyword.skip (w ++ t) = none := by
      by_contra hsome
      obtain ⟨r, hr⟩ := Option.ne_none_iff_exists'.1 hsome
      obtain ⟨v, hv, -⟩ := Keyword.skip_word hw ht hr
      rw [hskip] at hv
      cases hv
    rw [occurs, findWord_word hstart hw (by rw [reads_eq_false hnone]; rfl) ht]
    rfl
  induction s using word_induction with
  | last w hw =>
    rw [Keyword.BeginsNoWord, splitWhere_eq_singleton fun c hc => by simp [hw c hc]] at h
    rw [← List.append_nil w, hpass hw (h w (List.mem_singleton_self w)) rfl]
    rfl
  | more w d s hw hd ih =>
    rw [Keyword.BeginsNoWord, splitWhere_append_cons (by simp [hd]), List.forall_mem_append,
      splitWhere_eq_singleton fun c hc => by simp [hw c hc]] at h
    rw [hpass hw (h.1 w (List.mem_singleton_self w)) (t := d :: s) hd, occurs, findWord_cons hstart hd]
    exact ih h.2

/-! ## Clauses -/

/-- at least one blank, and nothing else -/
def IsGap (s : Text) : Prop :=
  s ≠ [] ∧ ∀ c ∈ s, isBlank c = true

instance (s : Text) : Decidable (IsGap s) := by
  unfold IsGap; infer_instance

instance (letters word : Text) : Decidable (Spells letters word) :=
  decidable_of_iff (skipLetters letters word = some []) (by simp [skipLetters_eq_some])

/-- what may stand before a constraint: nothing, or `CONSTRAINT` and a name -/
inductive IsLabel : Text → Prop where
  | none : IsLabel []
  | named {word before after : Text} {name : Spelling} (hword : Spells Keyword.CONSTRAINT.letters word)
      (hbefore : IsGap before) (hname : name.Valid) (hafter : IsGap after) :
      IsLabel (word ++ (before ++ (name.write ++ after)))

/-- a word may begin after a label -/
theorem IsLabel.place {label s : Text} (h : IsLabel label) (hs : s ≠ []) : Place false (label ++ s) s := by
  refine ⟨hs, label, rfl, ?_⟩
  cases h with
  | none => rfl
  | @named word before after name hword hbefore hname hafter =>
    obtain ⟨gap, d, rfl⟩ := (List.eq_nil_or_concat after).resolve_left hafter.1
    have hlast :
        word ++ (before ++ (name.write ++ gap.concat d)) = (word ++ (before ++ (name.write ++ gap))) ++ [d] := by
      simp
    rw [hlast, List.getLast?_concat]
    exact isWord_of_isBlank (hafter.2 d (by simp))

theorem opensConstraint_label {label s : Text} {k : ConstraintKind} (hlabel : IsLabel label) (hs : k.opens s = true) :
    opensConstraint (label ++ s) = true := by
  cases hlabel with
  | none =>
    cases k <;> simp only [opens] at hs <;> simp [opensConstraint, hs]
  | @named word before after name hword hbefore hname hafter =>
    obtain ⟨d, before, rfl⟩ := List.exists_cons_of_ne_nil hbefore.1
    have hskip : Keyword.CONSTRAINT.skip ((word ++ (d :: before ++ (name.write ++ after))) ++ s) =
        some (d :: before ++ (name.write ++ after) ++ s) := by
      rw [List.append_assoc]
      exact skipLetters_eq_some.2 ⟨word, hword, rfl⟩
    have hblank : isBlank d = true := hbefore.2 d List.mem_cons_self
    have hlead :
        (Keyword.skipAll [.CONSTRAINT] ((word ++ (d :: before ++ (name.write ++ after))) ++ s)).isSome = true := by
      rw [Keyword.skipAll_singleton, Keyword.skipWord, hskip]
      simp [skipGap, hblank]
    simp only [opensConstraint, hlead, Bool.true_or]

/-- **Kinds of clauses.** A clause that opens with a kind, after the constraint's name if it has one, is taken for a
constraint, and it is read as one of that kind (an exclusion as none) exactly if a constraint of the kind is found in it
and none of a kind that is tried before. This is so if the kind can be read where the clause opens with it and no word
of the clause begins with the keyword of a kind that is tried before; in particular for every foreign key. -/
theorem readConstraint_opens {label s : Text} {k : ConstraintKind} (hlabel : IsLabel label) (hs : k.opens s = true) :
    opensConstraint (label ++ s) = true ∧
      ((readConstraint (label ++ s)).map (·.kind) = k.kept ↔
        (k ≠ exclusion → k.occurs (label ++ s) = true) ∧ ∀ k' ∈ k.earlier, k'.occurs (label ++ s) = false) ∧
      ((k ≠ exclusion → k.reads s = true) → (∀ k' ∈ k.earlier, k'.keyword.BeginsNoWord (label ++ s)) →
        (readConstraint (label ++ s)).map (·.kind) = k.kept) := by
  rw [kind_readConstraint, find?_tried_iff]
  refine ⟨opensConstraint_label hlabel hs, Iff.rfl, ?_⟩
  intro hreads hwords
  constructor
  · intro hk
    have hs : s ≠ [] := by
      rintro rfl
      cases k <;> cases hreads hk
    exact occurs_iff.2 ⟨s, hlabel.place hs, hreads hk⟩
  · intro k' hk'
    exact occurs_eq_false (hwords k' hk')

/-- a clause with a name, and a predicate in which no word begins as an earlier kind does -/
theorem readConstraint_opens_price :
    opensConstraint "CONSTRAINT positive CHECK (price > 0)".toList = true ∧
      (readConstraint "CONSTRAINT positive CHECK (price > 0)".toList).map (·.kind) = some .check := by
  have hname : (Spelling.plain (.bare "positive".toList)).Valid := by decide
  have hlabel :
      IsLabel ("CONSTRAINT".toList ++ ([' '] ++ ((Spelling.plain (.bare "positive".toList)).write ++ [' ']))) :=
    IsLabel.named (by decide) (by decide) hname (by decide)
  have hclause : "CONSTRAINT".toList ++ ([' '] ++ ((Spelling.plain (.bare "positive".toList)).write ++ [' '])) ++
      "CHECK (price > 0)".toList = "CONSTRAINT positive CHECK (price > 0)".toList := by decide
  have hopens : check.opens "CHECK (price > 0)".toList = true := by decide
  have h := readConstraint_opens hlabel hopens
  rw [hclause] at h
  exact ⟨h.1, h.2.2 (by decide) (by decide)⟩

/-- a check opens as one and is read as a unique constraint, which stands in a literal -/
theorem check_reads_as_unique :
    check.opens "CHECK (note <> 'UNIQUE (a)')".toList = true ∧
      check.reads "CHECK (note <> 'UNIQUE (a)')".toList = true ∧
      opensConstraint "CHECK (note <> 'UNIQUE (a)')".toList = true ∧
      readConstraint "CHECK (note <> 'UNIQUE (a)')".toList = some (.unique [['a']]) := by
  decide

end Ddl

end SchemaBridge
