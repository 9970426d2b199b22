/-
Readings that take no notice of the case of ASCII letters.

The tests on characters give the same for a capital and its small letter (`toLower_invariant`), and no letter is a mark
(`toLower_eq_iff`). So cutting and trimming a text in small letters gives the pieces of the text, in small letters, and
every reading step skips as much of the one as of the other (`IgnoresCase`). Readings that are made of such steps, one
after the other, one or the other, or searched for, are of this kind again.

Results:
- `IgnoresCase.bind`, `IgnoresCase.or`, `IgnoresCase.findWord`: how readings are put together.
- `ignoresCase_skipAll`, `ignoresCase_skipName`, `ignoresCase_skipLiteral`: keywords, names and literals.
- `baseName_fold`, `nameList_fold`: what names denote.
-/
import SchemaBridge.Proofs.Reading

namespace SchemaBridge

namespace Text

/-! ## Characters -/

/-- a test that tells no ASCII capital from its small letter tells no characters apart by case -/
theorem toLower_invariant {α : Type} {p : Char → α} (h : ∀ n < 128, p (Char.ofNat n).toLower = p (Char.ofNat n))
    (c : Char) : p c.toLower = p c := by
  cases hc : isAscii c with
  | true => exact ascii_cases (p := fun c => p c.toLower = p c) h hc
  | false =>
    have hcode : 90 < c.toNat := by
      simp only [isAscii, decide_eq_false_iff_not] at hc
      omega
    rw [toLower_eq_self (Or.inr hcode)]

@[simp] theorem toLower_toLower (c : Char) : c.toLower.toLower = c.toLower :=
  toLower_invariant (p := Char.toLower) (by decide) c

/-- a character that is no ASCII letter -/
def isCaseless (c : Char) : Bool :=
  c.toNat < 65 || 90 < c.toNat && c.toNat < 97 || 122 < c.toNat

/-- a character that is no letter is the small letter of itself only -/
theorem toLower_eq_iff {c d : Char} (hd : isCaseless d = true) : c.toLower = d ↔ c = d := by
  by_cases hletter : c.toLower = c
  · rw [hletter]
  · have hsmall : isCaseless c.toLower = false := by
      have hascii : isAscii c = true := by
        by_contra hc
        refine hletter (toLower_eq_self (Or.inr ?_))
        simp only [isAscii, decide_eq_true_eq] at hc
        omega
      exact ascii_cases (p := fun c => c.toLower ≠ c → isCaseless c.toLower = false) (by decide) hascii hletter
    constructor
    · rintro rfl
      rw [hsmall] at hd
      cases hd
    · rintro rfl
      exact toLower_eq_self (by simp [isCaseless] at hd ⊢; omega)

theorem toLower_beq {d : Char} (hd : isCaseless d = true) (c : Char) : (c.toLower == d) = (c == d) := by
  rw [Bool.eq_iff_iff, beq_iff_eq, beq_iff_eq, toLower_eq_iff hd]

theorem isBlank_toLower (c : Char) : isBlank c.toLower = isBlank c :=
  toLower_invariant (by decide) c

theorem isWord_toLower (c : Char) : isWord c.toLower = isWord c :=
  toLower_invariant (by decide) c

theorem isDigit_toLower (c : Char) : isDigit c.toLower = isDigit c :=
  toLower_invariant (by decide) c

/-! ## Texts -/

@[simp] theorem fold_nil : fold [] = [] := rfl

@[simp] theorem fold_cons (c : Char) (s : Text) : fold (c :: s) = c.toLower :: fold s := rfl

@[simp] theorem length_fold (s : Text) : (fold s).length = s.length :=
  List.length_map _

@[simp] theorem isEmpty_fold (s : Text) : (fold s).isEmpty = s.isEmpty :=
  List.isEmpty_map

theorem fold_reverse (s : Text) : fold s.reverse = (fold s).reverse :=
  List.map_reverse

theorem mem_fold_iff {c : Char} (hc : isCaseless c = true) {s : Text} : c ∈ fold s ↔ c ∈ s := by
  simp only [fold, List.mem_map, toLower_eq_iff hc, exists_eq_right]

theorem dropWhile_fold {p : Char → Bool} (hp : ∀ c, p c.toLower = p c) (s : Text) :
    (fold s).dropWhile p = fold (s.dropWhile p) := by
  rw [fold, List.dropWhile_map]
  exact congrArg (fun q => (s.dropWhile q).map Char.toLower) (funext hp)

theorem takeWhile_fold {p : Char → Bool} (hp : ∀ c, p c.toLower = p c) (s : Text) :
    (fold s).takeWhile p = fold (s.takeWhile p) := by
  rw [fold, List.takeWhile_map]
  exact congrArg (fun q => (s.takeWhile q).map Char.toLower) (funext hp)

theorem trimStart_fold (s : Text) : trimStart (fold s) = fold (trimStart s) :=
  dropWhile_fold isBlank_toLower s

theorem trimEnd_fold (s : Text) : trimEnd (fold s) = fold (trimEnd s) := by
  rw [trimEnd, ← fold_reverse, dropWhile_fold isBlank_toLower, ← fold_reverse, trimEnd]

theorem trim_fold (s : Text) : trim (fold s) = fold (trim s) := by
  rw [trim, trimStart_fold, trimEnd_fold, trim]

theorem splitWhere_fold {p : Char → Bool} (hp : ∀ c, p c.toLower = p c) (s : Text) :
    splitWhere p (fold s) = (splitWhere p s).map fold := by
  induction s with
  | nil => rfl
  | cons c s ih =>
    simp only [fold_cons, splitWhere, ih, hp]
    cases splitWhere p s with
    | nil => rfl
    | cons piece pieces => dsimp only [List.map_cons]; cases p c <;> rfl

theorem blankSeparated_fold (s : Text) : blankSeparated (fold s) = (blankSeparated s).map fold := by
  rw [blankSeparated, splitWhere_fold isBlank_toLower, List.filter_map]
  simp [blankSeparated, Function.comp_def]

theorem fold_joinWith (separator : Text) (parts : List Text) :
    fold (joinWith separator parts) = joinWith (fold separator) (parts.map fold) := by
  induction parts with
  | nil => rfl
  | cons part rest ih =>
    cases rest with
    | nil => rfl
    | cons next rest =>
      rw [joinWith, fold_append, fold_append, ih]
      · rfl
      · simp

theorem fold_fold (s : Text) : fold (fold s) = fold s := by
  simp [fold, Function.comp_def]

/-- names are compared in small letters -/
theorem sameName_fold (s t : Text) : sameName (fold s) (fold t) = sameName s t := by
  rw [sameName, fold_fold, fold_fold, sameName]

/-- small letters have the capitals of the text -/
theorem upper_fold (s : Text) : upper (fold s) = upper s := by
  have hchar (c : Char) : upperChar c.toLower = upperChar c := toLower_invariant (by decide) c
  simp [upper, fold, List.flatMap_map, hchar]

end Text

namespace Ddl

open Text

/-! ## Readings -/

/-- in a text in small letters the reading succeeds where it does in the text, and what it finds is changed by `g` -/
def IgnoresCase {α : Type} (g : α → α) (read : Text → Option α) : Prop :=
  ∀ s, read (fold s) = (read s).map g

namespace IgnoresCase

variable {α β : Type} {g : α → α} {k : β → β} {f : Text → Option Text} {read read' : Text → Option α}

theorem done : IgnoresCase fold some := fun _ => rfl

/-- what is done with a result, for a text in small letters and for the text -/
theorem bindAt (h : IgnoresCase g read) {next next' : α → Option β} (hnext : ∀ a, next' (g a) = (next a).map k)
    (s : Text) : (read (fold s)).bind next' = ((read s).bind next).map k := by
  rw [h s]
  cases read s with
  | none => rfl
  | some a => exact hnext a

theorem andThen (h : IgnoresCase g read) {next : α → Option β} (hnext : ∀ a, next (g a) = (next a).map k) :
    IgnoresCase k fun s => (read s).bind next :=
  h.bindAt hnext

theorem bind (hf : IgnoresCase fold f) {next : Text → Option β} (hnext : IgnoresCase k next) :
    IgnoresCase k fun s => (f s).bind next :=
  hf.andThen hnext

theorem map (h : IgnoresCase g read) {next : α → β} (hnext : ∀ a, next (g a) = k (next a)) :
    IgnoresCase k fun s => (read s).map next := by
  intro s
  simp only [h s]
  cases read s with
  | none => rfl
  | some a => exact congrArg some (hnext a)

theorem or (h : IgnoresCase g read) (h' : IgnoresCase g read') : IgnoresCase g fun s => (read s).or (read' s) := by
  intro s
  simp only [h s, h' s]
  cases read s <;> rfl

theorem isSome (h : IgnoresCase g read) (s : Text) : (read (fold s)).isSome = (read s).isSome := by
  rw [h s, Option.isSome_map]

theorem optional_fold (h : IgnoresCase fold f) (s : Text) : optional f (fold s) = fold (optional f s) := by
  rw [optional, h s, optional]
  cases f s <;> rfl

theorem optional (h : IgnoresCase fold f) : IgnoresCase fold fun s => some (optional f s) :=
  fun s => congrArg some (h.optional_fold s)

/-- blanks may be skipped first -/
theorem afterBlanks (h : IgnoresCase g read) : IgnoresCase g fun s => read (trimStart s) := by
  intro s
  simp only [trimStart_fold, h (trimStart s)]

/-- **A search** finds at the same place what the reading finds there. -/
theorem findWord (h : IgnoresCase g read) : IgnoresCase g (findWord read) := by
  have hafter (s : Text) (inWord : Bool) :
      findWordAfter read inWord (fold s) = (findWordAfter read inWord s).map g := by
    induction s generalizing inWord with
    | nil => rfl
    | cons c s ih =>
      have hread := h (c :: s)
      rw [fold_cons] at hread
      simp only [fold_cons, findWordAfter, hread, isWord_toLower, ih]
      cases inWord
      · cases read (c :: s) <;> rfl
      · rfl
  exact fun s => hafter s false

end IgnoresCase

/-- replacing parts of a text in small letters -/
theorem replaceAll_fold {skip : Bool → Text → Option Text} (h : ∀ inWord, IgnoresCase fold (skip inWord))
    {replacement : Text} (hreplacement : fold replacement = replacement) (s : Text) :
    replaceAll skip replacement (fold s) = fold (replaceAll skip replacement s) := by
  have hfrom (left : Nat) (inWord : Bool) :
      replaceFrom skip replacement left inWord (fold s) = fold (replaceFrom skip replacement left inWord s) := by
    induction s generalizing left inWord with
    | nil => rfl
    | cons c s ih =>
      cases left with
      | succ left => simp only [fold_cons, replaceFrom, isWord_toLower, ih]
      | zero =>
        have hskip := h inWord (c :: s)
        rw [fold_cons] at hskip
        simp only [fold_cons, replaceFrom, hskip, isWord_toLower, length_fold]
        cases hrest : skip inWord (c :: s) with
        | none => simp only [Option.map_none, fold_cons, ih]
        | some rest =>
          simp only [Option.map_some, length_fold, ih, fold_append, hreplacement]
  exact hfrom 0 false

theorem before_fold (s rest : Text) : before (fold s) (fold rest) = fold (before s rest) := by
  rw [before, length_fold, length_fold, fold, fold, ← List.map_take, before]

/-- a step as a reading of what it skips -/
theorem IgnoresCase.read {f : Text → Option Text} (h : IgnoresCase fold f) :
    IgnoresCase (Prod.map fold fold) fun s => (f s).map fun rest => (before s rest, rest) := by
  intro s
  simp only [h s, Option.map_map]
  cases f s with
  | none => rfl
  | some rest => exact congrArg (fun skipped => some (skipped, fold rest)) (before_fold s rest)

/-! ## Steps -/

theorem isLetter_toLower (letter c : Char) : isLetter letter c.toLower = isLetter letter c := by
  rw [isLetter, toLower_toLower, toLower_beq (d := '\u212a') (by decide), toLower_beq (d := '\u017f') (by decide),
    isLetter]

theorem ignoresCase_skipLetters (letters : Text) : IgnoresCase fold (skipLetters letters) := by
  intro s
  induction letters generalizing s with
  | nil => rfl
  | cons letter letters ih =>
    cases s with
    | nil => rfl
    | cons c s =>
      simp only [fold_cons, skipLetters, isLetter_toLower]
      split
      · exact ih s
      · rfl

theorem ignoresCase_skip (k : Keyword) : IgnoresCase fold k.skip :=
  ignoresCase_skipLetters k.letters

theorem ignoresCase_skipGap : IgnoresCase fold skipGap := by
  intro s
  cases s with
  | nil => rfl
  | cons c s =>
    simp only [fold_cons, skipGap, isBlank_toLower, trimStart_fold]
    split <;> rfl

theorem ignoresCase_skipWord (k : Keyword) : IgnoresCase fold k.skipWord :=
  (ignoresCase_skip k).bind ignoresCase_skipGap

theorem ignoresCase_skipAll (ks : List Keyword) : IgnoresCase fold (Keyword.skipAll ks) := by
  induction ks with
  | nil => exact .done
  | cons k ks ih =>
    rw [show Keyword.skipAll (k :: ks) = _ from funext (Keyword.skipAll_cons k ks)]
    exact (ignoresCase_skipWord k).bind ih

theorem ignoresCase_skipOneOf (ks : List Keyword) : IgnoresCase fold (Keyword.skipOneOf ks) := by
  intro s
  induction ks with
  | nil => rfl
  | cons k ks ih =>
    have hword := ignoresCase_skipWord k s
    simp only [Keyword.skipWord] at hword
    simp only [Keyword.skipOneOf, List.findSome?_cons, hword] at ih ⊢
    cases (k.skip s).bind skipGap with
    | none => exact ih
    | some rest => rfl

theorem ignoresCase_skipChar {c : Char} (hc : isCaseless c = true) : IgnoresCase fold (skipChar c) := by
  intro s
  cases s with
  | nil => rfl
  | cons d s =>
    simp only [fold_cons, skipChar, toLower_eq_iff hc]
    split <;> rfl

theorem ignoresCase_skipMark {c : Char} (hc : isCaseless c = true) : IgnoresCase fold (skipMark c) :=
  (ignoresCase_skipChar hc).afterBlanks

theorem ignoresCase_skipRun {p : Char → Bool} (hp : ∀ c, p c.toLower = p c) : IgnoresCase fold (skipRun p) := by
  intro s
  cases s with
  | nil => rfl
  | cons c s =>
    simp only [fold_cons, skipRun, hp, dropWhile_fold hp]
    split <;> rfl

theorem ignoresCase_wordEnd : IgnoresCase fold wordEnd := by
  intro s
  have hbegins : beginsWord (fold s) = beginsWord s := by
    cases s with
    | nil => rfl
    | cons c s => exact isWord_toLower c
  simp only [wordEnd, hbegins]
  split <;> rfl

theorem ignoresCase_breakAt? {c : Char} (hc : isCaseless c = true) :
    IgnoresCase (Prod.map fold fold) (breakAt? c) := by
  have hp (d : Char) : (d.toLower != c) = (d != c) := congrArg not (toLower_beq hc d)
  intro s
  simp only [breakAt?, dropWhile_fold (p := (· != c)) hp, takeWhile_fold (p := (· != c)) hp]
  cases s.dropWhile (· != c) <;> rfl

/-! ## Literals and groups -/

theorem ignoresCase_skipLiteralBody : IgnoresCase fold skipLiteralBody := by
  intro s
  induction s using skipLiteralBody.induct with
  | case1 => rfl
  | case2 s ih =>
    have hmarks (t : Text) : skipLiteralBody ('\'' :: '\'' :: t) = (skipLiteralBody t).or (some ('\'' :: t)) := by
      rw [skipLiteralBody]
    simp only [fold_cons]
    rw [toLower_eq_self (c := '\'') (by decide), hmarks, hmarks, ih]
    cases skipLiteralBody s <;> rfl
  | case3 s hs =>
    have hhead : ∀ c ∈ s.head?, c ≠ '\'' := by
      rintro c hc rfl
      obtain ⟨t, rfl⟩ := List.head?_eq_some_iff.1 hc
      exact hs t rfl
    have hfold : ∀ c ∈ (fold s).head?, c ≠ '\'' := by
      simpa [fold, toLower_eq_iff (d := '\'') (by decide)] using hhead
    rw [skipLiteralBody_mark hhead, fold_cons, toLower_eq_self (c := '\'') (by decide), skipLiteralBody_mark hfold]
    rfl
  | case4 c s _ hmark ih =>
    have hc : c.toLower ≠ '\'' := by
      rw [Ne, toLower_eq_iff (by decide)]
      exact fun h => hmark h
    rw [fold_cons, skipLiteralBody_cons hc, skipLiteralBody_cons fun h => hmark h, ih]

theorem ignoresCase_skipLiteral : IgnoresCase fold skipLiteral :=
  (ignoresCase_skipChar (by decide)).bind ignoresCase_skipLiteralBody

theorem emptyLiterals_fold (s : Text) : emptyLiterals (fold s) = fold (emptyLiterals s) :=
  replaceAll_fold (fun _ => ignoresCase_skipLiteral) (by decide) s

theorem ignoresCase_skipGroupBody (inner : Bool) : IgnoresCase fold (skipGroupBody inner) := by
  intro s
  induction s generalizing inner with
  | nil => rfl
  | cons c s ih =>
    simp only [fold_cons, skipGroupBody, toLower_eq_iff (d := ')') (by decide), toLower_eq_iff (d := '(') (by decide), ih]
    split_ifs <;> rfl

theorem ignoresCase_skipGroup : IgnoresCase fold skipGroup :=
  (ignoresCase_skipChar (by decide)).bind (ignoresCase_skipGroupBody false)

/-! ## Names -/

theorem isNameChar_toLower (c : Char) : isNameChar c.toLower = isNameChar c := by
  rw [isNameChar, isWord_toLower, toLower_beq (by decide), isNameChar]

/-- a reading that is another one if the text begins with a double quote -/
theorem ignoresCase_of_quote {α : Type} {g : α → α} {read quoted bare : Text → Option α}
    (hquoted : ∀ s, read ('"' :: s) = quoted s) (hbare : ∀ s, (∀ c ∈ s.head?, c ≠ '"') → read s = bare s)
    (hq : IgnoresCase g quoted) (hb : IgnoresCase g bare) : IgnoresCase g read := by
  intro s
  by_cases hs : s.head? = some '"'
  · obtain ⟨t, rfl⟩ := List.head?_eq_some_iff.1 hs
    rw [fold_cons, toLower_eq_self (by decide), hquoted, hquoted, hq t]
  · have hhead : ∀ c ∈ s.head?, c ≠ '"' := fun c hc hquote => hs (hquote ▸ hc)
    have hfold : ∀ c ∈ (fold s).head?, c ≠ '"' := by
      simpa [fold, toLower_eq_iff (d := '"') (by decide)] using hhead
    rw [hbare s hhead, hbare _ hfold, hb s]

theorem ignoresCase_skipSegment : IgnoresCase fold skipSegment := by
  have hquoted : IgnoresCase fold fun s => (breakAt? '"' s).bind fun part =>
      if part.1.isEmpty then none else some part.2 := by
    refine (ignoresCase_breakAt? (by decide)).andThen fun part => ?_
    simp only [Prod.map_fst, Prod.map_snd, isEmpty_fold]
    split <;> rfl
  refine ignoresCase_of_quote (fun s => ?_) (fun s hs => ?_) hquoted (ignoresCase_skipRun isNameChar_toLower)
  · rw [skipSegment]
    rcases breakAt? '"' s with _ | ⟨_ | ⟨c, part⟩, rest⟩ <;> rfl
  · unfold skipSegment
    split
    · exact absurd rfl (hs '"' rfl)
    · rfl

theorem ignoresCase_skipQualified : IgnoresCase fold skipQualified :=
  (ignoresCase_skipMark (by decide)).bind ignoresCase_skipSegment.afterBlanks

theorem ignoresCase_skipName : IgnoresCase fold skipName :=
  ignoresCase_skipSegment.bind ignoresCase_skipQualified.optional

theorem ignoresCase_readName : IgnoresCase (Prod.map fold fold) readName := by
  have heq : readName = fun s => (skipName s).map fun rest => (before s rest, rest) := by
    funext s
    rw [readName]
    cases skipName s <;> rfl
  rw [heq]
  exact ignoresCase_skipName.read

theorem ignoresCase_readParenthesised : IgnoresCase (Prod.map fold fold) readParenthesised :=
  (ignoresCase_skipChar (by decide)).bind (ignoresCase_breakAt? (by decide))

theorem ignoresCase_inQuotes? {q : Char} (hq : isCaseless q = true) : IgnoresCase fold (inQuotes? q) := by
  intro s
  cases s with
  | nil => rfl
  | cons c s =>
    have hlast : (fold s).getLast? = some q ↔ s.getLast? = some q := by
      simp [fold, List.getLast?_map, toLower_eq_iff hq]
    have hdrop : (fold s).dropLast = fold s.dropLast := List.map_dropLast.symm
    simp only [fold_cons, inQuotes?, toLower_eq_iff hq, hlast, hdrop]
    split <;> rfl

/-- **What is in quotes** is so in small letters. -/
theorem unquote_fold (s : Text) : unquote (fold s) = fold (unquote s) := by
  have hinside : (inQuotes? '"' (fold (trim s))).or (inQuotes? '\'' (fold (trim s))) = _ :=
    (ignoresCase_inQuotes? (by decide)).or (ignoresCase_inQuotes? (by decide)) (trim s)
  rw [unquote, trim_fold, hinside, Option.getD_map, unquote]

theorem ignoresCase_afterLastDot? (quoted : Bool) : IgnoresCase fold (afterLastDot? quoted) := by
  intro s
  induction s generalizing quoted with
  | nil => rfl
  | cons c s ih =>
    simp only [fold_cons, afterLastDot?, toLower_eq_iff (d := '"') (by decide), toLower_eq_iff (d := '.') (by decide), ih]
    cases afterLastDot? (if c = '"' then !quoted else quoted) s with
    | some rest => rfl
    | none =>
      simp only [Option.map_none, Option.none_or]
      split_ifs <;> rfl

/-- **A name** written in small letters denotes the name in small letters. -/
theorem baseName_fold (written : Text) : baseName (fold written) = fold (baseName written) := by
  rw [baseName, trim_fold, ignoresCase_afterLastDot? false (trim written), Option.getD_map, unquote_fold, baseName]

theorem nameList_fold (written : Text) : nameList (fold written) = (nameList written).map fold := by
  have hcomma (c : Char) : (c.toLower == ',') = (c == ',') := toLower_beq (by decide) c
  have hnames (names : List Text) :
      (names.map fold).filter (!·.isEmpty) = (names.filter (!·.isEmpty)).map fold := by
    rw [List.filter_map]
    simp only [Function.comp_def, isEmpty_fold]
  rw [nameList, splitWhere_fold hcomma, List.map_map, nameList, ← hnames, List.map_map]
  exact congrArg _ (List.map_congr_left fun part _ => baseName_fold part)

end Ddl

end SchemaBridge
