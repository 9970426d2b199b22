/-
Names and values in quotes are read back.

A name in double quotes is one segment, whatever it contains, and denotes what stands between the quotes
(`baseName_writeName`). A list in parentheses denotes what its parts denote (`readColumns_writeGroup`), if they have
neither commas nor parentheses (`IsListed`), as such names have none.
-/
import SchemaBridge.Ddl.Constraint
import SchemaBridge.Proofs.Text
import SchemaBridge.Proofs.Written

namespace SchemaBridge

open Text

namespace Ddl

/-! ## Steps over a text -/

theorem breakAt?_append {c : Char} {s : Text} (hs : c ∉ s) (rest : Text) :
    breakAt? c (s ++ c :: rest) = some (s, rest) := by
  have hstop : (s ++ c :: rest).dropWhile (· != c) = c :: rest := by
    rw [List.dropWhile_append_of_pos (fun d hd => by simpa using ne_of_mem_of_not_mem hd hs)]
    simp
  have htake : (s ++ c :: rest).takeWhile (· != c) = s := by
    rw [List.takeWhile_append_of_pos (fun d hd => by simpa using ne_of_mem_of_not_mem hd hs)]
    simp
  simp only [breakAt?, hstop, htake]

theorem before_append (s rest : Text) : before (s ++ rest) rest = s := by
  simp [before]

theorem skipRun_append {p : Char → Bool} {v rest : Text} (hne : v ≠ []) (hv : ∀ c ∈ v, p c = true)
    (hrest : ∀ d ∈ rest.head?, p d = false) : skipRun p (v ++ rest) = some rest := by
  have hdrop : (v ++ rest).dropWhile p = rest := by
    rw [List.dropWhile_append_of_pos hv]
    cases rest with
    | nil => rfl
    | cons d rest => exact List.dropWhile_cons_of_neg (by simp [hrest d rfl])
  obtain ⟨c, t, rfl⟩ := List.exists_cons_of_ne_nil hne
  rw [List.cons_append, List.dropWhile_cons_of_pos (hv c List.mem_cons_self)] at hdrop
  rw [List.cons_append, skipRun, if_pos (hv c List.mem_cons_self), hdrop]

theorem skipChar_eq_none {c : Char} {s : Text} (h : ∀ d ∈ s.head?, d ≠ c) : skipChar c s = none := by
  cases s with
  | nil => rfl
  | cons d s => simp [skipChar, h d rfl]

theorem skipChar_eq_some {c : Char} {s rest : Text} (h : skipChar c s = some rest) : s = c :: rest := by
  cases s with
  | nil => cases h
  | cons d s =>
    rw [skipChar] at h
    split_ifs at h with hd
    rw [hd, Option.some.inj h]

/-- a column's name in double quotes ends at the next one -/
theorem splitColumnName_quoted {clause s : Text} (h : trim clause = '"' :: s) :
    splitColumnName clause = (breakAt? '"' s).map (Prod.map id trimStart) := by
  rw [splitColumnName, h]
  rfl

/-- any other name of a column ends at the first space -/
theorem splitColumnName_unquoted {clause : Text} (h : (trim clause).head? ≠ some '"') :
    splitColumnName clause = (breakAt? ' ' (trim clause)).map (Prod.map id trimStart) := by
  unfold splitColumnName
  split
  · next quoted hquoted => exact absurd (congrArg List.head? hquoted) h
  · rfl

/-! ## Quotes -/

theorem trim_inQuotes {q : Char} (hq : isBlank q = false) (s : Text) : trim (inQuotes q s) = inQuotes q s := by
  exact trim_eq_self (noBlankFirst_cons hq (s ++ [q])) (lastNotBlank_concat (q :: s) hq).2

theorem inQuotes?_inQuotes (q : Char) (s : Text) : inQuotes? q (inQuotes q s) = some s := by
  simp [inQuotes, inQuotes?]

theorem unquote_writeName (n : Text) : unquote (writeName n) = n := by
  rw [unquote, writeName, trim_inQuotes rfl, inQuotes?_inQuotes]
  rfl

theorem unquote_inQuotes_single (v : Text) : unquote (inQuotes '\'' v) = v := by
  have hdouble : inQuotes? '"' (inQuotes '\'' v) = none := by simp [inQuotes, inQuotes?]
  rw [unquote, trim_inQuotes rfl, hdouble, inQuotes?_inQuotes]
  rfl

theorem inQuotes?_subset {q : Char} {s inside : Text} (h : inQuotes? q s = some inside) : inside ⊆ s := by
  cases s with
  | nil => cases h
  | cons c s => exact inside_subset h

/-- a dot in double quotes separates nothing -/
theorem afterLastDot?_quoted {n : Text} (hn : '"' ∉ n) (rest : Text) :
    afterLastDot? true (n ++ '"' :: rest) = afterLastDot? false rest := by
  induction n with
  | nil => simp [afterLastDot?]
  | cons c n ih =>
    simp only [List.mem_cons, not_or] at hn
    simp [afterLastDot?, Ne.symm hn.1, ih hn.2]

theorem afterLastDot?_writeName {n : Text} (hn : '"' ∉ n) (rest : Text) :
    afterLastDot? false (writeName n ++ rest) = afterLastDot? false rest := by
  have hwrite : writeName n ++ rest = '"' :: (n ++ '"' :: rest) := by simp [writeName, inQuotes]
  rw [hwrite, afterLastDot?]
  simp [afterLastDot?_quoted hn]

/-- **A name in double quotes** denotes what stands between them. -/
theorem baseName_writeName {n : Text} (hn : '"' ∉ n) : baseName (writeName n) = n := by
  have hdot : afterLastDot? false (writeName n) = none := by
    have hnone := afterLastDot?_writeName hn []
    rwa [List.append_nil] at hnone
  rw [baseName, writeName, trim_inQuotes rfl, ← writeName, hdot]
  exact unquote_writeName n

theorem skipSegment_writeName {n : Text} (hne : n ≠ []) (hn : '"' ∉ n) (rest : Text) :
    skipSegment (writeName n ++ rest) = some rest := by
  obtain ⟨c, t, rfl⟩ := List.exists_cons_of_ne_nil hne
  have hbreak := breakAt?_append hn rest
  have hwrite : writeName (c :: t) ++ rest = '"' :: (c :: t ++ '"' :: rest) := by simp [writeName, inQuotes]
  rw [hwrite, skipSegment]
  simp only [hbreak]

/-! ## Lists -/

theorem nameList_space (s : Text) : nameList (' ' :: s) = nameList s := by
  have htrim (t : Text) : baseName (' ' :: t) = baseName t := rfl
  rcases hs : splitWhere (· == ',') s with _ | ⟨piece, pieces⟩
  · exact absurd hs (splitWhere_ne_nil _ _)
  · simp [nameList, splitWhere, hs, htrim]

/-- a list ends at the first closing parenthesis and is cut at every comma, in quotes as well; this name has neither -/
def FitsList (n : Text) : Prop :=
  ',' ∉ n ∧ ')' ∉ n

instance (n : Text) : Decidable (FitsList n) := by
  unfold FitsList; infer_instance

theorem fitsList_of_isName {n : Text} (h : IsName n) : FitsList n :=
  ⟨h.not_mem (by decide), h.not_mem (by decide)⟩

/-- the text can stand in a list in parentheses, and denotes a name there -/
def IsListed (part : Text) : Prop :=
  baseName part ≠ [] ∧ FitsList part

theorem IsListed.no_comma {part : Text} (h : IsListed part) : ∀ c ∈ part, (c == ',') = false := by
  intro c hc
  simpa using ne_of_mem_of_not_mem hc h.2.1

theorem nameList_singleton {part : Text} (h : IsListed part) : nameList part = [baseName part] := by
  rw [nameList, splitWhere_eq_singleton h.no_comma]
  simp [h.1]

theorem nameList_append_comma {part : Text} (h : IsListed part) (rest : Text) :
    nameList (part ++ ',' :: rest) = baseName part :: nameList rest := by
  rw [nameList, splitWhere_append h.no_comma rfl]
  simp [nameList, h.1]

/-- **A list** with commas between its parts denotes what they denote. -/
theorem nameList_joinWith {parts : List Text} (h : ∀ part ∈ parts, IsListed part) :
    nameList (joinWith [',', ' '] parts) = parts.map baseName := by
  induction parts with
  | nil => rfl
  | cons part parts ih =>
    obtain ⟨hpart, hparts⟩ := List.forall_mem_cons.1 h
    cases parts with
    | nil => exact nameList_singleton hpart
    | cons next rest =>
      rw [joinWith_cons_cons, nameList_append_comma hpart, List.singleton_append, nameList_space, ih hparts]
      rfl

theorem mem_joinWith {separator : Text} {parts : List Text} {c : Char} (h : c ∈ joinWith separator parts) :
    c ∈ separator ∨ ∃ part ∈ parts, c ∈ part := by
  induction parts with
  | nil => simp [joinWith] at h
  | cons part parts ih =>
    cases parts with
    | nil => exact Or.inr ⟨part, List.mem_cons_self, h⟩
    | cons next rest =>
      rw [joinWith, List.mem_append, List.mem_append] at h
      · rcases h with (h | h) | h
        · exact Or.inr ⟨part, List.mem_cons_self, h⟩
        · exact Or.inl h
        · rcases ih h with h | ⟨p, hp, hc⟩
          · exact Or.inl h
          · exact Or.inr ⟨p, List.mem_cons_of_mem _ hp, hc⟩
      · simp

theorem lastNotBlank_writeGroup (parts : List Text) : LastNotBlank (writeGroup parts) :=
  lastNotBlank_concat ('(' :: joinWith [',', ' '] parts) rfl

/-- what neither the parts nor what separates them contain -/
theorem not_mem_joinWith {separator : Text} {parts : List Text} {c : Char} (hseparator : c ∉ separator)
    (h : ∀ part ∈ parts, c ∉ part) : c ∉ joinWith separator parts := by
  intro hmem
  rcases mem_joinWith hmem with hsep | ⟨part, hpart, hmem⟩
  · exact hseparator hsep
  · exact h part hpart hmem

/-- **A list in parentheses** is read back. -/
theorem readParenthesised_writeGroup {parts : List Text} (h : ∀ part ∈ parts, IsListed part) (rest : Text) :
    readParenthesised (writeGroup parts ++ rest) = some (joinWith [',', ' '] parts, rest) := by
  have hclose : ')' ∉ joinWith [',', ' '] parts := not_mem_joinWith (by decide) fun part hpart => (h part hpart).2.2
  have hopen : writeGroup parts ++ rest = '(' :: (joinWith [',', ' '] parts ++ ')' :: rest) := by
    simp [writeGroup]
  rw [hopen, readParenthesised, skipChar, if_pos rfl]
  exact breakAt?_append hclose rest

theorem trimStart_writeGroup (parts : List Text) (rest : Text) :
    trimStart (' ' :: (writeGroup parts ++ rest)) = writeGroup parts ++ rest := rfl

theorem readColumns_writeGroup {parts : List Text} (h : ∀ part ∈ parts, IsListed part) (rest : Text) :
    readColumns (' ' :: (writeGroup parts ++ rest)) = some (parts.map baseName, rest) := by
  rw [readColumns, trimStart_writeGroup, readParenthesised_writeGroup h, Option.map_some]
  simp only [nameList_joinWith h]

/-! ## Lists of names in quotes -/

theorem mem_writeName {n : Text} {c : Char} (hc : c ≠ '"') : c ∈ writeName n ↔ c ∈ n := by
  simp [writeName, inQuotes, hc]

theorem isListed_writeName {n : Text} (hn : IsQuotable n) (hfits : FitsList n) : IsListed (writeName n) := by
  refine ⟨by rw [baseName_writeName hn.2]; exact hn.1, ?_, ?_⟩
  · rw [mem_writeName (by decide)]
    exact hfits.1
  · rw [mem_writeName (by decide)]
    exact hfits.2

variable {ns : List Text}

theorem isListed_writeNames (h : AreQuotable ns) (hfits : ∀ n ∈ ns, FitsList n) :
    ∀ part ∈ ns.map writeName, IsListed part :=
  List.forall_mem_map.2 fun n hn => isListed_writeName (h.2 n hn) (hfits n hn)

theorem map_baseName_writeName (h : AreQuotable ns) : (ns.map writeName).map baseName = ns := by
  rw [List.map_map]
  exact (List.map_congr_left fun n hn => baseName_writeName (h.2 n hn).2).trans (List.map_id ns)

end Ddl

end SchemaBridge
