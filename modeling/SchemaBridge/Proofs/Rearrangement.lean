/-
The order of statements in a script.

The passes over a script each see their own statements only, and what one pass needs of another it takes from the
schema, not from the text. So two scripts with the same statements for each pass, in the same order, are read alike
(`SamePasses`), whatever stands between them and however the passes are mixed. Closed texts with semicolons between them
may therefore change places.

Results:
- `readScript_rearrange`: scripts with the same statements for each pass are read alike, and texts may be rearranged.
- `readScript_exchange`: two neighbouring texts of which no pass takes both may change places.
-/
import SchemaBridge.Proofs.Isolation

namespace SchemaBridge.Ddl

open Text

/-! ## The same statements for each pass -/

/-- each pass takes the same statements of both, in the same order -/
def SamePasses (ms ms' : List Text) : Prop :=
  ∀ p : Pass, ms.filter p.takes = ms'.filter p.takes

/-- both readings have the same schema and skip the same statements -/
def Reading.Agrees (r r' : Reading) : Prop :=
  r.schema = r'.schema ∧ r.skipped = r'.skipped

/-- what a script declares depends on the statements for each pass only -/
theorem readStatements_agrees {ms ms' : List Text} (h : SamePasses ms ms') :
    (readStatements ms).Agrees (readStatements ms') := by
  have henum := h .enumerations
  have htable := h .tables
  have halter := h .alterations
  simp only [Pass.takes] at henum htable halter
  simp only [Reading.Agrees, readStatements, henum, htable, halter, and_self]

/-- neighbours of which no pass takes both may change places -/
theorem samePasses_exchange {ms ns : List Text}
    (h : ∀ p : Pass, (∀ m ∈ ms, p.takes m = false) ∨ ∀ n ∈ ns, p.takes n = false) (xs ys : List Text) :
    SamePasses (xs ++ (ms ++ (ns ++ ys))) (xs ++ (ns ++ (ms ++ ys))) := by
  intro p
  simp only [List.filter_append]
  rcases h p with hnone | hnone
  · have hms : ms.filter p.takes = [] := List.filter_eq_nil_iff.2 (by simpa using hnone)
    rw [hms, List.nil_append, List.nil_append]
  · have hns : ns.filter p.takes = [] := List.filter_eq_nil_iff.2 (by simpa using hnone)
    rw [hns, List.nil_append, List.nil_append]

/-! ## Texts in another order -/

/-- **Closed neighbours** of which no pass takes both may change places in a script. -/
theorem readScript_exchange {a m n : Text} (ha : Closed a) (hm : Closed m) (hn : Closed n)
    (h : ∀ p : Pass, (∀ s ∈ statements m, p.takes s = false) ∨ ∀ s ∈ statements n, p.takes s = false) (b : Text) :
    (readScript (a ++ ';' :: (m ++ ';' :: (n ++ ';' :: b)))).Agrees
      (readScript (a ++ ';' :: (n ++ ';' :: (m ++ ';' :: b)))) := by
  simp only [readScript, statements_append_of_closed ha, statements_append_of_closed hm,
    statements_append_of_closed hn]
  exact readStatements_agrees (samePasses_exchange h _ _)

/-- **The order of statements** matters within each pass only. Two scripts with the same statements for each pass are
read alike; the statements of `a; b` are those of `a` and then those of `b`, if `a` is closed; so closed texts may be
put in another order that is the same for each pass. -/
theorem readScript_rearrange :
    (∀ t t' : Text, SamePasses (statements t) (statements t') → (readScript t).Agrees (readScript t')) ∧
    (∀ a b : Text, Closed a → statements (a ++ ';' :: b) = statements a ++ statements b) ∧
    ∀ ms ms' : List Text, (∀ m ∈ ms ++ ms', Closed m) →
      SamePasses (ms.flatMap statements) (ms'.flatMap statements) →
      (readScript (joinWith [';'] ms)).Agrees (readScript (joinWith [';'] ms')) := by
  refine ⟨fun _ _ => readStatements_agrees, fun a b ha => statements_append_of_closed ha b,
    fun ms ms' hclosed h => readStatements_agrees ?_⟩
  obtain ⟨hms, hms'⟩ := List.forall_mem_append.1 hclosed
  rwa [statements_joinWith_of_closed hms, statements_joinWith_of_closed hms']

/-- an alteration before its table, a table before its type, and statements of no pass in between -/
theorem readScript_rearrange_status :
    let enum := "CREATE TYPE s AS ENUM ('a;')".toList
    let table := "CREATE TABLE t (c s)".toList
    let other := "/* ; */ DROP TABLE t".toList
    let alter := "ALTER TABLE t ADD UNIQUE (c); ALTER TABLE u ADD UNIQUE (c)".toList
    (readScript (joinWith [';'] [enum, table, alter])).skipped = [.unknownTable ['u']] ∧
      (readScript (joinWith [';'] [enum, table, alter])).Agrees
        (readScript (joinWith [';'] [alter, other, table, enum, other])) ∧
      (readScript (enum ++ ';' :: alter)).Agrees (readScript (alter ++ ';' :: enum)) := by
  intro enum table other alter
  have hclosed : ∀ m ∈ [enum, table, alter] ++ [alter, other, table, enum, other], Closed m := by decide
  have hsame : SamePasses ([enum, table, alter].flatMap statements)
      ([alter, other, table, enum, other].flatMap statements) := by
    intro p
    cases p <;> decide
  have hpair : SamePasses (statements (enum ++ ';' :: alter)) (statements (alter ++ ';' :: enum)) := by
    have henum := readScript_rearrange.2.1 enum alter (by decide)
    have halter := readScript_rearrange.2.1 alter enum (by decide)
    rw [henum, halter]
    intro p
    cases p <;> decide
  exact ⟨by decide +kernel, readScript_rearrange.2.2 _ _ hclosed hsame, readScript_rearrange.1 _ _ hpair⟩

end SchemaBridge.Ddl
