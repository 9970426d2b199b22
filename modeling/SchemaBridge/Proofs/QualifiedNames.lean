/-
Names with any number of qualifiers.

Where a statement has a place for a name, it takes one qualifier at most (`Spelling`). What stands in a list is cut at
its commas only, so there a name may have more of them, and blanks before and after (`QualifiedName`). It denotes its
last segment all the same, without the quotes and with everything between them. The offsets in bytes at which the name
is cut out of the text are those of whole characters, whatever characters stand in the qualifiers.

Results:
- `baseName_qualifiedName`: a name denotes its last segment, and it is cut out at whole characters.
-/
import SchemaBridge.Proofs.CheckedNames
import SchemaBridge.Proofs.Spellings

namespace SchemaBridge.Ddl

open Text

/-- a segment after any number of qualifiers, with blanks around it all -/
structure QualifiedName where
  leading : Text
  qualifiers : List Qualifier
  name : Segment
  trailing : Text
  deriving DecidableEq, Repr

namespace QualifiedName

def write (n : QualifiedName) : Text :=
  n.leading ++ (writeQualifiers n.qualifiers ++ n.name.write ++ n.trailing)

def Valid (n : QualifiedName) : Prop :=
  (∀ c ∈ n.leading, isBlank c = true) ∧ (∀ q ∈ n.qualifiers, q.Valid) ∧ n.name.Valid ∧
    ∀ c ∈ n.trailing, isBlank c = true

instance (n : QualifiedName) : Decidable n.Valid := by
  unfold Valid; infer_instance

/-- the blanks around a name are no part of it -/
theorem Valid.trim_write {n : QualifiedName} (h : n.Valid) :
    trim n.write = trim (writeQualifiers n.qualifiers ++ n.name.write) := by
  obtain ⟨hleading, -, -, htrailing⟩ := h
  rw [write, trim, trimStart_append_of_blank hleading, ← trim, trim_append_of_blank htrailing]

end QualifiedName

/-- **A qualified name** denotes its last segment, as it stands there, and that is cut out of the text at whole
characters. -/
theorem baseName_qualifiedName {n : QualifiedName} (h : n.Valid) :
    baseName n.write = n.name.text ∧ Checked.baseName n.write = some n.name.text := by
  have hname : baseName n.write = n.name.text := by
    rw [baseName, h.trim_write, ← baseName]
    exact baseName_qualified h.2.1 h.2.2.1
  refine ⟨hname, ?_⟩
  rw [Checked.baseName_eq, hname]

/-- dots, blanks and single quotes in quotes, and blanks of more than one byte around the dots -/
def remoteName : QualifiedName where
  leading := " \n".toList
  qualifiers :=
    [⟨.quoted "my.db 'é".toList, "\u3000".toList, "\t".toList⟩, ⟨.bare "größe$1".toList, [], "\u00a0 ".toList⟩]
  name := .quoted "'x. y'".toList
  trailing := "\r".toList

theorem baseName_qualifiedName_remote :
    remoteName.Valid ∧ remoteName.write = " \n\"my.db 'é\"\u3000.\tgröße$1.\u00a0 \"'x. y'\"\r".toList ∧
      baseName remoteName.write = "'x. y'".toList ∧ Checked.baseName remoteName.write = some "'x. y'".toList := by
  have hvalid : remoteName.Valid := by decide
  exact ⟨hvalid, rfl, baseName_qualifiedName hvalid⟩

end SchemaBridge.Ddl
