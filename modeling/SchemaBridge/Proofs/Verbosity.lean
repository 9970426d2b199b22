/-
Runs with and without the verbose switch.

The switch may be given by its name or as a letter among other short options, anywhere where options are read: not as the
value of an option, and not after `--` (`AddsVerbose`). Of two progresses one is `Louder` if it is the other with the
switch read; one argument, and so any number of them, keeps them so as long as the switch does not come a second time.
Arguments that hold the switch in one more place therefore ask for the same request, with all notices shown.

Of the notices of a conversion only the counts of the reading are not a warning, so they are all that the switch adds.
They stand between the statements that are skipped and the tables that are unknown (`noticeLines`). Everything but
standard error is the same whatever is shown (`Outcome.silent`). What is said about arguments that are refused is not the
program's own text: it may repeat any of them, and so tell whether the switch is there (`bogusText`).

Results:
- `louder_step`, `louder_foldl`: one argument, and a run over arguments.
- `ofArguments_of_addsVerbose`: what the arguments ask for.
- `stderr_convert`: all that a conversion tells.
- `run_verbose`: two runs that differ in the switch only.
- `verbose_refused`: what may differ where the switch is not read, or the arguments are refused.
-/
import SchemaBridge.Proofs.Relations
import SchemaBridge.Proofs.Runs

namespace SchemaBridge.CommandLine

/-! ## Options -/

/-- the same conversion, with notices of all levels shown -/
def Invocation.verbosely (i : Invocation) : Invocation :=
  { i with verbose := true }

def Request.verbosely : Request → Request
  | .convert i => .convert i.verbosely
  | request => request

/-- the argument holds the switch where options are read: by its name, or as one of the letters of short options, but not
in the value after an `o` -/
def holdsVerbose : Text → Bool
  | '-' :: '-' :: option => option == "verbose".toList
  | '-' :: letters => (letters.takeWhile (· != 'o')).contains 'v'
  | _ => false

theorem holdsVerbose_letters {letters : Text} (h : letters.head? ≠ some '-') :
    holdsVerbose ('-' :: letters) = (letters.takeWhile (· != 'o')).contains 'v' := by
  cases letters with
  | nil => rfl
  | cons c rest =>
    have hc : c ≠ '-' := fun hc => h (congrArg some hc)
    rw [holdsVerbose]
    intro option hoption
    exact hc (List.cons.inj hoption).1

theorem shortSwitch?_eq_verbose_iff {c : Char} : shortSwitch? c = some .verbose ↔ c = 'v' := by
  unfold shortSwitch?
  split_ifs <;> simp_all

theorem longSwitch?_eq_verbose_iff {name : Text} : longSwitch? name = some .verbose ↔ name = "verbose".toList := by
  unfold longSwitch?
  split_ifs <;> simp_all

namespace Progress

def verbosely : Progress → Progress
  | done request => done request.verbosely
  | going i => going i.verbosely
  | awaiting i setting => awaiting i.verbosely setting
  | ended i => ended i.verbosely

/-- the next argument is read as an option if it looks like one -/
def readsOptions : Progress → Bool
  | going _ => true
  | _ => false

/-- one of the arguments is read as options, and holds the switch -/
def meetsVerbose (p : Progress) : List Text → Bool
  | [] => false
  | argument :: rest => (p.readsOptions && holdsVerbose argument) || (p.step argument).meetsVerbose rest

/-- the switch has not been read, and if reading is over, then not for a conversion -/
def IsQuiet : Progress → Prop
  | done request => ∀ i, request ≠ .convert i
  | going i => i.verbose = false
  | awaiting i _ => i.verbose = false
  | ended i => i.verbose = false

theorem request_verbosely (p : Progress) : p.verbosely.request = p.request.verbosely := by
  cases p <;> rfl

theorem ofOption_verbosely (o : Option Invocation) : ofOption (o.map Invocation.verbosely) = (ofOption o).verbosely := by
  cases o <;> rfl

theorem isQuiet_ofOption {o : Option Invocation} (h : ∀ i ∈ o, i.verbose = false) : (ofOption o).IsQuiet := by
  cases o with
  | none => exact nofun
  | some i => exact h i rfl

end Progress

namespace Invocation

theorem setInput?_verbosely (i : Invocation) (value : Text) :
    i.verbosely.setInput? value = (i.setInput? value).map verbosely := by
  rw [setInput?, setInput?, show i.verbosely.input = i.input from rfl]
  split_ifs <;> rfl

theorem set?_verbosely (i : Invocation) (setting : Setting) (value : Text) :
    i.verbosely.set? setting value = (i.set? setting value).map verbosely := by
  cases setting with
  | output =>
    simp only [set?]
    rw [show i.verbosely.output = i.output from rfl]
    split_ifs <;> rfl
  | datasource =>
    simp only [set?]
    rw [show i.verbosely.datasource = i.datasource from rfl]
    split_ifs <;> rfl
  | urlVariable =>
    simp only [set?]
    rw [show i.verbosely.urlVariable = i.urlVariable from rfl]
    split_ifs <;> rfl

theorem verbose_setInput? {i : Invocation} {value : Text} : ∀ j ∈ i.setInput? value, j.verbose = i.verbose := by
  intro j hj
  rw [Option.mem_def, setInput?] at hj
  split_ifs at hj
  rw [← Option.some.inj hj]

theorem verbose_set? {i : Invocation} {setting : Setting} {value : Text} :
    ∀ j ∈ i.set? setting value, j.verbose = i.verbose := by
  intro j hj
  rw [Option.mem_def] at hj
  cases setting <;> simp only [set?] at hj <;> split_ifs at hj <;> rw [← Option.some.inj hj]

end Invocation

namespace Progress

/-- the same progress, but for the switch, which is read in one of the two only -/
structure Louder (p q : Progress) : Prop where
  quiet : p.IsQuiet
  loud : q = p.verbosely

theorem louder_ofOption {i : Invocation} {o : Option Invocation} (hi : i.verbose = false)
    (ho : ∀ j ∈ o, j.verbose = i.verbose) : Louder (ofOption o) (ofOption (o.map Invocation.verbosely)) where
  quiet := isQuiet_ofOption fun j hj => (ho j hj).trans hi
  loud := ofOption_verbosely o

theorem louder_setInput? {i : Invocation} (hi : i.verbose = false) (value : Text) :
    Louder (ofOption (i.setInput? value)) (ofOption (i.verbosely.setInput? value)) := by
  rw [Invocation.setInput?_verbosely]
  exact louder_ofOption hi Invocation.verbose_setInput?

theorem louder_set? {i : Invocation} (hi : i.verbose = false) (setting : Setting) (value : Text) :
    Louder (ofOption (i.set? setting value)) (ofOption (i.verbosely.set? setting value)) := by
  rw [Invocation.set?_verbosely]
  exact louder_ofOption hi Invocation.verbose_set?

theorem louder_done {request : Request} (h : ∀ i, request ≠ .convert i) : Louder (done request) (done request) := by
  refine ⟨h, ?_⟩
  cases request with
  | convert i => exact absurd rfl (h i)
  | _ => rfl

/-- any other letter ends the reading, whatever the invocation -/
theorem short_of_ne {c : Char} (ho : c ≠ 'o') (hv : c ≠ 'v') :
    ∃ request : Request, (∀ i, request ≠ .convert i) ∧ ∀ i rest, short i (c :: rest) = done request := by
  cases hswitch : shortSwitch? c with
  | none => exact ⟨.usageError, nofun, fun i rest => by simp only [short, if_neg ho, hswitch]⟩
  | some switch =>
    cases switch with
    | verbose => exact absurd (shortSwitch?_eq_verbose_iff.1 hswitch) hv
    | help => exact ⟨.help, nofun, fun i rest => by simp only [short, if_neg ho, hswitch]⟩
    | version => exact ⟨.version, nofun, fun i rest => by simp only [short, if_neg ho, hswitch]⟩

/-- short options without the switch are read alike -/
theorem louder_short {i : Invocation} (hi : i.verbose = false) {letters : Text}
    (h : 'v' ∉ letters.takeWhile (· != 'o')) : Louder (short i letters) (short i.verbosely letters) := by
  cases letters with
  | nil => exact ⟨hi, rfl⟩
  | cons c rest =>
    by_cases hc : c = 'o'
    · subst hc
      simp only [short, if_true]
      split
      · exact ⟨hi, rfl⟩
      · exact louder_set? hi .output _
      · exact louder_set? hi .output _
    · have hv : c ≠ 'v' := by
        rintro rfl
        exact h (by simp)
      obtain ⟨request, hrequest, hshort⟩ := short_of_ne hc hv
      rw [hshort, hshort]
      exact louder_done hrequest

/-- a long option that is not the switch is read alike -/
theorem louder_long {i : Invocation} (hi : i.verbose = false) {option : Text} (h : option ≠ "verbose".toList) :
    Louder (long i option) (long i.verbosely option) := by
  have hname : longSwitch? (option.takeWhile (· != '=')) = some .verbose → option.dropWhile (· != '=') ≠ [] := by
    intro hswitch hnil
    rw [longSwitch?_eq_verbose_iff] at hswitch
    have hsplit := List.takeWhile_append_dropWhile (p := (· != '=')) (l := option)
    rw [hswitch, hnil, List.append_nil] at hsplit
    exact h hsplit.symm
  simp only [long]
  generalize option.takeWhile (· != '=') = name at hname ⊢
  generalize option.dropWhile (· != '=') = value at hname ⊢
  cases longSetting? name with
  | some setting =>
    cases value with
    | nil => exact ⟨hi, rfl⟩
    | cons _ value => exact louder_set? hi setting value
  | none =>
    cases value with
    | cons _ value =>
      cases longSwitch? name with
      | none => exact louder_done nofun
      | some switch => cases switch <;> exact louder_done nofun
    | nil =>
      cases hswitch : longSwitch? name with
      | none => exact louder_done nofun
      | some switch =>
        cases switch with
        | verbose => exact absurd rfl (hname hswitch)
        | help => exact louder_done nofun
        | version => exact louder_done nofun

/-- **One argument** without the switch is read alike. -/
theorem louder_step {p q : Progress} (h : Louder p q) {argument : Text}
    (hargument : (p.readsOptions && holdsVerbose argument) = false) :
    Louder (p.step argument) (q.step argument) := by
  obtain ⟨hquiet, rfl⟩ := h
  cases p with
  | done request => exact ⟨hquiet, rfl⟩
  | ended i =>
    simp only [verbosely, step, Invocation.setInput?_verbosely]
    cases hinput : i.setInput? argument with
    | none => exact louder_done nofun
    | some j => exact ⟨(Invocation.verbose_setInput? j hinput).trans hquiet, rfl⟩
  | awaiting i setting =>
    simp only [verbosely, step]
    split
    · exact louder_done nofun
    · exact louder_set? hquiet setting argument
  | going i =>
    have hnot : holdsVerbose argument = false := hargument
    simp only [verbosely, step]
    split
    · exact ⟨hquiet, rfl⟩
    · exact louder_long hquiet (by simpa [holdsVerbose] using hnot)
    · next c rest _ hc =>
      have hfirst : (c :: rest).head? ≠ some '-' := fun hfirst => hc (Option.some.inj hfirst)
      rw [holdsVerbose_letters hfirst] at hnot
      exact louder_short hquiet (by simpa using hnot)
    · exact louder_setInput? hquiet argument

/-- **A run over arguments** without the switch reads alike. -/
theorem louder_foldl {p q : Progress} (h : Louder p q) {arguments : List Text}
    (harguments : p.meetsVerbose arguments = false) : Louder (arguments.foldl step p) (arguments.foldl step q) := by
  induction arguments generalizing p q with
  | nil => exact h
  | cons argument rest ih =>
    rw [meetsVerbose, Bool.or_eq_false_iff] at harguments
    exact ih (louder_step h harguments.1) harguments.2

theorem meetsVerbose_append (p : Progress) (before after : List Text) :
    p.meetsVerbose (before ++ after) = (p.meetsVerbose before || (before.foldl step p).meetsVerbose after) := by
  induction before generalizing p with
  | nil => rfl
  | cons argument before ih => rw [List.cons_append, meetsVerbose, meetsVerbose, ih, Bool.or_assoc, List.foldl_cons]

end Progress

/-! ## The switch in one more place -/

open Progress

/-- where reading stands after some arguments -/
def progressAfter (arguments : List Text) : Progress :=
  arguments.foldl step (going {})

/-- an argument that comes next is not the value of an option, and not an input whatever it looks like -/
def OptionsFollow (arguments : List Text) : Prop :=
  match progressAfter arguments with
  | done _ => True
  | going _ => True
  | awaiting _ _ => False
  | ended _ => False

/-- the same arguments with the switch in one more place where options are read: as an argument, or as a letter among
short options -/
inductive AddsVerbose : List Text → List Text → Prop
  | argument {before after : List Text} {switch : Text} (hfollow : OptionsFollow before)
      (hswitch : switch = ['-', 'v'] ∨ switch = "--verbose".toList) :
      AddsVerbose (before ++ after) (before ++ switch :: after)
  | letter {before after : List Text} {letters more : Text} (hfollow : OptionsFollow before)
      (hletters : 'o' ∉ letters) (hne : letters ++ more ≠ []) (hfirst : (letters ++ more).head? ≠ some '-') :
      AddsVerbose (before ++ ('-' :: (letters ++ more)) :: after) (before ++ ('-' :: (letters ++ 'v' :: more)) :: after)

theorem louder_switch {i : Invocation} (hi : i.verbose = false) {switch : Text}
    (hswitch : switch = ['-', 'v'] ∨ switch = "--verbose".toList) : Louder (going i) ((going i).step switch) := by
  refine ⟨hi, ?_⟩
  rcases hswitch with rfl | rfl
  · have hshort : shortSwitch? 'v' = some .verbose := rfl
    simp [step, short, hshort, hi, verbosely, Invocation.verbosely]
  · have hname : ("verbose".toList).takeWhile (· != '=') = "verbose".toList := by decide
    have hvalue : ("verbose".toList).dropWhile (· != '=') = [] := by decide
    have hsetting : longSetting? "verbose".toList = none := by decide
    have hlong : longSwitch? "verbose".toList = some .verbose := by decide
    have hstep : (going i).step "--verbose".toList = long i "verbose".toList := rfl
    rw [hstep, long, hname, hvalue, hsetting, hlong, hi]
    rfl

theorem louder_letter {i : Invocation} (hi : i.verbose = false) {letters more : Text} (hletters : 'o' ∉ letters)
    (hnot : 'v' ∉ (letters ++ more).takeWhile (· != 'o')) :
    Louder (short i (letters ++ more)) (short i (letters ++ 'v' :: more)) := by
  have hshort : shortSwitch? 'v' = some .verbose := rfl
  cases letters with
  | nil =>
    have hv : short i ('v' :: more) = short i.verbosely more := by
      simp [short, hshort, hi, Invocation.verbosely]
    rw [List.nil_append, List.nil_append, hv]
    exact louder_short hi hnot
  | cons c letters =>
    obtain ⟨hc, -⟩ : 'o' ≠ c ∧ 'o' ∉ letters := by simpa using hletters
    have hv : c ≠ 'v' := by
      rintro rfl
      exact hnot (by simp)
    obtain ⟨request, hrequest, hshort⟩ := short_of_ne hc.symm hv
    rw [List.cons_append, List.cons_append, hshort, hshort]
    exact louder_done hrequest

/-- short options that share an argument are read as such -/
theorem step_letters {i : Invocation} {letters : Text} (hne : letters ≠ []) (hfirst : letters.head? ≠ some '-') :
    (going i).step ('-' :: letters) = short i letters := by
  cases letters with
  | nil => exact absurd rfl hne
  | cons c rest =>
    have hc : c ≠ '-' := fun hc => hfirst (congrArg some hc)
    simp [step, hc]

theorem isQuiet_progressAfter {arguments : List Text} (h : (going {}).meetsVerbose arguments = false) :
    (progressAfter arguments).IsQuiet :=
  (louder_foldl (p := going {}) ⟨rfl, rfl⟩ h).quiet

/-- where options are read, reading is over or goes on with an invocation that is not verbose yet -/
theorem progressAfter_of_follow {arguments : List Text} (hfollow : OptionsFollow arguments)
    (h : (going {}).meetsVerbose arguments = false) :
    (∃ request, progressAfter arguments = done request ∧ ∀ i, request ≠ .convert i) ∨
      ∃ i, progressAfter arguments = going i ∧ i.verbose = false := by
  have hquiet := isQuiet_progressAfter h
  unfold OptionsFollow at hfollow
  cases hp : progressAfter arguments with
  | done request =>
    rw [hp] at hquiet
    exact Or.inl ⟨request, rfl, hquiet⟩
  | going i =>
    rw [hp] at hquiet
    exact Or.inr ⟨i, rfl, hquiet⟩
  | awaiting i setting =>
    rw [hp] at hfollow
    exact hfollow.elim
  | ended i =>
    rw [hp] at hfollow
    exact hfollow.elim

/-- arguments that hold the switch in one more place are read as the others are, but for the switch -/
theorem louder_of_addsVerbose {quiet loud : List Text} (hadds : AddsVerbose quiet loud)
    (hquiet : (going {}).meetsVerbose quiet = false) : Louder (progressAfter quiet) (progressAfter loud) := by
  cases hadds with
  | @argument before after switch hfollow hswitch =>
    rw [meetsVerbose_append, Bool.or_eq_false_iff] at hquiet
    obtain ⟨hbefore, hafter⟩ := hquiet
    rw [progressAfter, progressAfter, List.foldl_append, List.foldl_append, List.foldl_cons]
    apply louder_foldl _ hafter
    rw [← progressAfter]
    rcases progressAfter_of_follow hfollow hbefore with ⟨request, hp, hrequest⟩ | ⟨i, hp, hi⟩
    · rw [hp]
      exact louder_done hrequest
    · rw [hp]
      exact louder_switch hi hswitch
  | @letter before after letters more hfollow hletters hne hfirst =>
    rw [meetsVerbose_append, meetsVerbose, Bool.or_eq_false_iff, Bool.or_eq_false_iff] at hquiet
    obtain ⟨hbefore, hargument, hafter⟩ := hquiet
    rw [progressAfter, progressAfter, List.foldl_append, List.foldl_append, List.foldl_cons, List.foldl_cons]
    apply louder_foldl _ hafter
    rw [← progressAfter] at hargument ⊢
    rcases progressAfter_of_follow hfollow hbefore with ⟨request, hp, hrequest⟩ | ⟨i, hp, hi⟩
    · rw [hp]
      exact louder_done hrequest
    · rw [hp] at hargument ⊢
      have hnot : 'v' ∉ (letters ++ more).takeWhile (· != 'o') := by
        have hholds : holdsVerbose ('-' :: (letters ++ more)) = false := hargument
        rw [holdsVerbose_letters hfirst] at hholds
        simpa using hholds
      -- the added letter may be the first, but then it is no dash either
      have hfirst' : (letters ++ 'v' :: more).head? ≠ some '-' := by
        cases letters with
        | nil => simp
        | cons c letters => exact hfirst
      rw [step_letters hne hfirst, step_letters (by simp) hfirst']
      exact louder_letter hi hletters hnot

theorem verbose_of_isQuiet {p : Progress} (hp : p.IsQuiet) {i : Invocation} (hi : p.request = .convert i) :
    i.verbose = false := by
  cases p with
  | done request => exact absurd hi (hp i)
  | going j => exact Request.convert.inj hi ▸ hp
  | ended j => exact Request.convert.inj hi ▸ hp
  | awaiting j setting => cases hi

/-- **The request** of arguments that hold the switch in one more place: the same, with notices of all levels shown. -/
theorem ofArguments_of_addsVerbose {quiet loud : List Text} (hadds : AddsVerbose quiet loud)
    (hquiet : (going {}).meetsVerbose quiet = false) :
    Request.ofArguments loud = (Request.ofArguments quiet).verbosely ∧
      ∀ i, Request.ofArguments quiet = .convert i → i.verbose = false := by
  obtain ⟨hstill, hloud⟩ := louder_of_addsVerbose hadds hquiet
  refine ⟨?_, fun i hi => verbose_of_isQuiet hstill hi⟩
  calc Request.ofArguments loud
      = (progressAfter quiet).verbosely.request := congrArg request hloud
    _ = (Request.ofArguments quiet).verbosely := request_verbosely _

/-! ## What a conversion tells -/

/-- a line for each statement that is skipped -/
def skippedLines (r : Ddl.Reading) : List Text :=
  r.skipped.map fun e => "warning: ".toList ++ (Notice.skipped e).message

/-- the line with the counts of a reading -/
def summaryLine (r : Ddl.Reading) : Text :=
  "debug: ".toList ++
    (Notice.summary r.statements.length r.schema.tables.length r.schema.enums.length r.skipped.length).message

/-- the foreign keys with a column whose table is not declared, with their own tables -/
def unknownKeys (s : Schema) : List (Nat × Table × ForeignKey) :=
  ((Model.allKeys s).filter Model.hasColumn).filter fun k => (Model.targetIndex? s k.2.2).isNone

/-- the notice of a key whose table is not declared -/
def unknownNotice (k : Nat × Table × ForeignKey) : Notice :=
  .unknownTarget k.2.1.name (k.2.2.columns.headD []) (k.2.2.table.getD [])

/-- a line for each foreign key whose table is not declared -/
def unknownLines (s : Schema) : List Text :=
  (unknownKeys s).map fun k => "warning: ".toList ++ (unknownNotice k).message

/-- relating a schema tells of the keys whose tables are not declared, and of nothing else -/
theorem notices_relate (s : Schema) : (relate s).notices = (unknownKeys s).map unknownNotice := by
  obtain ⟨rs, horigin, -, -, -, hnotices⟩ := Model.exists_relations s
  rw [hnotices, unknownKeys, ← horigin]
  clear horigin hnotices
  induction rs with
  | nil => rfl
  | cons r rs ih =>
    rw [List.flatMap_cons, ih, Model.Relation.notices, List.map_cons, List.filter_cons]
    have hkey : r.origin.2.2 = r.key := rfl
    rw [hkey]
    cases Model.targetIndex? s r.key <;> rfl

theorem unknownLines_of_isEmpty {s : Schema} (h : s.isEmpty = true) : unknownLines s = [] := by
  have htables : s.tables = [] := by
    rw [Schema.isEmpty, Bool.and_eq_true] at h
    exact List.isEmpty_iff.1 h.1
  simp [unknownLines, unknownKeys, Model.allKeys, htables]

theorem renderLines_append (a b : List Text) : Model.renderLines (a ++ b) = Model.renderLines a ++ Model.renderLines b :=
  List.flatMap_append

/-- a reading is told of by its skipped statements and, on request, by its counts -/
theorem noticeText_reading (verbose : Bool) (r : Ddl.Reading) :
    noticeText verbose r.notices =
      Model.renderLines (skippedLines r ++ if verbose = true then [summaryLine r] else []) := by
  have hskipped : (r.skipped.map Notice.skipped).flatMap (noticeLine verbose) = skippedLines r := by
    rw [List.flatMap_map, skippedLines, List.map_eq_flatMap]
    rfl
  rw [noticeText, Ddl.Reading.notices, List.flatMap_append, hskipped, List.flatMap_singleton]
  rfl

/-- relating is told of by the unknown tables, on request or not -/
theorem noticeText_relate (verbose : Bool) (s : Schema) :
    noticeText verbose (relate s).notices = Model.renderLines (unknownLines s) := by
  rw [noticeText, notices_relate, List.flatMap_map, unknownLines, List.map_eq_flatMap]
  rfl

/-- the notices of a conversion, in order -/
def noticeLines (verbose : Bool) (r : Ddl.Reading) : List Text :=
  skippedLines r ++ (if verbose then [summaryLine r] else []) ++ unknownLines r.schema

theorem told_eq (i : Invocation) (script : Text) :
    i.told script = Model.renderLines (noticeLines i.verbose (Ddl.readScript script)) := by
  rw [Invocation.told, noticeText_reading, noticeText_relate, noticeLines, renderLines_append _ (unknownLines _)]

/-- what stands on standard error after the notices: why there is no document, why it is not written as a whole, or the
document itself if standard error is where it goes -/
def closingText (w : Surroundings) (i : Invocation) (script : Text) : Text :=
  let reading := Ddl.readScript script
  if reading.schema.isEmpty then nothingText reading.skipped.length
  else
    match i.output with
    | none => []
    | some path =>
      let document := generate i.options reading.schema
      match w.write path document with
      | .refused cause => failureText ("Failed to write ".toList ++ path) cause
      | .device device => if device = .stderr then document else []
      | .whole => []
      | .cutShort _ cause => failureText ("Failed to write ".toList ++ path) cause

/-- **Standard error** of a conversion: the skipped statements, on request the counts, the unknown tables, and what ends
it. -/
theorem stderr_convert (w : Surroundings) (i : Invocation) (script : Text) :
    ((i.finish (.ok script)).deliver w).stderr =
      Model.renderLines (noticeLines i.verbose (Ddl.readScript script)) ++ closingText w i script := by
  cases hconvert : convert i.options script with
  | error e =>
    have hschema := isEmpty_of_error hconvert
    rw [finish_of_error hconvert, deliver_of_no_file rfl, noticeText_reading, noticeLines,
      unknownLines_of_isEmpty hschema, List.append_nil, closingText, if_pos hschema]
  | ok document =>
    obtain ⟨hschema, hdocument⟩ := convert_eq_ok_iff.1 hconvert
    rw [← told_eq]
    simp only [closingText, hschema, hdocument, Bool.false_eq_true, if_false]
    cases houtput : i.output with
    | none =>
      rw [deliver_of_no_output hconvert houtput]
      exact (List.append_nil _).symm
    | some path =>
      rw [deliver_of_output hconvert houtput]
      simp only
      cases w.write path document with
      | whole => exact (List.append_nil _).symm
      | _ => rfl

/-! ## All but standard error -/

namespace Outcome

/-- the outcome without what stands on standard error -/
def silent (o : Outcome) : Outcome :=
  { o with stderr := [] }

theorem silent_eq_iff {a b : Outcome} :
    a.silent = b.silent ↔ a.exit = b.exit ∧ a.stdout = b.stdout ∧ a.file = b.file ∧ a.cut = b.cut := by
  simp [silent]

/-- where a document goes does not depend on what stands on standard error -/
theorem silent_deliver (o : Outcome) (w : Surroundings) : (o.deliver w).silent = (o.silent.deliver w).silent := by
  have hfile : o.silent.file = o.file := rfl
  cases houtput : o.file with
  | none => rw [deliver_of_no_file houtput, deliver_of_no_file (hfile.trans houtput), silent, silent]
  | some output =>
    obtain ⟨path, document⟩ := output
    simp only [deliver, hfile, houtput]
    cases w.write path document <;> simp only [refuseFile, houtput, silent]

/-- the files after a run do not depend on what stands on standard error -/
theorem bytesAfter?_silent (o : Outcome) (f : Folder) (place : Place) :
    o.silent.bytesAfter? f place = o.bytesAfter? f place :=
  rfl

end Outcome

theorem silent_finish_verbosely (i : Invocation) (script : Except Failure Text) :
    (i.verbosely.finish script).silent = (i.finish script).silent := by
  cases script with
  | error cause => rfl
  | ok text =>
    have hoptions : i.verbosely.options = i.options := rfl
    have houtput : i.verbosely.output = i.output := rfl
    cases hconvert : convert i.options text with
    | error e =>
      rw [finish_of_error hconvert, finish_of_error (hoptions ▸ hconvert), Outcome.silent, Outcome.silent]
    | ok document =>
      rw [finish_of_document hconvert, finish_of_document (hoptions ▸ hconvert), houtput]
      cases i.output <;> simp only [Outcome.silent]

/-- exit status, standard output and files of a request do not depend on the notices that are shown, nor on what is said
about arguments that are refused -/
theorem silent_run_verbosely (w : Surroundings) (request : Request) (rejection other : Text) :
    (request.verbosely.run w rejection).silent = (request.run w other).silent := by
  cases request with
  | convert i =>
    have hsource : i.verbosely.source = i.source := rfl
    simp only [Request.verbosely, Request.run, hsource]
    rw [Outcome.silent_deliver, silent_finish_verbosely, ← Outcome.silent_deliver]
  | _ => rfl

/-! ## Two runs -/

/-- the conversion that arguments ask for, with its script, if that can be read -/
def scriptOf? (w : Surroundings) (arguments : List Text) : Option (Invocation × Text) :=
  match Request.ofArguments arguments with
  | .convert i => (w.read i.source).toOption.map (i, ·)
  | _ => none

theorem scriptOf?_eq_some_iff {w : Surroundings} {arguments : List Text} {i : Invocation} {script : Text} :
    scriptOf? w arguments = some (i, script) ↔
      Request.ofArguments arguments = .convert i ∧ w.read i.source = .ok script := by
  unfold scriptOf?
  cases Request.ofArguments arguments with
  | convert j =>
    simp only [Request.convert.injEq]
    cases hread : w.read j.source with
    | error cause =>
      simp only [Except.toOption, Option.map_none, reduceCtorEq, false_iff, not_and]
      rintro rfl
      simp [hread]
    | ok text =>
      simp only [Except.toOption, Option.map_some, Option.some.injEq, Prod.mk.injEq]
      constructor
      · rintro ⟨rfl, rfl⟩
        exact ⟨rfl, hread⟩
      · rintro ⟨rfl, htext⟩
        exact ⟨rfl, Except.ok.inj (hread.symm.trans htext)⟩
  | _ => simp

/-- without a script nothing on standard error depends on the notices that are shown, unless the arguments are refused -/
theorem stderr_verbosely_of_none {w : Surroundings} {arguments : List Text} (rejection other : Text)
    (haccepted : Request.ofArguments arguments ≠ .usageError) (h : scriptOf? w arguments = none) :
    ((Request.ofArguments arguments).verbosely.run w rejection).stderr =
      ((Request.ofArguments arguments).run w other).stderr := by
  unfold scriptOf? at h
  cases hrequest : Request.ofArguments arguments with
  | convert i =>
    have hsource : i.verbosely.source = i.source := rfl
    rw [hrequest] at h
    cases hread : w.read i.source with
    | error cause =>
      simp only [Request.verbosely, Request.run, hsource, hread]
      rfl
    | ok script => simp [hread, Except.toOption] at h
  | help => rfl
  | version => rfl
  | usageError => exact absurd hrequest haccepted

/-- **The switch only shows.** Of two runs with the same arguments but for the verbose switch, given in one place in one
of them and not at all in the other, exit status, standard output and all files are the same. If the arguments are
refused, standard error is what is said about them in each of the runs. Else it is the same too, unless a script could be
read: then the run with the switch has one line more, with the counts of the reading, after the lines on statements that
are skipped and before the lines on unknown tables and any error. -/
theorem run_verbose (w : Surroundings) {quiet loud : List Text} (hadds : AddsVerbose quiet loud)
    (hquiet : (going {}).meetsVerbose quiet = false) :
    (run w loud).exit = (run w quiet).exit ∧ (run w loud).stdout = (run w quiet).stdout ∧
      (run w loud).file = (run w quiet).file ∧
      (∀ place, (run w loud).bytesAfter? w.folder place = (run w quiet).bytesAfter? w.folder place) ∧
      (Request.ofArguments quiet = .usageError →
        (run w quiet).stderr = w.wording.rejection quiet ∧ (run w loud).stderr = w.wording.rejection loud) ∧
      (Request.ofArguments quiet ≠ .usageError → scriptOf? w quiet = none →
        (run w loud).stderr = (run w quiet).stderr) ∧
      ∀ i script, scriptOf? w quiet = some (i, script) →
        (run w quiet).stderr =
          Model.renderLines (skippedLines (Ddl.readScript script) ++ unknownLines (Ddl.readScript script).schema) ++
            closingText w i script ∧
        (run w loud).stderr =
          Model.renderLines (skippedLines (Ddl.readScript script) ++
            summaryLine (Ddl.readScript script) :: unknownLines (Ddl.readScript script).schema) ++
            closingText w i script := by
  obtain ⟨hloud, hstill⟩ := ofArguments_of_addsVerbose hadds hquiet
  have hrun : run w loud = (Request.ofArguments quiet).verbosely.run w (w.wording.rejection loud) := by rw [run, hloud]
  have hsilent : (run w loud).silent = (run w quiet).silent := by
    rw [hrun]
    exact silent_run_verbosely w _ _ _
  obtain ⟨hexit, hstdout, hfile, -⟩ := Outcome.silent_eq_iff.1 hsilent
  refine ⟨hexit, hstdout, hfile, fun place => ?_, fun hrefused => ?_, fun haccepted hnone => ?_,
    fun i script hscript => ?_⟩
  · rw [← Outcome.bytesAfter?_silent, hsilent, Outcome.bytesAfter?_silent]
  · rw [hrun, run, hrefused]
    exact ⟨rfl, rfl⟩
  · rw [hrun]
    exact stderr_verbosely_of_none _ _ haccepted hnone
  · obtain ⟨hrequest, hread⟩ := scriptOf?_eq_some_iff.1 hscript
    have hsource : i.verbosely.source = i.source := rfl
    have hclosing : closingText w i.verbosely script = closingText w i script := rfl
    constructor
    · rw [run, hrequest, Request.run, hread, stderr_convert, noticeLines, hstill i hrequest]
      simp
    · rw [hrun, hrequest, Request.verbosely, Request.run, hsource, hread, stderr_convert, noticeLines, hclosing]
      simp [Invocation.verbosely]

/-- the switch before an output path in the same argument, for a script with a table that is skipped and one that is
unknown -/
theorem run_verbose_letter :
    AddsVerbose ["-oout.prisma".toList] ["-voout.prisma".toList] ∧
      (going {}).meetsVerbose ["-oout.prisma".toList] = false ∧
      (run { stdin := .ok "CREATE TABLE t (a INT REFERENCES u (id)); CREATE TABLE w;".toList }
        ["-voout.prisma".toList]).file =
        (run { stdin := .ok "CREATE TABLE t (a INT REFERENCES u (id)); CREATE TABLE w;".toList }
          ["-oout.prisma".toList]).file ∧
      (run { stdin := .ok "CREATE TABLE t (a INT REFERENCES u (id)); CREATE TABLE w;".toList }
        ["-voout.prisma".toList]).stderr =
        Model.renderLines
          ["warning: skipping statement: Malformed CREATE TABLE statement: CREATE TABLE w".toList,
            "debug: parsed 2 statements into 1 tables and 0 enums (1 skipped)".toList,
            "warning: t.a references unknown table u; only the forward relation is emitted".toList] := by
  have hadds : AddsVerbose ([] ++ ('-' :: ([] ++ "oout.prisma".toList)) :: [])
      ([] ++ ('-' :: ([] ++ 'v' :: "oout.prisma".toList)) :: []) :=
    .letter trivial (by decide) (by decide) (by decide)
  have hquiet : (going {}).meetsVerbose ["-oout.prisma".toList] = false := by decide +kernel
  obtain ⟨-, -, hfile, -, -, -, hstderr⟩ := run_verbose
    { stdin := .ok "CREATE TABLE t (a INT REFERENCES u (id)); CREATE TABLE w;".toList } hadds hquiet
  obtain ⟨-, hloud⟩ := hstderr { output := some "out.prisma".toList }
    "CREATE TABLE t (a INT REFERENCES u (id)); CREATE TABLE w;".toList (by decide +kernel)
  exact ⟨hadds, hquiet, hfile, hloud.trans (by decide +kernel)⟩

/-- a text for the refused option `--bogus`, with the usage of the options that were read before it -/
def bogusText (arguments : List Text) : Text :=
  Model.renderLines <| List.map String.toList
    ["error: unexpected argument '--bogus' found",
     "",
     "  tip: to pass '--bogus' as a value, use '-- --bogus'",
     "",
     if arguments.contains "-v".toList then "Usage: sqlprism --verbose [INPUT]" else "Usage: sqlprism [OPTIONS] [INPUT]",
     "",
     "For more information, try '--help'."]

/-- between an option and its value the switch is not one, and the arguments are refused; and what is said about arguments
that are refused may tell whether the switch is among them -/
theorem verbose_refused :
    (¬ ∀ (w : Surroundings) (before after : List Text) (switch : Text),
        (switch = "-v".toList ∨ switch = "--verbose".toList) → (going {}).meetsVerbose (before ++ after) = false →
          (run w (before ++ switch :: after)).exit = (run w (before ++ after)).exit) ∧
      ¬ ∀ (w : Surroundings) (quiet loud : List Text), AddsVerbose quiet loud →
        (going {}).meetsVerbose quiet = false → scriptOf? w quiet = none → (run w loud).stderr = (run w quiet).stderr := by
  constructor
  · intro h
    have hexit := h { stdin := .ok "CREATE TABLE t (id INT);".toList } ["-o".toList] ["out.prisma".toList] "-v".toList
      (Or.inl rfl) (by decide +kernel)
    exact absurd hexit (by decide +kernel)
  · intro h
    have hadds : AddsVerbose ([] ++ ["--bogus".toList]) ([] ++ ['-', 'v'] :: ["--bogus".toList]) :=
      .argument trivial (Or.inl rfl)
    have hstderr := h { stdin := .ok [], wording := { rejection := bogusText } } _ _ hadds (by decide +kernel)
      (by decide +kernel)
    exact absurd hstderr (by decide +kernel)

end SchemaBridge.CommandLine
