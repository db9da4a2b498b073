import VzletUr3e.ScriptReader.Expressions

/-!
# Included files

`ScriptReader::readScriptFile` opens a file, replaces its variables, its conditionals and its
includes in this order, and an included file is read in the same way. The reader keeps the name of
the file that it has opened last, and an include is looked up in the folder of that file: not in the
one that includes it, and not in the one the script is in, unless they are the same
(`opened_in_turn`).
-/

namespace VzletUr3e.ScriptReader

open Feetech (isCSpace)

/-! ## Paths -/

/-- `std::filesystem::path::parent_path` -/
def parentPath (path : Text) : Text :=
  let folder := path.rdropWhile (· ≠ '/')
  if folder = [] then []
  else if folder.rdropWhile (· = '/') = [] then ['/']
  else folder.rdropWhile (· = '/')

/-- `operator/` of paths. -/
def join (path name : Text) : Text :=
  if name.head? = some '/' then name
  else if path = [] ∨ path.getLast? = some '/' then path ++ name
  else path ++ '/' :: name

/-! ## The loop -/

/-- `['|"]\s*\%\}` -/
def includeEnd : Text → Option Text
  | c :: s =>
    if c = '\'' ∨ c = '|' ∨ c = '"' then afterWord ['%', '}'] (s.dropWhile isCSpace) else none
  | [] => none

/-- `[^'"]+)['|"]\s*\%\}`: as much as possible. -/
def includeName : Text → Option (Text × Text)
  | [] => none
  | c :: s =>
    if isQuote c then none
    else ((includeName s).map fun (name, rest) ↦ (c :: name, rest)).or
      ((includeEnd s).map fun rest ↦ ([c], rest))

/-- `\{\%\s*include\s*['|"]([^'"]+)['|"]\s*\%\}` -/
def includeAt (s : Text) : Option (Text × Text) :=
  match ((afterWord ['{', '%'] s).bind fun s ↦
      afterWord "include".toList (s.dropWhile isCSpace)).map (List.dropWhile isCSpace) with
  | some (c :: s) => if c = '\'' ∨ c = '|' ∨ c = '"' then includeName s else none
  | _ => none

/-- The reader. It does not keep the two logs itself. -/
structure Reader where
  scriptPath : Text
  /-- The names in the include directives that have been followed. -/
  included : List Text
  /-- The files that have been opened, or have not been there. -/
  opened : List Text
deriving DecidableEq, Repr

/-- `replaceIncludes` gets to a directive. -/
def Reader.follow (s : Reader) (name : Text) : Reader := { s with included := s.included ++ [name] }

variable {δ : Type} (num : Doubles δ) (files : Text → Option Text) (data : DataDict δ)

/-- `ScriptReader::readScriptFile`. Files are included up to the depth `fuel`, and no loop goes
round more often. -/
def readScriptFile : ℕ → Reader → Text → Option (Reader × Except Thrown Text)
  | 0, _, _ => none
  | fuel + 1, s, filename =>
    let s := { s with scriptPath := filename, opened := s.opened ++ [filename] }
    match files filename with
    | none => some (s, .error (.urException ("Could not open script file '".toList ++ filename ++
        "'. Please check if the file exists and is readable.".toList)))
    | some content =>
      match replaceVariables num.text data fuel content with
      | none => none
      | some (.error e) => some (s, .error e)
      | some (.ok scriptCode) =>
        match replaceConditionals (evaluateExpression num data) scriptCode with
        | .error e => some (s, .error e)
        | .ok scriptCode =>
          Rewriting.rewrite includeAt
            (fun s name ↦ readScriptFile fuel (s.follow name) (join (parentPath s.scriptPath) name))
            fuel s scriptCode

/-! ## Where files are looked up -/

/-- The file that `name` stands for behind `file`. -/
def next (file name : Text) : Text := join (parentPath file) name

/-- Directives have been followed one after the other, each of them from the file of the last. -/
def Opens (s s' : Reader) : Prop :=
  ∃ names : List Text, s'.included = s.included ++ names ∧
    s'.opened = s.opened ++ (names.scanl next s.scriptPath).tail ∧
    s'.scriptPath = names.foldl next s.scriptPath

theorem Opens.refl (s : Reader) : Opens s s := ⟨[], by simp, by simp, rfl⟩

theorem Opens.trans {s s' s'' : Reader} (h : Opens s s') (h' : Opens s' s'') : Opens s s'' := by
  obtain ⟨names, hincluded, hopened, hpath⟩ := h
  obtain ⟨names', hincluded', hopened', hpath'⟩ := h'
  refine ⟨names ++ names', ?_, ?_, ?_⟩
  · rw [hincluded', hincluded, List.append_assoc]
  · rw [hopened', hopened, hpath, List.scanl_append, List.tail_append_of_ne_nil List.scanl_ne_nil,
      List.append_assoc]
  · rw [hpath', hpath, List.foldl_append]

variable {num files data}

theorem cons_tail_scanl (file : Text) (names : List Text) :
    file :: (names.scanl next file).tail = names.scanl next file := by
  rcases names with _ | ⟨name, names⟩ <;> simp

/-- A file is opened, and then those that it includes. -/
theorem opens_readScriptFile : ∀ (fuel : ℕ) {s s' : Reader} {filename : Text}
    {r : Except Thrown Text}, readScriptFile num files data fuel s filename = some (s', r) →
      Opens { s with scriptPath := filename, opened := s.opened ++ [filename] } s' := by
  intro fuel
  induction fuel with
  | zero =>
    intro s s' filename r h
    cases h
  | succ fuel ih =>
    intro s s' filename r h
    have hincluded : ∀ (s : Reader) (name : Text) (s' : Reader) (r : Except Thrown Text),
        readScriptFile num files data fuel (s.follow name) (next s.scriptPath name)
          = some (s', r) → Opens s s' := by
      intro s name s' r h
      obtain ⟨names, hincluded, hopened, hpath⟩ := ih h
      refine ⟨name :: names, hincluded.trans (List.append_assoc _ _ _), ?_, hpath⟩
      rw [hopened, Reader.follow, List.append_assoc, List.scanl_cons, List.tail_cons,
        List.singleton_append, cons_tail_scanl]
    rw [readScriptFile] at h
    rcases hfile : files filename with _ | content
    · simp only [hfile, Option.some.injEq, Prod.mk.injEq] at h
      exact h.1 ▸ Opens.refl _
    rcases hvariables : replaceVariables num.text data fuel content with _ | e | scriptCode
    · simp [hfile, hvariables] at h
    · simp only [hfile, hvariables, Option.some.injEq, Prod.mk.injEq] at h
      exact h.1 ▸ Opens.refl _
    rcases hconditionals : replaceConditionals (evaluateExpression num data) scriptCode
      with e | scriptCode
    · simp only [hfile, hvariables, hconditionals, Option.some.injEq, Prod.mk.injEq] at h
      exact h.1 ▸ Opens.refl _
    · simp only [hfile, hvariables, hconditionals] at h
      exact Rewriting.rewrite_induction Opens.refl Opens.trans hincluded fuel h

/-! ## Folders -/

/-- A folder does not end with a slash, if it is not the root. -/
theorem parentPath_cases (path : Text) :
    parentPath path = [] ∨ parentPath path = ['/'] ∨
      parentPath path ≠ [] ∧ (parentPath path).rdropWhile (· = '/') = parentPath path := by
  rw [parentPath]
  split_ifs with hfolder hroot
  · exact .inl rfl
  · exact .inr (.inl rfl)
  · exact .inr (.inr ⟨hroot, List.rdropWhile_idempotent _ _⟩)

/-- A file without a folder in its name is in the folder of the file before it. -/
theorem parentPath_next (file : Text) {name : Text} (h : '/' ∉ name) :
    parentPath (next file name) = parentPath file := by
  have hname : ∀ c ∈ name, decide (c ≠ '/') = true := fun c hc ↦
    decide_eq_true fun heq ↦ h (heq ▸ hc)
  have hhead : name.head? ≠ some '/' := fun hhead ↦ h (List.mem_of_mem_head? hhead)
  rw [next, join, if_neg hhead]
  rcases parentPath_cases file with hfolder | hfolder | ⟨hne, hfolder⟩
  · rw [hfolder, if_pos (.inl rfl), List.nil_append, parentPath,
      List.rdropWhile_eq_nil_iff.mpr fun c hc ↦ hname c hc, if_pos rfl]
  · rw [hfolder, if_pos (.inr rfl), parentPath, rdropWhile_append_of_all hname]
    decide
  · have hlast : (parentPath file).getLast? ≠ some '/' := by
      have hend := List.rdropWhile_eq_self_iff.mp hfolder hne
      rw [List.getLast?_eq_some_getLast hne, ne_eq, Option.some_inj]
      simpa using hend
    have hcut : ((parentPath file ++ ['/']) ++ name).rdropWhile (· ≠ '/')
        = parentPath file ++ ['/'] := by
      rw [rdropWhile_append_of_all hname, List.rdropWhile_concat_neg _ _ '/' (by decide)]
    have hslash : (parentPath file ++ ['/']).rdropWhile (· = '/') = parentPath file := by
      rw [List.rdropWhile_concat_pos _ _ '/' (by decide), hfolder]
    rw [if_neg (not_or.mpr ⟨hne, hlast⟩), List.append_cons, parentPath, hcut, hslash,
      if_neg (by simp), if_neg hne]

/-- **Files are opened in turn**: each include, however deep, is looked up in the folder of the file
that has been opened before it. If no include names a folder, these are all in the folder of the
script. -/
theorem opened_in_turn {fuel : ℕ} {s s' : Reader} {filename : Text} {r : Except Thrown Text}
    (h : readScriptFile num files data fuel s filename = some (s', r)) :
    ∃ names : List Text, s'.included = s.included ++ names ∧
      s'.opened = s.opened ++ names.scanl next filename ∧
      ((∀ name ∈ names, '/' ∉ name) →
        ∀ file ∈ names.scanl next filename, parentPath file = parentPath filename) := by
  obtain ⟨names, hincluded, hopened, -⟩ := opens_readScriptFile fuel h
  refine ⟨names, hincluded, ?_, fun hnames ↦ ?_⟩
  · rw [hopened, List.append_assoc, List.singleton_append, cons_tail_scanl]
  · clear hopened hincluded h
    induction names generalizing filename with
    | nil => simp
    | cons name names ih =>
      obtain ⟨hname, hnames⟩ := List.forall_mem_cons.mp hnames
      rw [List.scanl_cons]
      refine List.forall_mem_cons.mpr ⟨rfl, fun file hfile ↦ ?_⟩
      rw [ih hnames file hfile, parentPath_next filename hname]

/-- A script, and three files in two folders. -/
def threeFiles : Text → Option Text := fun file ↦
  if file = "r/main".toList then some "\x7b% include 'sub/a' %\x7d \x7b% include 'b' %\x7d".toList
  else if file = "r/sub/a".toList then some "a".toList
  else if file = "r/sub/b".toList then some "the other b".toList
  else if file = "r/b".toList then some "b".toList
  else none

theorem opened_in_turn_threeFiles :
    ∃ names : List Text, ["sub/a".toList, "b".toList] = [] ++ names ∧
      ["r/main".toList, "r/sub/a".toList, "r/sub/b".toList]
        = [] ++ names.scanl next "r/main".toList ∧
      ((∀ name ∈ names, '/' ∉ name) → ∀ file ∈ names.scanl next "r/main".toList,
        parentPath file = parentPath "r/main".toList) :=
  @opened_in_turn ℤ wholeNumbers threeFiles (fun _ ↦ none) 4 ⟨[], [], []⟩
    ⟨"r/sub/b".toList, ["sub/a".toList, "b".toList],
      ["r/main".toList, "r/sub/a".toList, "r/sub/b".toList]⟩ "r/main".toList
    (.ok "a the other b".toList) (by decide +kernel)

end VzletUr3e.ScriptReader
