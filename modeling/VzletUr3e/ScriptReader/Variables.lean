import VzletUr3e.ScriptReader.Conditionals

/-!
# Variables of a script

`ScriptReader::replaceVariables` replaces the first `{{ NAME }}` of a script by the value of the
variable and searches the script again, values and all. Where no value brings a brace along, this is
the substitution of every variable at once, and the first variable without a value ends it
(`replaceVariables_eq`). A value that mentions its own variable is replaced for ever
(`replaceVariables_eq_none`).

What `std::to_string` makes of a floating-point number is left open.
-/

namespace VzletUr3e.ScriptReader

open Feetech (isCSpace)
open Rewriting (Inert Marker)

/-! ## Values -/

structure VersionInformation where
  major : UInt32
  minor : UInt32
  bugfix : UInt32
  build : UInt32
deriving DecidableEq, Repr

/-- `DataVariant`, over floating-point numbers `δ`. -/
inductive DataVariant (δ : Type)
  | string (s : Text)
  | double (x : δ)
  | int (n : ℤ)
  | bool (b : Bool)
  | version (v : VersionInformation)
deriving DecidableEq, Repr

abbrev DataDict (δ : Type) := Text → Option (DataVariant δ)

/-- What is thrown. -/
inductive Thrown
  | unknownVariable (variableName : Text)
  | invalidArgument (what : Text)
  | runtimeError (what : Text)
  | urException (text : Text)
  | badVariantAccess
  /-- `std::invalid_argument` or `std::out_of_range` out of `std::stoi`. -/
  | stoi
deriving DecidableEq, Repr

/-- `std::to_string` of a natural number. -/
def natText (n : ℕ) : Text := Nat.toDigits 10 n

/-- `std::to_string` of an integer. -/
def intText : ℤ → Text
  | .ofNat n => natText n
  | .negSucc n => '-' :: natText (n + 1)

def VersionInformation.toString (v : VersionInformation) : Text :=
  natText v.major.toNat ++ '.' :: (natText v.minor.toNat ++ '.' ::
    (natText v.bugfix.toNat ++ '.' :: natText v.build.toNat))

variable {δ : Type} (doubleText : δ → Text)

/-- The text of a value. -/
def DataVariant.text : DataVariant δ → Text
  | .string s => s
  | .double x => doubleText x
  | .int n => intText n
  | .bool b => if b then "True".toList else "False".toList
  | .version v => v.toString

/-! ## The loop -/

/-- `[\w-]` -/
def isKeyChar (c : Char) : Bool := c.isAlphanum || c = '_' || c = '-'

/-- `\{\{\s*([\w-]+)\s*\}\}` -/
def variableAt (s : Text) : Option (Text × Text) :=
  (afterWord ['{', '{'] s).bind fun s ↦
    let s := s.dropWhile isCSpace
    let key := s.takeWhile isKeyChar
    if key = [] then none
    else (afterWord ['}', '}'] ((s.dropWhile isKeyChar).dropWhile isCSpace)).map fun rest ↦
      (key, rest)

/-- The text of a variable that has a value. -/
def lookup (data : DataDict δ) (key : Text) : Except Thrown Text :=
  match data key with
  | none => .error (.unknownVariable ("Variable '".toList ++ key ++ "' not found in data.".toList))
  | some value => .ok (value.text doubleText)

/-- The loop, which gives nothing if `fuel` searches are not enough. -/
def replaceVariables (data : DataDict δ) (fuel : ℕ) (scriptCode : Text) :
    Option (Except Thrown Text) :=
  (Rewriting.rewrite variableAt (fun (_ : Unit) key ↦ some ((), lookup doubleText data key))
    fuel () scriptCode).map Prod.snd

/-! ## Texts without variables -/

/-- No two braces open next to each other, and the text does not end with one. -/
def Plain (p : Text) : Prop := ¬ ['{', '{'] <:+: p ++ ['{']

instance (p : Text) : Decidable (Plain p) := inferInstanceAs (Decidable (¬ _))

theorem plain_of_notMem {p : Text} (h : '{' ∉ p) : Plain p := by
  rintro ⟨first, last, heq⟩
  have hcount := congrArg (List.count '{') heq
  simp only [List.count_append, List.count_eq_zero_of_not_mem h] at hcount
  simp at hcount
  omega

theorem afterWord_eq_none {word s : Text} (h : ¬ word <+: s) : afterWord word s = none := if_neg h

theorem afterWord_append (word s : Text) : afterWord word (word ++ s) = some s := by
  rw [afterWord, if_pos (List.prefix_append word s), List.drop_left]

theorem inert_of_plain {p : Text} (h : Plain p) : Inert variableAt p := by
  rintro q ⟨front, rfl⟩ hne rest
  have hprefix : ¬ ['{', '{'] <+: q ++ rest := by
    intro hpre
    apply h
    rcases q with _ | ⟨a, _ | ⟨b, q⟩⟩
    · exact absurd rfl hne
    · obtain ⟨rfl, -⟩ := List.cons_prefix_cons.mp hpre
      exact ⟨front, [], by simp⟩
    · obtain ⟨ha, hnext⟩ := List.cons_prefix_cons.mp hpre
      obtain ⟨hb, -⟩ := List.cons_prefix_cons.mp hnext
      exact ⟨front, q ++ ['{'], by simp [← ha, ← hb]⟩
  rw [variableAt, afterWord_eq_none hprefix, Option.bind_none]

theorem brace_notMem_natText (n : ℕ) : '{' ∉ natText n := fun h ↦
  absurd (Nat.isDigit_of_mem_toDigits (by decide) le_rfl h) (by decide)

/-- Only texts bring braces along. -/
theorem brace_notMem_text {value : DataVariant δ} (hdouble : ∀ x, '{' ∉ doubleText x)
    (hstring : ∀ s, value = .string s → '{' ∉ s) : '{' ∉ value.text doubleText := by
  rcases value with s | x | n | b | v
  · exact hstring s rfl
  · exact hdouble x
  · rcases n with n | n
    · exact brace_notMem_natText n
    · simpa [DataVariant.text, intText] using brace_notMem_natText (n + 1)
  · rcases b with _ | _ <;> simp [DataVariant.text]
  · simp [DataVariant.text, VersionInformation.toString, brace_notMem_natText]

/-! ## Substitution -/

theorem takeWhile_append_of_all {P : Char → Bool} {l s : Text} (hl : ∀ c ∈ l, P c = true)
    (hs : s.takeWhile P = []) : (l ++ s).takeWhile P = l ∧ (l ++ s).dropWhile P = s := by
  have hdrop : s.dropWhile P = s := by
    simpa [hs] using s.takeWhile_append_dropWhile (p := P)
  rw [List.takeWhile_append_of_pos hl, List.dropWhile_append_of_pos hl, hs, hdrop]
  exact ⟨List.append_nil l, rfl⟩

theorem rdropWhile_append_of_all {P : Char → Bool} {l s : Text} (hs : ∀ c ∈ s, P c = true) :
    (l ++ s).rdropWhile P = l.rdropWhile P := by
  rw [List.rdropWhile, List.reverse_append,
    List.dropWhile_append_of_pos fun c hc ↦ hs c (List.mem_reverse.mp hc), List.rdropWhile]

/-- A variable as it stands in a script, and the text behind it. -/
structure Placeholder where
  left : Text
  key : Text
  right : Text
  behind : Text
  left_space : ∀ c ∈ left, isCSpace c = true
  key_ne : key ≠ []
  key_chars : ∀ c ∈ key, isKeyChar c = true
  right_space : ∀ c ∈ right, isCSpace c = true
  behind_plain : Plain behind

namespace Placeholder

def marker (p : Placeholder) : Text :=
  ['{', '{'] ++ (p.left ++ (p.key ++ (p.right ++ ['}', '}'])))

/-- The script. -/
def source (first : Text) (placeholders : List Placeholder) : Text :=
  first ++ placeholders.flatMap fun p ↦ p.marker ++ p.behind

/-- The values of the variables, each with the text behind it, up to the first that has none. -/
def values (data : DataDict δ) (placeholders : List Placeholder) : Except Thrown (List Text) :=
  placeholders.mapM fun p ↦ (· ++ p.behind) <$> lookup doubleText data p.key

/-- Every variable replaced at once. -/
def substitute (data : DataDict δ) (first : Text) (placeholders : List Placeholder) :
    Except Thrown Text :=
  (fun texts ↦ first ++ texts.flatten) <$> values doubleText data placeholders

theorem isKeyChar_of_isCSpace {c : Char} (h : isCSpace c = true) : isKeyChar c = false := by
  rw [isCSpace, decide_eq_true_iff] at h
  rcases h with rfl | rfl | rfl | rfl | rfl | rfl <;> decide

/-- A placeholder is found, and its key. -/
theorem marker_variableAt (p : Placeholder) : Marker variableAt p.marker p.key := by
  intro rest
  set closing := ['}', '}'] ++ rest with hclosing
  have hkey : (p.key ++ (p.right ++ closing)).takeWhile isCSpace = [] := by
    obtain ⟨a, key, hkey⟩ := List.exists_cons_of_ne_nil p.key_ne
    have ha : isCSpace a = false := by
      by_contra hspace
      have hchar := isKeyChar_of_isCSpace (Bool.eq_true_of_not_eq_false hspace)
      rw [p.key_chars a (by simp [hkey])] at hchar
      cases hchar
    rw [hkey, List.cons_append, List.takeWhile_cons_of_neg (by simp [ha])]
  have hright : (p.right ++ closing).takeWhile isKeyChar = [] := by
    rcases hr : p.right with _ | ⟨a, right⟩
    · exact List.takeWhile_cons_of_neg (by decide)
    · have ha := isKeyChar_of_isCSpace (p.right_space a (by simp [hr]))
      exact List.takeWhile_cons_of_neg (by simp [ha])
  have hassoc : p.marker ++ rest
      = ['{', '{'] ++ (p.left ++ (p.key ++ (p.right ++ closing))) := by
    simp only [marker, List.append_assoc, hclosing]
  obtain ⟨-, hleft⟩ := takeWhile_append_of_all p.left_space hkey
  obtain ⟨htake, hdrop⟩ := takeWhile_append_of_all p.key_chars hright
  obtain ⟨-, hspace⟩ := takeWhile_append_of_all (s := closing) p.right_space
    (List.takeWhile_cons_of_neg (by decide))
  rw [hassoc, variableAt, afterWord_append, Option.bind_some]
  simp only [hleft, htake, hdrop, hspace, if_neg p.key_ne]
  rw [hclosing, afterWord_append, Option.map_some]

end Placeholder

variable {doubleText} {data : DataDict δ}

/-- What a script looks like to the library of replacements. -/
theorem source_eq (placeholders : List Placeholder) :
    (placeholders.flatMap fun p ↦ p.marker ++ p.behind)
      = Rewriting.source (placeholders.map fun p ↦ (p.marker, p.key, p.behind)) := by
  rw [Rewriting.source, List.flatMap_map]

theorem values_cons (p : Placeholder) (placeholders : List Placeholder) :
    Placeholder.values doubleText data (p :: placeholders)
      = lookup doubleText data p.key >>= fun v ↦
          ((v ++ p.behind) :: ·) <$> Placeholder.values doubleText data placeholders := by
  rw [Placeholder.values, List.mapM_cons]
  rcases lookup doubleText data p.key with e | v
  · rfl
  · rfl

theorem fill_eq (placeholders : List Placeholder) :
    Rewriting.fill (fun (_ : Unit) key ↦ some ((), lookup doubleText data key)) ()
        (placeholders.map fun p ↦ (p.marker, p.key, p.behind))
      = some ((), List.flatten <$> Placeholder.values doubleText data placeholders) := by
  induction placeholders with
  | nil => rfl
  | cons p placeholders ih =>
    rw [List.map_cons, Rewriting.fill, values_cons]
    rcases lookup doubleText data p.key with e | v
    · rfl
    · simp only [ih]
      rcases Placeholder.values doubleText data placeholders with e | texts
      · rfl
      · rfl

/-- **The variables of a script** are substituted at once, if no text among the values has a brace
in it. -/
theorem replaceVariables_eq (hdouble : ∀ x, '{' ∉ doubleText x)
    (hstring : ∀ key s, data key = some (.string s) → '{' ∉ s) {first : Text} (hfirst : Plain first)
    (placeholders : List Placeholder) {fuel : ℕ} (hfuel : placeholders.length < fuel) :
    replaceVariables doubleText data fuel (Placeholder.source first placeholders)
      = some (Placeholder.substitute doubleText data first placeholders) := by
  have hinert : ∀ (s : Unit) (key : Text) (s' : Unit) (v : Text),
      some ((), lookup doubleText data key) = some (s', .ok v) → Inert variableAt v := by
    intro s key s' v h
    rw [Option.some_inj, Prod.mk.injEq, lookup] at h
    rcases hvalue : data key with _ | value
    · simp [hvalue] at h
    · simp only [hvalue, Except.ok.injEq] at h
      rw [← h.2]
      exact inert_of_plain (plain_of_notMem (brace_notMem_text doubleText hdouble
        fun s hs ↦ hstring key s (by rw [hvalue, hs])))
  have hparts : ∀ part ∈ placeholders.map fun p ↦ (p.marker, p.key, p.behind),
      Marker variableAt part.1 part.2.1 ∧ Inert variableAt part.2.2 := by
    intro part hpart
    obtain ⟨p, -, rfl⟩ := List.mem_map.mp hpart
    exact ⟨p.marker_variableAt, inert_of_plain p.behind_plain⟩
  rw [replaceVariables, Placeholder.source, source_eq,
    Rewriting.rewrite_source rfl hinert hparts (inert_of_plain hfirst) (by simpa using hfuel),
    fill_eq, Placeholder.substitute]
  rcases Placeholder.values doubleText data placeholders with e | texts
  · rfl
  · rfl

/-- Two variables that have values. -/
def servoData : DataDict Unit := fun key ↦
  if key = "TIME".toList then some (.int (-4))
  else if key = "SERVO".toList then some (.string "gain=300".toList)
  else none

def servoPlaceholders : List Placeholder :=
  [⟨[], "TIME".toList, [], ", ".toList, by simp, by simp, by simp [isKeyChar], by simp,
      by decide +kernel⟩,
    ⟨[' '], "SERVO".toList, ['\t'], ")".toList, by simp [isCSpace], by simp, by simp [isKeyChar],
      by simp [isCSpace], by decide +kernel⟩]

theorem replaceVariables_eq_servo :
    replaceVariables (fun _ ↦ "0.000000".toList) servoData 3
        "servoj(q, t=\x7b\x7bTIME\x7d\x7d, \x7b\x7b SERVO\t\x7d\x7d)".toList
      = some (.ok "servoj(q, t=-4, gain=300)".toList) := by
  have hstring : ∀ key s, servoData key = some (.string s) → '{' ∉ s := by
    intro key s h
    rw [servoData] at h
    split_ifs at h with htime hservo
    · cases h
    · obtain rfl : "gain=300".toList = s := by simpa using h
      decide +kernel
  have hfirst : Plain "servoj(q, t=".toList := by decide +kernel
  exact (replaceVariables_eq (by decide +kernel) hstring hfirst servoPlaceholders
    (show _ < 3 by decide +kernel)).trans (by decide +kernel)

/-- **A variable that is mentioned by its own value** is never done with. -/
theorem replaceVariables_eq_none {first : Text} (hfirst : Plain first) {p : Placeholder}
    {pre post : Text} (hpre : Plain pre)
    (hvalue : data p.key = some (.string (pre ++ p.marker ++ post))) (rest : Text) (fuel : ℕ) :
    replaceVariables doubleText data fuel (first ++ (p.marker ++ rest)) = none := by
  rw [replaceVariables, Rewriting.rewrite_eq_none p.marker_variableAt (inert_of_plain hpre)
    (by rw [lookup, hvalue]; rfl) fuel (inert_of_plain hfirst) rest, Option.map_none]

end VzletUr3e.ScriptReader
