import VzletUr3e.ScriptReader.Variables

/-!
# Conditions of a script

`ScriptReader::evaluateExpression`: a condition compares a variable with a text in quotes, a number,
a truth value, a version or another variable, or it is a variable that is a truth value.

Versions are meant to be ordered by their four numbers, the first one first. `operator<` looks at
the build numbers also where the bugfix number on the left is the greater one, so that of two such
versions each can be less than the other (`VersionInformation.lt_iff`). A script can write down no
build number, and compared with what a script writes down a version is in its place
(`evaluateExpression_literal`).

The operations on floating-point numbers are left open.
-/

namespace VzletUr3e.ScriptReader

open Feetech (isCSpace)

/-! ## Versions -/

namespace VersionInformation

/-- `operator<` -/
def lt (v1 v2 : VersionInformation) : Bool :=
  if v1.major ≤ v2.major then
    if v1.major < v2.major then true
    else if v1.minor ≤ v2.minor then
      if v1.minor < v2.minor then true
      -- The build numbers are compared whether the bugfix numbers are equal or not.
      else if v1.bugfix ≤ v2.bugfix ∧ v1.bugfix < v2.bugfix then true
      else if v1.build < v2.build then true
      else false
    else false
  else false

/-- The numbers of a version, in the order in which they count. -/
def numbers (v : VersionInformation) : ℕ ×ₗ ℕ ×ₗ ℕ ×ₗ ℕ :=
  toLex (v.major.toNat, toLex (v.minor.toNat, toLex (v.bugfix.toNat, v.build.toNat)))

/-- The left version is the later one by its bugfix number, and has the smaller build number. -/
def Overtaken (v1 v2 : VersionInformation) : Prop :=
  v1.major = v2.major ∧ v1.minor = v2.minor ∧ v2.bugfix < v1.bugfix ∧ v1.build < v2.build

instance (v1 v2 : VersionInformation) : Decidable (v1.Overtaken v2) :=
  inferInstanceAs (Decidable (_ ∧ _))

theorem numbers_injective : Function.Injective numbers := by
  rintro ⟨a, b, c, d⟩ ⟨a', b', c', d'⟩ h
  simpa [numbers, UInt32.toNat_inj] using h

theorem numbers_lt_iff {v1 v2 : VersionInformation} :
    v1.numbers < v2.numbers ↔ v1.major < v2.major ∨ v1.major = v2.major ∧
      (v1.minor < v2.minor ∨ v1.minor = v2.minor ∧
        (v1.bugfix < v2.bugfix ∨ v1.bugfix = v2.bugfix ∧ v1.build < v2.build)) := by
  simp only [numbers, Prod.Lex.toLex_lt_toLex, UInt32.lt_iff_toNat_lt, UInt32.toNat_inj]

/-- An overtaken version is in fact the later one. -/
theorem Overtaken.numbers_lt {v1 v2 : VersionInformation} (h : v1.Overtaken v2) :
    v2.numbers < v1.numbers := by
  obtain ⟨hmajor, hminor, hbugfix, -⟩ := h
  exact numbers_lt_iff.mpr (.inr ⟨hmajor.symm, .inr ⟨hminor.symm, .inl hbugfix⟩⟩)

/-- **What is less** by the comparison of the code. -/
theorem lt_iff {v1 v2 : VersionInformation} :
    v1.lt v2 = true ↔ v1.numbers < v2.numbers ∨ v1.Overtaken v2 := by
  rw [numbers_lt_iff, lt, Overtaken]
  grind

end VersionInformation

/-! ## Comparisons -/

/-- What the code uses of floating-point numbers. -/
structure Doubles (δ : Type) where
  lt : δ → δ → Bool
  eq : δ → δ → Bool
  ofInt : ℤ → δ
  /-- A truth value, as a number, is within `ZERO_EPSILON` of a number. -/
  isBool : Bool → δ → Bool
  /-- `std::stod` -/
  stod : Text → Except Thrown δ
  /-- `std::to_string` -/
  text : δ → Text

variable {δ : Type} (num : Doubles δ)

namespace DataVariant

/-- The name of a type in a message. Versions have none of their own. -/
def typeName : DataVariant δ → Text
  | .string _ => "string".toList
  | .double _ => "double".toList
  | .int _ => "int".toList
  | .bool _ | .version _ => "bool".toList

/-- `operator<` -/
def lt : DataVariant δ → DataVariant δ → Except Thrown Bool
  | .double x, .double y => .ok (num.lt x y)
  | .double x, .int n => .ok (num.lt x (num.ofInt n))
  | .int m, .double y => .ok (num.lt (num.ofInt m) y)
  | .int m, .int n => .ok (m < n)
  | .version v1, .version v2 => .ok (v1.lt v2)
  | .version _, _ => .error .badVariantAccess
  | _, _ => .error (.invalidArgument
      "The comparison operator is only allowed for numeric values.".toList)

/-- `operator==` -/
def eq : DataVariant δ → DataVariant δ → Except Thrown Bool
  | .string s, .string t => .ok (s = t)
  | .double x, .double y => .ok (num.eq x y)
  | .int m, .int n => .ok (m = n)
  | .bool b, .bool c => .ok (b = c)
  | .version v1, .version v2 => .ok (v1 = v2)
  | .int m, .double y => .ok (num.eq (num.ofInt m) y)
  | .double x, .int n => .ok (num.eq x (num.ofInt n))
  | .bool b, .double y => .ok (num.isBool b y)
  | .bool b, .int n => .ok (b.toInt = n)
  | lhs, rhs => .error (.invalidArgument ("Checking equality of types is not allowed: ".toList ++
      lhs.typeName ++ " with ".toList ++ rhs.typeName))

/-- `lhs < rhs || lhs == rhs` -/
def le (lhs rhs : DataVariant δ) : Except Thrown Bool := do
  if ← lhs.lt num rhs then return true else lhs.eq num rhs

/-- `operator>` -/
def gt (lhs rhs : DataVariant δ) : Except Thrown Bool := (! ·) <$> lhs.le num rhs

/-- `lhs > rhs || lhs == rhs` -/
def ge (lhs rhs : DataVariant δ) : Except Thrown Bool := do
  if ← lhs.gt num rhs then return true else lhs.eq num rhs

end DataVariant

/-- The six comparisons. -/
inductive Comparison
  | eq
  | ne
  | lt
  | gt
  | le
  | ge
deriving DecidableEq, Repr

namespace Comparison

def text : Comparison → Text
  | eq => "==".toList
  | ne => "!=".toList
  | lt => "<".toList
  | gt => ">".toList
  | le => "<=".toList
  | ge => ">=".toList

/-- The comparison that a text stands for. -/
def ofText (compOperator : Text) : Option Comparison :=
  [eq, ne, lt, gt, le, ge].find? (·.text = compOperator)

def apply (lhs rhs : DataVariant δ) : Comparison → Except Thrown Bool
  | eq => lhs.eq num rhs
  | ne => (! ·) <$> lhs.eq num rhs
  | lt => lhs.lt num rhs
  | gt => lhs.gt num rhs
  | le => lhs.le num rhs
  | ge => lhs.ge num rhs

end Comparison

/-! ## Reading a condition -/

/-- `[a-zA-Z_]` -/
def isNameStart (c : Char) : Bool := c.isAlpha || c = '_'

/-- `[a-zA-Z0-9_]` -/
def isNameChar (c : Char) : Bool := c.isAlphanum || c = '_'

def isQuote (c : Char) : Bool := c = '\'' || c = '"'

/-- `["']?`: the quote, and what is behind it. -/
def optionalQuote : Text → Text × Text
  | c :: s => if isQuote c then ([c], s) else ([], c :: s)
  | [] => ([], [])

/-- `["']?[^'"]*["']?` -/
def valueAt (s : Text) : Text :=
  let (opening, s) := optionalQuote s
  opening ++ s.takeWhile (! isQuote ·) ++ (optionalQuote (s.dropWhile (! isQuote ·))).1

/-- `[!=<>]=?` -/
def operatorAt : Text → Option (Text × Text)
  | c :: s =>
    if c = '!' ∨ c = '=' ∨ c = '<' ∨ c = '>' then
      match s with
      | '=' :: s => some ([c, '='], s)
      | s => some ([c], s)
    else none
  | [] => none

/-- `([a-zA-Z_][a-zA-Z0-9_]*)\s*([!=<>]=?)\s*(["']?[^'"]*["']?)`: the three groups. -/
def expressionAt : Text → Option ((Text × Text × Text) × Text)
  | [] => none
  | c :: s =>
    if isNameStart c then
      (operatorAt ((s.dropWhile isNameChar).dropWhile isCSpace)).map fun (op, s') ↦
        ((c :: s.takeWhile isNameChar, op, valueAt (s'.dropWhile isCSpace)), [])
    else none

/-- `^['"]([^'"]+)?['"]$` -/
def stringValue? : Text → Option Text
  | [] => none
  | c :: s =>
    if isQuote c ∧ s.getLast?.any isQuote ∧ s.dropLast.all (! isQuote ·) then some s.dropLast
    else none

/-- Digits at the front of a text, at least one, and what is behind them. -/
def someDigits (s : Text) : Option (Text × Text) :=
  if s.takeWhile Char.isDigit = [] then none
  else some (s.takeWhile Char.isDigit, s.dropWhile Char.isDigit)

/-- `(?:[eE][+-]?\d+)?$` -/
def isExponent : Text → Bool
  | [] => true
  | c :: s =>
    let s := match s with
      | '+' :: s | '-' :: s => s
      | s => s
    (c = 'e' || c = 'E') && s ≠ [] && s.all Char.isDigit

/-- `^-?(?:\d+\.?\d*|\.\d+)(?:[eE][+-]?\d+)?$` -/
def isNumber (s : Text) : Bool :=
  let s := match s with
    | '-' :: s => s
    | s => s
  match someDigits s with
  | some (_, '.' :: s) => isExponent (s.dropWhile Char.isDigit)
  | some (_, s) => isExponent s
  | none =>
    match s with
    | '.' :: s => (someDigits s).any fun (_, s) ↦ isExponent s
    | _ => false

/-- `parseBoolean`, of the texts that `^(true|false|yes|no|on|off)$` knows. -/
def boolean? (s : Text) : Option Bool :=
  let lower := s.map Char.toLower
  if lower = "true".toList ∨ lower = "yes".toList ∨ lower = "on".toList then some true
  else if lower = "false".toList ∨ lower = "no".toList ∨ lower = "off".toList then some false
  else none

/-- `(-\d+)?$` -/
def isBuild : Text → Bool
  | [] => true
  | c :: s => c = '-' && s ≠ [] && s.all Char.isDigit

/-- `^v(\d+\.\d+(\.\d+)?(-\d+)?)$`: what is behind the `v`. -/
def version? : Text → Option Text
  | 'v' :: s =>
    match someDigits s with
    | some (_, '.' :: s') =>
      match someDigits s' with
      | some (_, '.' :: s'') =>
        if (someDigits s'').any fun (_, rest) ↦ isBuild rest then some s else none
      | some (_, rest) => if isBuild rest then some s else none
      | none => none
    | _ => none
  | _ => none

/-- `splitString` at the points. -/
def splitPoints (s : Text) : List Text := s.splitOn '.'

/-- `std::stoi`, as an unsigned number. -/
def unsigned (s : Text) : Except Thrown UInt32 :=
  match Feetech.stoi s with
  | .ok n => .ok (UInt32.ofNat (n % 2 ^ 32).toNat)
  | .error _ => .error .stoi

/-- `VersionInformation::fromString` -/
def VersionInformation.fromString (str : Text) : Except Thrown VersionInformation :=
  let malformed := Thrown.urException
    ("Given string '".toList ++ str ++ "' does not conform a version string format.".toList)
  match splitPoints str with
  | [] | [_] => .error malformed
  | [a, b] => do return ⟨← unsigned a, ← unsigned b, 0, 0⟩
  | [a, b, c] => do return ⟨← unsigned a, ← unsigned b, ← unsigned c, 0⟩
  | [a, b, c, d] => do return ⟨← unsigned a, ← unsigned b, ← unsigned c, ← unsigned d⟩
  | a :: b :: c :: _ => do
    let _ ← unsigned a
    let _ ← unsigned b
    let _ ← unsigned c
    .error malformed

variable (data : DataDict δ)

/-- The value of what stands on the right of a comparison. -/
def operand (valueStr : Text) : Except Thrown (DataVariant δ) :=
  match stringValue? valueStr with
  | some s => .ok (.string s)
  | none =>
    if isNumber valueStr then .double <$> num.stod valueStr
    else
      match boolean? valueStr with
      | some b => .ok (.bool b)
      | none =>
        match version? valueStr with
        | some s => .version <$> VersionInformation.fromString s
        | none =>
          match data valueStr with
          | some value => .ok value
          | none => .error (.unknownVariable valueStr)

/-- Without the white space on both sides. -/
def trim (s : Text) : Text := (s.dropWhile isCSpace).rdropWhile isCSpace

def evaluateExpression (expression : Text) : Except Thrown Bool :=
  let trimmed := trim expression
  let failed := Thrown.runtimeError ("trimmed evaluation failed: \x60".toList ++ trimmed ++
    "\x60. Expected a boolean value, but got a different type.".toList)
  match Rewriting.search expressionAt trimmed with
  | some (_, (variableName, compOperator, valueStr), _) =>
    match data variableName with
    | none => .error (.unknownVariable variableName)
    | some lhs =>
      match operand num data valueStr with
      | .error e => .error e
      | .ok value =>
        match Comparison.ofText compOperator with
        | none => .error failed
        | some comparison => comparison.apply num lhs value
  | none =>
    if (trimmed.head?.any isNameStart && trimmed.all isNameChar) = true then
      match data trimmed with
      | none => .error (.unknownVariable trimmed)
      | some (.bool b) => .ok b
      | some _ => .error failed
    else .error failed

/-! ## Comparisons of a variable -/

variable {num data}

/-- The name of a variable. -/
structure Name where
  first : Char
  others : Text
  first_start : isNameStart first = true
  others_chars : ∀ c ∈ others, isNameChar c = true

def Name.text (name : Name) : Text := name.first :: name.others

/-- A text without white space and without quotes. -/
structure IsWord (s : Text) : Prop where
  ne : s ≠ []
  space : ∀ c ∈ s, isCSpace c = false
  quote : ∀ c ∈ s, isQuote c = false

/-- The white space of a condition: in front of it, on both sides of the comparison, and behind
it. -/
structure Blanks where
  front : Text
  left : Text
  right : Text
  back : Text
  front_space : ∀ c ∈ front, isCSpace c = true
  left_space : ∀ c ∈ left, isCSpace c = true
  right_space : ∀ c ∈ right, isCSpace c = true
  back_space : ∀ c ∈ back, isCSpace c = true

/-- A condition without the white space on both sides. -/
def trimmedCondition (blanks : Blanks) (name : Name) (comparison : Comparison) (rhs : Text) :
    Text :=
  name.text ++ (blanks.left ++ (comparison.text ++ (blanks.right ++ rhs)))

/-- `NAME == rhs` and so on. -/
def condition (blanks : Blanks) (name : Name) (comparison : Comparison) (rhs : Text) : Text :=
  blanks.front ++ (trimmedCondition blanks name comparison rhs ++ blanks.back)

theorem isCSpace_of_isNameStart {c : Char} (h : isNameStart c = true) : isCSpace c = false := by
  by_contra hspace
  rw [Bool.not_eq_false, isCSpace, decide_eq_true_iff] at hspace
  rcases hspace with rfl | rfl | rfl | rfl | rfl | rfl <;> revert h <;> decide

theorem not_isNameChar_of_isCSpace {c : Char} (h : isCSpace c = true) : isNameChar c = false := by
  rw [isCSpace, decide_eq_true_iff] at h
  rcases h with rfl | rfl | rfl | rfl | rfl | rfl <;> decide

/-- No comparison starts like a name, or with white space. -/
theorem Comparison.exists_text_eq (comparison : Comparison) : ∃ c s, comparison.text = c :: s ∧
    isCSpace c = false ∧ isNameChar c = false := by
  rcases comparison with _ | _ | _ | _ | _ | _ <;> exact ⟨_, _, rfl, by decide, by decide⟩

theorem IsWord.takeWhile_isCSpace {s : Text} (h : IsWord s) : s.takeWhile isCSpace = [] := by
  obtain ⟨c, s, rfl⟩ := List.exists_cons_of_ne_nil h.ne
  exact List.takeWhile_cons_of_neg (by simp [h.space c List.mem_cons_self])

/-- A comparison is read to its end, if no `=` comes behind it. -/
theorem operatorAt_text (comparison : Comparison) {s : Text} (hs : s.head? ≠ some '=') :
    operatorAt (comparison.text ++ s) = some (comparison.text, s) := by
  rcases s with _ | ⟨c, s⟩
  · rcases comparison with _ | _ | _ | _ | _ | _ <;> rfl
  · have hc : c ≠ '=' := fun heq ↦ hs (congrArg some heq)
    rcases comparison with _ | _ | _ | _ | _ | _ <;> simp [operatorAt, Comparison.text, hc]

theorem ofText_text (comparison : Comparison) :
    Comparison.ofText comparison.text = some comparison := by
  rcases comparison with _ | _ | _ | _ | _ | _ <;> decide +kernel

theorem valueAt_word {s : Text} (h : IsWord s) : valueAt s = s := by
  have htake : s.takeWhile (! isQuote ·) = s :=
    List.takeWhile_eq_self_iff.mpr fun c hc ↦ by simp [h.quote c hc]
  have hdrop : s.dropWhile (! isQuote ·) = [] :=
    List.dropWhile_eq_nil_iff.mpr fun c hc ↦ by simp [h.quote c hc]
  have hopening : optionalQuote s = ([], s) := by
    rcases s with _ | ⟨c, s⟩
    · rfl
    · rw [optionalQuote, h.quote c List.mem_cons_self]
      rfl
  rw [valueAt, hopening]
  simp only [htake, hdrop, optionalQuote, List.nil_append, List.append_nil]

section Reading

variable {blanks : Blanks} {rhs : Text}

theorem search_condition (name : Name) (comparison : Comparison) (h : IsWord rhs)
    (hjoin : (blanks.right ++ rhs).head? ≠ some '=') :
    Rewriting.search expressionAt (trimmedCondition blanks name comparison rhs)
      = some ([], (name.text, comparison.text, rhs), []) := by
  obtain ⟨c, s, htext, hspace, hchar⟩ := comparison.exists_text_eq
  -- the name ends where white space or the comparison begins
  have hend : (blanks.left ++ (comparison.text ++ (blanks.right ++ rhs))).takeWhile isNameChar
      = [] := by
    rcases hleft : blanks.left with _ | ⟨c', left⟩
    · rw [List.nil_append, htext, List.cons_append]
      exact List.takeWhile_cons_of_neg (by simp [hchar])
    · have hc' : isCSpace c' = true := blanks.left_space c' (hleft ▸ List.mem_cons_self)
      exact List.takeWhile_cons_of_neg (by simp [not_isNameChar_of_isCSpace hc'])
  have hoperator : (comparison.text ++ (blanks.right ++ rhs)).takeWhile isCSpace = [] := by
    rw [htext, List.cons_append]
    exact List.takeWhile_cons_of_neg (by simp [hspace])
  obtain ⟨htake, hdrop⟩ := takeWhile_append_of_all name.others_chars hend
  obtain ⟨-, hleft⟩ := takeWhile_append_of_all blanks.left_space hoperator
  obtain ⟨-, hright⟩ := takeWhile_append_of_all blanks.right_space h.takeWhile_isCSpace
  apply Rewriting.search_of_some
  rw [trimmedCondition, Name.text, List.cons_append, expressionAt, if_pos name.first_start, htake,
    hdrop, hleft, operatorAt_text comparison hjoin, Option.map_some]
  simp only [hright, valueAt_word h]

theorem trim_condition (name : Name) (comparison : Comparison) (h : IsWord rhs) :
    trim (condition blanks name comparison rhs)
      = trimmedCondition blanks name comparison rhs := by
  have hfront : (trimmedCondition blanks name comparison rhs ++ blanks.back).takeWhile isCSpace
      = [] := by
    rw [trimmedCondition, Name.text, List.cons_append, List.cons_append]
    exact List.takeWhile_cons_of_neg (by simp [isCSpace_of_isNameStart name.first_start])
  obtain ⟨-, hdrop⟩ := takeWhile_append_of_all blanks.front_space hfront
  rw [trim, condition, hdrop, rdropWhile_append_of_all blanks.back_space,
    List.rdropWhile_eq_self_iff]
  intro hne
  have hlast : (trimmedCondition blanks name comparison rhs).getLast hne = rhs.getLast h.ne := by
    simp only [trimmedCondition, ← List.append_assoc]
    exact List.getLast_append_of_ne_nil _ h.ne
  rw [hlast, h.space _ (List.getLast_mem h.ne)]
  exact Bool.false_ne_true

/-- **A comparison is evaluated** when both sides have a value. -/
theorem evaluateExpression_condition (name : Name) (comparison : Comparison) (h : IsWord rhs)
    (hjoin : (blanks.right ++ rhs).head? ≠ some '=') {lhs value : DataVariant δ}
    (hlhs : data name.text = some lhs) (hvalue : operand num data rhs = .ok value) :
    evaluateExpression num data (condition blanks name comparison rhs) =
      comparison.apply num lhs value := by
  rw [evaluateExpression, trim_condition name comparison h]
  simp only [search_condition name comparison h hjoin, hlhs, hvalue, ofText_text]

end Reading

/-! ## Comparisons of versions -/

namespace Comparison

/-- What the comparison says of numbers. -/
def Holds {α : Type} [LinearOrder α] (a b : α) : Comparison → Prop
  | eq => a = b
  | ne => a ≠ b
  | lt => a < b
  | gt => b < a
  | le => a ≤ b
  | ge => b ≤ a

/-- All but `==` and `!=`. -/
def IsOrder : Comparison → Prop
  | eq | ne => False
  | lt | gt | le | ge => True

instance {α : Type} [LinearOrder α] (a b : α) : (c : Comparison) → Decidable (c.Holds a b)
  | eq => inferInstanceAs (Decidable (a = b))
  | ne => inferInstanceAs (Decidable (a ≠ b))
  | lt => inferInstanceAs (Decidable (a < b))
  | gt => inferInstanceAs (Decidable (b < a))
  | le => inferInstanceAs (Decidable (a ≤ b))
  | ge => inferInstanceAs (Decidable (b ≤ a))

instance : (c : Comparison) → Decidable c.IsOrder
  | eq | ne => inferInstanceAs (Decidable False)
  | lt | gt | le | ge => inferInstanceAs (Decidable True)

/-- The comparisons of versions, made of the two that are written out. -/
theorem apply_version_eq (comparison : Comparison) (v w : VersionInformation) :
    comparison.apply num (.version v) (.version w) = .ok (match comparison with
      | eq => v = w
      | ne => ! decide (v = w)
      | lt => v.lt w
      | gt => ! (v.lt w || v = w)
      | le => v.lt w || v = w
      | ge => (! (v.lt w || v = w)) || v = w) := by
  have hle : DataVariant.le num (.version v) (.version w) = .ok (v.lt w || v = w) := by
    rw [DataVariant.le, DataVariant.lt, DataVariant.eq]
    rcases v.lt w with _ | _ <;> rfl
  rcases comparison with _ | _ | _ | _ | _ | _
  · rfl
  · rfl
  · rfl
  · rw [apply, DataVariant.gt, hle]
    rfl
  · exact hle
  · rw [apply, DataVariant.ge, DataVariant.gt, hle, DataVariant.eq]
    rcases v.lt w || v = w with _ | _ <;> rfl

/-- Versions are compared by their numbers, and the wrong way round where the left one is
overtaken. -/
theorem apply_version (comparison : Comparison) (v w : VersionInformation) :
    comparison.apply num (.version v) (.version w)
      = .ok (xor (comparison.Holds v.numbers w.numbers) (comparison.IsOrder ∧ v.Overtaken w)) := by
  have heq : v = w ↔ v.numbers = w.numbers := VersionInformation.numbers_injective.eq_iff.symm
  have hlt : v.lt w = decide (v.numbers < w.numbers ∨ v.Overtaken w) := by
    rw [Bool.eq_iff_iff, decide_eq_true_iff, VersionInformation.lt_iff]
  rw [apply_version_eq]
  by_cases ho : v.Overtaken w
  · have hless := ho.numbers_lt
    rcases comparison with _ | _ | _ | _ | _ | _ <;>
      simp [Holds, IsOrder, hlt, heq, ho, hless.ne', hless.le, hless, hless.not_gt, hless.not_ge]
  · rcases lt_trichotomy v.numbers w.numbers with h | h | h
    · rcases comparison with _ | _ | _ | _ | _ | _ <;>
        simp [Holds, IsOrder, hlt, heq, ho, h, h.ne, h.le, h.not_gt, h.not_ge]
    · rcases comparison with _ | _ | _ | _ | _ | _ <;>
        simp [Holds, IsOrder, hlt, heq, ho, h]
    · rcases comparison with _ | _ | _ | _ | _ | _ <;>
        simp [Holds, IsOrder, hlt, heq, ho, h, h.ne', h.le, h.not_gt, h.not_ge]

end Comparison

/-- **Two versions are compared** by their numbers, and the wrong way round exactly where an order
is asked for and the left one is overtaken. -/
theorem evaluateExpression_versions (blanks : Blanks) (name : Name) (comparison : Comparison)
    {rhs : Text} (h : IsWord rhs) (hjoin : (blanks.right ++ rhs).head? ≠ some '=')
    {v w : VersionInformation} (hv : data name.text = some (.version v))
    (hw : operand num data rhs = .ok (.version w)) :
    evaluateExpression num data (condition blanks name comparison rhs)
      = .ok (xor (comparison.Holds v.numbers w.numbers) (comparison.IsOrder ∧ v.Overtaken w)) := by
  rw [evaluateExpression_condition name comparison h hjoin hv hw, Comparison.apply_version]

/-- Numbers without a fraction. -/
def wholeNumbers : Doubles ℤ where
  lt x y := x < y
  eq x y := x = y
  ofInt n := n
  isBool b x := b.toInt = x
  stod s := match Feetech.stoi s with
    | .ok n => .ok n
    | .error _ => .error .stoi
  text := intText

/-- Two versions, the second one with the greater build number only. -/
def twoVersions : DataDict ℤ := fun key ↦
  if key = ['A'] then some (.version ⟨5, 9, 4, 3⟩)
  else if key = ['B'] then some (.version ⟨5, 9, 1, 7⟩)
  else none

theorem isCSpace_of_mem_nil : ∀ c ∈ ([] : Text), isCSpace c = true := by simp

theorem isCSpace_of_mem_space : ∀ c ∈ [' '], isCSpace c = true := by simp [isCSpace]

/-- One space on each side of the comparison. -/
def spaced : Blanks :=
  ⟨[], [' '], [' '], [], isCSpace_of_mem_nil, isCSpace_of_mem_space, isCSpace_of_mem_space,
    isCSpace_of_mem_nil⟩

theorem evaluateExpression_versions_overtaken :
    evaluateExpression wholeNumbers twoVersions "A < B".toList = .ok true :=
  (@evaluateExpression_versions _ wholeNumbers twoVersions spaced ⟨'A', [], by decide, by simp⟩ .lt
    ['B'] ⟨by simp, by simp [isCSpace], by simp [isQuote]⟩ (by decide) (v := ⟨5, 9, 4, 3⟩)
    (w := ⟨5, 9, 1, 7⟩) (by decide +kernel) (by decide +kernel)).trans (by decide +kernel)

/-! ## Versions that are written down -/

/-- A number as it is written down. There may be zeros in front. -/
structure Numeral where
  text : Text
  ne : text ≠ []
  digits : ∀ c ∈ text, c.isDigit = true

def Numeral.value (n : Numeral) : ℕ := Feetech.digitsValue n.text

/-- A version as a script writes it down. -/
structure Literal where
  major : Numeral
  minor : Numeral
  bugfix : Option Numeral
  build : Option Numeral
  major_lt : major.value < 2 ^ 31
  minor_lt : minor.value < 2 ^ 31
  bugfix_lt : ∀ n ∈ bugfix, n.value < 2 ^ 31

namespace Literal

def buildText (l : Literal) : Text := l.build.elim [] fun n ↦ '-' :: n.text

/-- The numbers between the points. -/
def components (l : Literal) : List Text :=
  match l.bugfix with
  | none => [l.major.text, l.minor.text ++ l.buildText]
  | some n => [l.major.text, l.minor.text, n.text ++ l.buildText]

/-- What is behind the `v`. -/
def numbersText (l : Literal) : Text := ['.'].intercalate l.components

def text (l : Literal) : Text := 'v' :: l.numbersText

/-- The version that is meant, without a build number. -/
def version (l : Literal) : VersionInformation :=
  ⟨.ofNat l.major.value, .ofNat l.minor.value, .ofNat (l.bugfix.elim 0 Numeral.value), 0⟩

end Literal

/-- The digits of a number are read, whatever else is behind it. -/
theorem Numeral.someDigits_text (n : Numeral) {s : Text} (hs : s.takeWhile Char.isDigit = []) :
    someDigits (n.text ++ s) = some (n.text, s) := by
  obtain ⟨htake, hdrop⟩ := takeWhile_append_of_all n.digits hs
  rw [someDigits, htake, hdrop, if_neg n.ne]

theorem not_isCSpace_of_isDigit {c : Char} (h : c.isDigit = true) : isCSpace c = false := by
  by_contra hspace
  rw [Bool.not_eq_false, isCSpace, decide_eq_true_iff] at hspace
  rcases hspace with rfl | rfl | rfl | rfl | rfl | rfl <;> revert h <;> decide

theorem not_isQuote_of_isDigit {c : Char} (h : c.isDigit = true) : isQuote c = false := by
  by_contra hquote
  rw [Bool.not_eq_false, isQuote, Bool.or_eq_true, decide_eq_true_iff, decide_eq_true_iff] at hquote
  rcases hquote with rfl | rfl <;> revert h <;> decide

theorem splitSign_of_isDigit {c : Char} (h : c.isDigit = true) (s : Text) :
    Feetech.splitSign (c :: s) = (false, c :: s) := by
  rw [Feetech.splitSign.eq_def]
  split
  · next heq =>
    obtain ⟨rfl, -⟩ := List.cons.inj heq
    exact absurd h (by decide)
  · next heq =>
    obtain ⟨rfl, -⟩ := List.cons.inj heq
    exact absurd h (by decide)
  · rfl

theorem Numeral.unsigned_text {n : Numeral} (hn : n.value < 2 ^ 31) {s : Text}
    (hs : s.takeWhile Char.isDigit = []) : unsigned (n.text ++ s) = .ok (.ofNat n.value) := by
  obtain ⟨htake, -⟩ := takeWhile_append_of_all n.digits hs
  obtain ⟨c, cs, hcons⟩ := List.exists_cons_of_ne_nil n.ne
  have hdigit : c.isDigit = true := n.digits c (by simp [hcons])
  have hdrop : (n.text ++ s).dropWhile isCSpace = n.text ++ s := by
    rw [hcons, List.cons_append,
      List.dropWhile_cons_of_neg (by simp [not_isCSpace_of_isDigit hdigit])]
  have hsign : Feetech.splitSign (n.text ++ s) = (false, n.text ++ s) := by
    rw [hcons, List.cons_append, splitSign_of_isDigit hdigit]
  have hrange : ¬ ((n.value : ℤ) < -2 ^ 31 ∨ 2 ^ 31 ≤ (n.value : ℤ)) := by omega
  have hvalue : Feetech.digitsValue n.text = n.value := rfl
  have hstoi : Feetech.stoi (n.text ++ s) = .ok n.value := by
    rw [Feetech.stoi, hdrop, hsign]
    simp only [htake, if_neg n.ne, hvalue, Bool.false_eq_true, if_false, if_neg hrange]
  have hmod : ((n.value : ℤ) % 2 ^ 32).toNat = n.value := by omega
  rw [unsigned, hstoi]
  simp only [hmod]

namespace Literal

theorem buildText_eq (l : Literal) : l.buildText = [] ∨ ∃ s, l.buildText = '-' :: s := by
  rw [buildText]
  rcases l.build with _ | n
  · exact .inl rfl
  · exact .inr ⟨n.text, rfl⟩

theorem isBuild_buildText (l : Literal) : isBuild l.buildText = true := by
  rw [buildText]
  rcases l.build with _ | n
  · rfl
  · have hall : n.text.all Char.isDigit = true := List.all_eq_true.mpr n.digits
    simp [isBuild, n.ne, hall]

theorem takeWhile_buildText (l : Literal) : l.buildText.takeWhile Char.isDigit = [] := by
  rw [buildText]
  rcases l.build with _ | n
  · rfl
  · exact List.takeWhile_cons_of_neg (by decide)

theorem numbersText_eq (l : Literal) :
    (l.bugfix = none ∧
      l.numbersText = l.major.text ++ '.' :: (l.minor.text ++ l.buildText)) ∨
    ∃ n, l.bugfix = some n ∧ l.numbersText
      = l.major.text ++ '.' :: (l.minor.text ++ '.' :: (n.text ++ l.buildText)) := by
  rw [numbersText, components]
  rcases l.bugfix with _ | n
  · exact .inl ⟨rfl, by simp [List.intercalate]⟩
  · exact .inr ⟨n, rfl, by simp [List.intercalate]⟩

theorem version?_text (l : Literal) : version? l.text = some l.numbersText := by
  have hbuild := l.isBuild_buildText
  have hdigits := l.takeWhile_buildText
  have hpoint : ∀ s : Text, ('.' :: s).takeWhile Char.isDigit = [] := fun s ↦
    List.takeWhile_cons_of_neg (by decide)
  rw [text]
  rcases l.numbersText_eq with ⟨-, heq⟩ | ⟨n, -, heq⟩
  · simp only [heq, version?, Numeral.someDigits_text _ (hpoint _),
      Numeral.someDigits_text _ hdigits]
    rcases l.buildText_eq with h | ⟨s, h⟩
    · rw [h]
      rfl
    · rw [h] at hbuild ⊢
      exact if_pos hbuild
  · simp only [heq, version?, Numeral.someDigits_text _ (hpoint _),
      Numeral.someDigits_text _ hdigits, Option.any_some, hbuild, if_true]

theorem point_notMem_text (n : Numeral) : ∀ c ∈ n.text, (c == '.') = false := by
  intro c hc
  rw [beq_eq_false_iff_ne]
  rintro rfl
  exact absurd (n.digits '.' hc) (by decide)

theorem point_notMem_buildText (l : Literal) : ∀ c ∈ l.buildText, (c == '.') = false := by
  rw [buildText]
  rcases l.build with _ | n
  · simp
  · exact List.forall_mem_cons.mpr ⟨by decide, point_notMem_text n⟩

theorem splitPoints_numbersText (l : Literal) : splitPoints l.numbersText = l.components := by
  have hsplit : ∀ (n : Numeral) s, (n.text ++ '.' :: s).splitOnP (· == '.')
      = n.text :: s.splitOnP (· == '.') := fun n s ↦
    List.splitOnP_append_cons_of_forall_mem (point_notMem_text n) '.' (by decide) s
  have hlast : ∀ n : Numeral,
      (n.text ++ l.buildText).splitOnP (· == '.') = [n.text ++ l.buildText] :=
    fun n ↦ List.splitOnP_eq_singleton fun c hc ↦ (List.mem_append.mp hc).elim
      (point_notMem_text n c) (point_notMem_buildText l c)
  rw [splitPoints, List.splitOn_eq_splitOnP, components]
  rcases l.numbersText_eq with ⟨hbugfix, heq⟩ | ⟨n, hbugfix, heq⟩
  · rw [heq, hbugfix, hsplit, hlast]
  · rw [heq, hbugfix, hsplit, hsplit, hlast]

theorem fromString_numbersText (l : Literal) :
    VersionInformation.fromString l.numbersText = .ok l.version := by
  have hend := l.takeWhile_buildText
  have hmajor := Numeral.unsigned_text l.major_lt (s := []) rfl
  have hminor := Numeral.unsigned_text l.minor_lt (s := []) rfl
  rw [List.append_nil] at hmajor hminor
  rw [VersionInformation.fromString, splitPoints_numbersText, components, version]
  rcases hbugfix : l.bugfix with _ | n
  · simp only [hmajor, Numeral.unsigned_text l.minor_lt hend]
    rfl
  · simp only [hmajor, hminor, Numeral.unsigned_text (l.bugfix_lt n hbugfix) hend]
    rfl

theorem operand_text (l : Literal) : operand num data l.text = .ok (.version l.version) := by
  have hstring : stringValue? l.text = none := rfl
  have hnumber : isNumber l.text = false := rfl
  have hbool : boolean? l.text = none := by
    simp [boolean?, text]
  rw [operand, hstring]
  simp only [hnumber, hbool, l.version?_text, l.fromString_numbersText, Bool.false_eq_true,
    if_false]
  rfl

/-- The characters of a version that is written down. -/
theorem mem_text {l : Literal} {c : Char} (h : c ∈ l.text) :
    c = 'v' ∨ c = '.' ∨ c = '-' ∨ c.isDigit = true := by
  have hnat : ∀ {n : Numeral}, c ∈ n.text → c = 'v' ∨ c = '.' ∨ c = '-' ∨ c.isDigit = true :=
    fun {n} hc ↦ .inr (.inr (.inr (n.digits c hc)))
  have hbuild : c ∈ l.buildText → c = 'v' ∨ c = '.' ∨ c = '-' ∨ c.isDigit = true := by
    rw [buildText]
    rcases l.build with _ | n
    · simp
    · intro hc
      rcases List.mem_cons.mp hc with rfl | hc
      · exact .inr (.inr (.inl rfl))
      · exact hnat hc
  rw [text] at h
  rcases l.numbersText_eq with ⟨-, heq⟩ | ⟨n, -, heq⟩
  · have hc : c = 'v' ∨ c ∈ l.major.text ∨ c = '.' ∨ c ∈ l.minor.text ∨ c ∈ l.buildText := by
      simpa [heq] using h
    rcases hc with hc | hc | hc | hc | hc
    exacts [.inl hc, hnat hc, .inr (.inl hc), hnat hc, hbuild hc]
  · have hc : c = 'v' ∨ c ∈ l.major.text ∨ c = '.' ∨ c ∈ l.minor.text ∨ c = '.' ∨
        c ∈ n.text ∨ c ∈ l.buildText := by
      simpa [heq] using h
    rcases hc with hc | hc | hc | hc | hc | hc | hc
    exacts [.inl hc, hnat hc, .inr (.inl hc), hnat hc, .inr (.inl hc), hnat hc, hbuild hc]

theorem isWord_text (l : Literal) : IsWord l.text := by
  refine ⟨List.cons_ne_nil _ _, fun c hc ↦ ?_, fun c hc ↦ ?_⟩
  · rcases mem_text hc with rfl | rfl | rfl | hdigit
    exacts [rfl, rfl, rfl, not_isCSpace_of_isDigit hdigit]
  · rcases mem_text hc with rfl | rfl | rfl | hdigit
    exacts [rfl, rfl, rfl, not_isQuote_of_isDigit hdigit]

end Literal

/-- **A version that is written down** is compared by its numbers, without a build number. -/
theorem evaluateExpression_literal (blanks : Blanks) (name : Name) (comparison : Comparison)
    (l : Literal) {v : VersionInformation} (hv : data name.text = some (.version v)) :
    evaluateExpression num data (condition blanks name comparison l.text)
      = .ok (comparison.Holds v.numbers l.version.numbers) := by
  have hnot : ¬ v.Overtaken l.version := fun h ↦ absurd h.2.2.2 (by simp [Literal.version])
  have hjoin : (blanks.right ++ l.text).head? ≠ some '=' := by
    rcases hright : blanks.right with _ | ⟨c, s⟩
    · simp [Literal.text]
    · have hspace := blanks.right_space c (hright ▸ List.mem_cons_self)
      rintro ⟨⟩
      exact absurd hspace (by decide)
  rw [evaluateExpression_condition name comparison l.isWord_text hjoin hv l.operand_text,
    Comparison.apply_version]
  simp [hnot]

/-- `v05.9.4-8` -/
def buildLiteral : Literal where
  major := ⟨['0', '5'], by simp, by simp⟩
  minor := ⟨['9'], by simp, by simp⟩
  bugfix := some ⟨['4'], by simp, by simp⟩
  build := some ⟨['8'], by simp, by simp⟩
  major_lt := by decide
  minor_lt := by decide
  bugfix_lt := by decide

theorem evaluateExpression_literal_build :
    evaluateExpression wholeNumbers twoVersions " A>= v05.9.4-8".toList = .ok true := by
  let blanks : Blanks := ⟨[' '], [], [' '], [], by simp [isCSpace], by simp,
    by simp [isCSpace], by simp⟩
  have htext : " A>= v05.9.4-8".toList
      = condition blanks ⟨'A', [], by decide, by simp⟩ .ge buildLiteral.text := by decide +kernel
  have hv : twoVersions ['A'] = some (.version ⟨5, 9, 4, 3⟩) := by decide +kernel
  rw [htext, evaluateExpression_literal blanks _ .ge buildLiteral hv]
  decide +kernel

end VzletUr3e.ScriptReader
