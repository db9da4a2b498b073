import VzletUr3e.Library.LineReader
import VzletUr3e.Library.Rewriting
import VzletUr3e.Feetech.Configure

/-!
# Conditional blocks of a script

`ScriptReader::replaceConditionals` goes over the lines of a script once, with a stack of the blocks
that are open. A line is told apart by four regular expressions, and the conditions are evaluated
where they stand, in the branches that are not taken as well.

What the lines mean is a tree: a script is made of lines and of blocks, a block of branches. Every
script is read as such a tree, since a line that fits nowhere is dropped and a block that is not
closed ends with the script (`exists_template`). The pass over the lines is the rendering of the
tree, unless a condition cannot be evaluated (`replaceConditionals_eq`).
-/

namespace VzletUr3e.ScriptReader

open Feetech (isCSpace)

abbrev Text := List Char

/-! ## Lines -/

/-- What a line says. -/
inductive Directive
  | ifBlock (condition : Text)
  | elifBlock (condition : Text)
  | elseBlock
  | endif
  | text (line : Text)
deriving DecidableEq, Repr

/-- `std::getline` to the end of the stream. -/
def getlines (scriptCode : Text) : List Text :=
  let r := LineReader.feed '\n' (fun lines line ↦ lines ++ [line]) ⟨[], []⟩ scriptCode
  if r.pending = [] then r.state else r.state ++ [r.pending]

/-- What is behind a word at the front of a text. -/
def afterWord (word s : Text) : Option Text :=
  if word <+: s then some (s.drop word.length) else none

/-- `\s+`, behind which no white space is expected. -/
def someSpace (s : Text) : Option Text :=
  if (s.takeWhile isCSpace) = [] then none else some (s.dropWhile isCSpace)

/-- `.*[^\s])\s+\%\}`: as much as possible up to the last end of a directive. -/
def conditionEnd : Text → Option Text
  | [] => none
  | c :: s =>
    let longer := if c = '\n' ∨ c = '\r' then none else (conditionEnd s).map (c :: ·)
    let here :=
      if isCSpace c then none else ((someSpace s).bind (afterWord ['%', '}'])).map fun _ ↦ [c]
    longer.or here

/-- `\{\%\s*word\s+([^\s].*[^\s])\s+\%\}` -/
def conditionAt (word s : Text) : Option (Text × Text) :=
  match ((afterWord ['{', '%'] s).bind fun s ↦ afterWord word (s.dropWhile isCSpace)).bind
      someSpace with
  | none | some [] => none
  | some (c :: s) => (conditionEnd s).map fun rest ↦ (c :: rest, [])

/-- `\{\%\s*word\s*\%\}` -/
def bareAt (word s : Text) : Option (Unit × Text) :=
  ((afterWord ['{', '%'] s).bind fun s ↦ afterWord word (s.dropWhile isCSpace)).bind fun s ↦
    (afterWord ['%', '}'] (s.dropWhile isCSpace)).map fun rest ↦ ((), rest)

/-- The four patterns, one after the other. -/
def directive (line : Text) : Directive :=
  match Rewriting.search (conditionAt "if".toList) line with
  | some (_, condition, _) => .ifBlock condition
  | none =>
    match Rewriting.search (conditionAt "elif".toList) line with
    | some (_, condition, _) => .elifBlock condition
    | none =>
      if (Rewriting.search (bareAt "else".toList) line).isSome then .elseBlock
      else if (Rewriting.search (bareAt "endif".toList) line).isSome then .endif
      else .text line

/-! A condition has at least two characters: a line with a shorter one is not a directive. -/

example : directive "  \x7b%elif x == 1 %\x7d # then".toList = .elifBlock "x == 1".toList := by
  decide +kernel

example : directive "\x7b% if A %\x7d".toList = .text "\x7b% if A %\x7d".toList := by decide +kernel

/-! ## The pass over the lines -/

inductive BlockType
  | ifBlock
  | elifBlock
  | elseBlock
deriving DecidableEq, Repr

structure BlockState where
  type : BlockType
  /-- Has any previous condition in this block matched? -/
  conditionMatched : Bool
  /-- Should this block render? -/
  shouldRender : Bool
  /-- Is the parent block rendering? -/
  parentRender : Bool
deriving DecidableEq, Repr

/-- The stack of blocks, and what has been written. -/
structure Pass where
  blockStack : List BlockState
  output : Text
  firstLine : Bool
deriving DecidableEq, Repr

/-- Whether the block that is open renders; outside of all blocks everything does. -/
def renders : List BlockState → Bool
  | [] => true
  | top :: _ => top.shouldRender

/-- A line is written, behind a line break unless it is the first one. -/
def Pass.write (p : Pass) (line : Text) : Pass :=
  { p with
    output := p.output ++ (if p.firstLine then line else '\n' :: line)
    firstLine := false }

variable {ε : Type} (evaluateExpression : Text → Except ε Bool)

/-- The body of the loop. -/
def step (p : Pass) : Directive → Except ε Pass
  | .ifBlock condition => do
    let result ← evaluateExpression condition
    let parentRender := renders p.blockStack
    return { p with
      blockStack :=
        ⟨.ifBlock, result, parentRender && result, parentRender⟩ :: p.blockStack }
  | .elifBlock condition =>
    match p.blockStack with
    | [] => return p
    | top :: stack =>
      if top.type = .elseBlock then return p
      else do
        let result ← evaluateExpression condition
        let top :=
          if !top.conditionMatched && result then
            ⟨.elifBlock, true, top.parentRender, top.parentRender⟩
          else ⟨.elifBlock, top.conditionMatched, false, top.parentRender⟩
        return { p with blockStack := top :: stack }
  | .elseBlock =>
    match p.blockStack with
    | [] => return p
    | top :: stack =>
      return { p with
        blockStack :=
          ⟨.elseBlock, top.conditionMatched, top.parentRender && !top.conditionMatched,
            top.parentRender⟩ :: stack }
  | .endif => return { p with blockStack := p.blockStack.tail }
  | .text line => return if renders p.blockStack then p.write line else p

def replaceConditionals (scriptCode : Text) : Except ε Text := do
  let p ← ((getlines scriptCode).map directive).foldlM (step evaluateExpression) ⟨[], [], true⟩
  return p.output

/-! ## Templates -/

/-- Where lines stand: outside of all blocks, in a branch with a condition, or behind `else`. -/
inductive Place
  | outside
  | branch
  | lastBranch
deriving DecidableEq, Repr

/-- The directives that fit nowhere at a place. -/
def Place.ignores : Place → Directive → Bool
  | .outside, .elifBlock _ | .outside, .elseBlock | .outside, .endif => true
  | .lastBranch, .elifBlock _ | .lastBranch, .elseBlock => true
  | _, _ => false

mutual

/-- Lines and blocks, one after the other. -/
inductive Template : Place → Type
  | nil {place : Place} : Template place
  | line {place : Place} (text : Text) (rest : Template place) : Template place
  | block {place : Place} (condition : Text) (body : Template .branch) (branches : Branches)
      (rest : Template place) : Template place
  | stray {place : Place} (d : Directive) (ignored : place.ignores d = true)
      (rest : Template place) : Template place

/-- What follows the first branch of a block. -/
inductive Branches : Type
  | endif
  | elifBlock (condition : Text) (body : Template .branch) (more : Branches)
  | elseBlock (body : Template .lastBranch)

end

mutual

/-- The lines of a template. -/
def Template.lines : {place : Place} → Template place → List Directive
  | _, .nil => []
  | _, .line text rest => .text text :: rest.lines
  | _, .block condition body branches rest =>
    .ifBlock condition :: (body.lines ++ (branches.lines ++ rest.lines))
  | _, .stray d _ rest => d :: rest.lines

def Branches.lines : Branches → List Directive
  | .endif => [.endif]
  | .elifBlock condition body more => .elifBlock condition :: (body.lines ++ more.lines)
  | .elseBlock body => .elseBlock :: (body.lines ++ [.endif])

end

mutual

/-- The conditions of a template, taken or not, without the stray ones. -/
def Template.conditions : {place : Place} → Template place → List Text
  | _, .nil => []
  | _, .line _ rest => rest.conditions
  | _, .block condition body branches rest =>
    condition :: (body.conditions ++ (branches.conditions ++ rest.conditions))
  | _, .stray _ _ rest => rest.conditions

def Branches.conditions : Branches → List Text
  | .endif => []
  | .elifBlock condition body more => condition :: (body.conditions ++ more.conditions)
  | .elseBlock body => body.conditions

end

mutual

/-- The lines that are written: of each block, those of the first branch whose condition holds. -/
def Template.render (holds : Text → Bool) : {place : Place} → Template place → List Text
  | _, .nil => []
  | _, .line text rest => text :: rest.render holds
  | _, .block condition body branches rest =>
    (if holds condition then body.render holds else branches.render holds) ++ rest.render holds
  | _, .stray _ _ rest => rest.render holds

def Branches.render (holds : Text → Bool) : Branches → List Text
  | .endif => []
  | .elifBlock condition body more =>
    if holds condition then body.render holds else more.render holds
  | .elseBlock body => body.render holds

end

/-! ## What the pass writes

By mutual induction over the template: its lines take the pass from any stack that fits the place to
the same stack, and write the rendering if the stack renders. In a block, the top of the stack says
whether a branch has been taken; the conditions behind it are evaluated, but no longer looked at.
-/

/-- The conditions evaluated, one after the other. -/
def check : List Text → Except ε Unit
  | [] => return ()
  | condition :: conditions => do
    let _ ← evaluateExpression condition
    check conditions

/-- Whether a condition holds. -/
def holds (condition : Text) : Bool :=
  match evaluateExpression condition with
  | .ok result => result
  | .error _ => false

variable {evaluateExpression}

theorem check_append (first second : List Text) :
    check evaluateExpression (first ++ second)
      = check evaluateExpression first >>= fun _ ↦ check evaluateExpression second := by
  induction first with
  | nil => rfl
  | cons condition first ih =>
    rw [List.cons_append, check, check, bind_assoc]
    exact bind_congr fun _ ↦ ih

theorem check_cons_ok {condition : Text} {result : Bool}
    (h : evaluateExpression condition = .ok result) (conditions : List Text) :
    check evaluateExpression (condition :: conditions) = check evaluateExpression conditions := by
  rw [check, h]
  rfl

theorem check_cons_error {condition : Text} {e : ε} (h : evaluateExpression condition = .error e)
    (conditions : List Text) :
    check evaluateExpression (condition :: conditions) = .error e := by
  rw [check, h]
  rfl

theorem holds_of_ok {condition : Text} {result : Bool}
    (h : evaluateExpression condition = .ok result) :
    holds evaluateExpression condition = result := by
  rw [holds, h]

/-- Lines written one after the other. -/
def Pass.writes (p : Pass) (lines : List Text) : Pass := lines.foldl Pass.write p

/-- Another stack. -/
def Pass.withStack (p : Pass) (stack : List BlockState) : Pass := { p with blockStack := stack }

@[simp] theorem Pass.writes_nil (p : Pass) : p.writes [] = p := rfl

@[simp] theorem Pass.blockStack_withStack (p : Pass) (stack : List BlockState) :
    (p.withStack stack).blockStack = stack := rfl

@[simp] theorem Pass.withStack_withStack (p : Pass) (s t : List BlockState) :
    (p.withStack s).withStack t = p.withStack t := rfl

@[simp] theorem Pass.withStack_blockStack (p : Pass) : p.withStack p.blockStack = p := rfl

theorem Pass.writes_append (p : Pass) (first second : List Text) :
    p.writes (first ++ second) = (p.writes first).writes second := List.foldl_append

theorem Pass.writes_withStack (p : Pass) (stack : List BlockState) (lines : List Text) :
    (p.withStack stack).writes lines = (p.writes lines).withStack stack := by
  induction lines generalizing p with
  | nil => rfl
  | cons line lines ih => exact ih (p.write line)

@[simp] theorem Pass.blockStack_writes (p : Pass) (lines : List Text) :
    (p.writes lines).blockStack = p.blockStack := by
  induction lines generalizing p with
  | nil => rfl
  | cons line lines ih => exact ih (p.write line)

/-- The stack of a place. -/
def Place.Fits : Place → List BlockState → Prop
  | .outside, stack => stack = []
  | .branch, stack => ∃ top rest, stack = top :: rest ∧ top.type ≠ .elseBlock
  | .lastBranch, stack => ∃ top rest, stack = top :: rest ∧ top.type = .elseBlock ∧
      top.shouldRender = (top.parentRender && !top.conditionMatched)

/-- A directive that fits nowhere changes nothing. -/
theorem step_of_ignores {place : Place} {d : Directive} (h : place.ignores d = true) {p : Pass}
    (hfits : place.Fits p.blockStack) : step evaluateExpression p d = .ok p := by
  rcases p with ⟨stack, output, firstLine⟩
  rcases place with _ | _ | _
  · obtain rfl : stack = [] := hfits
    rcases d with _ | _ | _ | _ | _ <;> first | rfl | simp [Place.ignores] at h
  · simp [Place.ignores] at h
  · obtain ⟨⟨type, matched, should, parent⟩, rest, hstack, htype, hshould⟩ := hfits
    obtain rfl : stack = _ := hstack
    obtain rfl : type = _ := htype
    obtain rfl : should = (parent && !matched) := hshould
    rcases d with _ | _ | _ | _ | _ <;> first | rfl | simp [Place.ignores] at h

/-- What is written where a block renders, and nothing elsewhere. -/
def Pass.writesIf (p : Pass) (rendering : Bool) (lines : List Text) : Pass :=
  p.writes (if rendering then lines else [])

@[simp] theorem Pass.blockStack_writesIf (p : Pass) (rendering : Bool) (lines : List Text) :
    (p.writesIf rendering lines).blockStack = p.blockStack := p.blockStack_writes _

theorem Pass.writesIf_withStack (p : Pass) (stack : List BlockState) (rendering : Bool)
    (lines : List Text) :
    (p.withStack stack).writesIf rendering lines = (p.writesIf rendering lines).withStack stack :=
  p.writes_withStack stack _

theorem Pass.writesIf_withStack_blockStack (p : Pass) (rendering : Bool) (lines : List Text) :
    (p.writesIf rendering lines).withStack p.blockStack = p.writesIf rendering lines := by
  rw [← Pass.writesIf_withStack, Pass.withStack_blockStack]

theorem Pass.writesIf_append (p : Pass) (rendering : Bool) (first second : List Text) :
    p.writesIf rendering (first ++ second)
      = (p.writesIf rendering first).writesIf rendering second := by
  rcases rendering with _ | _
  · rfl
  · exact p.writes_append first second

/-- Of two branches at most one is written. -/
theorem Pass.writesIf_writesIf (p : Pass) (rendering result : Bool) (first second : List Text) :
    (p.writesIf (rendering && result) first).writesIf (rendering && !result) second
      = p.writesIf rendering (if result then first else second) := by
  rcases rendering with _ | _ <;> rcases result with _ | _ <;> rfl

section Steps

variable {p : Pass} {top : BlockState} {stack : List BlockState} {condition : Text} {result : Bool}

theorem step_ifBlock (h : evaluateExpression condition = .ok result) :
    step evaluateExpression p (.ifBlock condition)
      = .ok (p.withStack (⟨.ifBlock, result, renders p.blockStack && result,
          renders p.blockStack⟩ :: p.blockStack)) := by
  rw [step, h]
  rfl

theorem step_elifBlock (h : evaluateExpression condition = .ok result)
    (htype : top.type ≠ .elseBlock) :
    step evaluateExpression (p.withStack (top :: stack)) (.elifBlock condition)
      = .ok (p.withStack (⟨.elifBlock, top.conditionMatched || result,
          top.parentRender && !top.conditionMatched && result, top.parentRender⟩ :: stack)) := by
  simp only [step, Pass.blockStack_withStack, if_neg htype, h]
  rcases top with ⟨type, _ | _, should, _ | _⟩ <;> rcases result with _ | _ <;> rfl

theorem step_elseBlock :
    step evaluateExpression (p.withStack (top :: stack)) .elseBlock
      = .ok (p.withStack (⟨.elseBlock, top.conditionMatched,
          top.parentRender && !top.conditionMatched, top.parentRender⟩ :: stack)) := rfl

theorem step_endif :
    step evaluateExpression (p.withStack (top :: stack)) .endif = .ok (p.withStack stack) := rfl

theorem step_text (line : Text) :
    step evaluateExpression p (.text line) = .ok (p.writesIf (renders p.blockStack) [line]) := by
  rw [step, Pass.writesIf]
  split_ifs <;> rfl

end Steps

mutual

/-- **The lines of a template** are its conditions and its rendering. -/
theorem foldlM_template {place : Place} (t : Template place) (p : Pass)
    (hfits : place.Fits p.blockStack) (ds : List Directive) :
    (t.lines ++ ds).foldlM (step evaluateExpression) p
      = check evaluateExpression t.conditions >>= fun _ ↦
          ds.foldlM (step evaluateExpression)
            (p.writesIf (renders p.blockStack) (t.render (holds evaluateExpression))) := by
  match t with
  | .nil =>
    have hwrites : p.writesIf (renders p.blockStack) [] = p := by simp [Pass.writesIf]
    rw [Template.lines, Template.conditions, Template.render, hwrites]
    rfl
  | .line text rest =>
    have happend := p.writesIf_append (renders p.blockStack) [text]
      (rest.render (holds evaluateExpression))
    have hrest := foldlM_template rest (p.writesIf (renders p.blockStack) [text])
      (by rwa [Pass.blockStack_writesIf]) ds
    rw [Pass.blockStack_writesIf, ← happend] at hrest
    rw [Template.lines, Template.conditions, Template.render, List.cons_append, List.foldlM_cons,
      step_text]
    exact hrest
  | .stray d ignored rest =>
    rw [Template.lines, Template.conditions, Template.render, List.cons_append, List.foldlM_cons,
      step_of_ignores ignored hfits]
    exact foldlM_template rest p hfits ds
  | .block condition body branches rest =>
    rw [Template.lines, Template.conditions, Template.render, List.cons_append, List.foldlM_cons]
    rcases h : evaluateExpression condition with e | result
    · rw [check_cons_error h, step, h]
      rfl
    · have hbody := foldlM_template body
        (p.withStack (⟨.ifBlock, result, renders p.blockStack && result, renders p.blockStack⟩
          :: p.blockStack)) ⟨_, _, rfl, by simp⟩ (branches.lines ++ (rest.lines ++ ds))
      rw [Pass.writesIf_withStack] at hbody
      rw [check_cons_ok h, step_ifBlock h, holds_of_ok h, check_append, check_append, bind_assoc,
        List.append_assoc, List.append_assoc]
      refine hbody.trans (bind_congr fun _ ↦ ?_)
      rw [foldlM_branches branches _ _ _ (by simp), bind_assoc]
      refine bind_congr fun _ ↦ ?_
      have hrest := foldlM_template rest
        (p.writesIf (renders p.blockStack) (if result then body.render (holds evaluateExpression)
          else branches.render (holds evaluateExpression))) (by rwa [Pass.blockStack_writesIf]) ds
      rw [Pass.blockStack_writesIf, ← Pass.writesIf_append] at hrest
      refine Eq.trans ?_ hrest
      rw [← Pass.writesIf_writesIf, Pass.writesIf_withStack_blockStack]
      rfl

/-- The branches of a block write what is rendered of them, if no condition before them held. -/
theorem foldlM_branches (b : Branches) (p : Pass) (top : BlockState) (stack : List BlockState)
    (htype : top.type ≠ .elseBlock) (ds : List Directive) :
    (b.lines ++ ds).foldlM (step evaluateExpression) (p.withStack (top :: stack))
      = check evaluateExpression b.conditions >>= fun _ ↦
          ds.foldlM (step evaluateExpression)
            ((p.withStack stack).writesIf (top.parentRender && !top.conditionMatched)
              (b.render (holds evaluateExpression))) := by
  match b with
  | .endif =>
    have hwrites : (p.withStack stack).writesIf (top.parentRender && !top.conditionMatched) []
        = p.withStack stack := by simp [Pass.writesIf]
    rw [Branches.lines, Branches.conditions, Branches.render, hwrites]
    rfl
  | .elifBlock condition body more =>
    rw [Branches.lines, Branches.conditions, Branches.render, List.cons_append, List.foldlM_cons]
    rcases h : evaluateExpression condition with e | result
    · rw [check_cons_error h, step, Pass.blockStack_withStack]
      simp only [if_neg htype, h]
      rfl
    · rw [check_cons_ok h, step_elifBlock h htype, holds_of_ok h, check_append, bind_assoc,
        List.append_assoc]
      have hbody := foldlM_template body
        (p.withStack (⟨.elifBlock, top.conditionMatched || result,
          top.parentRender && !top.conditionMatched && result, top.parentRender⟩ :: stack))
        ⟨_, _, rfl, by simp⟩ (more.lines ++ ds)
      rw [Pass.writesIf_withStack] at hbody
      refine hbody.trans (bind_congr fun _ ↦ ?_)
      rw [foldlM_branches more _ _ _ (by simp), ← Pass.writesIf_writesIf _ _ result]
      refine bind_congr fun _ ↦ ?_
      rw [Pass.writesIf_withStack, Pass.writesIf_withStack, Pass.writesIf_withStack, Bool.not_or,
        ← Bool.and_assoc]
      rfl
  | .elseBlock body =>
    have hbody := foldlM_template body
      (p.withStack (⟨.elseBlock, top.conditionMatched,
        top.parentRender && !top.conditionMatched, top.parentRender⟩ :: stack))
      ⟨_, _, rfl, rfl, rfl⟩ (.endif :: ds)
    rw [Pass.writesIf_withStack] at hbody
    rw [Branches.lines, Branches.conditions, Branches.render, List.cons_append, List.foldlM_cons,
      step_elseBlock, List.append_assoc]
    refine hbody.trans (bind_congr fun _ ↦ ?_)
    rw [List.foldlM_cons, step_endif, Pass.writesIf_withStack]
    rfl

end

/-! ## Every script is read

A template is read greedily, as far as its place allows. What stops it is the next branch or the end
of the block, or that nothing is left; a block that is still open then gets the `endif` that the
script does not have. The induction is on the number of lines, since what follows a block is a part
of the list that is not its tail. -/

/-- Where a template cannot go on. -/
def Place.Stops : Place → List Directive → Prop
  | .outside, ds => ds = []
  | .branch, ds => ds = [] ∨ (∃ condition ds', ds = .elifBlock condition :: ds') ∨
      (∃ ds', ds = .elseBlock :: ds') ∨ ∃ ds', ds = .endif :: ds'
  | .lastBranch, ds => ds = [] ∨ ∃ ds', ds = .endif :: ds'

theorem Place.stops_nil (place : Place) : place.Stops [] := by
  rcases place with _ | _ | _
  · rfl
  · exact .inl rfl
  · exact .inl rfl

theorem Place.stops_cons {place : Place} {d : Directive} (h : place.ignores d = false)
    (htext : ∀ line, d ≠ .text line) (hif : ∀ condition, d ≠ .ifBlock condition)
    (ds : List Directive) : place.Stops (d :: ds) := by
  rcases place with _ | _ | _ <;> rcases d with _ | _ | _ | _ | _ <;>
    simp_all [Place.ignores, Place.Stops]

/-- `ds`, with `k` more ends of blocks if it is used up, begins with `lines`. -/
structure Begins (ds lines rest : List Directive) (k : ℕ) : Prop where
  eq : ds ++ List.replicate k .endif = lines ++ rest
  used_up : k = 0 ∨ rest = []

theorem begins_append (lines rest : List Directive) : Begins (lines ++ rest) lines rest 0 :=
  ⟨List.append_nil _, .inl rfl⟩

theorem begins_endif : Begins [] [.endif] [] 1 := ⟨rfl, .inr rfl⟩

theorem Begins.cons {ds lines rest : List Directive} {k : ℕ} (h : Begins ds lines rest k)
    (d : Directive) : Begins (d :: ds) (d :: lines) rest k :=
  ⟨by rw [List.cons_append, List.cons_append, h.eq], h.used_up⟩

theorem Begins.length_le {ds lines rest : List Directive} {k : ℕ} (h : Begins ds lines rest k) :
    rest.length ≤ ds.length := by
  obtain ⟨heq, rfl | rfl⟩ := h
  · have hlength := congrArg List.length heq
    simp only [List.replicate_zero, List.append_nil, List.length_append] at hlength
    omega
  · exact Nat.zero_le _

theorem Begins.trans {ds first mid second rest : List Directive} {k k' : ℕ}
    (h : Begins ds first mid k) (h' : Begins mid second rest k') :
    Begins ds (first ++ second) rest (k + k') := by
  obtain ⟨heq, hk⟩ := h
  obtain ⟨heq', hk'⟩ := h'
  refine ⟨?_, ?_⟩
  · rw [List.replicate_add, ← List.append_assoc, heq, List.append_assoc, heq', List.append_assoc]
  · rcases hk with rfl | rfl
    · rwa [Nat.zero_add]
    · rcases hk' with rfl | hrest
      · exact .inr (List.append_eq_nil_iff.mp heq'.symm).2
      · exact .inr hrest

/-- A block ends with its `endif`, or with the script. -/
theorem Begins.endif {ds lines rest : List Directive} {k : ℕ} (h : Begins ds lines rest k)
    (hstops : rest = [] ∨ ∃ ds', rest = .endif :: ds') :
    ∃ rest' k', Begins ds (lines ++ [.endif]) rest' k' := by
  rcases hstops with rfl | ⟨ds', rfl⟩
  · exact ⟨[], k + 1, h.trans begins_endif⟩
  · exact ⟨ds', k + 0, h.trans (begins_append [.endif] ds')⟩

/-- Lines are read as far as a place allows, and a block up to its end. -/
theorem exists_begins (ds : List Directive) :
    (∀ place : Place, ∃ (t : Template place) (rest : List Directive) (k : ℕ),
      Begins ds t.lines rest k ∧ place.Stops rest) ∧
    ∃ (body : Template .branch) (b : Branches) (rest : List Directive) (k : ℕ),
      Begins ds (body.lines ++ b.lines) rest k := by
  induction hn : ds.length using Nat.strong_induction_on generalizing ds with
  | _ n ih =>
    have hlines : ∀ place : Place, ∃ (t : Template place) (rest : List Directive) (k : ℕ),
        Begins ds t.lines rest k ∧ place.Stops rest := by
      intro place
      rcases ds with _ | ⟨d, ds⟩
      · exact ⟨.nil, [], 0, begins_append [] [], place.stops_nil⟩
      obtain ⟨hall, body, b, rest, k, hblock⟩ := ih ds.length (by simp [← hn]) ds rfl
      obtain ⟨t, rest', k', ht, hstops⟩ := hall place
      by_cases hignored : place.ignores d = true
      · exact ⟨.stray d hignored t, rest', k', ht.cons d, hstops⟩
      rw [Bool.not_eq_true] at hignored
      by_cases htext : ∃ line, d = .text line
      · obtain ⟨line, rfl⟩ := htext
        exact ⟨.line line t, rest', k', ht.cons _, hstops⟩
      by_cases hif : ∃ condition, d = .ifBlock condition
      · obtain ⟨condition, rfl⟩ := hif
        have hlength := hblock.length_le
        obtain ⟨t, rest', k', ht, hstops⟩ :=
          (ih rest.length (by rw [← hn, List.length_cons]; omega) rest rfl).1 place
        refine ⟨.block condition body b t, rest', k + k', ?_, hstops⟩
        rw [Template.lines, ← List.append_assoc]
        exact (hblock.trans ht).cons _
      · exact ⟨.nil, d :: ds, 0, begins_append [] _,
          Place.stops_cons hignored (not_exists.mp htext) (not_exists.mp hif) ds⟩
    refine ⟨hlines, ?_⟩
    obtain ⟨body, rest, k, hbody, hstops⟩ := hlines .branch
    have hlength := hbody.length_le
    have hends : (rest = [] ∨ ∃ ds', rest = .endif :: ds') ∨
        (∃ condition ds', rest = .elifBlock condition :: ds') ∨
        ∃ ds', rest = .elseBlock :: ds' := by
      rcases hstops with h | h | h | h
      · exact .inl (.inl h)
      · exact .inr (.inl h)
      · exact .inr (.inr h)
      · exact .inl (.inr h)
    rcases hends with hend | ⟨condition, ds', rfl⟩ | ⟨ds', rfl⟩
    · obtain ⟨rest', k', h⟩ := hbody.endif hend
      exact ⟨body, .endif, rest', k', h⟩
    · rw [List.length_cons, hn] at hlength
      obtain ⟨-, body', b, rest, k', h⟩ := ih ds'.length hlength ds' rfl
      exact ⟨body, .elifBlock condition body' b, rest, k + k', hbody.trans (h.cons _)⟩
    · rw [List.length_cons, hn] at hlength
      obtain ⟨body', rest, k', h, hstops⟩ := (ih ds'.length hlength ds' rfl).1 .lastBranch
      obtain ⟨rest', k'', h⟩ := (h.cons .elseBlock).endif hstops
      exact ⟨body, .elseBlock body', rest', k + k'', hbody.trans h⟩

/-- `t` is what the script says, with ends for the blocks that are not closed. -/
def Reads (scriptCode : Text) (t : Template .outside) : Prop :=
  ∃ k, (getlines scriptCode).map directive ++ List.replicate k .endif = t.lines

/-- **Every script says something.** -/
theorem exists_reads (scriptCode : Text) : ∃ t, Reads scriptCode t := by
  obtain ⟨t, rest, k, h, hstops⟩ :=
    (exists_begins ((getlines scriptCode).map directive)).1 .outside
  obtain rfl : rest = [] := hstops
  exact ⟨t, k, h.eq.trans (List.append_nil _)⟩

/-! ## The text that is written -/

theorem output_writes {p : Pass} (h : p.firstLine = false) (lines : List Text) :
    (p.writes lines).output = p.output ++ lines.flatMap ('\n' :: ·) := by
  induction lines generalizing p with
  | nil => simp
  | cons line lines ih =>
    change ((p.write line).writes lines).output = _
    rw [ih rfl, List.flatMap_cons, ← List.append_assoc, Pass.write, h]
    rfl

theorem intercalate_cons (line : Text) (lines : List Text) :
    ['\n'].intercalate (line :: lines) = line ++ lines.flatMap ('\n' :: ·) := by
  induction lines generalizing line with
  | nil => simp [List.intercalate]
  | cons next lines ih =>
    have hcons : ['\n'].intercalate (line :: next :: lines)
        = line ++ '\n' :: ['\n'].intercalate (next :: lines) := rfl
    rw [hcons, ih next, List.flatMap_cons, List.cons_append]

/-- The lines, with line breaks between them. -/
theorem output_writes_first (lines : List Text) :
    (Pass.writes ⟨[], [], true⟩ lines).output = ['\n'].intercalate lines := by
  rcases lines with _ | ⟨line, lines⟩
  · rfl
  · change ((Pass.write ⟨[], [], true⟩ line).writes lines).output = _
    rw [output_writes rfl, intercalate_cons]
    rfl

/-- Ends of blocks write nothing. -/
theorem output_replicate (k : ℕ) (p : Pass) :
    ∃ p', (List.replicate k Directive.endif).foldlM (step evaluateExpression) p = .ok p' ∧
      p'.output = p.output := by
  induction k generalizing p with
  | zero => exact ⟨p, rfl, rfl⟩
  | succ k ih => exact ih { p with blockStack := p.blockStack.tail }

theorem replaceConditionals_of_reads {scriptCode : Text} {t : Template .outside}
    (h : Reads scriptCode t) :
    replaceConditionals evaluateExpression scriptCode
      = (check evaluateExpression t.conditions).map fun _ ↦
          ['\n'].intercalate (t.render (holds evaluateExpression)) := by
  obtain ⟨k, hk⟩ := h
  have hfold := @foldlM_template ε evaluateExpression .outside t ⟨[], [], true⟩ rfl []
  rw [List.append_nil, ← hk, List.foldlM_append] at hfold
  rw [replaceConditionals]
  rcases hlines : ((getlines scriptCode).map directive).foldlM (step evaluateExpression)
    ⟨[], [], true⟩ with e | p
  · rw [hlines] at hfold
    rcases hcheck : check evaluateExpression t.conditions with e' | _
    · rw [hcheck] at hfold
      exact congrArg _ (Except.error.inj hfold)
    · rw [hcheck] at hfold
      cases hfold
  · obtain ⟨p', hends, houtput⟩ := @output_replicate ε evaluateExpression k p
    rw [hlines] at hfold
    replace hfold := hends.symm.trans hfold
    rcases hcheck : check evaluateExpression t.conditions with e' | _
    · rw [hcheck] at hfold
      cases hfold
    · rw [hcheck] at hfold
      have hp := congrArg Pass.output (Except.ok.inj hfold)
      rw [houtput] at hp
      exact congrArg Except.ok (hp.trans (output_writes_first _))

/-- **The conditionals of a script**, whatever its lines are: it says something, and whatever it is
read as, the result is the first condition in it that cannot be evaluated, in a branch that is taken
or in one that is not, or else its rendering. -/
theorem replaceConditionals_eq (evaluateExpression : Text → Except ε Bool) (scriptCode : Text) :
    (∃ t, Reads scriptCode t) ∧
    ∀ t, Reads scriptCode t →
      replaceConditionals evaluateExpression scriptCode
        = (check evaluateExpression t.conditions).map fun _ ↦
            ['\n'].intercalate (t.render (holds evaluateExpression)) :=
  ⟨exists_reads scriptCode, fun _ ↦ replaceConditionals_of_reads⟩

/-- A block that is not closed, behind a line that closes nothing. -/
def openScript : Text :=
  ("\x7b% endif %\x7d\n\x7b% if is_guest %\x7d\n\x7b%if x == 1 %\x7d\na\n\x7b%else%\x7d\nb\n" ++
    "\x7b%endif%\x7d\n\x7b% else %\x7d\nc").toList

def openTemplate : Template .outside :=
  .stray .endif rfl <| .block "is_guest".toList
    (.block "x == 1".toList (.line "a".toList .nil) (.elseBlock (.line "b".toList .nil)) .nil)
    (.elseBlock (.line "c".toList .nil)) .nil

theorem replaceConditionals_eq_open :
    replaceConditionals (fun condition ↦ (.ok (condition = "is_guest".toList) : Except Empty Bool))
        openScript
      = .ok "b".toList :=
  ((replaceConditionals_eq _ openScript).2 openTemplate ⟨1, by decide +kernel⟩).trans
    (by decide +kernel)

end VzletUr3e.ScriptReader
