import Mathlib

/-!
# Python's csv module

The `excel` dialect: commas, double quotes that are doubled inside a quoted field, and not strict. A
file opened with `newline=""` is a list of lines that keep their ends; the reader is the state
machine of `_csv.c`, which sees the characters of a line and then its end.

Lines can be appended to a text: when the reader rests between records, a row that is written comes
back as one record more. When it waits for a closing quote, all that is appended without a quote
goes into the open field.

The limit on the length of a field is left out.
-/

namespace Csv

/-! ## Lines -/

/-- The lines of a text whose first line begins with a character more. -/
def consLine (c : Char) : List (List Char) → List (List Char)
  | [] => [[c]]
  | line :: rest => (c :: line) :: rest

/-- The lines of a text, with their ends. -/
def lines : List Char → List (List Char)
  | [] => []
  | '\n' :: text => ['\n'] :: lines text
  | '\r' :: '\n' :: text => ['\r', '\n'] :: lines text
  | '\r' :: text => ['\r'] :: lines text
  | c :: text => consLine c (lines text)

theorem flatten_consLine (c : Char) (ls : List (List Char)) :
    (consLine c ls).flatten = c :: ls.flatten := by
  cases ls <;> rfl

theorem consLine_append {c : Char} {ls : List (List Char)} (h : ls ≠ []) (ls' : List (List Char)) :
    consLine c (ls ++ ls') = consLine c ls ++ ls' := by
  cases ls with
  | nil => exact absurd rfl h
  | cons line rest => rfl

theorem lines_cr {text : List Char} (h : ∀ t, text ≠ '\n' :: t) :
    lines ('\r' :: text) = ['\r'] :: lines text := by
  rw [lines]
  exact h

theorem lines_inner {c : Char} (hlf : c ≠ '\n') (hcr : c ≠ '\r') (text : List Char) :
    lines (c :: text) = consLine c (lines text) := by
  rw [lines]
  · exact hlf
  · exact fun _ hc _ ↦ hcr hc
  · exact hcr

/-- The lines make up the text. -/
theorem flatten_lines (text : List Char) : (lines text).flatten = text := by
  induction text using lines.induct with
  | case1 => rfl
  | case2 text ih => rw [lines, List.flatten_cons, ih]; rfl
  | case3 text ih => rw [lines, List.flatten_cons, ih]; rfl
  | case4 text h ih => rw [lines_cr h, List.flatten_cons, ih]; rfl
  | case5 c text hlf _ hcr ih => rw [lines_inner hlf hcr, flatten_consLine, ih]

theorem lines_ne_nil {text : List Char} (h : text ≠ []) : lines text ≠ [] := by
  intro hnil
  have hflat := flatten_lines text
  rw [hnil] at hflat
  exact h hflat.symm

/-- A text that is empty or ends with a newline. -/
def Ended (text : List Char) : Prop := text = [] ∨ text.getLast? = some '\n'

theorem ended_cons {c : Char} {text : List Char} (h : text ≠ []) :
    Ended (c :: text) ↔ Ended text := by
  rw [Ended, Ended, List.getLast?_cons_of_ne_nil h]
  simp [h]

/-- What follows a newline is ended with it. -/
theorem ended_newline {text : List Char} : Ended ('\n' :: text) ↔ Ended text := by
  by_cases hnil : text = []
  · subst hnil
    simp [Ended]
  · exact ended_cons hnil

/-- Another character ends nothing, so something follows it. -/
theorem Ended.tail {c : Char} {text : List Char} (h : Ended (c :: text)) (hc : c ≠ '\n') :
    text ≠ [] ∧ Ended text := by
  by_cases hnil : text = []
  · subst hnil
    rw [Ended, List.getLast?_singleton] at h
    simp [hc] at h
  · exact ⟨hnil, (ended_cons hnil).mp h⟩

/-- What follows a carriage return starts with a newline no more when something is appended. -/
theorem append_ne_newline {text : List Char} (hne : text ≠ []) (h : ∀ t, text ≠ '\n' :: t)
    (b : List Char) : ∀ t, text ++ b ≠ '\n' :: t := by
  intro t ht
  cases text with
  | nil => exact hne rfl
  | cons d text => exact h text (by rw [(List.cons.inj ht).1])

/-- **Lines can be appended** to a text that is ended. -/
theorem lines_append {a : List Char} (h : Ended a) (b : List Char) :
    lines (a ++ b) = lines a ++ lines b := by
  induction a using lines.induct with
  | case1 => rfl
  | case2 text ih =>
    rw [List.cons_append, lines, lines, ih (ended_newline.mp h)]
    rfl
  | case3 text ih =>
    have htext := ended_newline.mp ((ended_cons (List.cons_ne_nil _ _)).mp h)
    rw [List.cons_append, List.cons_append, lines, lines, ih htext]
    rfl
  | case4 text hlf ih =>
    obtain ⟨hne, htext⟩ := h.tail (by simp)
    rw [List.cons_append, lines_cr (append_ne_newline hne hlf b), lines_cr hlf, ih htext]
    rfl
  | case5 c text hlf hcrlf hcr ih =>
    obtain ⟨hne, htext⟩ := h.tail hlf
    rw [List.cons_append, lines_inner hlf hcr, lines_inner hlf hcr, ih htext,
      consLine_append (lines_ne_nil hne)]

/-- A newline behind a text that is not ended goes to its last line. -/
theorem lines_concat {a : List Char} (h : ¬ Ended a) : ∃ init last,
    lines a = init ++ [last] ∧ lines (a ++ ['\n']) = init ++ [last ++ ['\n']] := by
  induction a using lines.induct with
  | case1 => exact absurd (.inl rfl) h
  | case2 text ih =>
    obtain ⟨init, last, ha, hb⟩ := ih fun htext ↦ h (ended_newline.mpr htext)
    refine ⟨['\n'] :: init, last, ?_, ?_⟩
    · rw [lines, ha]
      rfl
    · rw [List.cons_append, lines, hb]
      rfl
  | case3 text ih =>
    obtain ⟨init, last, ha, hb⟩ := ih fun htext ↦
      h ((ended_cons (List.cons_ne_nil _ _)).mpr (ended_newline.mpr htext))
    refine ⟨['\r', '\n'] :: init, last, ?_, ?_⟩
    · rw [lines, ha]
      rfl
    · rw [List.cons_append, List.cons_append, lines, hb]
      rfl
  | case4 text hlf ih =>
    -- a carriage return at the end takes the newline to itself
    by_cases hnil : text = []
    · subst hnil
      exact ⟨[], ['\r'], rfl, rfl⟩
    · obtain ⟨init, last, ha, hb⟩ := ih fun htext ↦ h ((ended_cons hnil).mpr htext)
      refine ⟨['\r'] :: init, last, ?_, ?_⟩
      · rw [lines_cr hlf, ha]
        rfl
      · rw [List.cons_append, lines_cr (append_ne_newline hnil hlf _), hb]
        rfl
  | case5 c text hlf hcrlf hcr ih =>
    by_cases hnil : text = []
    · subst hnil
      refine ⟨[], [c], ?_, ?_⟩
      · rw [lines_inner hlf hcr]
        rfl
      · rw [List.cons_append, lines_inner hlf hcr]
        rfl
    · obtain ⟨init, last, ha, hb⟩ := ih fun htext ↦ h ((ended_cons hnil).mpr htext)
      rw [lines_inner hlf hcr, List.cons_append, lines_inner hlf hcr, ha, hb]
      cases init with
      | nil => exact ⟨[], c :: last, rfl, rfl⟩
      | cons line init => exact ⟨(c :: line) :: init, last, rfl, rfl⟩

/-- A text without ends of lines, and an end of line, are one line. -/
theorem lines_of_inner {text : List Char} (h : ∀ c ∈ text, c ≠ '\n' ∧ c ≠ '\r') :
    lines (text ++ ['\r', '\n']) = [text ++ ['\r', '\n']] := by
  induction text with
  | nil => rfl
  | cons c text ih =>
    obtain ⟨⟨hlf, hcr⟩, htext⟩ := List.forall_mem_cons.mp h
    rw [List.cons_append, lines_inner hlf hcr, ih htext]
    rfl

/-! ## The reader -/

inductive State
  | startRecord
  | startField
  | inField
  | inQuotedField
  | quoteInQuotedField
  | eatCrnl
deriving DecidableEq, Repr

/-- The error of the module: "new-line character seen in unquoted field". -/
inductive Error
  | newLineInUnquotedField
deriving DecidableEq, Repr

/-- The reader, with the record it works on and the records it has returned. -/
structure Reader where
  state : State
  field : List Char
  fields : List (List Char)
  records : List (List (List Char))

namespace Reader

/-- `parse_add_char`, going on in another state. -/
def addChar (r : Reader) (c : Char) (state : State) : Reader :=
  { r with field := r.field ++ [c], state := state }

/-- `parse_save_field`, going on in another state. -/
def saveField (r : Reader) (state : State) : Reader :=
  { r with field := [], fields := r.fields ++ [r.field], state := state }

def goOn (r : Reader) (state : State) : Reader := { r with state := state }

/-- A character where a field is expected. -/
def startField (r : Reader) (c : Char) : Reader :=
  if c = '\n' ∨ c = '\r' then r.saveField .eatCrnl
  else if c = '"' then r.goOn .inQuotedField
  else if c = ',' then r.saveField .startField
  else r.addChar c .inField

/-- `parse_process_char` for a character of a line. -/
def processChar (r : Reader) (c : Char) : Except Error Reader :=
  match r.state with
  | .startRecord => if c = '\n' ∨ c = '\r' then .ok (r.goOn .eatCrnl) else .ok (r.startField c)
  | .startField => .ok (r.startField c)
  | .inField =>
    if c = '\n' ∨ c = '\r' then .ok (r.saveField .eatCrnl)
    else if c = ',' then .ok (r.saveField .startField)
    else .ok (r.addChar c .inField)
  | .inQuotedField =>
    if c = '"' then .ok (r.goOn .quoteInQuotedField) else .ok (r.addChar c .inQuotedField)
  | .quoteInQuotedField =>
    if c = '"' then .ok (r.addChar c .inQuotedField)
    else if c = ',' then .ok (r.saveField .startField)
    else if c = '\n' ∨ c = '\r' then .ok (r.saveField .eatCrnl)
    else .ok (r.addChar c .inField)
  | .eatCrnl => if c = '\n' ∨ c = '\r' then .ok r else .error .newLineInUnquotedField

/-- `parse_process_char` at the end of a line. -/
def processEol (r : Reader) : Reader :=
  match r.state with
  | .startRecord => r
  | .startField => r.saveField .startRecord
  | .inField => r.saveField .startRecord
  | .inQuotedField => r
  | .quoteInQuotedField => r.saveField .startRecord
  | .eatCrnl => r.goOn .startRecord

/-- `Reader_iternext` behind a line: the record is returned unless a quote is open. -/
def endLine (r : Reader) : Reader :=
  if r.state = .startRecord then ⟨.startRecord, [], [], r.records ++ [r.fields]⟩ else r

/-- One line. -/
def readLine (r : Reader) (line : List Char) : Except Error Reader := do
  let r ← line.foldlM processChar r
  return r.processEol.endLine

/-- The records at the end of the input. -/
def finish (r : Reader) : List (List (List Char)) :=
  if r.field ≠ [] ∨ r.state = .inQuotedField then r.records ++ [r.fields ++ [r.field]]
  else r.records

end Reader

/-- All lines of a text. -/
def readLines (text : List Char) : Except Error Reader :=
  (lines text).foldlM Reader.readLine ⟨.startRecord, [], [], []⟩

/-- The records of a text. -/
def read (text : List Char) : Except Error (List (List (List Char))) := do
  let r ← readLines text
  return r.finish

/-! ## The writer -/

/-- A character for which `QUOTE_MINIMAL` quotes a field. -/
def isSpecial (c : Char) : Bool := c = ',' ∨ c = '"' ∨ c = '\r' ∨ c = '\n'

def writeField (field : List Char) : List Char :=
  if field.any isSpecial then
    ['"'] ++ field.flatMap (fun c ↦ if c = '"' then ['"', '"'] else [c]) ++ ['"']
  else field

/-- `writerow`. A row of one empty field is quoted. -/
def writerow (fields : List (List Char)) : List Char :=
  (if fields = [[]] then ['"', '"'] else [','].intercalate (fields.map writeField)) ++ ['\r', '\n']

/-! ## What is read back -/

namespace Reader

/-- A reader between records, or one that waits for a closing quote. -/
inductive AtLine : Reader → Prop
  | rest (records : List (List (List Char))) : AtLine ⟨.startRecord, [], [], records⟩
  | quoted (field : List Char) (fields : List (List Char)) (records : List (List (List Char))) :
    AtLine ⟨.inQuotedField, field, fields, records⟩

/-- The end of a line leaves the reader between records or in a quote. -/
theorem atLine_endLine (r : Reader) : AtLine r.processEol.endLine := by
  obtain ⟨state, field, fields, records⟩ := r
  cases state with
  | inQuotedField => exact .quoted _ _ _
  | _ => exact .rest _

theorem readLine_eq_ok_iff {r r' : Reader} {line : List Char} : r.readLine line = .ok r' ↔
    ∃ s, line.foldlM processChar r = .ok s ∧ r' = s.processEol.endLine := by
  rw [readLine]
  cases line.foldlM processChar r with
  | error e =>
    constructor
    · intro h
      cases h
    · rintro ⟨_, ⟨⟩, _⟩
  | ok s =>
    constructor
    · rintro ⟨⟩
      exact ⟨s, rfl, rfl⟩
    · rintro ⟨_, ⟨⟩, rfl⟩
      rfl

/-- A newline in an open quote. -/
def newline (r : Reader) : Reader :=
  if r.state = .inQuotedField then r.addChar '\n' .inQuotedField else r

/-- A newline behind a line matters in an open quote only. -/
theorem readLine_concat {r r' : Reader} {line : List Char} (h : r.readLine line = .ok r') :
    r.readLine (line ++ ['\n']) = .ok r'.newline := by
  obtain ⟨s, hs, rfl⟩ := readLine_eq_ok_iff.mp h
  have hstep : ∃ s', s.processChar '\n' = .ok s' ∧
      s'.processEol.endLine = s.processEol.endLine.newline := by
    -- only an open quote keeps the newline
    obtain ⟨state, field, fields, records⟩ := s
    cases state <;> exact ⟨_, rfl, rfl⟩
  obtain ⟨s', hs', hline⟩ := hstep
  refine readLine_eq_ok_iff.mpr ⟨s', ?_, hline.symm⟩
  rw [List.foldlM_append, hs]
  change s.processChar '\n' >>= pure = _
  rw [hs']
  rfl

/-- Text without a quote goes into the open field. -/
theorem foldlM_quoted {text : List Char} (h : '"' ∉ text) : ∀ (field : List Char)
    (fields : List (List Char)) (records : List (List (List Char))),
    text.foldlM processChar ⟨.inQuotedField, field, fields, records⟩
      = .ok ⟨.inQuotedField, field ++ text, fields, records⟩ := by
  induction text with
  | nil =>
    intro field fields records
    rw [List.append_nil]
    rfl
  | cons c text ih =>
    intro field fields records
    obtain ⟨hc, htext⟩ := not_or.mp (fun hmem ↦ h (List.mem_cons.mpr hmem))
    have hstep : processChar ⟨.inQuotedField, field, fields, records⟩ c
        = .ok ⟨.inQuotedField, field ++ [c], fields, records⟩ := if_neg (Ne.symm hc)
    rw [List.foldlM_cons, hstep]
    change text.foldlM processChar _ = _
    rw [ih htext, List.append_assoc]
    rfl

/-- So do whole lines without a quote. -/
theorem readLine_quoted {line : List Char} (h : '"' ∉ line) (field : List Char)
    (fields : List (List Char)) (records : List (List (List Char))) :
    readLine ⟨.inQuotedField, field, fields, records⟩ line
      = .ok ⟨.inQuotedField, field ++ line, fields, records⟩ :=
  readLine_eq_ok_iff.mpr ⟨_, foldlM_quoted h _ _ _, rfl⟩

/-- A field that needs no quotes. -/
def Plain (field : List Char) : Prop := ∀ c ∈ field, isSpecial c = false

theorem processChar_plain {c : Char} (h : isSpecial c = false) {r : Reader}
    (hr : r.state = .startRecord ∨ r.state = .startField ∨ r.state = .inField) :
    r.processChar c = .ok (r.addChar c .inField) := by
  rw [isSpecial, decide_eq_false_iff_not, not_or, not_or, not_or] at h
  obtain ⟨hcomma, hquote, hcr, hlf⟩ := h
  have hline : ¬ (c = '\n' ∨ c = '\r') := not_or.mpr ⟨hlf, hcr⟩
  have hstart : r.startField c = r.addChar c .inField := by
    rw [startField, if_neg hline, if_neg hquote, if_neg hcomma]
  rw [processChar]
  rcases hr with hr | hr | hr
  · rw [hr]
    simp only [if_neg hline, hstart]
  · rw [hr]
    simp only [hstart]
  · rw [hr]
    simp only [if_neg hline, if_neg hcomma]

/-- The characters of a plain field. -/
theorem foldlM_plain {text : List Char} (h : Plain text) (field : List Char)
    (fields : List (List Char)) (records : List (List (List Char))) (state : State)
    (hstate : state = .startRecord ∨ state = .startField ∨ state = .inField) :
    (text = [] ∧ text.foldlM processChar ⟨state, field, fields, records⟩
        = .ok ⟨state, field, fields, records⟩) ∨
      text.foldlM processChar ⟨state, field, fields, records⟩
        = .ok ⟨.inField, field ++ text, fields, records⟩ := by
  induction text generalizing field state with
  | nil => exact .inl ⟨rfl, rfl⟩
  | cons c text ih =>
    obtain ⟨hc, htext⟩ := List.forall_mem_cons.mp h
    right
    rw [List.foldlM_cons, processChar_plain hc hstate]
    change text.foldlM processChar ⟨.inField, field ++ [c], fields, records⟩ = _
    rcases ih htext (field ++ [c]) .inField (by tauto) with ⟨rfl, hrest⟩ | hrest
    · exact hrest
    · rw [hrest, List.append_assoc]
      rfl

/-- A plain field and the comma behind it. -/
theorem foldlM_field {field : List Char} (h : Plain field) (fields : List (List Char))
    (records : List (List (List Char))) {state : State}
    (hstate : state = .startRecord ∨ state = .startField) :
    (field ++ [',']).foldlM processChar ⟨state, [], fields, records⟩
      = .ok ⟨.startField, [], fields ++ [field], records⟩ := by
  rw [List.foldlM_append]
  rcases foldlM_plain h [] fields records state (by tauto) with ⟨rfl, hfield⟩ | hfield
  · rw [hfield]
    rcases hstate with rfl | rfl <;> rfl
  · rw [hfield]
    rfl

/-- A row is its first field, a comma, and the rest. -/
theorem intercalate_split (field field' : List Char) (row : List (List Char)) (tail : List Char) :
    [','].intercalate (field :: field' :: row) ++ tail
      = (field ++ [',']) ++ ([','].intercalate (field' :: row) ++ tail) := by
  rw [List.intercalate_cons_cons, List.append_assoc, List.append_assoc]

/-- The characters of a row are commas and plain ones. -/
theorem mem_intercalate_plain {row : List (List Char)} (h : ∀ field ∈ row, Plain field) {c : Char}
    (hc : c ∈ [','].intercalate row) : c = ',' ∨ isSpecial c = false := by
  induction row with
  | nil => cases hc
  | cons field row ih =>
    obtain ⟨hfield, hrow⟩ := List.forall_mem_cons.mp h
    cases row with
    | nil =>
      rw [List.intercalate_singleton] at hc
      exact .inr (hfield c hc)
    | cons field' row =>
      rw [List.intercalate_cons_cons, List.append_assoc, List.mem_append, List.mem_append,
        List.mem_singleton] at hc
      rcases hc with hc | hc | hc
      · exact .inr (hfield c hc)
      · exact .inl hc
      · exact ih hrow hc

/-- The fields of a row and its end. -/
theorem foldlM_row {row : List (List Char)} (hne : row ≠ []) (h : ∀ field ∈ row, Plain field)
    (fields : List (List Char)) (records : List (List (List Char))) :
    ([','].intercalate row ++ ['\r', '\n']).foldlM processChar ⟨.startField, [], fields, records⟩
      = .ok ⟨.eatCrnl, [], fields ++ row, records⟩ := by
  induction row generalizing fields with
  | nil => exact absurd rfl hne
  | cons field row ih =>
    obtain ⟨hfield, hrow⟩ := List.forall_mem_cons.mp h
    cases row with
    | nil =>
      rw [List.intercalate_singleton, List.foldlM_append]
      rcases foldlM_plain hfield [] fields records .startField (by tauto) with ⟨rfl, hread⟩ | hread
      · rw [hread]
        rfl
      · rw [hread]
        rfl
    | cons field' row =>
      rw [intercalate_split, List.foldlM_append, foldlM_field hfield fields records (.inr rfl)]
      change List.foldlM processChar _ _ = _
      rw [ih (by simp) hrow, List.append_assoc]
      rfl

theorem writeField_plain {field : List Char} (h : Plain field) : writeField field = field := by
  rw [writeField, if_neg]
  rw [List.any_eq_true]
  rintro ⟨c, hc, hspecial⟩
  rw [h c hc] at hspecial
  cases hspecial

/-- A row of plain fields is written as it is. -/
theorem writerow_plain {row : List (List Char)} (hlen : 2 ≤ row.length)
    (h : ∀ field ∈ row, Plain field) :
    writerow row = [','].intercalate row ++ ['\r', '\n'] := by
  have hmap : row.map writeField = row := by
    rw [List.map_congr_left fun field hfield ↦ writeField_plain (h field hfield), List.map_id']
  rw [writerow, if_neg, hmap]
  rintro rfl
  simp at hlen

/-- It has no quotes. -/
theorem quote_notMem_writerow {row : List (List Char)} (hlen : 2 ≤ row.length)
    (h : ∀ field ∈ row, Plain field) : '"' ∉ writerow row := by
  rw [writerow_plain hlen h, List.mem_append]
  rintro (hc | hc)
  · exact absurd (mem_intercalate_plain h hc) (by decide)
  · simp at hc

/-- **A row is read back**, between records. -/
theorem readLine_writerow {row : List (List Char)} (hlen : 2 ≤ row.length)
    (h : ∀ field ∈ row, Plain field) (records : List (List (List Char))) :
    readLine ⟨.startRecord, [], [], records⟩ (writerow row)
      = .ok ⟨.startRecord, [], [], records ++ [row]⟩ := by
  rw [writerow_plain hlen h]
  refine readLine_eq_ok_iff.mpr ⟨⟨.eatCrnl, [], row, records⟩, ?_, rfl⟩
  cases row with
  | nil => simp at hlen
  | cons field row =>
    obtain ⟨hfield, hrow⟩ := List.forall_mem_cons.mp h
    cases row with
    | nil => simp at hlen
    | cons field' row =>
      rw [intercalate_split, List.foldlM_append, foldlM_field hfield [] records (.inl rfl)]
      exact foldlM_row (by simp) hrow _ _

theorem foldlM_readLine_atLine {ls : List (List Char)} : ∀ {r r' : Reader}, AtLine r →
    ls.foldlM readLine r = .ok r' → AtLine r' := by
  induction ls with
  | nil =>
    rintro r _ hr ⟨⟩
    exact hr
  | cons line ls ih =>
    intro r r' _ h
    rw [List.foldlM_cons] at h
    rcases hline : r.readLine line with e | s
    · rw [hline] at h
      cases h
    · rw [hline] at h
      obtain ⟨s', -, rfl⟩ := readLine_eq_ok_iff.mp hline
      exact ih (atLine_endLine s') h

/-- Lines without a quote go into the open field. -/
theorem foldlM_readLine_quoted {ls : List (List Char)} (h : '"' ∉ ls.flatten)
    (field : List Char) (fields : List (List Char)) (records : List (List (List Char))) :
    ls.foldlM readLine ⟨.inQuotedField, field, fields, records⟩
      = .ok ⟨.inQuotedField, field ++ ls.flatten, fields, records⟩ := by
  induction ls generalizing field with
  | nil =>
    rw [List.flatten_nil, List.append_nil]
    rfl
  | cons line ls ih =>
    rw [List.flatten_cons, List.mem_append, not_or] at h
    rw [List.foldlM_cons, readLine_quoted h.1]
    change ls.foldlM readLine _ = _
    rw [ih h.2, List.flatten_cons, List.append_assoc]

end Reader

open Reader

variable {text : List Char}

theorem readLines_atLine {r : Reader} (h : readLines text = .ok r) : AtLine r :=
  foldlM_readLine_atLine (.rest []) h

/-- What is appended to a text that is ended is read behind it. -/
theorem readLines_append {r : Reader} (hended : Ended text) (h : readLines text = .ok r)
    (more : List Char) : readLines (text ++ more) = (lines more).foldlM readLine r := by
  rw [readLines] at h ⊢
  rw [lines_append hended, List.foldlM_append, h]
  rfl

/-- A newline at the end matters in an open quote only. -/
theorem readLines_concat {r : Reader} (hended : ¬ Ended text) (h : readLines text = .ok r) :
    readLines (text ++ ['\n']) = .ok r.newline := by
  obtain ⟨init, last, hlines, hlines'⟩ := lines_concat hended
  rw [readLines, hlines, List.foldlM_append] at h
  rw [readLines, hlines', List.foldlM_append]
  rcases hinit : init.foldlM readLine ⟨.startRecord, [], [], []⟩ with e | s
  · rw [hinit] at h
    cases h
  · rw [hinit] at h
    have hlast : s.readLine last = .ok r := by
      change s.readLine last >>= pure = _ at h
      rwa [bind_pure] at h
    change s.readLine (last ++ ['\n']) >>= pure = _
    rw [readLine_concat hlast]
    rfl

/-! ## Appending a row -/

instance : DecidablePred Ended := fun _ ↦ inferInstanceAs (Decidable (_ ∨ _))

/-- A text with the newline that it may lack. -/
def terminate (text : List Char) : List Char := if Ended text then text else text ++ ['\n']

theorem ended_terminate (text : List Char) : Ended (terminate text) := by
  rw [terminate]
  split
  · assumption
  · exact .inr (by simp)

/-- The text ends in a quoted field. -/
def OpenQuote (text : List Char) : Prop :=
  ∃ r, readLines text = .ok r ∧ r.state = .inQuotedField

instance : DecidablePred OpenQuote := fun text ↦
  match hread : readLines text with
  | .ok r => decidable_of_iff (r.state = .inQuotedField)
    ⟨fun h ↦ ⟨r, hread, h⟩, fun ⟨_, hr, h⟩ ↦ by rw [hread] at hr; cases hr; exact h⟩
  | .error _ => .isFalse fun ⟨_, hr, _⟩ ↦ by rw [hread] at hr; cases hr

theorem readLines_terminate {r : Reader} (h : readLines text = .ok r) :
    readLines (terminate text) = .ok r ∨ readLines (terminate text) = .ok r.newline := by
  rw [terminate]
  split
  · exact .inl h
  · rename_i hended
    exact .inr (readLines_concat hended h)

/-- **Appending a row.** Between records it is one record more. -/
theorem read_append_row {row : List (List Char)} {records : List (List (List Char))}
    (hlen : 2 ≤ row.length) (hplain : ∀ field ∈ row, Plain field) (h : read text = .ok records)
    (hquote : ¬ OpenQuote text) :
    read (terminate text ++ writerow row) = .ok (records ++ [row]) := by
  rw [read] at h
  rcases hread : readLines text with e | r
  · rw [hread] at h
    cases h
  · rw [hread] at h
    cases readLines_atLine hread with
    | quoted field fields records => exact absurd ⟨_, hread, rfl⟩ hquote
    | rest records' =>
      cases h
      -- the newline that is put behind the text finds no open quote
      have hterm : readLines (terminate text) = .ok ⟨.startRecord, [], [], records'⟩ := by
        rcases readLines_terminate hread with hterm | hterm <;> exact hterm
      have hinner : ∀ c ∈ [','].intercalate row, c ≠ '\n' ∧ c ≠ '\r' := fun c hc ↦
        ⟨by rintro rfl; exact absurd (mem_intercalate_plain hplain hc) (by decide),
          by rintro rfl; exact absurd (mem_intercalate_plain hplain hc) (by decide)⟩
      have hlines : lines (writerow row) = [writerow row] := by
        rw [writerow_plain hlen hplain, lines_of_inner hinner]
      rw [read, readLines_append (ended_terminate text) hterm, hlines, List.foldlM_cons,
        readLine_writerow hlen hplain]
      rfl

/-- **In an open quote** it goes into the last field, so there is no record more. -/
theorem read_append_quoted {more : List Char} {records : List (List (List Char))}
    (hmore : '"' ∉ more) (h : read text = .ok records) (hquote : OpenQuote text) :
    ∃ init fields field field', records = init ++ [fields ++ [field]] ∧
      read (terminate text ++ more) = .ok (init ++ [fields ++ [field']]) := by
  obtain ⟨r, hread, hstate⟩ := hquote
  rw [read, hread] at h
  cases readLines_atLine hread with
  | rest records' => cases hstate
  | quoted field fields records' =>
    cases h
    have hterm : ∃ field', readLines (terminate text)
        = .ok ⟨.inQuotedField, field', fields, records'⟩ := by
      rcases readLines_terminate hread with hterm | hterm <;> exact ⟨_, hterm⟩
    obtain ⟨field', hterm⟩ := hterm
    have hflat : '"' ∉ (lines more).flatten := by rwa [flatten_lines]
    refine ⟨records', fields, field, field' ++ (lines more).flatten, ?_, ?_⟩
    · simp [finish]
    · rw [read, readLines_append (ended_terminate text) hterm, foldlM_readLine_quoted hflat]
      simp [finish]

end Csv
