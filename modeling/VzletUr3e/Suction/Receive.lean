import VzletUr3e.Suction.System
import VzletUr3e.Suction.Firmware

/-!
# What the interface hears

`read` takes whatever the board has sent, cuts it into lines and looks for an echo of the two
commands in them. The board answers every line it reads, but none of its answers is an echo: they
are ignored, wherever the stream is cut (`feed_answers`).
-/

namespace VzletUr3e.Suction

open LineReader

/-! ## Reading -/

/-- The characters that `parse_rx` takes from the end of a line. -/
def isTrailing (c : Char) : Bool := c = '\r' ∨ c = ' ' ∨ c = '\t'

/-- What `parse_rx` makes of a line: the new `state_`. -/
def recognise (state : Double) (line : List Char) : Double :=
  let line := line.rdropWhile isTrailing
  if line = "pneumo1".toList then .finite 1
  else if line = "pneumo0".toList then .finite 0
  else state

/-- The interface with its `rx_buffer_`. -/
structure Driver where
  system : System
  rxBuffer : List Char
deriving DecidableEq, Repr

/-- `SuctionGripperSystem::parse_rx`, when `::read` delivers the bytes `arrived` before it has no
more. The complete lines of the buffer are taken one after the other. -/
def Driver.parseRx (d : Driver) (arrived : List Char) : Driver :=
  let r := feed '\n' recognise ⟨[], d.system.state⟩ (d.rxBuffer ++ arrived)
  ⟨{ d.system with state := r.state }, r.pending⟩

/-- `SuctionGripperSystem::read`. -/
def Driver.read (d : Driver) (arrived : List Char) : Driver × ReturnType :=
  if d.system.fd < 0 then (d, .error) else (d.parseRx arrived, .ok)

/-! ## Answers -/

/-- The bytes of `Serial.println`. -/
def println (line : String) : List Char := line.toList ++ ['\r', '\n']

/-- The bytes of several lines. -/
def printlns (lines : List String) : List Char := lines.flatMap println

/-- The first character of an answer: neither the one of the commands, nor one that is stripped. -/
def startsAnswer (c : Char) : Bool := c ≠ 'p' ∧ isTrailing c = false

/-- A line that the interface does not take for an echo. -/
structure Answer (line : String) : Prop where
  oneLine : '\n' ∉ line.toList
  start : line.toList.head?.any startsAnswer = true

theorem rdropWhile_cons_of_not {α : Type} {p : α → Bool} {a : α} (ha : p a = false) (l : List α) :
    (a :: l).rdropWhile p = a :: l.rdropWhile p := by
  induction l using List.reverseRecOn with
  | nil => simp [List.rdropWhile, ha]
  | append_singleton l b ih =>
    rw [← List.cons_append, List.rdropWhile_concat, List.rdropWhile_concat]
    by_cases hb : p b = true
    · rw [if_pos hb, if_pos hb, ih]
    · rw [if_neg hb, if_neg hb, List.cons_append]

/-- An answer leaves `state_` alone. -/
theorem recognise_answer {line : String} (h : Answer line) (state : Double) :
    recognise state (line.toList ++ ['\r']) = state := by
  obtain ⟨c, rest, hline⟩ : ∃ c rest, line.toList = c :: rest := by
    refine List.exists_cons_of_ne_nil fun hnil ↦ ?_
    have hstart := h.start
    rw [hnil] at hstart
    cases hstart
  have hstart := h.start
  rw [hline, List.head?_cons, Option.any_some, startsAnswer, decide_eq_true_eq] at hstart
  obtain ⟨hp, htrailing⟩ := hstart
  have hhead : (line.toList ++ ['\r']).rdropWhile isTrailing
      = c :: (rest ++ ['\r']).rdropWhile isTrailing := by
    rw [hline, List.cons_append, rdropWhile_cons_of_not htrailing]
  have hne : ∀ l : List Char, l.head? = some 'p' →
      c :: (rest ++ ['\r']).rdropWhile isTrailing ≠ l := by
    rintro _ hl rfl
    exact hp (Option.some.inj hl)
  rw [recognise]
  simp only [hhead]
  rw [if_neg (hne _ (by decide)), if_neg (hne _ (by decide))]

/-- **Answers are not heard.** Whatever front part of a stream of answers has arrived, `state_`
stays, and what is kept continues the stream. -/
theorem feed_answers {lines : List String} {front back : List Char} {state : Double}
    (h : front ++ back = printlns lines) (hlines : ∀ line ∈ lines, Answer line) :
    (feed '\n' recognise ⟨[], state⟩ front).state = state ∧
      ∃ left, (feed '\n' recognise ⟨[], state⟩ front).pending ++ back = printlns left ∧
        ∀ line ∈ left, Answer line := by
  induction lines generalizing front with
  | nil =>
    obtain ⟨rfl, rfl⟩ := List.append_eq_nil_iff.mp h
    exact ⟨rfl, [], rfl, by simp⟩
  | cons line lines ih =>
    have hline := hlines line List.mem_cons_self
    have hnotMem : '\n' ∉ line.toList ++ ['\r'] := by
      simpa using hline.oneLine
    have hsplit : printlns (line :: lines) = (line.toList ++ ['\r']) ++ '\n' :: printlns lines := by
      simp [printlns, println]
    rw [hsplit, List.append_eq_append_iff] at h
    rcases h with ⟨rest, hfront, hrest⟩ | ⟨rest, hfront, hrest⟩
    · -- the first line has not arrived completely
      have hnew : '\n' ∉ front := fun hmem ↦ hnotMem (by rw [hfront]; simp [hmem])
      rw [feed_of_notMem hnew]
      refine ⟨rfl, line :: lines, ?_, hlines⟩
      rw [hsplit, hfront, hrest]
      simp
    · rcases rest with _ | ⟨c, rest⟩
      · rw [List.append_nil] at hfront
        rw [hfront, feed_of_notMem hnotMem]
        refine ⟨rfl, line :: lines, ?_, hlines⟩
        rw [hsplit, hrest]
        simp
      · rw [List.cons_append, List.cons.injEq] at hrest
        obtain ⟨rfl, hrest⟩ := hrest
        have hfed : feed '\n' recognise ⟨[], state⟩ front
            = feed '\n' recognise ⟨[], state⟩ rest := by
          have hcut : front = (line.toList ++ ['\r'] ++ ['\n']) ++ rest := by
            rw [hfront]
            simp
          rw [hcut, feed_append, feed_line hnotMem, List.nil_append, recognise_answer hline]
        rw [hfed]
        exact ih hrest.symm fun l hl ↦ hlines l (List.mem_cons_of_mem _ hl)

/-! ## What the board prints -/

theorem mem_trim {l : List Char} {c : Char} (h : c ∈ trim l) : c ∈ l :=
  (List.dropWhile_suffix isSpace).subset ((List.rdropWhile_prefix isSpace _).subset h)

/-- Every line that the board reads adds answers. -/
theorem execute_printed (board : Board) {line : List Char} (h : '\n' ∉ line) :
    ∃ lines, (board.execute line).printed = board.printed ++ lines ∧ ∀ l ∈ lines, Answer l := by
  have hanswer : ∀ text : String, Answer text → ∃ lines : List String,
      board.printed ++ [text] = board.printed ++ lines ∧ ∀ l ∈ lines, Answer l :=
    fun text ht ↦ ⟨[text], rfl, fun l hl ↦ by rwa [List.mem_singleton.mp hl]⟩
  by_cases hopen : trim line = "pneumo1".toList
  · simp only [Board.execute, if_pos hopen]
    refine hanswer _ ?_
    exact ⟨by decide, by decide⟩
  by_cases hclose : trim line = "pneumo0".toList
  · simp only [Board.execute, if_neg hopen, if_pos hclose]
    refine hanswer _ ?_
    exact ⟨by decide, by decide⟩
  by_cases hstatus : trim line = "status".toList
  · simp only [Board.execute, if_neg hopen, if_neg hclose, if_pos hstatus]
    refine hanswer _ ?_
    cases board.valveState <;> exact ⟨by decide, by decide⟩
  by_cases hlength : 0 < (trim line).length
  · simp only [Board.execute, if_neg hopen, if_neg hclose, if_neg hstatus, if_pos hlength]
    refine hanswer _ ⟨?_, ?_⟩
    · rw [String.toList_append, List.mem_append, not_or]
      refine ⟨by decide, fun hmem ↦ h (mem_trim ?_)⟩
      rwa [String.toList_ofList] at hmem
    · have hhead : "Unknown command: ".toList.head? = some 'U' := by decide
      rw [String.toList_append, List.head?_append, hhead]
      rfl
  · simp only [Board.execute, if_neg hopen, if_neg hclose, if_neg hstatus, if_neg hlength]
    exact ⟨[], by simp, by simp⟩

theorem setup_printed : ∀ line ∈ Board.setup.printed, Answer line := by
  intro line hline
  fin_cases hline
  · exact ⟨by decide, by decide⟩
  · exact ⟨by decide, by decide⟩

end VzletUr3e.Suction
