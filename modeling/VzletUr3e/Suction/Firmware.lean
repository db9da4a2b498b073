import VzletUr3e.Library.LineReader

/-!
# The relay board

The sketch reads lines from the serial port and switches a valve. Whatever is not one of its three
commands is answered and otherwise ignored. `readStringUntil` is taken to return at a newline here;
its timeout is an event of the line in `Suction.Link`.
-/

namespace VzletUr3e.Suction

open LineReader

/-- What the sketch drives. -/
structure Board where
  valveState : Bool
  /-- The level of `relayPin`. -/
  relay : Bool
  /-- The level of `LED_BUILTIN`. -/
  led : Bool
  /-- The lines printed to the serial port. -/
  printed : List String
deriving DecidableEq, Repr

/-- The board after `setup`. -/
def Board.setup : Board where
  valveState := false
  relay := false
  led := false
  printed := ["System Ready.",
    "Commands: 'pneumo1' (Open), 'pneumo0' (Close), 'status' (Check state)"]

/-- `isspace` of the C library. -/
def isSpace (c : Char) : Bool := c = ' ' ∨ ('\t' ≤ c ∧ c ≤ '\r')

/-- `String::trim`. -/
def trim (l : List Char) : List Char := (l.dropWhile isSpace).rdropWhile isSpace

/-- What `loop` does with a line. -/
def Board.execute (board : Board) (line : List Char) : Board :=
  let command := trim line
  if command = "pneumo1".toList then
    { valveState := true, relay := true, led := true,
      printed := board.printed ++ ["Command Received: Valve OPEN (Relay ON)"] }
  else if command = "pneumo0".toList then
    { valveState := false, relay := false, led := false,
      printed := board.printed ++ ["Command Received: Valve CLOSED (Relay OFF)"] }
  else if command = "status".toList then
    { board with printed := board.printed ++
      ["Current Status: " ++ if board.valveState then "OPEN" else "CLOSED"] }
  else if 0 < command.length then
    { board with printed := board.printed ++ ["Unknown command: " ++ String.ofList command] }
  else board

/-- The board with the characters of a line that is not finished. -/
abbrev Firmware := Reader Char Board

/-- The firmware after it has read `bytes`. -/
def Firmware.consume (fw : Firmware) (bytes : List Char) : Firmware :=
  feed '\n' Board.execute fw bytes

/-- The firmware after `setup`. -/
def Firmware.setup : Firmware := ⟨[], Board.setup⟩

/-! ## What a line does to the valve -/

theorem trim_eq_self {l : List Char} (h : ∀ c ∈ l, isSpace c = false) : trim l = l := by
  have hfront : l.dropWhile isSpace = l := by
    cases l with
    | nil => rfl
    | cons c l => rw [List.dropWhile_cons, h c List.mem_cons_self]; rfl
  rw [trim, hfront, List.rdropWhile_eq_self_iff]
  intro hne
  simp [h _ (List.getLast_mem hne)]

/-- A line that is longer than the commands does not move the valve. -/
theorem valveState_execute_of_long {board : Board} {line : List Char}
    (hspace : ∀ c ∈ line, isSpace c = false) (hlen : 7 < line.length) :
    (board.execute line).valveState = board.valveState := by
  have h1 : line ≠ "pneumo1".toList := by
    rintro rfl
    exact absurd hlen (by decide)
  have h0 : line ≠ "pneumo0".toList := by
    rintro rfl
    exact absurd hlen (by decide)
  rw [Board.execute, trim_eq_self hspace, if_neg h1, if_neg h0]
  split_ifs <;> rfl

end VzletUr3e.Suction
