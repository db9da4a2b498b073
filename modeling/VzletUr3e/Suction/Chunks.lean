import VzletUr3e.Suction.Receive

/-!
# Where the bytes are cut

`parse_rx` has two loops: one appends what `::read` returns to `rx_buffer_` until there is no more,
the other takes one line after the other from the front of the buffer. The bytes may be cut in any
way, inside a call and between calls: what is left of a line stays in the buffer until the next call
(`parse_rx_chunks`).
-/

namespace VzletUr3e.Suction

open LineReader

/-! ## The loops -/

/-- The result of one `::read` on the device. -/
inductive ReadResult
  /-- The bytes that were read; none when there are none. -/
  | received (bytes : List Char)
  /-- `EAGAIN` or `EWOULDBLOCK`. -/
  | again
  /-- Any other error. -/
  | failed
deriving DecidableEq, Repr

/-- The first loop of `parse_rx`: the buffer behind it. With no results of `::read` left the loop is
still running. -/
def readLoop (rxBuffer : List Char) : List ReadResult → Option (List Char)
  | [] => none
  | .received bytes :: rest =>
    if 0 < bytes.length then readLoop (rxBuffer ++ bytes) rest else some rxBuffer
  | .again :: _ => some rxBuffer
  | .failed :: _ => some rxBuffer

/-- The second loop of `parse_rx`: the buffer and `state_` behind it. -/
def lineLoop (rxBuffer : List Char) (state : Double) : List Char × Double :=
  match _h : rxBuffer.idxOf? '\n' with
  | none => (rxBuffer, state)
  | some pos => lineLoop (rxBuffer.drop (pos + 1)) (recognise state (rxBuffer.take pos))
termination_by rxBuffer.length
decreasing_by
  obtain ⟨hlt, -⟩ := List.idxOf?_eq_some_iff.mp _h
  rw [List.length_drop]
  omega

/-- `parse_rx`, loop by loop. -/
def Driver.parseResults (d : Driver) (results : List ReadResult) : Option Driver := do
  let rxBuffer ← readLoop d.rxBuffer results
  let (rest, state) := lineLoop rxBuffer d.system.state
  return ⟨{ d.system with state := state }, rest⟩

/-- Several calls of `parse_rx`, none if one of them does not return. -/
def Driver.parseCalls (d : Driver) (calls : List (List ReadResult)) : Option Driver :=
  calls.foldlM Driver.parseResults d

/-! ## The bytes of a call -/

/-- What a call takes from the device: the bytes in front of the result that ends its loop. -/
def received : List ReadResult → List Char
  | .received bytes :: rest => if 0 < bytes.length then bytes ++ received rest else []
  | _ => []

theorem readLoop_eq_map (rxBuffer : List Char) (results : List ReadResult) :
    readLoop rxBuffer results = (readLoop [] results).map (rxBuffer ++ ·) := by
  induction results generalizing rxBuffer with
  | nil => rfl
  | cons result results ih =>
    cases result with
    | received bytes =>
      rw [readLoop, readLoop]
      by_cases hpos : 0 < bytes.length
      · rw [if_pos hpos, if_pos hpos, ih, ih ([] ++ bytes), Option.map_map]
        congr 1
        funext rest
        exact List.append_assoc rxBuffer bytes rest
      · rw [if_neg hpos, if_neg hpos, Option.map_some, List.append_nil]
    | again => exact congrArg some (List.append_nil _).symm
    | failed => exact congrArg some (List.append_nil _).symm

theorem eq_received_of_readLoop {results : List ReadResult} {bytes : List Char}
    (h : readLoop [] results = some bytes) : bytes = received results := by
  induction results generalizing bytes with
  | nil => cases h
  | cons result results ih =>
    cases result with
    | received first =>
      rw [readLoop] at h
      rw [received]
      by_cases hpos : 0 < first.length
      · rw [if_pos hpos, List.nil_append, readLoop_eq_map] at h
        obtain ⟨rest, hrest, rfl⟩ := Option.map_eq_some_iff.mp h
        rw [if_pos hpos, ih hrest]
      · rw [if_neg hpos] at h
        rw [if_neg hpos]
        exact (Option.some.inj h).symm
    | again => exact (Option.some.inj h).symm
    | failed => exact (Option.some.inj h).symm

/-- Taking lines from the front is feeding the buffer to a reader. -/
theorem lineLoop_eq (rxBuffer : List Char) (state : Double) :
    lineLoop rxBuffer state = ((feed '\n' recognise ⟨[], state⟩ rxBuffer).pending,
      (feed '\n' recognise ⟨[], state⟩ rxBuffer).state) := by
  fun_induction lineLoop rxBuffer state with
  | case1 rxBuffer state hnone =>
    rw [feed_of_notMem (List.idxOf?_eq_none_iff.mp hnone), List.nil_append]
  | case2 rxBuffer state pos hsome ih =>
    obtain ⟨hlt, hat, hbefore⟩ := List.idxOf?_eq_some_iff.mp hsome
    have hcut : rxBuffer = (rxBuffer.take pos ++ ['\n']) ++ rxBuffer.drop (pos + 1) := by
      rw [← hat, ← List.take_succ_eq_append_getElem hlt, List.take_append_drop]
    have hline : '\n' ∉ rxBuffer.take pos := by
      intro hmem
      obtain ⟨i, hi, hget⟩ := List.mem_iff_getElem.mp hmem
      rw [List.length_take] at hi
      rw [List.getElem_take] at hget
      exact hbefore i (by omega) hget
    have hfeed : feed '\n' recognise ⟨[], state⟩ rxBuffer
        = feed '\n' recognise ⟨[], recognise state (rxBuffer.take pos)⟩
            (rxBuffer.drop (pos + 1)) := by
      conv_lhs => rw [hcut]
      rw [feed_append, feed_line hline, List.nil_append]
    rw [ih, hfeed]

/-- A call that returns parses the bytes of its first loop. -/
theorem Driver.parseResults_eq_map (d : Driver) (results : List ReadResult) :
    d.parseResults results = (readLoop [] results).map d.parseRx := by
  rw [parseResults, readLoop_eq_map]
  rcases readLoop [] results with _ | arrived
  · rfl
  · change some (Driver.mk
      { d.system with state := (lineLoop (d.rxBuffer ++ arrived) d.system.state).2 }
      (lineLoop (d.rxBuffer ++ arrived) d.system.state).1) = some (d.parseRx arrived)
    rw [lineLoop_eq, parseRx]

/-- **One call** parses the bytes that it has received. -/
theorem Driver.parseResults_eq {d d' : Driver} {results : List ReadResult}
    (h : d.parseResults results = some d') : d' = d.parseRx (received results) := by
  rw [parseResults_eq_map] at h
  obtain ⟨arrived, hread, rfl⟩ := Option.map_eq_some_iff.mp h
  rw [eq_received_of_readLoop hread]

/-- A call that gets all bytes in one `::read`. -/
theorem Driver.parseResults_once (d : Driver) (bytes : List Char) :
    d.parseResults [.received bytes, .again] = some (d.parseRx bytes) := by
  have hread : readLoop [] [.received bytes, .again] = some bytes := by
    rcases bytes with _ | ⟨c, bytes⟩
    · rfl
    · exact if_pos (Nat.succ_pos _)
  rw [parseResults_eq_map, hread, Option.map_some]

/-- Behind an unfinished line, the bytes go on where it stopped. -/
theorem Driver.parseRx_of_notMem {d : Driver} (h : '\n' ∉ d.rxBuffer) (arrived : List Char) :
    d.parseRx arrived
      = ⟨{ d.system with
            state := (feed '\n' recognise ⟨d.rxBuffer, d.system.state⟩ arrived).state },
          (feed '\n' recognise ⟨d.rxBuffer, d.system.state⟩ arrived).pending⟩ := by
  rw [parseRx, feed_append, feed_of_notMem h, List.nil_append]

/-! ## Calls -/

/-- Parsing can be taken up where it was left. -/
theorem Driver.parseRx_parseRx (d : Driver) (arrived arrived' : List Char) :
    (d.parseRx arrived).parseRx arrived' = d.parseRx (arrived ++ arrived') := by
  have h : feed '\n' recognise ⟨[], (d.parseRx arrived).system.state⟩
      ((d.parseRx arrived).rxBuffer ++ arrived')
        = feed '\n' recognise ⟨[], d.system.state⟩ (d.rxBuffer ++ (arrived ++ arrived')) := by
    rw [← List.append_assoc]
    exact feed_pending_append _
  rw [parseRx, h]
  rfl

/-- **All calls** parse the bytes that they have received. -/
theorem Driver.parseCalls_eq {calls : List (List ReadResult)} {d d' : Driver}
    (hd : '\n' ∉ d.rxBuffer) (h : d.parseCalls calls = some d') :
    d' = d.parseRx (calls.flatMap received) := by
  induction calls generalizing d with
  | nil =>
    cases h
    rw [List.flatMap_nil, parseRx, List.append_nil, feed_of_notMem hd]
    rfl
  | cons results calls ih =>
    obtain ⟨mid, hmid, hrest⟩ := Option.bind_eq_some_iff.mp (List.foldlM_cons.symm.trans h)
    obtain rfl := parseResults_eq hmid
    rw [ih (notMem_pending _) hrest, parseRx_parseRx, List.flatMap_cons]

/-! ## Echoes -/

/-- What a line says of the valve, if it is an echo. -/
def echo (line : List Char) : Option Double :=
  if line.rdropWhile isTrailing = "pneumo1".toList then some (.finite 1)
  else if line.rdropWhile isTrailing = "pneumo0".toList then some (.finite 0)
  else none

theorem recognise_eq (state : Double) (line : List Char) :
    recognise state line = (echo line).getD state := by
  rw [recognise, echo]
  split_ifs <;> rfl

/-- `state_` is what the last echo says. -/
theorem Driver.parseRx_eq {d : Driver} {arrived : List Char} {lines : List (List Char)}
    {rest : List Char} (h : Split '\n' (d.rxBuffer ++ arrived) lines rest) :
    d.parseRx arrived
      = ⟨{ d.system with state := (lines.reverse.findSome? echo).getD d.system.state }, rest⟩ := by
  have hfold : lines.foldl recognise d.system.state
      = (lines.reverse.findSome? echo).getD d.system.state := by
    rw [← foldl_getD_eq]
    congr 1
    funext state line
    exact recognise_eq state line
  rw [parseRx, h.feed_eq, hfold]

/-- **Where the bytes are cut does not matter.** However the bytes come, `parse_rx` ends as if it
had got them all at once. `state_` is then what the last echo among the complete lines says, and
`rx_buffer_` holds what comes behind the last newline. -/
theorem parse_rx_chunks {s : System} {calls : List (List ReadResult)} {d : Driver}
    (h : Driver.parseCalls ⟨s, []⟩ calls = some d) :
    Driver.parseResults ⟨s, []⟩ [.received (calls.flatMap received), .again] = some d ∧
      ∃ lines rest, Split '\n' (calls.flatMap received) lines rest ∧ d.rxBuffer = rest ∧
        d.system = { s with state := (lines.reverse.findSome? echo).getD s.state } := by
  have hd : d = Driver.parseRx ⟨s, []⟩ (calls.flatMap received) :=
    Driver.parseCalls_eq (by simp) h
  obtain ⟨lines, rest, hsplit⟩ := exists_split '\n' (calls.flatMap received)
  have hstate := Driver.parseRx_eq (d := ⟨s, []⟩) (by rwa [List.nil_append])
  rw [Driver.parseResults_once, ← hd]
  refine ⟨rfl, lines, rest, hsplit, ?_, ?_⟩
  · rw [hd, hstate]
  · rw [hd, hstate]

/-- Two calls, in which the echo is cut in three, and an unfinished line follows it. -/
def cutEcho : List (List ReadResult) :=
  [[.received "pne".toList, .received "umo1\r".toList, .again],
    [.received "\nsta".toList, .failed]]

theorem parse_rx_cut : Driver.parseResults ⟨System.configured 3 (.finite 0), []⟩
    [.received "pneumo1\r\nsta".toList, .again]
      = some ⟨{ System.configured 3 (.finite 0) with state := .finite 1 }, "sta".toList⟩ := by
  have hcalls : Driver.parseCalls ⟨System.configured 3 (.finite 0), []⟩ cutEcho
      = some ⟨{ System.configured 3 (.finite 0) with state := .finite 1 }, "sta".toList⟩ := by
    rw [Driver.parseCalls, cutEcho, List.foldlM_cons, Driver.parseResults_eq_map]
    decide +kernel
  exact (parse_rx_chunks hcalls).1

end VzletUr3e.Suction
