import VzletUr3e.Suction.Chunks
import VzletUr3e.Suction.Composition
import VzletUr3e.Suction.Port

/-!
# A line across two connections

`open_uart` flushes what the device still holds, but nothing empties `rx_buffer_`. The front of a
line that was cut off by the disconnect stays in front of what the next connection receives.

What two leftovers may do later is told by `echoFront`: the echo that each one is the front of, if
it is. Leftovers with the same front have the same future, and others are told apart by the bytes
that complete the echo.
-/

namespace VzletUr3e.Suction

open LineReader StateError

/-! ## Events -/

/-- What goes over an open connection. -/
inductive Traffic
  | read (results : List ReadResult)
  | write (command : Double) (outcomes : List WriteResult)
deriving DecidableEq, Repr

/-- The driver behind a read or a write, none if it does not return. -/
def Driver.exchange (d : Driver) : Traffic → Option Driver
  | .read results => if d.system.fd < 0 then some d else d.parseResults results
  | .write command outcomes =>
    let (s, _, result) := { d.system with command := command }.write outcomes
    result.map fun _ ↦ { d with system := s }

def Driver.exchanges (d : Driver) (traffic : List Traffic) : Option Driver :=
  traffic.foldlM Driver.exchange d

inductive PortEvent
  | traffic (t : Traffic)
  | activate (command : Double) (outcomes : List WriteResult)
  | call (c : PortCall)
deriving DecidableEq, Repr

def Driver.step (baudRate : ℤ) (d : Driver) : PortEvent → Option Driver
  | .traffic t => d.exchange t
  | .activate command outcomes =>
    let (s, _, result) := { d.system with command := command }.onActivate outcomes
    result.map fun _ ↦ { d with system := s }
  | .call c => some (c.after baudRate d)

def Driver.run (baudRate : ℤ) (d : Driver) (events : List PortEvent) : Option Driver :=
  events.foldlM (Driver.step baudRate) d

/-- A history from the beginning that ends with `on_cleanup` and an `on_configure` that returns
`SUCCESS`. -/
def Reopened (baudRate : ℤ) (initialValue : Double) (history : List PortEvent) (o : Opening)
    (d : Driver) : Prop :=
  ∃ before, (Driver.initial initialValue).run baudRate (history ++ [.call .cleanup]) = some before ∧
    onConfigure baudRate o before = .ok .success d

/-! ## Fronts of echoes -/

/-- The echo that an unfinished line is the front of. Behind a whole command, the characters that
are stripped do not count. -/
def echoFront (line : List Char) : Option (List Char) :=
  if ∃ isOpen, line.rdropWhile isTrailing = lineFor isOpen then some (line.rdropWhile isTrailing)
  else if ∃ isOpen, line <+: lineFor isOpen then some line
  else none

theorem echo_eq_some_iff {line : List Char} {isOpen : Bool} :
    echo line = some (logicOf isOpen) ↔ line.rdropWhile isTrailing = lineFor isOpen := by
  rw [echo]
  by_cases hopen : line.rdropWhile isTrailing = "pneumo1".toList
  · rw [if_pos hopen, hopen]
    cases isOpen <;> decide
  rw [if_neg hopen]
  by_cases hclose : line.rdropWhile isTrailing = "pneumo0".toList
  · rw [if_pos hclose, hclose]
    cases isOpen <;> decide
  rw [if_neg hclose]
  refine iff_of_false (by simp) ?_
  cases isOpen with
  | false => exact hclose
  | true => exact hopen

/-- An echo is of one of the commands. -/
theorem exists_of_echo_eq_some {line : List Char} {logic : Double} (h : echo line = some logic) :
    ∃ isOpen, logic = logicOf isOpen := by
  rw [echo] at h
  split_ifs at h
  · exact ⟨true, (Option.some.inj h).symm⟩
  · exact ⟨false, (Option.some.inj h).symm⟩

theorem echo_eq_none_iff {line : List Char} :
    echo line = none ↔ ¬∃ isOpen, line.rdropWhile isTrailing = lineFor isOpen := by
  constructor
  · rintro h ⟨isOpen, hline⟩
    rw [echo_eq_some_iff.mpr hline] at h
    cases h
  · intro h
    rcases hecho : echo line with _ | logic
    · rfl
    · obtain ⟨isOpen, rfl⟩ := exists_of_echo_eq_some hecho
      exact absurd ⟨isOpen, echo_eq_some_iff.mp hecho⟩ h

/-- Nothing is stripped from a command. -/
theorem rdropWhile_lineFor (isOpen : Bool) :
    (lineFor isOpen).rdropWhile isTrailing = lineFor isOpen := by
  cases isOpen <;> decide

/-- What a line says is what its front says. -/
theorem echo_eq_bind (line : List Char) : echo line = (echoFront line).bind echo := by
  rw [echoFront]
  split_ifs with hwhole hfront
  · obtain ⟨isOpen, hline⟩ := hwhole
    rw [Option.bind_some, hline, echo_eq_some_iff.mpr (rdropWhile_lineFor isOpen),
      echo_eq_some_iff.mpr hline]
  · rfl
  · exact echo_eq_none_iff.mpr hwhole

theorem echoFront_of_whole {line : List Char} {isOpen : Bool}
    (h : line.rdropWhile isTrailing = lineFor isOpen) :
    echoFront line = some (lineFor isOpen) := by
  rw [echoFront, if_pos ⟨isOpen, h⟩, h]

theorem length_lineFor (isOpen : Bool) : (lineFor isOpen).length = 7 := by
  cases isOpen <;> rfl

/-- A line that goes on behind a command is no echo. -/
theorem echoFront_concat_of_long {line : List Char} {c : Char} (hlength : 7 ≤ line.length)
    (hc : ¬isTrailing c = true) : echoFront (line ++ [c]) = none := by
  have hne : ∀ isOpen, ¬line ++ [c] <+: lineFor isOpen := by
    intro isOpen h
    have hle := h.length_le
    rw [List.length_append, List.length_singleton, length_lineFor] at hle
    omega
  rw [echoFront, if_neg, if_neg]
  · rintro ⟨isOpen, h⟩
    exact hne isOpen h
  · rintro ⟨isOpen, h⟩
    rw [List.rdropWhile_concat_neg _ _ _ hc] at h
    exact hne isOpen (h ▸ List.prefix_refl _)

/-- **One more character.** The front behind it is told by the front before it. -/
theorem echoFront_concat (line : List Char) (c : Char) :
    echoFront (line ++ [c]) = (echoFront line).bind fun core ↦ echoFront (core ++ [c]) := by
  by_cases hwhole : ∃ isOpen, line.rdropWhile isTrailing = lineFor isOpen
  · obtain ⟨isOpen, hline⟩ := hwhole
    rw [echoFront_of_whole hline, Option.bind_some]
    by_cases hc : isTrailing c = true
    · rw [echoFront_of_whole (by rw [List.rdropWhile_concat_pos _ _ _ hc, hline]),
        echoFront_of_whole (by rw [List.rdropWhile_concat_pos _ _ _ hc, rdropWhile_lineFor])]
    · have hlength : 7 ≤ line.length := by
        rw [← length_lineFor isOpen, ← hline]
        exact (List.rdropWhile_prefix isTrailing line).length_le
      rw [echoFront_concat_of_long hlength hc,
        echoFront_concat_of_long (length_lineFor isOpen).ge hc]
  by_cases hfront : ∃ isOpen, line <+: lineFor isOpen
  · rw [show echoFront line = some line by rw [echoFront, if_neg hwhole, if_pos hfront],
      Option.bind_some]
  · rw [show echoFront line = none by rw [echoFront, if_neg hwhole, if_neg hfront],
      Option.bind_none, echoFront, if_neg, if_neg]
    · rintro ⟨isOpen, h⟩
      exact hfront ⟨isOpen, (List.prefix_append line [c]).trans h⟩
    · rintro ⟨isOpen, h⟩
      by_cases hc : isTrailing c = true
      · rw [List.rdropWhile_concat_pos _ _ _ hc] at h
        exact hwhole ⟨isOpen, h⟩
      · rw [List.rdropWhile_concat_neg _ _ _ hc] at h
        exact hfront ⟨isOpen, h ▸ List.prefix_append line [c]⟩

/-! ## The same front

One more character takes lines with the same front to lines with the same front, and a newline is
heard the same way behind both. Hence the relation `Alike` is kept by every exchange. -/

/-- Unfinished lines with the same front stay such, and are heard the same way. -/
theorem feed_of_echoFront {line line' : List Char} (h : echoFront line = echoFront line')
    (state : Double) (arrived : List Char) :
    (feed '\n' recognise ⟨line, state⟩ arrived).state
        = (feed '\n' recognise ⟨line', state⟩ arrived).state ∧
      echoFront (feed '\n' recognise ⟨line, state⟩ arrived).pending
        = echoFront (feed '\n' recognise ⟨line', state⟩ arrived).pending := by
  induction arrived generalizing line line' state with
  | nil => exact ⟨rfl, h⟩
  | cons c arrived ih =>
    rw [feed, feed, List.foldl_cons, List.foldl_cons, step, step]
    by_cases hc : c = '\n'
    · have hheard : recognise state line = recognise state line' := by
        rw [recognise_eq, recognise_eq, echo_eq_bind line, echo_eq_bind line', h]
      rw [if_pos hc, if_pos hc, hheard]
      exact ⟨rfl, rfl⟩
    · rw [if_neg hc, if_neg hc]
      refine ih ?_ state
      rw [echoFront_concat, echoFront_concat, h]

/-- Two drivers that differ in the descriptor of their open ports and in what came before an
unfinished line has the same front. -/
structure Alike (d d' : Driver) : Prop where
  isOpen : 0 ≤ d.system.fd
  isOpen' : 0 ≤ d'.system.fd
  system : d'.system = { d.system with fd := d'.system.fd }
  oneLine : '\n' ∉ d.rxBuffer
  oneLine' : '\n' ∉ d'.rxBuffer
  front : echoFront d.rxBuffer = echoFront d'.rxBuffer

/-- A write goes the same way through another open port. -/
theorem System.write_withFd {s : System} {fd : ℤ} (hfd : 0 ≤ s.fd) (hfd' : 0 ≤ fd)
    (outcomes : List WriteResult) :
    ({ s with fd := fd } : System).write outcomes
      = ({ (s.write outcomes).1 with fd := fd }, (s.write outcomes).2) := by
  rw [write, if_neg (by exact not_lt.mpr hfd'), write, if_neg (not_lt.mpr hfd)]
  have hsame : ({ s with fd := fd } : System).alreadySent (thresholded s.command)
      = s.alreadySent (thresholded s.command) := rfl
  dsimp only
  rw [hsame]
  by_cases hsent : s.alreadySent (thresholded s.command) = true
  · rw [if_pos hsent, if_pos hsent]
  · rw [if_neg hsent, if_neg hsent]
    rcases sendLine (uartCmd (thresholded s.command)).toList outcomes with ⟨sent, _ | _ | _⟩
    · rfl
    · rfl
    · rfl

/-- A write leaves the port as it is. -/
theorem System.fd_write (s : System) (outcomes : List WriteResult) :
    (s.write outcomes).1.fd = s.fd := by
  by_cases hfd : s.fd < 0
  · rw [write_of_closed hfd]
  by_cases hsent : s.alreadySent (thresholded s.command) = true
  · rw [write_of_alreadySent hfd hsent]
  by_cases hall : (sendLine (uartCmd (thresholded s.command)).toList outcomes).2 = some true
  · rw [write_of_sent hfd hsent hall]
  · obtain ⟨result, -, hwrite⟩ := write_of_cut hfd hsent hall
    rw [hwrite]

/-- **One exchange** ends in both or in neither, and leaves the drivers alike. -/
theorem Alike.exchange {d d' : Driver} (h : Alike d d') (t : Traffic) :
    Option.Rel Alike (d.exchange t) (d'.exchange t) := by
  obtain ⟨hopen, hopen', hsystem, hline, hline', hfront⟩ := h
  cases t with
  | read results =>
    rw [Driver.exchange, if_neg (not_lt.mpr hopen), Driver.exchange, if_neg (not_lt.mpr hopen'),
      Driver.parseResults_eq_map, Driver.parseResults_eq_map]
    rcases readLoop [] results with _ | arrived
    · exact .none
    · refine .some ?_
      have hstate : d'.system.state = d.system.state := by rw [hsystem]
      obtain ⟨hheard, hleft⟩ := feed_of_echoFront hfront d.system.state arrived
      refine ⟨hopen, hopen', ?_, notMem_pending _, notMem_pending _, ?_⟩
      · rw [Driver.parseRx_of_notMem hline, Driver.parseRx_of_notMem hline', hstate, ← hheard]
        exact congrArg (fun s : System ↦ { s with
          state := (feed '\n' recognise ⟨d.rxBuffer, d.system.state⟩ arrived).state }) hsystem
      · rw [Driver.parseRx_of_notMem hline, Driver.parseRx_of_notMem hline', hstate]
        exact hleft
  | write command outcomes =>
    have hwrite : ({ d'.system with command := command } : System).write outcomes
        = ({ (({ d.system with command := command } : System).write outcomes).1 with
              fd := d'.system.fd },
            (({ d.system with command := command } : System).write outcomes).2) := by
      rw [← System.write_withFd (by exact hopen) hopen', hsystem]
    rw [Driver.exchange, Driver.exchange, hwrite]
    have hfd := System.fd_write { d.system with command := command } outcomes
    rcases hr : ({ d.system with command := command } : System).write outcomes with
      ⟨s, sent, _ | result⟩
    · exact .none
    · rw [hr] at hfd
      exact .some ⟨hopen.trans_eq hfd.symm, hopen', rfl, hline, hline', hfront⟩

/-- **Drivers that are alike** stay alike. -/
theorem Alike.exchanges {d d' : Driver} (h : Alike d d') (traffic : List Traffic) :
    Option.Rel Alike (d.exchanges traffic) (d'.exchanges traffic) := by
  induction traffic generalizing d d' with
  | nil => exact .some h
  | cons t traffic ih =>
    rw [Driver.exchanges, Driver.exchanges, List.foldlM_cons, List.foldlM_cons]
    have hstep := h.exchange t
    generalize d.exchange t = e, d'.exchange t = e' at hstep
    cases hstep with
    | none => exact .none
    | some hrel => exact ih hrel

/-- What the traffic leaves in `state_`, if it ends. -/
def Driver.stateAfter (d : Driver) (traffic : List Traffic) : Option Double :=
  (d.exchanges traffic).map (·.system.state)

theorem Alike.stateAfter_eq {d d' : Driver} (h : Alike d d') (traffic : List Traffic) :
    d.stateAfter traffic = d'.stateAfter traffic := by
  have hrel := h.exchanges traffic
  rw [Driver.stateAfter, Driver.stateAfter]
  generalize d.exchanges traffic = e, d'.exchanges traffic = e' at hrel
  cases hrel with
  | none => rfl
  | some hrel =>
    rw [Option.map_some, Option.map_some, hrel.system]

/-! ## Different fronts

To tell two leftovers apart, turn the state away from a position and send what is missing of its
echo. Over the one port, the echo is complete and brings the state back; over the other it does so
only if the same bytes complete the same echo there. -/

theorem thresholded_logicOf (isOpen : Bool) : thresholded (logicOf isOpen) = logicOf isOpen := by
  cases isOpen <;> norm_num [thresholded, logicOf, Double.ge]

/-- Two writes that bring `state_` to the opposite of a position, whatever it was. -/
def turnAway (isOpen : Bool) : List Traffic :=
  [.write (logicOf isOpen) [.accepted 8], .write (logicOf !isOpen) [.accepted 8]]

theorem eq_of_logicOf_eq {isOpen : Bool} {logic : Double} (h : (logicOf isOpen).eq logic = true) :
    logicOf isOpen = logic := by
  cases isOpen <;> exact of_decide_eq_true h

/-- All of a line is taken at once. -/
theorem sendLine_whole (isOpen : Bool) :
    (sendLine (uartCmd (thresholded (logicOf isOpen))).toList [.accepted 8]).2 = some true := by
  rw [thresholded_logicOf, uartCmd_logicOf]
  cases isOpen <;> decide

/-- A write whose line is taken, if one is sent. -/
theorem Driver.exchange_write {d : Driver} (hfd : 0 ≤ d.system.fd) (isOpen : Bool) :
    ∃ state, d.exchange (.write (logicOf isOpen) [.accepted 8])
        = some { d with system := ⟨d.system.fd, logicOf isOpen, state, logicOf isOpen⟩ } ∧
      (d.system.lastSentLogic = logicOf (!isOpen) → state = logicOf isOpen) := by
  have hlogic : thresholded (logicOf isOpen) = logicOf isOpen := thresholded_logicOf isOpen
  have hopen : ¬({ d.system with command := logicOf isOpen } : System).fd < 0 := not_lt.mpr hfd
  rw [exchange]
  by_cases hsent : ({ d.system with command := logicOf isOpen } : System).alreadySent
      (thresholded (logicOf isOpen)) = true
  · rw [System.write_of_alreadySent hopen hsent]
    rw [System.alreadySent, Bool.and_eq_true, hlogic] at hsent
    have hlast : logicOf isOpen = d.system.lastSentLogic := eq_of_logicOf_eq hsent.2
    refine ⟨d.system.state, ?_, fun hnot ↦ ?_⟩
    · rw [hlast]
      rfl
    · rw [hnot] at hlast
      exact absurd hlast (by cases isOpen <;> decide)
  · rw [System.write_of_sent hopen hsent (sendLine_whole isOpen)]
    exact ⟨logicOf isOpen, by rw [hlogic]; rfl, fun _ ↦ rfl⟩

/-- **Turning away** reaches its position over any open port. -/
theorem Driver.exchanges_turnAway {d : Driver} (hfd : 0 ≤ d.system.fd) (isOpen : Bool) :
    d.exchanges (turnAway isOpen) = some { d with
      system := ⟨d.system.fd, logicOf !isOpen, logicOf !isOpen, logicOf !isOpen⟩ } := by
  obtain ⟨state, hfirst, -⟩ := d.exchange_write hfd isOpen
  obtain ⟨state', hsecond, hstate'⟩ := Driver.exchange_write
    (d := { d with system := ⟨d.system.fd, logicOf isOpen, state, logicOf isOpen⟩ }) hfd (!isOpen)
  have hlast : state' = logicOf !isOpen := hstate' (by rw [Bool.not_not])
  rw [exchanges, turnAway, List.foldlM_cons, hfirst, Option.bind_eq_bind, Option.bind_some,
    List.foldlM_cons, hsecond, hlast]
  rfl

/-- What is read up to the next newline completes the unfinished line. -/
def complete (line : List Char) : Traffic := .read [.received (line ++ ['\n']), .again]

theorem Driver.exchange_complete {d : Driver} (hfd : 0 ≤ d.system.fd) (hd : '\n' ∉ d.rxBuffer)
    {line : List Char} (hline : '\n' ∉ line) :
    ∃ d', d.exchange (complete line) = some d' ∧
      d'.system.state = recognise d.system.state (d.rxBuffer ++ line) := by
  refine ⟨d.parseRx (line ++ ['\n']), ?_, ?_⟩
  · rw [complete, exchange, if_neg (not_lt.mpr hfd)]
    exact d.parseResults_once _
  · rw [parseRx_of_notMem hd, feed_line hline]

/-- Behind `turnAway`, completing an unfinished line tells whether it is an echo of the position. -/
theorem Driver.stateAfter_complete {d : Driver} (hfd : 0 ≤ d.system.fd) (hd : '\n' ∉ d.rxBuffer)
    {line : List Char} (hline : '\n' ∉ line) (isOpen : Bool) :
    d.stateAfter (turnAway isOpen ++ [complete line]) = some (logicOf isOpen) ↔
      (d.rxBuffer ++ line).rdropWhile isTrailing = lineFor isOpen := by
  obtain ⟨d', hd', hstate⟩ := Driver.exchange_complete (d := { d with
    system := ⟨d.system.fd, logicOf !isOpen, logicOf !isOpen, logicOf !isOpen⟩ }) hfd hd hline
  have hafter : d.exchanges (turnAway isOpen ++ [complete line]) = some d' := by
    have hturn := Driver.exchanges_turnAway hfd isOpen
    rw [exchanges] at hturn ⊢
    rw [List.foldlM_append, hturn, Option.bind_eq_bind, Option.bind_some, List.foldlM_cons, hd']
    rfl
  rw [stateAfter, hafter, Option.map_some, Option.some.injEq, hstate, recognise_eq,
    ← echo_eq_some_iff]
  rcases hecho : echo (d.rxBuffer ++ line) with _ | logic
  · refine iff_of_false ?_ (by simp)
    change logicOf (!isOpen) ≠ logicOf isOpen
    cases isOpen <;> decide
  · exact (Option.some.injEq _ _).to_iff.symm

theorem echoFront_eq_some {line core : List Char} (h : echoFront line = some core) :
    (∃ isOpen, core = lineFor isOpen ∧ line.rdropWhile isTrailing = core) ∨
      core = line ∧ ∃ isOpen, line <+: lineFor isOpen := by
  rw [echoFront] at h
  split_ifs at h with hwhole hfront
  · obtain ⟨isOpen, hline⟩ := hwhole
    exact .inl ⟨isOpen, (Option.some.inj h).symm.trans hline, Option.some.inj h⟩
  · exact .inr ⟨(Option.some.inj h).symm, hfront⟩

/-- **Telling the fronts apart.** A driver that always ends as one whose unfinished line is the
front of an echo has the same front. -/
theorem echoFront_of_stateAfter {d d' : Driver} (hfd : 0 ≤ d.system.fd) (hfd' : 0 ≤ d'.system.fd)
    (hd : '\n' ∉ d.rxBuffer) (hd' : '\n' ∉ d'.rxBuffer)
    (h : ∀ traffic, d.stateAfter traffic = d'.stateAfter traffic) {core : List Char}
    (hcore : echoFront d.rxBuffer = some core) : echoFront d'.rxBuffer = some core := by
  have hsame : ∀ line isOpen, '\n' ∉ line →
      (d.rxBuffer ++ line).rdropWhile isTrailing = lineFor isOpen →
      (d'.rxBuffer ++ line).rdropWhile isTrailing = lineFor isOpen := by
    intro line isOpen hline hwhole
    rw [← Driver.stateAfter_complete hfd' hd' hline, ← h]
    exact (Driver.stateAfter_complete hfd hd hline isOpen).mpr hwhole
  rcases echoFront_eq_some hcore with ⟨isOpen, rfl, hwhole⟩ | ⟨rfl, isOpen, rest, hrest⟩
  · -- the command is complete already
    have hother := hsame [] isOpen (by simp) (by rwa [List.append_nil])
    rw [List.append_nil] at hother
    exact echoFront_of_whole hother
  · have hnewline : '\n' ∉ rest := by
      intro hmem
      have hspace := isSpace_lineFor isOpen '\n' (hrest ▸ List.mem_append_right _ hmem)
      exact absurd hspace (by decide)
    have hother := hsame rest isOpen hnewline (by rw [hrest, rdropWhile_lineFor])
    rcases List.eq_nil_or_concat rest with rfl | ⟨init, c, rfl⟩
    · rw [List.append_nil] at hrest hother
      rw [hrest]
      exact echoFront_of_whole hother
    · rw [List.concat_eq_append] at hrest hnewline hother
      -- the last character of a command is not stripped
      have hc : ¬isTrailing c = true := by
        intro hc
        have hself := rdropWhile_lineFor isOpen
        rw [← hrest, ← List.append_assoc, List.rdropWhile_concat_pos _ _ _ hc] at hself
        have hle := (List.rdropWhile_prefix isTrailing (d.rxBuffer ++ init)).length_le
        rw [hself, List.length_append, List.length_singleton] at hle
        omega
      rw [← List.append_assoc, List.rdropWhile_concat_neg _ _ _ hc, List.append_assoc,
        ← hrest] at hother
      rw [List.append_cancel_right hother]
      exact hcore

/-! ## Reopened ports

No event of the history leaves a newline in the buffer, so what a reopened port holds is a single
unfinished line, and its front decides. -/

/-- The buffer ends behind the last newline. -/
def Driver.OneLine (d : Driver) : Prop := '\n' ∉ d.rxBuffer

/-- A call on the port leaves `rx_buffer_` as it is. -/
theorem PortCall.rxBuffer_after (c : PortCall) (baudRate : ℤ) (d : Driver) :
    (c.after baudRate d).rxBuffer = d.rxBuffer := by
  cases c with
  | cleanup =>
    change (finalState (onCleanup d)).rxBuffer = d.rxBuffer
    rw [onCleanup_apply, finalState_ok]
    split_ifs
    · rfl
    · rfl
  | configure o =>
    change (finalState (onConfigure baudRate o d)).rxBuffer = d.rxBuffer
    have hcase := configureCase baudRate o d
    generalize onConfigure baudRate o d = r at hcase
    cases hcase with
    | notOpened hopen => rfl
    | notSet hopen hset => rfl
    | thrown hopen hget hbaud => rfl
    | configured hopen hget hset hbaud => rfl

/-- **Every event** keeps this. -/
theorem Driver.OneLine.step {baudRate : ℤ} {d d' : Driver} {event : PortEvent} (hd : d.OneLine)
    (h : d.step baudRate event = some d') : d'.OneLine := by
  cases event with
  | traffic t =>
    cases t with
    | read results =>
      rw [Driver.step, exchange] at h
      split_ifs at h with hclosed
      · obtain rfl := Option.some.inj h
        exact hd
      · rw [parseResults_eq h]
        exact notMem_pending _
    | write command outcomes =>
      obtain ⟨_, -, rfl⟩ := Option.map_eq_some_iff.mp h
      exact hd
  | activate command outcomes =>
    obtain ⟨_, -, rfl⟩ := Option.map_eq_some_iff.mp h
    exact hd
  | call c =>
    obtain rfl := Option.some.inj h
    rw [OneLine, c.rxBuffer_after]
    exact hd

theorem Driver.OneLine.run {baudRate : ℤ} {d d' : Driver} {events : List PortEvent}
    (hd : d.OneLine) (h : d.run baudRate events = some d') : d'.OneLine := by
  induction events generalizing d with
  | nil =>
    obtain rfl := Option.some.inj h
    exact hd
  | cons event events ih =>
    obtain ⟨mid, hmid, hrest⟩ := Option.bind_eq_some_iff.mp (List.foldlM_cons.symm.trans h)
    exact ih (hd.step hmid) hrest

/-- A reopened port is open, and may hold an unfinished line. -/
theorem Reopened.isOpen {baudRate : ℤ} {initialValue : Double} {history : List PortEvent}
    {o : Opening} {d : Driver} (h : Reopened baudRate initialValue history o d) :
    0 ≤ d.system.fd ∧ d.OneLine := by
  obtain ⟨before, hrun, hconfigure⟩ := h
  have hbefore : before.OneLine :=
    Driver.OneLine.run (d := Driver.initial initialValue) (by simp [Driver.OneLine, Driver.initial])
      hrun
  have hcase := configureCase baudRate o before
  rw [hconfigure] at hcase
  cases hcase with
  | configured hopen hget hset hbaud => exact ⟨hopen, hbefore⟩

/-- **Earlier bytes.** Take two ports that have been reopened, with the same command, state and last
line. Whatever is received and written from then on, `state_` is the same over both, exactly when
what the earlier connections have left unfinished is the front of the same echo, or of none. -/
theorem earlier_bytes_iff {baudRate baudRate' : ℤ} {initialValue initialValue' : Double}
    {history history' : List PortEvent} {o o' : Opening} {d d' : Driver}
    (h : Reopened baudRate initialValue history o d)
    (h' : Reopened baudRate' initialValue' history' o' d')
    (hcommand : d'.system.command = d.system.command) (hstate : d'.system.state = d.system.state)
    (hlast : d'.system.lastSentLogic = d.system.lastSentLogic) :
    (∀ traffic, d.stateAfter traffic = d'.stateAfter traffic) ↔
      echoFront d.rxBuffer = echoFront d'.rxBuffer := by
  obtain ⟨hfd, hd⟩ := h.isOpen
  obtain ⟨hfd', hd'⟩ := h'.isOpen
  constructor
  · intro hall
    rcases hfront : echoFront d.rxBuffer with _ | core
    · rcases hfront' : echoFront d'.rxBuffer with _ | core
      · rfl
      · have hother := echoFront_of_stateAfter hfd' hfd hd' hd (fun traffic ↦ (hall traffic).symm)
          hfront'
        rw [hfront] at hother
        cases hother
    · exact (echoFront_of_stateAfter hfd hfd' hd hd' hall hfront).symm
  · intro hfront traffic
    have hsystem : d'.system = { d.system with fd := d'.system.fd } := by
      rcases d with ⟨⟨fd, command, state, last⟩, rxBuffer⟩
      obtain rfl : d'.system.command = command := hcommand
      obtain rfl : d'.system.state = state := hstate
      obtain rfl : d'.system.lastSentLogic = last := hlast
      rfl
    exact Alike.stateAfter_eq ⟨hfd, hfd', hsystem, hd, hd', hfront⟩ traffic

/-- A first connection that the device leaves while it sends. -/
def cutHistory (bytes : List Char) : List PortEvent :=
  [.call (.configure ⟨3, 0, 0⟩), .traffic (.read [.received bytes, .again])]

theorem reopened_cutHistory (bytes : List Char) (h : '\n' ∉ bytes) :
    Reopened 115200 (.finite 0) (cutHistory bytes) ⟨3, 0, 0⟩
      ⟨System.configured 3 (.finite 0), bytes⟩ := by
  have hread : Driver.exchange ⟨System.configured 3 (.finite 0), []⟩
      (.read [.received bytes, .again]) = some ⟨System.configured 3 (.finite 0), bytes⟩ := by
    rw [Driver.exchange, if_neg (by decide), Driver.parseResults_once,
      Driver.parseRx_of_notMem (by simp), feed_of_notMem h]
    rfl
  refine ⟨⟨System.configured (-1) (.finite 0), bytes⟩, ?_, rfl⟩
  change (Driver.exchange ⟨System.configured 3 (.finite 0), []⟩ (.read [.received bytes, .again])
    >>= fun d ↦ d.run 115200 [.call .cleanup]) = _
  rw [hread]
  rfl

/-- Reports that are no fronts of echoes, one of the board's start and one of a third position. -/
theorem earlier_bytes_of_reports :
    Driver.stateAfter ⟨System.configured 3 (.finite 0), "ready".toList⟩
      = Driver.stateAfter ⟨System.configured 3 (.finite 0), "pneumo2".toList⟩ :=
  funext <| (earlier_bytes_iff (reopened_cutHistory "ready".toList (by decide))
    (reopened_cutHistory "pneumo2".toList (by decide)) rfl rfl rfl).mpr (by decide +kernel)

/-- The echo of "open" has lost its end with the first connection. A digit and a newline that are
received over the second one then open the valve in `state_`, and would not do so otherwise. -/
theorem cut_echo_influences : ∃ d d',
    Reopened 115200 (.finite 0) (cutHistory "pneumo".toList) ⟨3, 0, 0⟩ d ∧
      Reopened 115200 (.finite 0) (cutHistory []) ⟨3, 0, 0⟩ d' ∧ d'.system = d.system ∧
      d.stateAfter [.read [.received "1\n".toList, .again]] = some (.finite 1) ∧
      d'.stateAfter [.read [.received "1\n".toList, .again]] = some (.finite 0) := by
  refine ⟨_, _, reopened_cutHistory _ (by decide), reopened_cutHistory _ (by simp), rfl, ?_, ?_⟩
  · rw [Driver.stateAfter, Driver.exchanges, List.foldlM_cons, Driver.exchange, if_neg (by decide),
      Driver.parseResults_once]
    decide +kernel
  · rw [Driver.stateAfter, Driver.exchanges, List.foldlM_cons, Driver.exchange, if_neg (by decide),
      Driver.parseResults_once]
    decide +kernel

end VzletUr3e.Suction
