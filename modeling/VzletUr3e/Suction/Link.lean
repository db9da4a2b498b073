import VzletUr3e.Suction.Composition
import VzletUr3e.Suction.Receive

/-!
# The line between the interface and the board

`Link` is the bench with a line in between: what one side has sent waits until the other side reads
it. A run interleaves calls of the interface, reads, the sketch at work, and the board starting
again. Bytes are never lost on the line.

Once the bytes on their way have been read, a link is a bench (`Link.settled`): reading changes
nothing about it, and a call of the interface is a call on the bench. So a run is correct as long as
nothing happens that moves the valve of the settled bench without `state_`.
-/

namespace VzletUr3e.Suction

open LineReader Runs

/-! ## Runs -/

structure Link where
  driver : Driver
  firmware : Firmware
  /-- The bytes on their way to the board, and from it. -/
  toBoard : List Char
  fromBoard : List Char
deriving DecidableEq, Repr

inductive Event
  /-- `write` or `on_activate`. -/
  | call (c : Call)
  /-- `read`, when the next `n` bytes have arrived. -/
  | read (n : ℕ)
  /-- The sketch reads the next `n` bytes. -/
  | process (n : ℕ)
  /-- `readStringUntil` gives up on an unfinished line and returns it. -/
  | timeout
  /-- The board starts again. -/
  | restart
deriving DecidableEq, Repr

/-- The event only delivers bytes. -/
def Event.delivers : Event → Bool
  | .read _ => true
  | .process _ => true
  | _ => false

/-- The firmware after a line has been given up on. -/
def Firmware.giveUp (fw : Firmware) : Firmware :=
  if fw.pending = [] then fw else ⟨[], fw.state.execute fw.pending⟩

/-- What the firmware has printed since. -/
def Firmware.printedSince (old new : Firmware) : List String :=
  new.state.printed.drop old.state.printed.length

namespace Link

/-- The firmware goes on in the state `fw`, and sends what it has printed. -/
def advance (l : Link) (fw : Firmware) : Link :=
  { l with firmware := fw, fromBoard := l.fromBoard ++ printlns (l.firmware.printedSince fw) }

/-- The link after an event. A call that does not return ends the run. -/
def step (l : Link) : Event → Option Link
  | .call c =>
    let s := { l.driver.system with command := c.command }
    let (s', sent, result) := if c.activate then s.onActivate c.outcomes else s.write c.outcomes
    result.map fun _ ↦
      { l with driver := { l.driver with system := s' }, toBoard := l.toBoard ++ sent }
  | .read n =>
    let (driver, result) := l.driver.read (l.fromBoard.take n)
    some (if result = .ok then { l with driver := driver, fromBoard := l.fromBoard.drop n } else l)
  | .process n =>
    some { l.advance (l.firmware.consume (l.toBoard.take n)) with toBoard := l.toBoard.drop n }
  | .timeout => some (l.advance l.firmware.giveUp)
  | .restart =>
    some { l with
      firmware := Firmware.setup, fromBoard := l.fromBoard ++ printlns Board.setup.printed }

/-- The link after a run. -/
def run (l : Link) (events : List Event) : Option Link := events.foldlM step l

def Next (l : Link) (e : Event) (l' : Link) : Prop := l.step e = some l'

/-- The interface is configured and the board has started. -/
def configured (fd : ℤ) (initialValue : Double) : Link where
  driver := ⟨System.configured fd initialValue, []⟩
  firmware := Firmware.setup
  toBoard := []
  fromBoard := printlns Board.setup.printed

/-! ## Agreement -/

/-- Every byte has been consumed. -/
def Quiet (l : Link) : Prop := l.toBoard = [] ∧ l.fromBoard = []

/-- `state_` is 1.0 exactly when the valve is open. -/
def Agrees (l : Link) : Prop :=
  l.driver.system.state = .finite 1 ↔ l.firmware.state.valveState = true

/-- Whenever every byte has been consumed, from here on and until the next call or restart, the link
agrees. -/
def Settles (l : Link) : Prop :=
  ∀ events : List Event, (∀ e ∈ events, e.delivers = true) →
    ∀ l', l.run events = some l' → l'.Quiet → l'.Agrees

/-- The bench that is left when the bytes on their way to the board have been read. -/
def settled (l : Link) : Bench := ⟨l.driver.system, l.firmware.consume l.toBoard⟩

/-- Where the valve will stand then. -/
def valve (l : Link) : Bool := l.settled.firmware.state.valveState

/-- The link will agree then. -/
def WillAgree (l : Link) : Prop := l.driver.system.state = .finite 1 ↔ l.valve = true

/-- The event does not part the valve from `state_`: a line is sent whole, and not behind a part of
another one, and the board neither starts again nor gives up on a line unless this leaves the valve
where the bytes on their way would have put it. -/
def Harmless (l : Link) : Event → Prop
  | .call c => Undisturbed l.settled c
  | .timeout => ({ l with firmware := l.firmware.giveUp } : Link).valve = l.valve
  | .restart => ({ l with firmware := Firmware.setup } : Link).valve = l.valve
  | _ => True

end Link

/-! ## What the firmware keeps -/

/-- The characters of an unfinished line. -/
def NoSpace (l : List Char) : Prop := ∀ c ∈ l, isSpace c = false

/-- The characters of the lines of the interface. -/
def LineChars (l : List Char) : Prop := ∀ c ∈ l, c = '\n' ∨ isSpace c = false

/-- Reading keeps white space out of the unfinished line, and prints answers only. -/
theorem consume_spec {bytes : List Char} (hbytes : LineChars bytes) {fw : Firmware}
    (hpending : NoSpace fw.pending) :
    NoSpace (fw.consume bytes).pending ∧ ∃ lines,
      (fw.consume bytes).state.printed = fw.state.printed ++ lines ∧ ∀ l ∈ lines, Answer l := by
  induction bytes generalizing fw with
  | nil => exact ⟨hpending, [], (List.append_nil _).symm, by simp⟩
  | cons c bytes ih =>
    have hrest : LineChars bytes := fun c hc ↦ hbytes c (List.mem_cons_of_mem _ hc)
    change NoSpace (Firmware.consume (step '\n' Board.execute fw c) bytes).pending ∧ ∃ lines,
      (Firmware.consume (step '\n' Board.execute fw c) bytes).state.printed = _ ∧ _
    by_cases hc : c = '\n'
    · -- a line is read
      have hnotMem : '\n' ∉ fw.pending := fun hmem ↦ absurd (hpending _ hmem) (by decide)
      obtain ⟨lines, hprinted, hlines⟩ := execute_printed fw.state hnotMem
      rw [step, if_pos hc]
      obtain ⟨hspace, more, hmore, hanswers⟩ :=
        @ih hrest ⟨[], fw.state.execute fw.pending⟩ (by simp [NoSpace])
      refine ⟨hspace, lines ++ more, ?_, fun l hl ↦ ?_⟩
      · rw [hmore, hprinted, List.append_assoc]
      · exact (List.mem_append.mp hl).elim (hlines l) (hanswers l)
    · rw [step, if_neg hc]
      refine @ih hrest ⟨fw.pending ++ [c], fw.state⟩ fun d hd ↦ ?_
      rcases List.mem_append.mp hd with h | h
      · exact hpending d h
      · rw [List.mem_singleton.mp h]
        exact (hbytes c List.mem_cons_self).resolve_left hc

theorem giveUp_spec {fw : Firmware} (hpending : NoSpace fw.pending) :
    NoSpace fw.giveUp.pending ∧ ∃ lines,
      fw.giveUp.state.printed = fw.state.printed ++ lines ∧ ∀ l ∈ lines, Answer l := by
  unfold Firmware.giveUp
  by_cases hnil : fw.pending = []
  · rw [if_pos hnil]
    exact ⟨hpending, [], (List.append_nil _).symm, by simp⟩
  · rw [if_neg hnil]
    refine ⟨by simp [NoSpace], execute_printed fw.state fun hmem ↦ ?_⟩
    exact absurd (hpending _ hmem) (by decide)

/-! ## Well-formed links -/

/-- What every run keeps, whatever happens: the port is open, the line carries characters of the
commands to the board, and answers back. -/
structure WellFormed (l : Link) : Prop where
  isOpen : 0 ≤ l.driver.system.fd
  pending : NoSpace l.firmware.pending
  toBoard : LineChars l.toBoard
  heard : ∃ lines, l.driver.rxBuffer ++ l.fromBoard = printlns lines ∧ ∀ line ∈ lines, Answer line

theorem wellFormed_configured (fd : ℕ) (initialValue : Double) :
    WellFormed (Link.configured fd initialValue) :=
  ⟨Int.natCast_nonneg fd, by simp [Link.configured, Firmware.setup, NoSpace],
    by simp [Link.configured, LineChars], Board.setup.printed, rfl, setup_printed⟩

variable {l l' : Link}

/-- The bytes that a firmware prints come behind those on their way. -/
theorem heard_append (h : WellFormed l) {lines : List String}
    (hlines : ∀ line ∈ lines, Answer line) :
    ∃ all, l.driver.rxBuffer ++ (l.fromBoard ++ printlns lines) = printlns all ∧
      ∀ line ∈ all, Answer line := by
  obtain ⟨before, hbefore, hanswers⟩ := h.heard
  refine ⟨before ++ lines, ?_, fun line hline ↦ ?_⟩
  · rw [← List.append_assoc, hbefore, printlns, printlns, printlns, List.flatMap_append]
  · exact (List.mem_append.mp hline).elim (hanswers line) (hlines line)

theorem WellFormed.advance (h : WellFormed l) {fw : Firmware}
    (hfw : NoSpace fw.pending ∧ ∃ lines, fw.state.printed = l.firmware.state.printed ++ lines ∧
      ∀ line ∈ lines, Answer line) : WellFormed (l.advance fw) := by
  obtain ⟨hspace, lines, hprinted, hlines⟩ := hfw
  refine ⟨h.isOpen, hspace, h.toBoard, ?_⟩
  have hsince : l.firmware.printedSince fw = lines := by
    rw [Firmware.printedSince, hprinted, List.drop_left]
  rw [Link.advance, hsince]
  exact heard_append h hlines

/-- Reading what has arrived leaves `state_` alone. -/
theorem parseRx_spec (h : WellFormed l) (n : ℕ) :
    (l.driver.parseRx (l.fromBoard.take n)).system = l.driver.system ∧
      ∃ lines, (l.driver.parseRx (l.fromBoard.take n)).rxBuffer ++ l.fromBoard.drop n
        = printlns lines ∧ ∀ line ∈ lines, Answer line := by
  obtain ⟨lines, hheard, hlines⟩ := h.heard
  have hsplit : (l.driver.rxBuffer ++ l.fromBoard.take n) ++ l.fromBoard.drop n
      = printlns lines := by
    rw [List.append_assoc, List.take_append_drop, hheard]
  obtain ⟨hstate, left, hleft, hanswers⟩ := feed_answers hsplit hlines
  exact ⟨congrArg (fun state ↦ { l.driver.system with state := state }) hstate,
    left, hleft, hanswers⟩

/-! ## Deliveries -/

theorem step_read (hopen : 0 ≤ l.driver.system.fd) (n : ℕ) : l.step (.read n) = some { l with
    driver := l.driver.parseRx (l.fromBoard.take n), fromBoard := l.fromBoard.drop n } := by
  have h : ¬ l.driver.system.fd < 0 := by omega
  simp [Link.step, Driver.read, h]

/-- A delivery changes nothing about the settled bench. -/
theorem WellFormed.deliver (h : WellFormed l) {e : Event} (he : e.delivers = true)
    (hnext : l.Next e l') : WellFormed l' ∧ l'.settled = l.settled := by
  cases e with
  | call c => cases he
  | timeout => cases he
  | restart => cases he
  | read n =>
    obtain ⟨hsystem, lines, hheard, hlines⟩ := parseRx_spec h n
    obtain rfl : _ = l' := Option.some.inj ((step_read h.isOpen n).symm.trans hnext)
    refine ⟨⟨?_, h.pending, h.toBoard, lines, hheard, hlines⟩, ?_⟩
    · change 0 ≤ (l.driver.parseRx _).system.fd
      rw [hsystem]
      exact h.isOpen
    · exact congrArg (fun system ↦ (⟨system, l.settled.firmware⟩ : Bench)) hsystem
  | process n =>
    obtain rfl : _ = l' := Option.some.inj hnext
    have htake : LineChars (l.toBoard.take n) := fun c hc ↦ h.toBoard c (List.mem_of_mem_take hc)
    have hadvanced := h.advance (consume_spec htake h.pending)
    refine ⟨⟨hadvanced.isOpen, hadvanced.pending, fun c hc ↦ ?_, hadvanced.heard⟩, ?_⟩
    · exact h.toBoard c (List.mem_of_mem_drop hc)
    · -- where the stream is cut does not matter
      have hfeed : (l.firmware.consume (l.toBoard.take n)).consume (l.toBoard.drop n)
          = l.firmware.consume l.toBoard := by
        have hcut := List.take_append_drop n l.toBoard
        rw [Firmware.consume, Firmware.consume, ← feed_append, hcut, Firmware.consume]
      exact congrArg (fun fw ↦ (⟨l.driver.system, fw⟩ : Bench)) hfeed

theorem run_cons {e : Event} {events : List Event} :
    l.run (e :: events) = some l' ↔ ∃ next, l.Next e next ∧ next.run events = some l' := by
  rw [Link.run, List.foldlM_cons]
  exact Option.bind_eq_some_iff

theorem WellFormed.deliveries {events : List Event} (hevents : ∀ e ∈ events, e.delivers = true) :
    ∀ {l : Link}, WellFormed l → l.run events = some l' → l'.settled = l.settled := by
  induction events with
  | nil =>
    intro l _ hrun
    obtain rfl : l = l' := Option.some.inj hrun
    rfl
  | cons e events ih =>
    intro l h hrun
    obtain ⟨next, hnext, hrest⟩ := run_cons.mp hrun
    obtain ⟨hwell, hsettled⟩ := h.deliver (hevents e List.mem_cons_self) hnext
    rw [ih (fun e he ↦ hevents e (List.mem_cons_of_mem _ he)) hwell hrest, hsettled]

/-- A link settles exactly when it will agree. -/
theorem settles_iff (h : WellFormed l) : l.Settles ↔ l.WillAgree := by
  constructor
  · intro hsettles
    -- the sketch reads everything, and then the interface does
    let read : Link := { l.advance (l.firmware.consume l.toBoard) with toBoard := [] }
    have hprocess : l.Next (.process l.toBoard.length) read := by
      simp [Link.Next, Link.step, read]
    have hread : ∃ quiet, read.Next (.read read.fromBoard.length) quiet ∧ quiet.Quiet := by
      have hopen : 0 ≤ read.driver.system.fd := h.isOpen
      exact ⟨_, step_read hopen _, rfl, List.drop_length⟩
    obtain ⟨quiet, hquiet, hempty⟩ := hread
    have hdelivers : ∀ e ∈ [Event.process l.toBoard.length, .read read.fromBoard.length],
        e.delivers = true := by simp [Event.delivers]
    have hrun : l.run [.process l.toBoard.length, .read read.fromBoard.length] = some quiet :=
      run_cons.mpr ⟨read, hprocess, run_cons.mpr ⟨quiet, hquiet, rfl⟩⟩
    have hagrees := hsettles _ hdelivers quiet hrun hempty
    have hsettled := h.deliveries hdelivers hrun
    have hquiet' : quiet.settled = ⟨quiet.driver.system, quiet.firmware⟩ := by
      rw [Link.settled, hempty.1]
      rfl
    rw [hquiet'] at hsettled
    rw [Link.WillAgree, Link.valve, ← hsettled]
    have hsystem : quiet.driver.system = l.driver.system := congrArg Bench.system hsettled
    rw [← hsystem]
    exact hagrees
  · intro hagree events hevents l' hrun hquiet
    have hsettled := h.deliveries hevents hrun
    rw [Link.settled, hquiet.1] at hsettled
    have hsystem : l'.driver.system = l.driver.system := congrArg Bench.system hsettled
    have hfirmware : l'.firmware = l.settled.firmware := congrArg Bench.firmware hsettled
    rw [Link.Agrees, hsystem, hfirmware]
    exact hagree

/-! ## Calls and restarts -/

/-- What goes out in a call is a front part of a line, and the port stays as it is. -/
theorem write_sent (s : System) (outcomes : List WriteResult) :
    (s.write outcomes).1.fd = s.fd ∧
      (s.write outcomes).2.1 <+: (uartCmd (thresholded s.command)).toList := by
  by_cases hfd : s.fd < 0
  · rw [System.write_of_closed hfd]
    exact ⟨rfl, List.nil_prefix⟩
  by_cases hsent : s.alreadySent (thresholded s.command) = true
  · rw [System.write_of_alreadySent hfd hsent]
    exact ⟨rfl, List.nil_prefix⟩
  by_cases hall : (sendLine (uartCmd (thresholded s.command)).toList outcomes).2 = some true
  · rw [System.write_of_sent hfd hsent hall]
    exact ⟨rfl, List.prefix_rfl⟩
  · obtain ⟨result, -, hwrite⟩ := System.write_of_cut hfd hsent hall
    rw [hwrite]
    exact ⟨rfl, (sendLine_spec _ _).1⟩

theorem lineChars_uartCmd (command : Double) :
    LineChars (uartCmd (thresholded command)).toList := by
  have hall : ∀ isOpen, LineChars (uartCmd (logicOf isOpen)).toList := by
    intro isOpen c hc
    rw [uartCmd_logicOf, List.mem_append, List.mem_singleton] at hc
    exact hc.symm.imp id (isSpace_lineFor isOpen c)
  exact hall (command.ge (1 / 2))

theorem step_call (c : Call) :
    l.step (.call c) = (l.settled.call c).2.map fun _ ↦ { l with
      driver := { l.driver with system := ((c.prepare l.driver.system).write c.outcomes).1 }
      toBoard := l.toBoard ++ ((c.prepare l.driver.system).write c.outcomes).2.1 } := by
  rw [Bench.call_eq]
  by_cases h : c.activate = true <;>
    simp [Link.step, Call.prepare, System.onActivate, h, Link.settled]

/-- A call of the interface is a call on the settled bench. -/
theorem next_call {c : Call} (hnext : l.Next (.call c) l') :
    (∃ result, l.settled.call c = (l'.settled, some result)) ∧
      l'.driver.rxBuffer = l.driver.rxBuffer ∧ l'.fromBoard = l.fromBoard ∧
      l'.firmware = l.firmware ∧ l'.driver.system.fd = l.driver.system.fd ∧
      ∃ sent, l'.toBoard = l.toBoard ++ sent ∧
        sent <+: (uartCmd (thresholded c.command)).toList := by
  obtain ⟨result, hresult, rfl⟩ := Option.map_eq_some_iff.mp ((step_call c).symm.trans hnext)
  obtain ⟨hfd, hsent⟩ := write_sent (c.prepare l.driver.system) c.outcomes
  refine ⟨⟨result, Prod.ext ?_ hresult⟩, rfl, rfl, rfl, hfd, _, rfl, hsent⟩
  rw [Bench.call_eq]
  exact congrArg (Bench.mk _) feed_append.symm

/-- A call that does not return has not sent a line. -/
theorem undisturbed_of_stuck {c : Call} (hstuck : ∀ l', ¬ l.Next (.call c) l') :
    Undisturbed l.settled c := by
  have hcase := callCase l.settled c
  have hnone : (l.settled.call c).2 = none := by
    by_contra hsome
    obtain ⟨result, hresult⟩ := Option.ne_none_iff_exists'.mp hsome
    have hnext := step_call (l := l) c
    rw [hresult] at hnext
    exact hstuck _ hnext
  intro hsends
  generalize l.settled.call c = r at hcase hnone
  cases hcase with
  | closed hfd => cases hnone
  | skipped hsent => cases hnone
  | sent _ => cases hnone
  | cut _ _ hnot => exact absurd hsends hnot

/-- A link whose valve will stand as `state_` says. -/
structure Synced (l : Link) : Prop extends WellFormed l where
  sent : l.driver.system.lastSentLogic = .nan ∨ l.driver.system.lastSentLogic = logicOf l.valve
  willAgree : l.WillAgree

theorem Synced.inStep (h : Synced l) : InStep l.settled :=
  ⟨(consume_spec h.toBoard h.pending).1, h.sent⟩

theorem logicOf_eq_one_iff (isOpen : Bool) : logicOf isOpen = .finite 1 ↔ isOpen = true := by
  cases isOpen <;> decide

/-- A call keeps the agreement exactly when it is undisturbed, and keeps the link in step then. -/
theorem Synced.call {c : Call} (h : Synced l) (hnext : l.Next (.call c) l') :
    (l'.WillAgree ↔ Undisturbed l.settled c) ∧ (l'.WillAgree →
      l'.driver.system.lastSentLogic = .nan ∨
        l'.driver.system.lastSentLogic = logicOf l'.valve) := by
  obtain ⟨⟨result, hcall⟩, -⟩ := next_call hnext
  have hcase := callCase l.settled c
  rw [hcall] at hcase
  unfold Link.WillAgree Link.valve
  change ((l'.settled.system.state = .finite 1 ↔ l'.settled.firmware.state.valveState = true) ↔ _) ∧
    ((l'.settled.system.state = .finite 1 ↔ l'.settled.firmware.state.valveState = true) →
      l'.settled.system.lastSentLogic = .nan ∨
        l'.settled.system.lastSentLogic = logicOf l'.settled.firmware.state.valveState)
  generalize l'.settled = b' at hcase
  have hagree : l.settled.system.state = .finite 1 ↔ l.settled.firmware.state.valveState = true :=
    h.willAgree
  unfold Undisturbed
  cases hcase with
  | closed hfd =>
    have hopen : 0 ≤ l.settled.system.fd := h.isOpen
    omega
  | skipped hsent =>
    refine ⟨iff_of_true hagree fun hsends ↦ ?_, fun _ ↦ h.inStep.prepare c⟩
    exact absurd hsent (Bool.eq_false_iff.mp hsends.2.1)
  | sent hsends =>
    simp only [hsends, forall_const, logicOf_eq_one_iff]
    refine ⟨?_, fun hvalve ↦ Or.inr (congrArg logicOf (Bool.eq_iff_iff.mpr hvalve))⟩
    rw [← Bool.eq_iff_iff]
    by_cases hnil : l.settled.firmware.pending = []
    · rw [hnil, List.nil_append, valveState_execute_lineFor]
      exact ⟨fun _ ↦ Or.inl rfl, fun _ ↦ rfl⟩
    · -- the line arrives behind a part of another one
      rw [valveState_behind h.inStep c.opens hnil]
      exact ⟨fun heq ↦ Or.inr heq.symm, fun hor ↦ (hor.resolve_left hnil).symm⟩
  | cut _ _ hsends =>
    exact ⟨iff_of_true hagree fun hs ↦ absurd hs hsends, fun _ ↦ h.inStep.prepare c⟩

/-- **Every event** keeps the line well-formed. -/
theorem WellFormed.next (h : WellFormed l) {e : Event} (hnext : l.Next e l') : WellFormed l' := by
  cases e with
  | call c =>
    obtain ⟨-, hbuffer, hfrom, hfirmware, hfd, sent, hto, hsent⟩ := next_call hnext
    refine ⟨by rw [hfd]; exact h.isOpen, by rw [hfirmware]; exact h.pending, fun ch hch ↦ ?_,
      by rw [hbuffer, hfrom]; exact h.heard⟩
    rw [hto] at hch
    rcases List.mem_append.mp hch with hold | hnew
    · exact h.toBoard ch hold
    · exact lineChars_uartCmd c.command ch (hsent.subset hnew)
  | read n => exact (h.deliver rfl hnext).1
  | process n => exact (h.deliver rfl hnext).1
  | timeout =>
    obtain rfl : _ = l' := Option.some.inj hnext
    exact h.advance (giveUp_spec h.pending)
  | restart =>
    obtain rfl : _ = l' := Option.some.inj hnext
    exact ⟨h.isOpen, by simp [Firmware.setup, NoSpace], h.toBoard, heard_append h setup_printed⟩

/-- A board that goes on from another state keeps the agreement exactly when the valve will stand as
before. -/
theorem willAgree_of_board (hagree : l.WillAgree) (hsystem : l'.driver.system = l.driver.system) :
    l'.WillAgree ↔ l'.valve = l.valve := by
  rw [Link.WillAgree] at hagree ⊢
  rw [hsystem, hagree, ← Bool.eq_iff_iff]
  exact eq_comm

/-- **One event** keeps the agreement exactly when it is harmless. -/
theorem Synced.willAgree_next (h : Synced l) {e : Event} (hnext : l.Next e l') :
    l'.WillAgree ↔ l.Harmless e := by
  cases e with
  | call c => exact (h.call hnext).1
  | read n =>
    have hsettled := (h.deliver rfl hnext).2
    have hsystem : l'.driver.system = l.driver.system := congrArg Bench.system hsettled
    exact iff_of_true ((willAgree_of_board h.willAgree hsystem).mpr (by
      rw [Link.valve, hsettled, Link.valve])) trivial
  | process n =>
    have hsettled := (h.deliver rfl hnext).2
    have hsystem : l'.driver.system = l.driver.system := congrArg Bench.system hsettled
    exact iff_of_true ((willAgree_of_board h.willAgree hsystem).mpr (by
      rw [Link.valve, hsettled, Link.valve])) trivial
  | timeout =>
    obtain rfl : _ = l' := Option.some.inj hnext
    exact willAgree_of_board h.willAgree rfl
  | restart =>
    obtain rfl : _ = l' := Option.some.inj hnext
    exact willAgree_of_board h.willAgree rfl

theorem harmless_of_stuck {e : Event} (hstuck : ∀ l', ¬ l.Next e l') : l.Harmless e := by
  cases e with
  | call c => exact undisturbed_of_stuck hstuck
  | read n => trivial
  | process n => trivial
  | timeout => exact absurd rfl (hstuck _)
  | restart => exact absurd rfl (hstuck _)

/-- An event that keeps the agreement keeps the link in step. -/
theorem Synced.next (h : Synced l) {e : Event} (hnext : l.Next e l') (hagree : l'.WillAgree) :
    Synced l' := by
  refine ⟨h.toWellFormed.next hnext, ?_, hagree⟩
  have hboard : l'.driver.system = l.driver.system →
      l'.driver.system.lastSentLogic = .nan ∨
        l'.driver.system.lastSentLogic = logicOf l'.valve := by
    intro hsystem
    rw [hsystem, (willAgree_of_board h.willAgree hsystem).mp hagree]
    exact h.sent
  cases e with
  | call c => exact (h.call hnext).2 hagree
  | read n => exact hboard (congrArg Bench.system (h.deliver rfl hnext).2)
  | process n => exact hboard (congrArg Bench.system (h.deliver rfl hnext).2)
  | timeout =>
    obtain rfl : _ = l' := Option.some.inj hnext
    exact hboard rfl
  | restart =>
    obtain rfl : _ = l' := Option.some.inj hnext
    exact hboard rfl

/-! ## Runs -/

/-- The event leaves a link that settles. -/
def Link.KeepsSettled (l : Link) (e : Event) : Prop := ∀ l', l.Next e l' → l'.Settles

theorem configured_willAgree_iff (fd : ℕ) (initialValue : Double) :
    (Link.configured fd initialValue).WillAgree ↔ initialValue ≠ .finite 1 := by
  have hvalve : (Link.configured fd initialValue).valve = false := rfl
  rw [Link.WillAgree, hvalve]
  change (initialValue = .finite 1 ↔ false = true) ↔ _
  simp

/-- **`state_` follows the valve.** Over every run from a configured interface and a board that has
started, the two agree whenever every byte has been consumed exactly when the initial value is not
1.0 and every event is harmless. -/
theorem state_follows_valve_iff (fd : ℕ) (initialValue : Double) (events : List Event) :
    ((Link.configured fd initialValue).Settles ∧
        Along Link.Next Link.KeepsSettled (Link.configured fd initialValue) events) ↔
      initialValue ≠ .finite 1 ∧
        Along Link.Next Link.Harmless (Link.configured fd initialValue) events := by
  have hwell := wellFormed_configured fd initialValue
  rw [settles_iff hwell, configured_willAgree_iff]
  refine and_congr_right fun hinitial ↦ ?_
  have hsynced : Synced (Link.configured fd initialValue) :=
    ⟨hwell, Or.inl rfl, (configured_willAgree_iff fd initialValue).mpr hinitial⟩
  refine along_iff_along (J := Synced) (fun l e hl ↦ ?_) (fun l e l' hl hkeeps hnext ↦ ?_) hsynced
  · constructor
    · intro hkeeps
      by_cases hnext : ∃ l', l.Next e l'
      · obtain ⟨l', hnext⟩ := hnext
        have hagree := (settles_iff (hl.toWellFormed.next hnext)).mp (hkeeps l' hnext)
        exact (hl.willAgree_next hnext).mp hagree
      · rw [not_exists] at hnext
        exact harmless_of_stuck hnext
    · intro hharmless l' hnext
      rw [settles_iff (hl.toWellFormed.next hnext)]
      exact (hl.willAgree_next hnext).mpr hharmless
  · have hwell' := hl.toWellFormed.next hnext
    exact hl.next hnext ((settles_iff hwell').mp (hkeeps l' hnext))

/-- An activation to open that is read and answered, and then the board starts again. -/
def openedThenRestarted : List Event :=
  [.call ⟨true, .finite 1, [.accepted 8]⟩, .process 8, .read 200, .restart, .read 200]

/-- The valve is closed and `state_` is 1.0 still: nothing that the board prints corrects it. -/
theorem restart_goes_unnoticed :
    ¬ ∀ l, (Link.configured 3 (.finite 0)).run openedThenRestarted = some l →
      l.Quiet → l.Agrees := by
  intro h
  have hrun : ((Link.configured 3 (.finite 0)).run openedThenRestarted).map (fun l ↦
      (l.toBoard, l.fromBoard, l.driver.system.state, l.firmware.state.valveState))
        = some ([], [], .finite 1, false) := by decide +kernel
  obtain ⟨l, hl, hfields⟩ := Option.map_eq_some_iff.mp hrun
  obtain ⟨hto, hfields⟩ := Prod.mk.inj hfields
  obtain ⟨hfrom, hfields⟩ := Prod.mk.inj hfields
  obtain ⟨hstate, hvalve⟩ := Prod.mk.inj hfields
  have hopen := (h l hl ⟨hto, hfrom⟩).mp hstate
  rw [hvalve] at hopen
  cases hopen

end VzletUr3e.Suction
