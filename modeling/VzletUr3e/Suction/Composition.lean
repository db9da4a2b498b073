import VzletUr3e.Library.Runs
import VzletUr3e.Suction.System
import VzletUr3e.Suction.Firmware

/-!
# The interface and the board

`Bench` puts the interface in front of the board, over a line that loses and reorders nothing: the
board has read every byte that the device has taken. A run is a list of calls, each with its command
and the outcomes of its `::write`s.

A `::write` that fails can leave the front part of a line behind. The retry sends the whole line
again, which then arrives as the tail of an unknown command. The interface takes it for sent.
-/

namespace VzletUr3e.Suction

open LineReader Runs

/-! ## Calls -/

/-- One call of `write` or `on_activate`. -/
structure Call where
  /-- The call is `on_activate`. -/
  activate : Bool
  /-- The value of `command_` at the call. -/
  command : Double
  outcomes : List WriteResult
deriving DecidableEq, Repr

structure Bench where
  system : System
  firmware : Firmware
deriving DecidableEq, Repr

namespace Bench

/-- The bench after the call, and what the call has returned if it has. -/
def call (b : Bench) (c : Call) : Bench × Option ReturnType :=
  let s := { b.system with command := c.command }
  let (s', sent, result) := if c.activate then s.onActivate c.outcomes else s.write c.outcomes
  (⟨s', b.firmware.consume sent⟩, result)

/-- The call returns and leaves the bench in the state `b'`. -/
def Next (b : Bench) (c : Call) (b' : Bench) : Prop := ∃ result, b.call c = (b', some result)

/-- The bench before the first call. -/
def configured (fd : ℤ) (initialValue : Double) : Bench :=
  ⟨System.configured fd initialValue, Firmware.setup⟩

end Bench

/-- The command is to open the valve. -/
def Call.opens (c : Call) : Bool := c.command.ge (1 / 2)

/-- If the call returns `OK`, the valve is open exactly when the command says so. -/
def Agrees (b : Bench) (c : Call) : Prop :=
  (b.call c).2 = some .ok → (b.call c).1.firmware.state.valveState = c.opens

/-- The system that the call finds when it decides whether to send. -/
def Call.prepare (c : Call) (s : System) : System :=
  { s with command := c.command, lastSentLogic := if c.activate then .nan else s.lastSentLogic }

/-- The call sends a line, and all of it is taken. -/
def SendsLine (b : Bench) (c : Call) : Prop :=
  0 ≤ b.system.fd ∧ (c.prepare b.system).alreadySent (thresholded c.command) = false ∧
    (sendLine (uartCmd (thresholded c.command)).toList c.outcomes).2 = some true

/-- No whole line is sent behind the front part of another one, unless the valve already stands as
commanded. -/
def Undisturbed (b : Bench) (c : Call) : Prop :=
  SendsLine b c → b.firmware.pending = [] ∨ b.firmware.state.valveState = c.opens

/-! ## Lines and commands -/

/-- The number that stands for a position of the valve. -/
def logicOf (isOpen : Bool) : Double := if isOpen then .finite 1 else .finite 0

/-- The line for a position of the valve. -/
def lineFor (isOpen : Bool) : List Char :=
  if isOpen then "pneumo1".toList else "pneumo0".toList

theorem uartCmd_logicOf (isOpen : Bool) :
    (uartCmd (logicOf isOpen)).toList = lineFor isOpen ++ ['\n'] := by
  have hgt : (logicOf isOpen).gt (1 / 2) = isOpen := by
    cases isOpen <;> norm_num [logicOf, Double.gt]
  rw [uartCmd, hgt]
  cases isOpen <;> rfl

theorem isSpace_lineFor (isOpen : Bool) : ∀ c ∈ lineFor isOpen, isSpace c = false := by
  have hall : (lineFor isOpen).all (fun c ↦ !isSpace c) = true := by cases isOpen <;> rfl
  intro c hc
  simpa using List.all_eq_true.mp hall c hc

theorem valveState_execute_lineFor (board : Board) (isOpen : Bool) :
    (board.execute (lineFor isOpen)).valveState = isOpen := by
  have htrim : trim (lineFor isOpen) = lineFor isOpen := trim_eq_self (isSpace_lineFor isOpen)
  rw [Board.execute, htrim]
  cases isOpen <;> rfl

theorem eq_logicOf_iff (x y : Bool) : (logicOf x).eq (logicOf y) = true ↔ x = y := by
  cases x <;> cases y <;> decide

/-! ## What a call does -/

/-- An activation is a write that forgets what was sent. -/
theorem Bench.call_eq (b : Bench) (c : Call) :
    b.call c = (⟨((c.prepare b.system).write c.outcomes).1,
      b.firmware.consume ((c.prepare b.system).write c.outcomes).2.1⟩,
      ((c.prepare b.system).write c.outcomes).2.2) := by
  unfold Bench.call Call.prepare System.onActivate
  cases c.activate <;> rfl

/-- The ways a call can go. -/
inductive CallCase (b : Bench) (c : Call) : Bench × Option ReturnType → Prop
  /-- The port is not open. -/
  | closed : b.system.fd < 0 → CallCase b c (⟨c.prepare b.system, b.firmware⟩, some .error)
  /-- The line was sent before. -/
  | skipped : (c.prepare b.system).alreadySent (logicOf c.opens) = true →
    CallCase b c (⟨c.prepare b.system, b.firmware⟩, some .ok)
  /-- The whole line goes out. -/
  | sent : SendsLine b c → CallCase b c
    (⟨{ c.prepare b.system with lastSentLogic := logicOf c.opens, state := logicOf c.opens },
      ⟨[], b.firmware.state.execute (b.firmware.pending ++ lineFor c.opens)⟩⟩, some .ok)
  /-- A front part of the line goes out, and the call fails or does not return. -/
  | cut {front : List Char} {result : Option ReturnType} : front <+: lineFor c.opens →
    result ≠ some .ok → ¬ SendsLine b c → CallCase b c (⟨c.prepare b.system,
      ⟨b.firmware.pending ++ front, b.firmware.state⟩⟩, result)

theorem consume_of_front {fw : Firmware} {front : List Char} {isOpen : Bool}
    (h : front <+: lineFor isOpen) : fw.consume front = ⟨fw.pending ++ front, fw.state⟩ := by
  refine feed_of_notMem fun hmem ↦ ?_
  have hspace := isSpace_lineFor isOpen '\n' (h.subset hmem)
  exact absurd hspace (by decide)

theorem consume_line (fw : Firmware) (isOpen : Bool) :
    fw.consume (lineFor isOpen ++ ['\n'])
      = ⟨[], fw.state.execute (fw.pending ++ lineFor isOpen)⟩ := by
  refine feed_line fun hmem ↦ ?_
  have hspace := isSpace_lineFor isOpen '\n' hmem
  exact absurd hspace (by decide)

/-- **Each call goes one of these ways.** -/
theorem callCase (b : Bench) (c : Call) : CallCase b c (b.call c) := by
  rw [Bench.call_eq]
  -- the three tests of `write`, and then how much of the line the device has taken
  by_cases hfd : b.system.fd < 0
  · rw [System.write_of_closed (by exact hfd)]
    exact .closed hfd
  by_cases hsent : (c.prepare b.system).alreadySent (logicOf c.opens) = true
  · rw [System.write_of_alreadySent (by exact hfd) hsent]
    exact .skipped hsent
  by_cases hall : (sendLine (uartCmd (logicOf c.opens)).toList c.outcomes).2 = some true
  · rw [System.write_of_sent (by exact hfd) hsent hall]
    change CallCase b c (⟨_, b.firmware.consume (uartCmd (logicOf c.opens)).toList⟩, some .ok)
    rw [uartCmd_logicOf, consume_line]
    exact .sent ⟨by omega, Bool.eq_false_iff.mpr hsent, hall⟩
  · obtain ⟨result, hresult, hwrite⟩ := System.write_of_cut (by exact hfd) hsent hall
    rw [hwrite]
    obtain ⟨hstart, hiff⟩ := sendLine_spec (uartCmd (logicOf c.opens)).toList c.outcomes
    have hne := mt hiff.mpr hall
    rw [uartCmd_logicOf] at hstart hne
    have hfront : (sendLine (uartCmd (logicOf c.opens)).toList c.outcomes).1
        <+: lineFor c.opens := by
      rw [uartCmd_logicOf]
      exact (List.prefix_concat_iff.mp hstart).resolve_left hne
    change CallCase b c (⟨_, b.firmware.consume
      (sendLine (uartCmd (logicOf c.opens)).toList c.outcomes).1⟩, result)
    rw [consume_of_front hfront]
    exact .cut hfront hresult fun h ↦ hall h.2.2

/-! ## Runs -/

/-- What the bench keeps: the unfinished line has no white space in it, and the last line that
counts as sent is the one for the position of the valve. -/
structure InStep (b : Bench) : Prop where
  noSpace : ∀ c ∈ b.firmware.pending, isSpace c = false
  sent : b.system.lastSentLogic = .nan ∨
    b.system.lastSentLogic = logicOf b.firmware.state.valveState

theorem inStep_configured (fd : ℤ) (initialValue : Double) :
    InStep (Bench.configured fd initialValue) :=
  ⟨by simp [Bench.configured, Firmware.setup], Or.inl rfl⟩

/-- A line behind the front part of another one does not move the valve. -/
theorem valveState_behind {b : Bench} (hb : InStep b) (isOpen : Bool)
    (hne : b.firmware.pending ≠ []) :
    (b.firmware.state.execute (b.firmware.pending ++ lineFor isOpen)).valveState
      = b.firmware.state.valveState := by
  refine valveState_execute_of_long (fun c hc ↦ ?_) ?_
  · rcases List.mem_append.mp hc with h | h
    · exact hb.noSpace c h
    · exact isSpace_lineFor isOpen c h
  · have hpos := List.length_pos_of_ne_nil hne
    have hline : (lineFor isOpen).length = 7 := by cases isOpen <;> rfl
    rw [List.length_append]
    omega

theorem InStep.prepare {b : Bench} (hb : InStep b) (c : Call) :
    (c.prepare b.system).lastSentLogic = .nan ∨
      (c.prepare b.system).lastSentLogic = logicOf b.firmware.state.valveState := by
  change (if c.activate = true then Double.nan else b.system.lastSentLogic) = .nan ∨ _ = _
  by_cases h : c.activate = true
  · exact Or.inl (if_pos h)
  · rw [Call.prepare, if_neg h]
    exact hb.sent

/-- In step, a line that counts as sent agrees with the valve. -/
theorem InStep.of_alreadySent {b : Bench} (hb : InStep b) {c : Call}
    (h : (c.prepare b.system).alreadySent (logicOf c.opens) = true) :
    b.firmware.state.valveState = c.opens := by
  rw [System.alreadySent, Bool.and_eq_true] at h
  rcases hb.prepare c with hnan | hvalve
  · rw [hnan] at h
    exact absurd h.1 (by decide)
  · rw [hvalve, eq_logicOf_iff] at h
    exact h.2.symm

/-- **One call** agrees with the valve exactly when it is undisturbed. -/
theorem agrees_iff_undisturbed {b : Bench} (hb : InStep b) (c : Call) :
    Agrees b c ↔ Undisturbed b c := by
  have h := callCase b c
  unfold Agrees Undisturbed
  generalize b.call c = r at h
  cases h with
  | closed hfd =>
    exact ⟨fun _ hsends ↦ absurd hsends.1 (by omega), fun _ hok ↦ by cases hok⟩
  | skipped hsent =>
    refine ⟨fun _ _ ↦ Or.inr (hb.of_alreadySent hsent), fun _ _ ↦ hb.of_alreadySent hsent⟩
  | sent hsends =>
    simp only [hsends, forall_const]
    by_cases hnil : b.firmware.pending = []
    · rw [hnil, List.nil_append, valveState_execute_lineFor]
      exact ⟨fun _ ↦ Or.inl rfl, fun _ ↦ rfl⟩
    · -- the board reads an unknown command
      rw [valveState_behind hb c.opens hnil]
      exact ⟨Or.inr, fun h ↦ h.resolve_left hnil⟩
  | cut _ hresult hsends =>
    exact ⟨fun _ h ↦ absurd h hsends, fun _ hok ↦ absurd hok hresult⟩

/-- A call that agrees keeps the bench in step. -/
theorem InStep.next {b b' : Bench} {c : Call} (hb : InStep b) (hc : Agrees b c)
    (hnext : b.Next c b') : InStep b' := by
  obtain ⟨result, hcall⟩ := hnext
  have h := callCase b c
  unfold Agrees at hc
  rw [hcall] at h hc
  cases h with
  | closed _ => exact ⟨hb.noSpace, hb.prepare c⟩
  | skipped _ => exact ⟨hb.noSpace, hb.prepare c⟩
  | sent _ =>
    -- the call has returned `OK`, so the valve stands as the line says
    refine ⟨by simp, Or.inr ?_⟩
    exact congrArg logicOf (hc rfl).symm
  | cut hfront _ _ =>
    refine ⟨fun ch hch ↦ ?_, hb.prepare c⟩
    rcases List.mem_append.mp hch with h | h
    · exact hb.noSpace ch h
    · exact isSpace_lineFor c.opens ch (hfront.subset h)

/-- **The valve follows the commands.** Over every run from the configured bench, all calls that
return `OK` leave the valve as commanded exactly when no whole line is sent behind the front part of
another one while the valve stands otherwise. -/
theorem valve_follows_iff (fd : ℤ) (initialValue : Double) (calls : List Call) :
    Along Bench.Next Agrees (Bench.configured fd initialValue) calls ↔
      Along Bench.Next Undisturbed (Bench.configured fd initialValue) calls :=
  along_iff_along (fun _ c hb ↦ agrees_iff_undisturbed hb c)
    (fun _ _ _ hb hc hnext ↦ hb.next hc hnext) (inStep_configured fd initialValue)

/-- An activation to open of which four bytes go out, and the next call. -/
def cutThenRetried : List Call :=
  [⟨true, .finite 1, [.accepted 4, .failed]⟩, ⟨false, .finite 1, [.accepted 8]⟩]

/-- The retry returns `OK`, and the valve stays closed: the board has read `pneupneumo1`. -/
theorem valve_stays_closed :
    ¬ Along Bench.Next Agrees (Bench.configured 3 (.finite 0)) cutThenRetried := by
  intro h
  obtain ⟨-, hrest⟩ := along_cons_iff.mp h
  have hfirst : ((Bench.configured 3 (.finite 0)).call
      ⟨true, .finite 1, [.accepted 4, .failed]⟩).2 = some .error := by decide +kernel
  obtain ⟨hretry, -⟩ := along_cons_iff.mp (hrest _ ⟨.error, Prod.ext rfl hfirst⟩)
  have hok : (((Bench.configured 3 (.finite 0)).call
      ⟨true, .finite 1, [.accepted 4, .failed]⟩).1.call ⟨false, .finite 1, [.accepted 8]⟩).2
        = some .ok := by decide +kernel
  have hopen := hretry hok
  revert hopen
  decide +kernel

end VzletUr3e.Suction
