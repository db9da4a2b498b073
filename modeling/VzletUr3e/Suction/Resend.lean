import VzletUr3e.Suction.System

/-!
# What is sent again

`write` keeps the command that it has sent last, and sends only another one. An activation makes it
forget; a line that was not taken is not kept. So over a whole history `last_sent_logic_` is the
command of the last line that was taken since the latest activation, and this decides about the next
line.

What `send_line` returns is part of the call here. `write_eq_writeWith` ties this to the results of
`::write`.
-/

namespace VzletUr3e.Suction

/-! ## Calls -/

/-- What comes of a call: `sent` is the line that went to `send_line`, and whether it was taken. -/
structure Pushed where
  system : System
  sent : Option (String × Bool)
  result : ReturnType
deriving DecidableEq, Repr

/-- `SuctionGripperSystem::write`, when `send_line` returns `success`. -/
def System.writeWith (s : System) (success : Bool) : Pushed :=
  if s.fd < 0 then ⟨s, none, .error⟩
  else
    let logic := thresholded s.command
    if s.alreadySent logic then ⟨s, none, .ok⟩
    else if success then
      ⟨{ s with lastSentLogic := logic, state := logic }, some (uartCmd logic, true), .ok⟩
    else ⟨s, some (uartCmd logic, false), .error⟩

/-- `SuctionGripperSystem::on_activate`, which succeeds when the write does. -/
def System.onActivateWith (s : System) (success : Bool) : Pushed :=
  { s with lastSentLogic := .nan }.writeWith success

/-- A `send_line` that returns makes `write` return the same way. -/
theorem System.write_eq_writeWith {s : System} {outcomes : List WriteResult} {success : Bool}
    (h : (sendLine (uartCmd (thresholded s.command)).toList outcomes).2 = some success) :
    ∃ sent, s.write outcomes
      = ((s.writeWith success).system, sent, some (s.writeWith success).result) := by
  rw [writeWith]
  by_cases hfd : s.fd < 0
  · exact ⟨[], by rw [write_of_closed hfd, if_pos hfd]⟩
  rw [if_neg hfd]
  by_cases hsent : s.alreadySent (thresholded s.command) = true
  · exact ⟨[], by simp only [write_of_alreadySent hfd hsent, hsent, if_true]⟩
  simp only [if_neg hsent]
  cases success with
  | true => exact ⟨_, write_of_sent hfd hsent h⟩
  | false =>
    refine ⟨(sendLine (uartCmd (thresholded s.command)).toList outcomes).1, ?_⟩
    have hpair : sendLine (uartCmd (thresholded s.command)).toList outcomes
        = ((sendLine (uartCmd (thresholded s.command)).toList outcomes).1, some false) :=
      Prod.ext rfl h
    rw [write, if_neg hfd]
    simp only [if_neg hsent]
    rw [hpair]
    rfl

/-- One call of `write` or `on_activate`. -/
structure Push where
  /-- The call is `on_activate`. -/
  activate : Bool
  /-- The value of `command_` at the call. -/
  command : Double
  /-- What `send_line` returns if it is called. -/
  success : Bool
deriving DecidableEq, Repr

/-- The call. -/
def System.push (s : System) (p : Push) : Pushed :=
  let s := { s with command := p.command }
  if p.activate then s.onActivateWith p.success else s.writeWith p.success

/-- The system that the call finds when it decides whether to send. -/
def Push.prepare (p : Push) (s : System) : System :=
  { s with command := p.command, lastSentLogic := if p.activate then .nan else s.lastSentLogic }

/-- An activation is a write that forgets what was sent. -/
theorem System.push_eq (s : System) (p : Push) : s.push p = (p.prepare s).writeWith p.success := by
  unfold push Push.prepare onActivateWith
  cases p.activate <;> rfl

/-! ## Histories -/

/-- A call that is over. -/
structure Record where
  push : Push
  sent : Option (String × Bool)
deriving DecidableEq, Repr

/-- The command whose line was taken in the call. -/
def Record.taken (r : Record) : Option Double :=
  if r.sent.any Prod.snd then some (thresholded r.push.command) else none

/-- The system, and the calls so far, the newest first. -/
structure History where
  system : System
  records : List Record
deriving DecidableEq, Repr

def History.next (h : History) (p : Push) : History :=
  ⟨(h.system.push p).system, ⟨p, (h.system.push p).sent⟩ :: h.records⟩

/-- The history of the calls, from an interface that has been initialised. -/
def System.history (s : System) (pushes : List Push) : History :=
  pushes.foldl History.next ⟨{ s with lastSentLogic := .nan }, []⟩

/-- The commands whose lines were taken since the latest activation, the newest first. -/
def takenSince : List Record → List Double
  | [] => []
  | r :: older => r.taken.toList ++ if r.push.activate then [] else takenSince older

/-- What a call finds of these. -/
def Push.remembered (p : Push) (records : List Record) : List Double :=
  if p.activate then [] else takenSince records

/-! ## What is remembered -/

theorem thresholded_ne_nan (command : Double) : thresholded command ≠ .nan := by
  unfold thresholded
  split_ifs <;> simp

theorem isNaN_thresholded (command : Double) : (thresholded command).isNaN = false := by
  unfold thresholded
  split_ifs <;> rfl

theorem Double.eq_iff {x y : Double} (h : x ≠ .nan) : x.eq y = true ↔ x = y := by
  cases x with
  | nan => exact absurd rfl h
  | negInf => exact decide_eq_true_iff
  | finite q => exact decide_eq_true_iff
  | posInf => exact decide_eq_true_iff

/-- `last_sent_logic_` is the head of the commands, and the NaN if there is none. -/
def Remembers (s : System) (commands : List Double) : Prop :=
  s.lastSentLogic = commands.head?.getD .nan ∧ ∀ logic ∈ commands, logic ∈ Set.range thresholded

/-- The test of `write`. -/
theorem Remembers.alreadySent_iff {s : System} {commands : List Double} (h : Remembers s commands)
    (command : Double) :
    s.alreadySent (thresholded command) = true ↔ commands.head? = some (thresholded command) := by
  obtain ⟨hlast, hall⟩ := h
  rw [System.alreadySent, hlast, Bool.and_eq_true,
    Double.eq_iff (thresholded_ne_nan command), Bool.not_eq_true']
  rcases commands with _ | ⟨logic, commands⟩
  · exact iff_of_false (fun h ↦ by cases h.1) (fun h ↦ by cases h)
  · have hnan : logic.isNaN = false := by
      obtain ⟨last, rfl⟩ := hall _ List.mem_cons_self
      exact isNaN_thresholded last
    rw [List.head?_cons, Option.getD_some, hnan, Option.some.injEq]
    exact ⟨fun h ↦ h.2.symm, fun h ↦ ⟨rfl, h.symm⟩⟩

/-- The ways a call can go while the port is open, with what it has found remembered. -/
inductive PushCase (s : System) (p : Push) (commands : List Double) : Pushed → Prop
  /-- The line was sent before. -/
  | skipped : commands.head? = some (thresholded p.command) →
    PushCase s p commands ⟨p.prepare s, none, .ok⟩
  /-- The line is taken. -/
  | taken : commands.head? ≠ some (thresholded p.command) → p.success = true →
    PushCase s p commands
      ⟨{ p.prepare s with
          lastSentLogic := thresholded p.command, state := thresholded p.command },
        some (uartCmd (thresholded p.command), true), .ok⟩
  /-- The line is not taken. -/
  | refused : commands.head? ≠ some (thresholded p.command) → p.success = false →
    PushCase s p commands
      ⟨p.prepare s, some (uartCmd (thresholded p.command), false), .error⟩

theorem pushCase {s : System} {p : Push} {commands : List Double} (hfd : 0 ≤ s.fd)
    (h : Remembers (p.prepare s) commands) : PushCase s p commands (s.push p) := by
  have hiff := h.alreadySent_iff p.command
  rw [System.push_eq, System.writeWith, if_neg (show ¬(p.prepare s).fd < 0 from by
    exact not_lt.mpr hfd)]
  by_cases hsent : (p.prepare s).alreadySent (thresholded p.command) = true
  · simp only [show (p.prepare s).command = p.command from rfl, if_pos hsent]
    exact .skipped (hiff.mp hsent)
  · simp only [show (p.prepare s).command = p.command from rfl, if_neg hsent]
    rcases hsuccess : p.success with _ | _
    · exact .refused (mt hiff.mpr hsent) hsuccess
    · exact .taken (mt hiff.mpr hsent) hsuccess

/-! ## Along a history -/

/-- What a history keeps. -/
structure History.Inv (h : History) : Prop where
  isOpen : 0 ≤ h.system.fd
  remembers : Remembers h.system (takenSince h.records)
  isChain : List.IsChain (· ≠ ·) (takenSince h.records)

theorem History.Inv.prepare {h : History} (hinv : h.Inv) (p : Push) :
    Remembers (p.prepare h.system) (p.remembered h.records) := by
  rw [Push.remembered, Push.prepare]
  cases p.activate with
  | true => exact ⟨rfl, by simp⟩
  | false => exact hinv.remembers

theorem takenSince_next (h : History) (p : Push) : takenSince (h.next p).records
    = (Record.taken ⟨p, (h.system.push p).sent⟩).toList ++ p.remembered h.records := rfl

theorem isChain_remembered {h : History} (hinv : h.Inv) (p : Push) :
    List.IsChain (· ≠ ·) (p.remembered h.records) := by
  rw [Push.remembered]
  cases p.activate with
  | true => exact .nil
  | false => exact hinv.isChain

/-- **One call** keeps the invariant. -/
theorem History.Inv.next {h : History} (hinv : h.Inv) (p : Push) : (h.next p).Inv := by
  have hprepare := hinv.prepare p
  have hchain := isChain_remembered hinv p
  have hcase := pushCase hinv.isOpen hprepare
  have hrecords := takenSince_next h p
  have hsystem : (h.next p).system = (h.system.push p).system := rfl
  generalize h.system.push p = r at hcase hrecords hsystem
  cases hcase with
  | skipped _ =>
    have hsince : takenSince (h.next p).records = p.remembered h.records := hrecords
    exact ⟨by rw [hsystem]; exact hinv.isOpen, by rwa [hsystem, hsince], by rwa [hsince]⟩
  | taken hne _ =>
    -- the line that is taken differs from the one in front of it
    have hsince : takenSince (h.next p).records
        = thresholded p.command :: p.remembered h.records := hrecords
    refine ⟨by rw [hsystem]; exact hinv.isOpen, ?_, ?_⟩
    · rw [hsystem, hsince]
      refine ⟨rfl, List.forall_mem_cons.mpr ⟨⟨_, rfl⟩, hprepare.2⟩⟩
    · rw [hsince, List.isChain_cons]
      refine ⟨fun logic hlogic heq ↦ hne ?_, hchain⟩
      rw [heq]
      exact hlogic
  | refused _ _ =>
    have hsince : takenSince (h.next p).records = p.remembered h.records := hrecords
    exact ⟨by rw [hsystem]; exact hinv.isOpen, by rwa [hsystem, hsince], by rwa [hsince]⟩

theorem History.inv {s : System} (hfd : 0 ≤ s.fd) (pushes : List Push) :
    (s.history pushes).Inv := by
  induction pushes using List.reverseRecOn with
  | nil => exact ⟨hfd, ⟨rfl, by simp [System.history, takenSince]⟩, .nil⟩
  | append_singleton pushes p ih =>
    rw [System.history, List.foldl_concat]
    exact ih.next p

/-- What a call does behind a history. -/
structure PushLaw (h : History) (p : Push) : Prop where
  /-- A line is sent exactly when it is not the last one that was taken. -/
  sends : (h.system.push p).sent.isSome ↔
    (p.remembered h.records).head? ≠ some (thresholded p.command)
  /-- It is the line for the command, and goes as `send_line` says. -/
  line : ∀ sent, (h.system.push p).sent = some sent →
    sent = (uartCmd (thresholded p.command), p.success)
  /-- Success leaves the command in `last_sent_logic_`, and nothing else does. -/
  ok_iff : (h.system.push p).result = .ok ↔
    (h.system.push p).system.lastSentLogic = thresholded p.command
  /-- A line that is not taken leaves `last_sent_logic_` and `state_` as they are. -/
  refused : (∃ line, (h.system.push p).sent = some (line, false)) →
    (h.system.push p).system.lastSentLogic = (p.prepare h.system).lastSentLogic ∧
      (h.system.push p).system.state = h.system.state

theorem History.Inv.pushLaw {h : History} (hinv : h.Inv) (p : Push) : PushLaw h p := by
  have hprepare := hinv.prepare p
  have hcase := pushCase hinv.isOpen hprepare
  -- a command that was not taken last is not what `last_sent_logic_` holds
  have hlast : (p.remembered h.records).head? ≠ some (thresholded p.command) →
      (p.prepare h.system).lastSentLogic ≠ thresholded p.command := by
    intro hne heq
    rw [hprepare.1] at heq
    rcases hhead : (p.remembered h.records).head? with _ | logic
    · rw [hhead, Option.getD_none] at heq
      exact thresholded_ne_nan _ heq.symm
    · rw [hhead, Option.getD_some] at heq
      exact hne (by rw [hhead, heq])
  rcases hr : h.system.push p with ⟨system, sent, result⟩
  rw [hr] at hcase
  refine ⟨?_, ?_, ?_, ?_⟩
  all_goals rw [hr]
  · cases hcase with
    | skipped heq => exact iff_of_false (by simp) (not_not.mpr heq)
    | taken hne _ => exact iff_of_true rfl hne
    | refused hne _ => exact iff_of_true rfl hne
  · rintro sent' hsent
    cases hcase with
    | skipped _ => cases hsent
    | taken _ hsuccess =>
      cases hsent
      rw [hsuccess]
    | refused _ hsuccess =>
      cases hsent
      rw [hsuccess]
  · cases hcase with
    | skipped heq =>
      refine iff_of_true rfl ?_
      rw [hprepare.1, heq, Option.getD_some]
    | taken _ _ => exact iff_of_true rfl rfl
    | refused hne _ => exact iff_of_false (by rintro ⟨⟩) (hlast hne)
  · rintro ⟨line, hsent⟩
    cases hcase with
    | skipped _ => cases hsent
    | taken _ _ => cases hsent
    | refused _ _ => exact ⟨rfl, rfl⟩

theorem uartCmd_thresholded_inj {x y : Double}
    (h : uartCmd (thresholded x) = uartCmd (thresholded y)) : thresholded x = thresholded y := by
  unfold thresholded at h ⊢
  split_ifs at h ⊢ <;> revert h <;> decide +kernel

/-- **Lines are sent once and sent again.** In every history of an interface with an open port, each
call keeps the law, and no line that is taken repeats the one before it unless there was an
activation in between. -/
theorem sent_lines {s : System} (hfd : 0 ≤ s.fd) (pushes : List Push) :
    (∀ p, PushLaw (s.history pushes) p) ∧
      List.IsChain (· ≠ ·) ((takenSince (s.history pushes).records).map uartCmd) := by
  have hinv := History.inv hfd pushes
  refine ⟨hinv.pushLaw, ?_⟩
  rw [List.isChain_map]
  refine hinv.isChain.imp_of_mem_imp fun x y hx hy hne heq ↦ hne ?_
  obtain ⟨command, rfl⟩ := hinv.remembers.2 x hx
  obtain ⟨command', rfl⟩ := hinv.remembers.2 y hy
  exact uartCmd_thresholded_inj heq

/-- An activation to open whose line is refused, the retry, and a command to close. -/
def retried : List Push :=
  [⟨true, .finite 1, false⟩, ⟨false, .finite 1, true⟩, ⟨false, .finite 0, true⟩]

theorem sent_lines_retried : takenSince ((System.configured 3 (.finite 0)).history retried).records
      = [.finite 0, .finite 1] ∧
    (∀ p, PushLaw ((System.configured 3 (.finite 0)).history retried) p) ∧
      List.IsChain (· ≠ ·)
        ((takenSince ((System.configured 3 (.finite 0)).history retried).records).map uartCmd) :=
  ⟨by decide +kernel, sent_lines (by decide) retried⟩

end VzletUr3e.Suction
