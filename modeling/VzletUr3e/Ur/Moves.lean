import VzletUr3e.Ur.Exclusion

/-!
# What the robot is told

`write` tells the robot what the one running mode asks for that moves it
(`write_sends_running_mode`). When a mode that drives joints starts, that is to stay, until its
controller gives a command (`stays_until_commanded`).

The messages of freedrive are bracketed in every run: none comes but behind a start
(`freedrive_bracketed`). But a switch that stops freedrive forgets that it was started, and the
robot is not told to stop (`freedrive_left_on`).
-/

namespace VzletUr3e.Ur

open Runs UrDouble

variable {n : ℕ} {info : HardwareInfo n} {K : Type} {s : Hardware K n}

/-- How a mode moves the robot, if it does. -/
def Hardware.callOf (s : Hardware K n) : Mode → Option (DriverCall K)
  | .position => some (.servoj s.positionCommands)
  | .velocity => some (.speedj s.velocityCommands)
  | .effort => some (.torque s.torqueCommands)
  | .freedrive => if s.freedriveActivated then some .freedriveNoop else none
  | .passthrough => some .trajectory
  | .forceMode => none
  | .toolContact => none

/-! ## A cycle

The first part of `write` tries the modes in an order. Those whose tests stand before that of the
running mode are not compatible with it, so the order does not matter.
-/

/-- The test of the running mode is the first one that succeeds. -/
theorem writeMotion_of_running (h : Exclusive s.runningModes) {mode : Mode} {call : DriverCall K}
    (hmode : s.running mode = true) (hcall : s.callOf mode = some call) :
    s.writeMotion = s.send call := by
  have hnot : ∀ {a}, ¬Compatible a mode → s.running a = false := fun {a} hab ↦ by
    by_contra htrue
    rw [Bool.not_eq_false] at htrue
    exact hab (h a (mem_runningModes.mpr htrue) mode (mem_runningModes.mpr hmode))
  rcases mode
  · obtain rfl := Option.some.inj hcall
    simp [Hardware.writeMotion, hmode]
  · obtain rfl := Option.some.inj hcall
    simp [Hardware.writeMotion, hmode, hnot (a := .position) (by decide)]
  · obtain rfl := Option.some.inj hcall
    simp [Hardware.writeMotion, hmode, hnot (a := .position) (by decide),
      hnot (a := .velocity) (by decide)]
  · cases hcall
  · obtain rfl := Option.some.inj hcall
    simp [Hardware.writeMotion, hmode, hnot (a := .position) (by decide),
      hnot (a := .velocity) (by decide), hnot (a := .effort) (by decide),
      hnot (a := .freedrive) (by decide)]
  · obtain ⟨hactivated, hsome⟩ := Option.ite_none_right_eq_some.mp hcall
    obtain rfl := Option.some.inj hsome
    simp [Hardware.writeMotion, hmode, hactivated, hnot (a := .position) (by decide),
      hnot (a := .velocity) (by decide), hnot (a := .effort) (by decide)]
  · cases hcall

/-- If no running mode moves the robot, all tests fail. -/
theorem writeMotion_keepalive (h : ∀ mode, s.running mode = true → s.callOf mode = none) :
    s.writeMotion = s.send .keepalive := by
  have hnot : ∀ {a}, s.callOf a ≠ none → s.running a = false := fun {a} ha ↦ by
    by_contra htrue
    exact ha (h a (Bool.not_eq_false _ ▸ htrue))
  have hfreedrive : (s.running .freedrive && s.freedriveActivated) = false := by
    rw [Bool.and_eq_false_imp]
    intro hrunning
    have hnone := h .freedrive hrunning
    simpa [Hardware.callOf] using hnone
  simp [Hardware.writeMotion, hnot (a := .position) (Option.some_ne_none _),
    hnot (a := .velocity) (Option.some_ne_none _), hnot (a := .effort) (Option.some_ne_none _),
    hnot (a := .passthrough) (Option.some_ne_none _), hfreedrive]

variable [UrDouble K]

/-- In every run, a cycle sends one motion command, that of the running mode that moves the robot.
Besides it there is at most a message of force mode, and one of tool contact. -/
theorem write_sends_running_mode (info : HardwareInfo n) (events : List (HardwareEvent K)) :
    let s : Hardware K n := run (Hardware.step info) Hardware.initial events
    ∃ call aside, (s.write info true).sent = aside ++ call :: s.sent ∧ call.IsMotion ∧
      s.Aside aside ∧
      (∀ mode other, s.running mode = true → s.callOf mode = some other → call = other) ∧
      ((∀ mode, s.running mode = true → s.callOf mode = none) → call = .keepalive) := by
  intro s
  have hexclusive := (running_refines info events).2
  obtain ⟨call, hcall, hmotion⟩ := writeMotion_eq s
  obtain ⟨f, aside, hwrite, haside⟩ := write_true info s
  have hfirst : ∀ {other}, s.writeMotion = s.send other → call = other := fun hother ↦
    (List.cons.inj (congrArg Hardware.sent (hcall.symm.trans hother))).1
  refine ⟨call, aside, ?_, hmotion, haside, fun mode other hmode hother ↦ ?_, fun hnone ↦ ?_⟩
  · rw [hwrite, hcall]
    rfl
  · exact hfirst (writeMotion_of_running hexclusive hmode hother)
  · exact hfirst (writeMotion_keepalive hnone)

/-! ## What a switch keeps -/

omit [UrDouble K] in
/-- A loop over modes keeps what each of its turns keeps. -/
theorem foldl_keeps {P : Hardware K n → Prop} {act : Hardware K n → Mode → Hardware K n}
    {modes l : List Mode} (hact : ∀ mode ∈ l, mode ∈ modes → ∀ s, P s → P (act s mode)) :
    ∀ {s}, P s → P (l.foldl (fun s mode ↦ if mode ∈ modes then act s mode else s) s) := by
  induction l with
  | nil => exact id
  | cons mode l ih =>
    intro s hs
    rw [List.foldl_cons]
    refine ih (fun m hm ↦ hact m (List.mem_cons_of_mem mode hm)) ?_
    split_ifs with hmode
    · exact hact mode List.mem_cons_self hmode s hs
    · exact hs

theorem performCommandModeSwitch_keeps {P : Hardware K n → Prop} (hs : P s)
    (hstop : ∀ mode ∈ s.stopModes first, ∀ t, P t → P (t.stop mode))
    (hstart : ∀ mode ∈ s.startModes first, ∀ t, P t → P (t.start mode))
    (hmodes : ∀ (t : Hardware K n) a b, P t → P { t with startModes := a, stopModes := b }) :
    P s.performCommandModeSwitch := by
  rw [Hardware.performCommandModeSwitch]
  refine hmodes _ _ _ (foldl_keeps (fun mode _ ↦ hstart mode) ?_)
  have hstopped := foldl_keeps (l := Mode.all) (fun mode _ ↦ hstop mode) hs
  split_ifs with hp hv he
  · exact hstart _ hp _ hstopped
  · exact hstart _ hv _ hstopped
  · exact hstart _ he _ hstopped
  · exact hstopped

/-- A request keeps what stopping and starting its modes keep, be it granted or not. -/
theorem switch_keeps {P : Hardware K n → Prop} {start stop : List String}
    (h : Exclusive s.runningModes) (hs : P s)
    (hstop : Granted info s.runningModes start stop →
      ∀ mode, info.stopInterface first mode ∈ stop → ∀ t, P t → P (t.stop mode))
    (hstart : Granted info s.runningModes start stop →
      ∀ mode, info.startInterface first mode ∈ start → ∀ t, P t → P (t.start mode))
    (hmodes : ∀ (t : Hardware K n) a b, P t → P { t with startModes := a, stopModes := b }) :
    P (s.switch info start stop) := by
  rw [Hardware.switch, prepareCommandModeSwitch_eq h]
  split_ifs with hgranted
  · exact performCommandModeSwitch_keeps (hmodes s _ _ hs)
      (fun mode hmode ↦ hstop hgranted mode (mem_picked.mp hmode))
      (fun mode hmode ↦ hstart hgranted mode (mem_started.mp hmode)) hmodes
  · exact hs

/-! ## The joints

A switch puts the measured positions, or zeros, into the commands of the mode that it starts. The
invariant (`Staying`) is that they are still there, and that every motion command since was made of
them. Other modes may come and go: they have commands of their own, and what they send moves nothing
while the mode is running. -/

/-- The commands of a mode that drives joints. -/
def Hardware.commandsOf (s : Hardware K n) : Mode → Vec K
  | .position => s.positionCommands
  | .velocity => s.velocityCommands
  | .effort => s.torqueCommands
  | _ => Vec.zero

/-- The commands that leave the robot where it is. -/
def stayCommands (jointPositions : Vec K) : Mode → Vec K
  | .position => jointPositions
  | _ => Vec.zero

/-- The call of a mode that drives joints. -/
def driveCall (commands : Vec K) : Mode → DriverCall K
  | .position => .servoj commands
  | .velocity => .speedj commands
  | _ => .torque commands

/-- The event gives no command of the mode, and leaves it running: a request is refused, or it names
no interface of the mode. -/
def HardwareEvent.Passive (info : HardwareInfo n) (mode : Mode) (s : Hardware K n) :
    HardwareEvent K → Prop
  | .switch start stop => Granted info s.runningModes start stop →
      info.stopInterface first mode ∉ stop ∧ info.startInterface first mode ∉ start
  | .positionCommands _ => mode ≠ .position
  | .velocityCommands _ => mode ≠ .velocity
  | .torqueCommands _ => mode ≠ .effort
  | _ => True

/-- A granted request sets the commands of the mode that it starts. -/
theorem commandsOf_performCommandModeSwitch {mode : Mode}
    (hmode : mode ∈ [Mode.position, .velocity, .effort]) (hstart : mode ∈ s.startModes first)
    (hexclusive : ∀ a ∈ s.startModes first, ∀ b ∈ s.startModes first, Compatible a b) :
    s.performCommandModeSwitch.commandsOf mode = stayCommands s.jointPositions mode := by
  have hother : ∀ other ∈ [Mode.position, .velocity, .effort], other ∈ s.startModes first →
      other = mode := fun other hmem hother ↦
    eq_of_compatible mode hmode other hmem (hexclusive mode hstart other hother)
  let stopped : Hardware K n :=
    Mode.all.foldl (fun s' m ↦ if m ∈ s.stopModes first then s'.stop m else s') s
  have hstopped : stopped.jointPositions = s.jointPositions :=
    foldl_keeps (P := fun s' ↦ s'.jointPositions = s.jointPositions)
      (fun m _ _ s' h ↦ by rcases m <;> exact h) rfl
  have hset : (stopped.start mode).commandsOf mode = stayCommands s.jointPositions mode := by
    simp only [List.mem_cons, List.not_mem_nil, or_false] at hmode
    rcases hmode with rfl | rfl | rfl
    · exact hstopped
    · rfl
    · rfl
  rw [Hardware.performCommandModeSwitch]
  refine foldl_keeps (P := fun s' ↦ s'.commandsOf mode = stayCommands s.jointPositions mode)
    (fun m hm _ s' h ↦ ?_) ?_
  · simp only [List.mem_cons, List.not_mem_nil, or_false] at hm hmode
    rcases hm with rfl | rfl | rfl | rfl <;> rcases hmode with rfl | rfl | rfl <;> exact h
  · split_ifs with hp hv he
    · rw [hother .position (by simp) hp]
      exact hset
    · rw [hother .velocity (by simp) hv]
      exact hset
    · rw [hother .effort (by simp) he]
      exact hset
    · simp only [List.mem_cons, List.not_mem_nil, or_false] at hmode
      rcases hmode with rfl | rfl | rfl <;> contradiction

/-- The commands are not touched, and the motion commands that were sent are these. -/
structure Resting (mode : Mode) (commands : Vec K) (old : List (DriverCall K))
    (s : Hardware K n) : Prop where
  kept : s.commandsOf mode = commands
  initialized : s.initialized = true
  sent : ∃ fresh, s.sent = fresh ++ old ∧
    ∀ call ∈ fresh, call.IsMotion → call = driveCall commands mode

/-- The mode is running on commands that were not given by its controller. -/
structure Staying (mode : Mode) (commands : Vec K) (old : List (DriverCall K)) (s : Hardware K n) :
    Prop extends Resting mode commands old s where
  exclusive : Exclusive s.runningModes
  running : s.running mode = true

section Staying

variable {mode : Mode} {commands : Vec K} {old : List (DriverCall K)}

/-- Members that the commands do not come from do not matter. -/
theorem Resting.of_eq {t : Hardware K n} (h : Resting mode commands old s)
    (hcommands : t.commandsOf mode = s.commandsOf mode) (hinitialized : t.initialized = true)
    (hsent : t.sent = s.sent) : Resting mode commands old t :=
  ⟨hcommands.trans h.kept, hinitialized, hsent ▸ h.sent⟩

/-- One more message is sent. -/
theorem Resting.send {call : DriverCall K} (h : Resting mode commands old s)
    (hcall : call.IsMotion → call = driveCall commands mode) :
    Resting mode commands old (s.send call) := by
  obtain ⟨fresh, hfresh, hcalls⟩ := h.sent
  refine ⟨?_, h.initialized, call :: fresh, congrArg (_ :: ·) hfresh,
    List.forall_mem_cons.mpr ⟨hcall, hcalls⟩⟩
  rw [← h.kept]
  rcases mode <;> rfl

/-- Another mode stops, which may tell the robot to end force mode or tool contact. -/
theorem Resting.stop (h : Resting mode commands old s) {other : Mode} (hne : other ≠ mode) :
    Resting mode commands old (s.stop other) := by
  have hcommands : (s.stop other).commandsOf mode = s.commandsOf mode := by
    rcases mode <;> rcases other <;> first | rfl | exact absurd rfl hne
  rcases other
  case forceMode =>
    have hsent : Resting mode commands old (s.send .endForceMode) := h.send False.elim
    exact hsent.of_eq (hcommands.trans (by rcases mode <;> rfl)) h.initialized rfl
  case toolContact =>
    have hsent : Resting mode commands old (s.send .endToolContact) := h.send False.elim
    exact hsent.of_eq (hcommands.trans (by rcases mode <;> rfl)) h.initialized rfl
  all_goals exact h.of_eq hcommands h.initialized rfl

/-- Another mode starts. -/
theorem Resting.start (h : Resting mode commands old s) {other : Mode} (hne : other ≠ mode) :
    Resting mode commands old (s.start other) := by
  have hcommands : (s.start other).commandsOf mode = s.commandsOf mode := by
    rcases mode <;> rcases other <;> first | rfl | exact absurd rfl hne
  rcases other
  all_goals exact h.of_eq hcommands h.initialized rfl

/-- A request that leaves the mode running keeps its commands. -/
theorem Staying.switch (h : Staying mode commands old s) {start stop : List String}
    (hpassive : (HardwareEvent.switch start stop : HardwareEvent K).Passive info mode s) :
    Staying mode commands old (s.switch info start stop) := by
  have hrunning : mode ∈ (s.switch info start stop).runningModes := by
    rw [runningModes_switch h.exclusive, switchModes]
    split_ifs with hgranted
    · exact mem_nextModes.mpr (.inl ⟨mem_runningModes.mpr h.running, (hpassive hgranted).1⟩)
    · exact mem_runningModes.mpr h.running
  refine ⟨?_, exclusive_step h.exclusive (.switch start stop), mem_runningModes.mp hrunning⟩
  refine switch_keeps h.exclusive h.toResting (fun hgranted other hother t ht ↦ ht.stop ?_)
    (fun hgranted other hother t ht ↦ ht.start ?_) fun t a b ht ↦ ht.of_eq ?_ ht.initialized rfl
  · rintro rfl
    exact (hpassive hgranted).1 hother
  · rintro rfl
    exact (hpassive hgranted).2 hother
  · rcases mode <;> rfl

/-- What is sent in a cycle is the command of the mode, and messages that move nothing. -/
theorem Staying.write (hmode : mode ∈ [Mode.position, .velocity, .effort])
    (h : Staying mode commands old s) (ready : Bool) :
    Staying mode commands old (s.write info ready) := by
  rcases ready
  · exact h
  have hcall : s.callOf mode = some (driveCall commands mode) := by
    rw [← h.kept]
    simp only [List.mem_cons, List.not_mem_nil, or_false] at hmode
    rcases hmode with rfl | rfl | rfl <;> rfl
  obtain ⟨f, aside, hwrite, haside⟩ := write_true info s
  have hmotion := writeMotion_of_running h.exclusive h.running hcall
  have hsent : ∃ fresh, aside ++ s.writeMotion.sent = fresh ++ old ∧
      ∀ call ∈ fresh, call.IsMotion → call = driveCall commands mode := by
    refine haside.induction (P := fun calls ↦ ∃ fresh, calls = fresh ++ old ∧
      ∀ call ∈ fresh, call.IsMotion → call = driveCall commands mode) ?_ ?_
    · rw [hmotion]
      exact (h.toResting.send fun _ ↦ rfl).sent
    · rintro call calls hkind ⟨fresh, rfl, hcalls⟩
      refine ⟨call :: fresh, rfl, List.forall_mem_cons.mpr ⟨fun hmotion ↦ ?_, hcalls⟩⟩
      rcases hkind with hkind | hkind
      · rcases call <;> first | exact hkind.elim | exact hmotion.elim
      · rcases call <;> first | exact hkind.elim | exact hmotion.elim
  rw [hwrite]
  refine ⟨⟨?_, h.initialized, hsent⟩, h.exclusive, h.running⟩
  rw [← h.kept]
  rcases mode <;> rfl

/-- The thread tells of freedrive only. -/
theorem Staying.checkAsyncIo (h : Staying mode commands old s) :
    Staying mode commands old s.checkAsyncIo := by
  have hframe : ∀ {t : Hardware K n} (activated enable abort : Bool),
      Resting mode commands old t →
      Resting mode commands old { t with freedriveActivated := activated
                                         freedriveEnable := enable
                                         freedriveAbort := abort } :=
    fun _ _ _ ht ↦ ht.of_eq (by rcases mode <;> rfl) ht.initialized rfl
  have hrunning : s.checkAsyncIo.running = s.running := by
    rw [Hardware.checkAsyncIo]
    split_ifs <;> rfl
  have hmodes : s.checkAsyncIo.runningModes = s.runningModes := by
    simp only [Hardware.runningModes, hrunning]
  refine ⟨?_, hmodes ▸ h.exclusive, hrunning ▸ h.running⟩
  rw [Hardware.checkAsyncIo]
  split_ifs
  · exact hframe _ _ _ ((hframe _ _ _ (h.send False.elim)).send False.elim)
  · exact hframe _ _ _ (h.send False.elim)
  · exact hframe _ _ _ (h.send False.elim)
  · exact h.toResting

/-- **A passive event** leaves the robot where it is. -/
theorem Staying.step (hmode : mode ∈ [Mode.position, .velocity, .effort])
    {event : HardwareEvent K} (h : Staying mode commands old s)
    (hpassive : event.Passive info mode s) : Staying mode commands old (s.step info event) := by
  have hother : ∀ {t : Hardware K n}, t.commandsOf mode = s.commandsOf mode →
      t.running = s.running → t.initialized = true → t.sent = s.sent →
      Staying mode commands old t := fun {t} hcommands hrunning hinitialized hsent ↦ by
    have hmodes : t.runningModes = s.runningModes := by simp only [Hardware.runningModes, hrunning]
    exact ⟨h.of_eq hcommands hinitialized hsent, hmodes ▸ h.exclusive, hrunning ▸ h.running⟩
  rcases event with ⟨start, stop⟩ | jointPositions | ready | _ | values | values | values
    | _ | value | command | state
  · exact h.switch hpassive
  · rw [Hardware.step, Hardware.read, if_pos h.initialized]
    exact hother (by rcases mode <;> rfl) rfl h.initialized rfl
  · exact h.write hmode ready
  · exact h.checkAsyncIo
  · exact hother (by rcases mode <;> first | rfl | exact absurd rfl hpassive) rfl h.initialized rfl
  · exact hother (by rcases mode <;> first | rfl | exact absurd rfl hpassive) rfl h.initialized rfl
  · exact hother (by rcases mode <;> first | rfl | exact absurd rfl hpassive) rfl h.initialized rfl
  all_goals exact hother (by rcases mode <;> rfl) rfl h.initialized rfl

end Staying

/-- When a mode that drives joints starts, the robot is told to stay where it was measured then,
while the mode is running and until its controller gives a command. -/
theorem stays_until_commanded (info : HardwareInfo n) {before later : List (HardwareEvent K)}
    {start stop : List String} {mode : Mode} (hmode : mode ∈ [Mode.position, .velocity, .effort])
    (hread : (run (Hardware.step info) Hardware.initial before).initialized = true)
    (hgranted : Granted info (run (modeStep info) ∅ before) start stop)
    (hstart : info.startInterface first mode ∈ start) :
    let s : Hardware K n := run (Hardware.step info) Hardware.initial before
    let s' := s.step info (.switch start stop)
    Throughout (Hardware.step info) (fun t event ↦ event.Passive info mode t) s' later →
      ∃ fresh, (run (Hardware.step info) s' later).sent = fresh ++ s'.sent ∧
        ∀ call ∈ fresh, call.IsMotion →
          call = driveCall (stayCommands s.jointPositions mode) mode := by
  intro s s' hlater
  obtain ⟨hmodes, hexclusive⟩ := running_refines (K := K) info before
  rw [← hmodes] at hgranted
  have hswitch : s'.runningModes = nextModes info s.runningModes start stop := by
    rw [runningModes_step hexclusive, modeStep, switchModes, if_pos hgranted]
  have hs' : s' = Hardware.performCommandModeSwitch
      { s with startModes := info.started start
               stopModes := fun i ↦ picked info.stopInterface i (slots n stop) } := by
    rw [show s' = s.switch info start stop from rfl, Hardware.switch,
      prepareCommandModeSwitch_eq hexclusive, if_pos hgranted]
  -- the switch sets the commands, and nothing was sent since
  have hstaying : Staying mode (stayCommands s.jointPositions mode) s'.sent s' := by
    refine ⟨⟨?_, ?_, [], rfl, fun _ hmem ↦ absurd hmem List.not_mem_nil⟩, ?_, ?_⟩
    · rw [hs']
      refine commandsOf_performCommandModeSwitch hmode (mem_started.mpr hstart) fun a ha b hb ↦ ?_
      exact hgranted.2.2 a (mem_nextModes.mpr (.inr (mem_started.mp ha))) b
        (mem_nextModes.mpr (.inr (mem_started.mp hb)))
    · exact switch_keeps (P := fun t ↦ t.initialized = true) hexclusive hread
        (fun _ m _ _ h ↦ by rcases m <;> exact h) (fun _ m _ _ h ↦ by rcases m <;> exact h)
        (fun _ _ _ h ↦ h)
    · rw [hswitch]
      exact hgranted.2.2
    · rw [← mem_runningModes, hswitch, mem_nextModes]
      exact .inr hstart
  exact (run_invariant (fun _ _ h hpassive ↦ h.step hmode hpassive) hstaying hlater).sent

/-- A robot of one joint that takes torque commands. -/
def oneJoint : HardwareInfo 0 := ⟨"", fun _ ↦ "elbow", 5, 23⟩

/-- Position control starts, then tool contact besides it. A request for freedrive is refused. -/
theorem stays_until_commanded_oneJoint :
    let s : Hardware (Option ℚ) 0 :=
      run (Hardware.step oneJoint) Hardware.initial [.read fun _ ↦ some 1]
    let s' := s.step oneJoint (.switch ["elbow/position"] [])
    let later := [.read fun _ ↦ some 2, .switch ["tool_contact/tool_contact_set_state"] [],
      .toolContact .waitingBegin, .switch ["freedrive_mode/async_success"] [], .write true]
    ∃ fresh, (run (Hardware.step oneJoint) s' later).sent = fresh ++ s'.sent ∧
      ∀ call ∈ fresh, call.IsMotion →
        call = driveCall (stayCommands s.jointPositions .position) .position := by
  refine stays_until_commanded oneJoint (by decide) rfl (by decide +kernel) (by decide +kernel) ?_
  have hswitch : ∀ {s : Hardware (Option ℚ) 0} {start : List String},
      oneJoint.startInterface first .position ∉ start →
      (HardwareEvent.switch start [] : HardwareEvent (Option ℚ)).Passive oneJoint .position s :=
    fun hstart _ ↦ ⟨List.not_mem_nil, hstart⟩
  exact ⟨trivial, fun _ _ ↦ ⟨hswitch (by decide +kernel), fun _ _ ↦ ⟨trivial, fun _ _ ↦
    ⟨hswitch (by decide +kernel), fun _ _ ↦ ⟨trivial, fun _ _ ↦ trivial⟩⟩⟩⟩⟩

/-! ## Freedrive

Freedrive is started by a message of its own, behind the switch, and `freedriveActivated` is up once
that was sent. All other messages of freedrive are sent only while it is up (`FreedriveInv`). A
switch takes the flag down without a message, and then none of the tests by which a stop is sent
succeeds (`Forgotten`). -/

/-- The robot was told to start freedrive, and not to stop it since. -/
def freedriveOn : List (DriverCall K) → Bool
  | [] => false
  | .freedriveStart :: _ => true
  | .freedriveStop :: _ => false
  | _ :: older => freedriveOn older

/-- Each message of freedrive but a start finds it on. -/
def Bracketed : List (DriverCall K) → Prop
  | [] => True
  | .freedriveNoop :: older => freedriveOn older = true ∧ Bracketed older
  | .freedriveStop :: older => freedriveOn older = true ∧ Bracketed older
  | _ :: older => Bracketed older

/-- What the hardware interface takes for active freedrive is on. -/
def FreedriveInv (s : Hardware K n) : Prop :=
  Exclusive s.runningModes ∧ Bracketed s.sent ∧
    (s.freedriveActivated = true → freedriveOn s.sent = true)

theorem FreedriveInv.switch (h : FreedriveInv s) (start stop : List String) :
    FreedriveInv (s.switch info start stop) := by
  refine ⟨exclusive_step h.1 (.switch start stop), ?_⟩
  refine switch_keeps (P := fun t ↦ Bracketed t.sent ∧
    (t.freedriveActivated = true → freedriveOn t.sent = true)) h.1 h.2 (fun _ mode _ t ht ↦ ?_)
    (fun _ mode _ t ht ↦ ?_) (fun _ _ _ ht ↦ ht)
  · rcases mode
    case freedrive => exact ⟨ht.1, nofun⟩
    all_goals exact ht
  · rcases mode
    case freedrive => exact ⟨ht.1, nofun⟩
    all_goals exact ht

omit [UrDouble K] in
/-- The messages of force mode and of tool contact are none of freedrive. -/
theorem freedriveOn_cons {call : DriverCall K} {calls : List (DriverCall K)}
    (hcall : call.IsForceMode ∨ call.IsToolContact) :
    freedriveOn (call :: calls) = freedriveOn calls ∧
      (Bracketed (call :: calls) ↔ Bracketed calls) := by
  rcases hcall with hcall | hcall
  · rcases call <;> first | exact hcall.elim | exact ⟨rfl, Iff.rfl⟩
  · rcases call <;> first | exact hcall.elim | exact ⟨rfl, Iff.rfl⟩

omit [UrDouble K] in
theorem FreedriveInv.writeMotion (h : FreedriveInv s) : FreedriveInv s.writeMotion := by
  rw [Hardware.writeMotion]
  split_ifs with hposition hvelocity heffort hfreedrive hpassthrough
  · exact h
  · exact h
  · exact h
  · obtain ⟨-, hactivated⟩ := Bool.and_eq_true_iff.mp hfreedrive
    exact ⟨h.1, ⟨h.2.2 hactivated, h.2.1⟩, h.2.2⟩
  · exact h
  · exact h

theorem FreedriveInv.write (h : FreedriveInv s) (ready : Bool) :
    FreedriveInv (s.write info ready) := by
  rcases ready
  · exact h
  obtain ⟨call, hcall, -⟩ := writeMotion_eq s
  obtain ⟨f, aside, hwrite, haside⟩ := write_true info s
  have hmotion : Bracketed s.writeMotion.sent ∧
      (s.freedriveActivated = true → freedriveOn s.writeMotion.sent = true) := by
    have hmotion := h.writeMotion.2
    rw [hcall] at hmotion ⊢
    exact hmotion
  have hsent := haside.induction
    (P := fun calls ↦ Bracketed calls ∧ (s.freedriveActivated = true → freedriveOn calls = true))
    hmotion
    fun hkind hcalls ↦ by rwa [(freedriveOn_cons hkind).1, (freedriveOn_cons hkind).2]
  rw [hwrite]
  exact ⟨h.1, hsent⟩

omit [UrDouble K] in
theorem FreedriveInv.checkAsyncIo (h : FreedriveInv s) : FreedriveInv s.checkAsyncIo := by
  rw [Hardware.checkAsyncIo]
  split_ifs with henable hstop hstop
  · exact ⟨h.1, ⟨rfl, h.2.1⟩, fun hfalse ↦ absurd hfalse Bool.false_ne_true⟩
  · exact ⟨h.1, h.2.1, fun _ ↦ rfl⟩
  · obtain ⟨-, hactivated⟩ := Bool.and_eq_true_iff.mp hstop
    exact ⟨h.1, ⟨h.2.2 hactivated, h.2.1⟩, fun hfalse ↦ absurd hfalse Bool.false_ne_true⟩
  · exact h

/-- **One event** keeps the messages bracketed. -/
theorem FreedriveInv.step (h : FreedriveInv s) (event : HardwareEvent K) :
    FreedriveInv (s.step info event) := by
  rcases event with ⟨start, stop⟩ | jointPositions | ready | _ | _ | _ | _ | _ | _ | _ | _
  · exact h.switch start stop
  · rw [Hardware.step, Hardware.read]
    split_ifs <;> exact h
  · exact h.write ready
  · exact h.checkAsyncIo
  all_goals exact h

/-- In every run, freedrive is kept up and stopped only after it was started. -/
theorem freedrive_bracketed (info : HardwareInfo n) (events : List (HardwareEvent K)) :
    Bracketed (run (Hardware.step info) (Hardware.initial : Hardware K n) events).sent := by
  refine (run_invariant (J := FreedriveInv) (P := fun _ _ ↦ True) (fun _ event h _ ↦ h.step event)
    ⟨exclusive_initial, trivial, nofun⟩ (Throughout.of_forall fun _ _ _ ↦ trivial)).2.1

/-- The hardware interface has forgotten that freedrive is on. -/
structure Forgotten (on : Bool) (s : Hardware K n) : Prop where
  exclusive : Exclusive s.runningModes
  activated : s.freedriveActivated = false
  enable : s.freedriveEnable = false
  on : freedriveOn s.sent = on

/-- A cycle sends nothing of freedrive. -/
theorem Forgotten.write {on : Bool} (h : Forgotten on s) (ready : Bool) :
    Forgotten on (s.write info ready) := by
  rcases ready
  · exact h
  obtain ⟨f, aside, hwrite, haside⟩ := write_true info s
  have hmotion : freedriveOn s.writeMotion.sent = on := by
    rw [Hardware.writeMotion, ← h.on]
    split_ifs <;> rfl
  have hsent := haside.induction (P := fun calls ↦ freedriveOn calls = on) hmotion
    fun hkind hcalls ↦ (freedriveOn_cons hkind).1.trans hcalls
  rw [hwrite]
  exact ⟨h.exclusive, h.activated, h.enable, hsent⟩

/-- Nor does any event but a request to enable it. -/
theorem Forgotten.step {on : Bool} {event : HardwareEvent K} (h : Forgotten on s)
    (henable : event ≠ .freedriveEnable) : Forgotten on (s.step info event) := by
  rcases event with ⟨start, stop⟩ | jointPositions | ready | _ | _ | _ | _ | _ | _ | _ | _
  · have hkept : (s.switch info start stop).freedriveActivated = false ∧
        (s.switch info start stop).freedriveEnable = false ∧
        freedriveOn (s.switch info start stop).sent = on :=
      switch_keeps (P := fun t ↦ t.freedriveActivated = false ∧ t.freedriveEnable = false ∧
        freedriveOn t.sent = on) h.exclusive ⟨h.activated, h.enable, h.on⟩
      (fun _ m _ _ ht ↦ by rcases m <;> first | exact ht | exact ⟨rfl, ht.2⟩)
      (fun _ m _ _ ht ↦ by rcases m <;> first | exact ht | exact ⟨rfl, ht.2⟩) (fun _ _ _ ht ↦ ht)
    exact ⟨exclusive_step h.exclusive _, hkept.1, hkept.2.1, hkept.2.2⟩
  · rw [Hardware.step, Hardware.read]
    by_cases hinitialized : s.initialized
    · simp only [hinitialized, if_true]
      exact ⟨h.exclusive, h.activated, h.enable, h.on⟩
    · simp only [hinitialized]
      exact ⟨h.exclusive, h.activated, rfl, h.on⟩
  · exact h.write ready
  · rw [Hardware.step, Hardware.checkAsyncIo, h.enable]
    simp only [Bool.false_eq_true, if_false, h.activated, Bool.and_false]
    exact h
  case freedriveEnable => exact absurd rfl henable
  all_goals exact ⟨h.exclusive, h.activated, h.enable, h.on⟩

/-- A switch that stops freedrive takes the flag down, whatever it starts. -/
theorem freedriveActivated_performCommandModeSwitch (hstop : Mode.freedrive ∈ s.stopModes first) :
    s.performCommandModeSwitch.freedriveActivated = false := by
  have hstart : ∀ (t : Hardware K n) mode, t.freedriveActivated = false →
      (t.start mode).freedriveActivated = false := fun _ mode ht ↦ by
    rcases mode <;> first | exact ht | rfl
  have hstopped : (Mode.all.foldl (fun t mode ↦ if mode ∈ s.stopModes first then t.stop mode else t)
      s).freedriveActivated = false := by
    simp only [Mode.all, List.foldl_cons, List.foldl_nil, if_pos hstop]
    split_ifs <;> rfl
  rw [Hardware.performCommandModeSwitch]
  refine foldl_keeps (P := fun t ↦ t.freedriveActivated = false)
    (fun mode _ _ t ht ↦ hstart t mode ht) ?_
  split_ifs
  · exact hstart _ _ hstopped
  · exact hstart _ _ hstopped
  · exact hstart _ _ hstopped
  · exact hstopped

/-- A switch that stops freedrive does not tell the robot to, and nothing else does later: it stays
on until it is started again. -/
theorem freedrive_left_on (info : HardwareInfo n) {before later : List (HardwareEvent K)}
    {start stop : List String}
    (hgranted : Granted info (run (modeStep info) ∅ before) start stop)
    (hstop : info.stopInterface first .freedrive ∈ stop)
    (hpending : (run (Hardware.step info) (Hardware.initial : Hardware K n)
      before).freedriveEnable = false)
    (hlater : ∀ event ∈ later, event ≠ .freedriveEnable) :
    let s : Hardware K n := run (Hardware.step info) Hardware.initial before
    freedriveOn (run (Hardware.step info) s (.switch start stop :: later)).sent
      = freedriveOn s.sent := by
  intro s
  obtain ⟨hmodes, hexclusive⟩ := running_refines (K := K) info before
  rw [← hmodes] at hgranted
  have hoff : (s.step info (.switch start stop)).freedriveActivated = false := by
    rw [Hardware.step, Hardware.switch, prepareCommandModeSwitch_eq hexclusive, if_pos hgranted]
    exact freedriveActivated_performCommandModeSwitch (mem_picked.mpr hstop)
  have hkept : (s.step info (.switch start stop)).freedriveEnable = false ∧
      freedriveOn (s.step info (.switch start stop)).sent = freedriveOn s.sent :=
    switch_keeps (P := fun t ↦ t.freedriveEnable = false ∧ freedriveOn t.sent = freedriveOn s.sent)
      hexclusive ⟨hpending, rfl⟩ (fun _ m _ _ h ↦ by rcases m <;> exact h)
      (fun _ m _ _ h ↦ by rcases m <;> exact h) (fun _ _ _ h ↦ h)
  rw [run_cons]
  exact (run_invariant (J := Forgotten (freedriveOn s.sent))
    (P := fun _ event ↦ event ≠ .freedriveEnable) (fun _ _ h henable ↦ h.step henable)
    ⟨exclusive_step hexclusive _, hoff, hkept.1, hkept.2⟩ (Throughout.of_forall fun _ ↦ hlater)).on

/-- The mode is stopped and the thread runs again, and freedrive is still on. -/
theorem freedrive_left_on_oneJoint :
    let before : List (HardwareEvent (Option ℚ)) :=
      [.switch ["freedrive_mode/async_success"] [], .freedriveEnable, .checkAsyncIo]
    let s : Hardware (Option ℚ) 0 := run (Hardware.step oneJoint) Hardware.initial before
    freedriveOn (run (Hardware.step oneJoint) s
      [.switch [] ["freedrive_mode/async_success"], .checkAsyncIo, .write true]).sent
      = freedriveOn s.sent :=
  freedrive_left_on oneJoint (by decide +kernel) (by decide +kernel) (by decide +kernel) (by simp)

end VzletUr3e.Ur
