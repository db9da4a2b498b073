import VzletUr3e.Ur.ModeSwitch

/-!
# What runs together

Requests for a switch act on the set of the running modes: those that stop are taken out, those that
start are put in, and the request is refused if the outcome is not compatible (`switchModes`). The
hardware interface keeps its flags in step with that set over every run (`running_refines`), so its
tests in `write` are about alternatives. What it sends is what the one mode that moves the robot
asks for.
-/

namespace VzletUr3e.Ur

open Runs UrDouble

/-! ## Compatible modes

The table of the source is read as a relation. It is symmetric, and a mode is compatible with
itself, so that sets of modes can be compared instead of lists. -/

/-- The modes may run together. -/
def Compatible (a b : Mode) : Prop := a = b ∨ modeCompatibility a b = true

instance (a b : Mode) : Decidable (Compatible a b) := inferInstanceAs (Decidable (_ ∨ _))

theorem Compatible.symm : ∀ {a b : Mode}, Compatible a b → Compatible b a := by decide

instance : Std.Symm Compatible := ⟨fun _ _ h ↦ h.symm⟩

/-- What a mode is asked for before it starts. -/
theorem isModeCompatible_iff {mode : Mode} {others : List Mode} :
    isModeCompatible mode others = true ↔ ∀ other ∈ others, Compatible mode other := by
  simp [isModeCompatible, Compatible]

/-- All of the modes may run together. -/
def Exclusive (modes : Finset Mode) : Prop := ∀ a ∈ modes, ∀ b ∈ modes, Compatible a b

instance (modes : Finset Mode) : Decidable (Exclusive modes) :=
  inferInstanceAs (Decidable (∀ a ∈ modes, ∀ b ∈ modes, Compatible a b))

theorem Exclusive.empty : Exclusive ∅ := fun _ ha ↦ absurd ha (Finset.notMem_empty _)

theorem Exclusive.mono {modes others : Finset Mode} (h : Exclusive others) (hsub : modes ⊆ others) :
    Exclusive modes := fun a ha b hb ↦ h a (hsub ha) b (hsub hb)

theorem pairwise_compatible_iff {modes : List Mode} :
    modes.Pairwise Compatible ↔ ∀ a ∈ modes, ∀ b ∈ modes, Compatible a b := by
  constructor
  · intro h a ha b hb
    exact h.forall_of_forall (fun _ _ ↦ .inl rfl) ha hb
  · exact List.pairwise_of_forall_mem_list

/-! ## The set of running modes -/

variable {n : ℕ} {info : HardwareInfo n} {K : Type} {s : Hardware K n}

/-- The modes of the slots at one joint whose interface is named. -/
def picked (interface : Fin (n + 1) → Mode → String) (i : Fin (n + 1))
    (l : List (String × Fin (n + 1) × Mode)) : List Mode :=
  l.filterMap fun slot ↦
    if slot.2.1 = i ∧ slot.1 = interface slot.2.1 slot.2.2 then some slot.2.2 else none

/-- The modes that start at a joint, in the order of the request. -/
def HardwareInfo.started (info : HardwareInfo n) (start : List String) (i : Fin (n + 1)) :
    List Mode :=
  picked info.startInterface i (slots n start)

/-- The modes that run behind a request, if it is granted. -/
def nextModes (info : HardwareInfo n) (modes : Finset Mode) (start stop : List String) :
    Finset Mode :=
  (modes.filter fun mode ↦ info.stopInterface first mode ∉ stop) ∪
    Finset.univ.filter fun mode ↦ info.startInterface first mode ∈ start

/-- When a request is granted: the joints are started alike, effort is supported if it is asked for,
and what would run is compatible. -/
def Granted (info : HardwareInfo n) (modes : Finset Mode) (start stop : List String) : Prop :=
  (∀ i, info.started start i = info.started start first) ∧
    (info.startInterface first .effort ∈ start → info.effortRefused = false) ∧
    Exclusive (nextModes info modes start stop)

instance (modes : Finset Mode) (start stop : List String) :
    Decidable (Granted info modes start stop) := inferInstanceAs (Decidable (_ ∧ _))

/-- A request as it acts on the set of the running modes. -/
def switchModes (info : HardwareInfo n) (modes : Finset Mode) (start stop : List String) :
    Finset Mode :=
  if Granted info modes start stop then nextModes info modes start stop else modes

/-- The modes that are running. -/
def Hardware.runningModes (s : Hardware K n) : Finset Mode :=
  Finset.univ.filter fun mode ↦ s.running mode = true

@[simp] theorem mem_runningModes {mode : Mode} : mode ∈ s.runningModes ↔ s.running mode = true := by
  simp [Hardware.runningModes]

theorem mem_nextModes {modes : Finset Mode} {start stop : List String} {mode : Mode} :
    mode ∈ nextModes info modes start stop ↔
      (mode ∈ modes ∧ info.stopInterface first mode ∉ stop) ∨
        info.startInterface first mode ∈ start := by
  simp [nextModes]

theorem exclusive_switchModes {modes : Finset Mode} (h : Exclusive modes)
    (start stop : List String) :
    Exclusive (switchModes info modes start stop) := by
  rw [switchModes]
  split_ifs with hgranted
  · exact hgranted.2.2
  · exact h

/-! ## The loops

The source goes through all interfaces, joints and modes and compares names. What a loop has done
in the end depends on the names that a joint has in the request alone (`picked`), which is shown by
induction on the turns. -/

/-- Every name of the request is compared with those of each joint and mode. -/
theorem mem_slots {keys : List String} {slot : String × Fin (n + 1) × Mode} :
    slot ∈ slots n keys ↔ slot.1 ∈ keys := by
  obtain ⟨key, i, mode⟩ := slot
  have hall : mode ∈ Mode.all := by rcases mode <;> decide
  simp [slots, hall]

/-- A mode is picked at a joint if its interface there is named. -/
theorem mem_picked {interface : Fin (n + 1) → Mode → String} {i : Fin (n + 1)} {keys : List String}
    {mode : Mode} : mode ∈ picked interface i (slots n keys) ↔ interface i mode ∈ keys := by
  simp only [picked, List.mem_filterMap, Option.ite_none_right_eq_some, Option.some.injEq]
  constructor
  · rintro ⟨slot, hmem, ⟨rfl, hkey⟩, rfl⟩
    rw [← hkey]
    exact mem_slots.mp hmem
  · intro hmem
    exact ⟨(interface i mode, i, mode), mem_slots.mpr hmem, ⟨rfl, rfl⟩, rfl⟩

theorem picked_cons (interface : Fin (n + 1) → Mode → String) (i : Fin (n + 1))
    (slot : String × Fin (n + 1) × Mode) (l : List (String × Fin (n + 1) × Mode)) :
    picked interface i (slot :: l) =
      if slot.2.1 = i ∧ slot.1 = interface slot.2.1 slot.2.2 then slot.2.2 :: picked interface i l
      else picked interface i l := by
  rw [picked, List.filterMap_cons]
  split_ifs <;> rfl

/-- The loops over the interfaces that start end with the modes in their order, or with an error
if some of them may not run together. -/
theorem foldlM_reserve (l : List (String × Fin (n + 1) × Mode)) :
    ∀ {modes modes' : Fin (n + 1) → List Mode}, (∀ i, (modes i).Pairwise Compatible) →
      (l.foldlM (reserve info) modes = some modes' ↔
        (∀ i, modes' i = modes i ++ picked info.startInterface i l) ∧
          ∀ i, (modes i ++ picked info.startInterface i l).Pairwise Compatible) := by
  induction l with
  | nil =>
    intro modes modes' hmodes
    simp only [List.foldlM_nil, Option.pure_def, Option.some.injEq, picked, List.filterMap_nil,
      List.append_nil, hmodes, implies_true, and_true]
    exact ⟨fun h i ↦ h ▸ rfl, fun h ↦ funext fun i ↦ (h i).symm⟩
  | cons slot l ih =>
    intro modes modes' hmodes
    obtain ⟨key, j, mode⟩ := slot
    rw [List.foldlM_cons, reserve]
    by_cases hkey : key = info.startInterface j mode
    · rw [if_pos hkey]
      have happend : ∀ i, modes i ++ picked info.startInterface i ((key, j, mode) :: l)
          = Function.update modes j (modes j ++ [mode]) i ++ picked info.startInterface i l := by
        intro i
        rw [picked_cons]
        by_cases hi : j = i
        · subst hi
          rw [if_pos ⟨rfl, hkey⟩, Function.update_self, List.append_assoc, List.singleton_append]
        · rw [if_neg fun hboth ↦ hi hboth.1, Function.update_of_ne (Ne.symm hi)]
      by_cases hcompatible : isModeCompatible mode (modes j) = true
      · rw [if_pos hcompatible, Option.bind_eq_bind, Option.bind_some, ih]
        · simp only [happend]
        · intro i
          by_cases hi : i = j
          · subst hi
            rw [Function.update_self, List.pairwise_append]
            refine ⟨hmodes i, List.pairwise_singleton _ _, fun a ha b hb ↦ ?_⟩
            rw [List.mem_singleton.mp hb]
            exact (isModeCompatible_iff.mp hcompatible a ha).symm
          · rw [Function.update_of_ne hi]
            exact hmodes i
      · rw [if_neg hcompatible, Option.bind_eq_bind, Option.bind_none]
        refine ⟨fun h ↦ (nomatch h), fun ⟨_, hpairwise⟩ ↦ absurd ?_ hcompatible⟩
        have hj := hpairwise j
        rw [picked_cons, if_pos ⟨rfl, hkey⟩, List.pairwise_append] at hj
        exact isModeCompatible_iff.mpr fun other hother ↦
          (hj.2.2 other hother mode List.mem_cons_self).symm
    · rw [if_neg hkey, Option.bind_eq_bind, Option.bind_some, ih hmodes]
      have hskip : ∀ i, picked info.startInterface i ((key, j, mode) :: l)
          = picked info.startInterface i l := fun i ↦ by
        rw [picked_cons, if_neg fun hboth ↦ hkey hboth.2]
      simp only [hskip]

/-- The loops over the interfaces that stop take the modes away. -/
theorem foldl_release (l : List (String × Fin (n + 1) × Mode)) (i : Fin (n + 1)) :
    ∀ modes : (Fin (n + 1) → List Mode) × (Fin (n + 1) → List Mode),
      (l.foldl (release info) modes).1 i = modes.1 i ++ picked info.stopInterface i l ∧
      (l.foldl (release info) modes).2 i
        = (modes.2 i).filter fun mode ↦ decide (mode ∉ picked info.stopInterface i l) := by
  induction l with
  | nil => simp [picked]
  | cons slot l ih =>
    intro modes
    obtain ⟨key, j, mode⟩ := slot
    rw [List.foldl_cons]
    obtain ⟨hstop, hcontrol⟩ := ih (release info modes (key, j, mode))
    rw [hstop, hcontrol, picked_cons, release]
    by_cases hkey : key = info.stopInterface j mode
    · rw [if_pos hkey]
      dsimp only
      by_cases hi : j = i
      · subst hi
        rw [if_pos ⟨rfl, hkey⟩, Function.update_self, Function.update_self, List.append_assoc,
          List.filter_filter]
        refine ⟨rfl, List.filter_congr fun m _ ↦ ?_⟩
        simp [Bool.and_comm]
      · rw [if_neg fun hboth ↦ hi hboth.1, Function.update_of_ne (Ne.symm hi),
          Function.update_of_ne (Ne.symm hi)]
        exact ⟨rfl, rfl⟩
    · rw [if_neg hkey, if_neg fun hboth ↦ hkey hboth.2]
      exact ⟨rfl, rfl⟩

/-! ## One request

`performCommandModeSwitch` stops modes one by one and then starts others, and starting one sets the
flags of some others to false (`displaced`). If what would run in the end is compatible, none of
those flags was up, and the loops do to the flags what `nextModes` does to the set. -/

/-- At most one of the modes that joints are driven in is running, so none of them hides another. -/
theorem mem_controlModes (h : Exclusive s.runningModes) {mode : Mode} :
    mode ∈ s.controlModes ↔ s.running mode = true := by
  have hnot : ∀ a b, ¬Compatible a b → ¬(s.running a = true ∧ s.running b = true) :=
    fun a b hab ⟨ha, hb⟩ ↦ hab (h a (mem_runningModes.mpr ha) b (mem_runningModes.mpr hb))
  have hpv := hnot .position .velocity (by decide)
  have hpe := hnot .position .effort (by decide)
  have hve := hnot .velocity .effort (by decide)
  rw [Hardware.controlModes]
  rcases mode <;> grind

/-- The modes that `start` takes the place of. -/
def displaced : Mode → List Mode
  | .position => [.velocity, .effort, .passthrough]
  | .velocity => [.position, .effort, .passthrough]
  | .effort => [.position, .velocity, .passthrough]
  | .passthrough => [.velocity, .position, .effort]
  | .freedrive => [.velocity, .position, .effort]
  | _ => []

/-- A mode takes the place of such modes only that it cannot run with. -/
theorem not_compatible_of_mem_displaced : ∀ {mode other : Mode}, other ∈ displaced mode →
    ¬Compatible other mode := by decide

/-- Joints are driven in one of three modes. -/
theorem eq_of_compatible : ∀ a ∈ [Mode.position, .velocity, .effort],
    ∀ b ∈ [Mode.position, .velocity, .effort], Compatible a b → b = a := by decide

variable [UrDouble K]

theorem running_stop (mode other : Mode) :
    (s.stop mode).running other = if other = mode then false else s.running other := by
  rcases mode <;> exact Function.update_apply _ _ _ _

/-- Starting a mode takes other flags down. -/
theorem running_start (mode other : Mode) :
    (s.start mode).running other =
      if other = mode then true else if other ∈ displaced mode then false else s.running other := by
  rcases mode <;> rcases other <;> rfl

/-- What runs before a mode starts is compatible with it, so `start` takes no other mode's place. -/
theorem running_start_of_exclusive {modes : Finset Mode} (hmodes : Exclusive modes)
    (hrunning : s.runningModes ⊆ modes) {mode : Mode} (hmode : mode ∈ modes) (other : Mode) :
    (s.start mode).running other = true ↔ s.running other = true ∨ other = mode := by
  rw [running_start]
  split_ifs with heq hdisplaced
  · simp [heq]
  · refine ⟨fun h ↦ (nomatch h), fun h ↦ ?_⟩
    have hother := hrunning (mem_runningModes.mpr (h.resolve_right heq))
    exact absurd (hmodes other hother mode hmode) (not_compatible_of_mem_displaced hdisplaced)
  · simp [heq]

/-- The loop over the modes that stop. -/
theorem running_stopping (stopModes l : List Mode) (other : Mode) :
    ∀ s : Hardware K n,
      (l.foldl (fun s mode ↦ if mode ∈ stopModes then s.stop mode else s) s).running other = true ↔
        s.running other = true ∧ ¬(other ∈ l ∧ other ∈ stopModes) := by
  induction l with
  | nil => simp
  | cons mode l ih =>
    intro s
    rw [List.foldl_cons, ih, List.mem_cons]
    split_ifs with hstop
    · rw [running_stop]
      by_cases heq : other = mode
      · simp [heq, hstop]
      · simp [heq]
    · by_cases heq : other = mode
      · simp [heq, hstop]
      · simp [heq]

/-- The loop over the modes that start. -/
theorem running_starting {modes : Finset Mode} (hmodes : Exclusive modes) {startModes : List Mode}
    (hstart : ∀ mode ∈ startModes, mode ∈ modes) (l : List Mode) (other : Mode) :
    ∀ s : Hardware K n, s.runningModes ⊆ modes →
      ((l.foldl (fun s mode ↦ if mode ∈ startModes then s.start mode else s) s).running
          other = true ↔
        s.running other = true ∨ (other ∈ l ∧ other ∈ startModes)) := by
  induction l with
  | nil => simp
  | cons mode l ih =>
    intro s hrunning
    rw [List.foldl_cons, List.mem_cons]
    split_ifs with hmem
    · rw [ih, running_start_of_exclusive hmodes hrunning (hstart mode hmem)]
      · by_cases heq : other = mode
        · simp [heq, hmem]
        · simp [heq]
      · intro m hm
        rw [mem_runningModes, running_start_of_exclusive hmodes hrunning (hstart mode hmem)] at hm
        rcases hm with hm | rfl
        · exact hrunning (mem_runningModes.mpr hm)
        · exact hstart _ hmem
    · rw [ih s hrunning]
      by_cases heq : other = mode
      · simp [heq, hmem]
      · simp [heq]

/-- Where what would run is compatible, the switch makes it run. -/
theorem running_performCommandModeSwitch {modes : Finset Mode} (hmodes : Exclusive modes)
    (hnext : ∀ mode, mode ∈ modes ↔
      (s.running mode = true ∧ mode ∉ s.stopModes first) ∨ mode ∈ s.startModes first) :
    s.performCommandModeSwitch.runningModes = modes := by
  have hall : ∀ mode, mode ∈ Mode.all := by decide
  have hstart : ∀ mode ∈ s.startModes first, mode ∈ modes := fun mode h ↦ (hnext mode).mpr (.inr h)
  -- the modes that stop
  let stopped : Hardware K n :=
    Mode.all.foldl (fun s' mode ↦ if mode ∈ s.stopModes first then s'.stop mode else s') s
  have hstopped : ∀ mode, stopped.running mode = true ↔
      s.running mode = true ∧ mode ∉ s.stopModes first := by
    intro mode
    simp only [stopped, running_stopping, hall, true_and]
  have hsub : stopped.runningModes ⊆ modes := fun mode h ↦
    (hnext mode).mpr (.inl ((hstopped mode).mp (mem_runningModes.mp h)))
  -- one of the modes that joints are driven in
  let joints : List Mode := [.position, .velocity, .effort]
  have hone : ∀ a ∈ joints, ∀ b ∈ joints, a ∈ s.startModes first → b ∈ s.startModes first →
      b = a := by
    exact fun a ha b hb hstarta hstartb ↦
      eq_of_compatible a ha b hb (hmodes a (hstart a hstarta) b (hstart b hstartb))
  let driven : Hardware K n := if .position ∈ s.startModes first then stopped.start .position
    else if .velocity ∈ s.startModes first then stopped.start .velocity
    else if .effort ∈ s.startModes first then stopped.start .effort
    else stopped
  have hjoint : ∀ a ∈ joints, a ∈ s.startModes first → ∀ mode,
      (stopped.start a).running mode = true ↔
        stopped.running mode = true ∨ (mode ∈ joints ∧ mode ∈ s.startModes first) := by
    intro a ha hstarta mode
    rw [running_start_of_exclusive hmodes hsub (hstart a hstarta)]
    refine or_congr_right ⟨?_, fun h ↦ hone a ha mode h.1 hstarta h.2⟩
    rintro rfl
    exact ⟨ha, hstarta⟩
  have hdriven : ∀ mode, driven.running mode = true ↔
      stopped.running mode = true ∨ (mode ∈ joints ∧ mode ∈ s.startModes first) := by
    intro mode
    simp only [driven]
    split_ifs with hp hv he
    · exact hjoint .position (by simp [joints]) hp mode
    · exact hjoint .velocity (by simp [joints]) hv mode
    · exact hjoint .effort (by simp [joints]) he mode
    · refine ⟨.inl, fun h ↦ h.elim id fun ⟨hmem, hmode⟩ ↦ absurd hmode ?_⟩
      simp only [joints, List.mem_cons, List.not_mem_nil, or_false] at hmem
      rcases hmem with rfl | rfl | rfl <;> assumption
  have hsub' : driven.runningModes ⊆ modes := by
    intro mode h
    rcases (hdriven mode).mp (mem_runningModes.mp h) with h | h
    · exact hsub (mem_runningModes.mpr h)
    · exact hstart mode h.2
  ext other
  have hothers := running_starting hmodes hstart
    [.forceMode, .passthrough, .freedrive, .toolContact] other driven hsub'
  rw [mem_runningModes, hnext]
  refine hothers.trans ?_
  rw [hdriven, hstopped, or_assoc, ← or_and_right]
  have hsplit : other ∈ joints ∨ other ∈ [Mode.forceMode, .passthrough, .freedrive,
    .toolContact] := by
    rcases other <;> simp [joints]
  rw [and_iff_right hsplit]

theorem mem_started {start : List String} {i : Fin (n + 1)} {mode : Mode} :
    mode ∈ info.started start i ↔ info.startInterface i mode ∈ start := mem_picked

omit [UrDouble K] in
/-- What runs and what starts are compatible among themselves, so the last check is about both. -/
theorem exclusive_nextModes_iff (h : Exclusive s.runningModes) {start stop : List String}
    (hstart : (info.started start first).Pairwise Compatible) :
    Exclusive (nextModes info s.runningModes start stop) ↔
      ∀ mode ∈ info.started start first, ∀ other ∈ s.controlModes,
        info.stopInterface first other ∉ stop → Compatible mode other := by
  constructor
  · intro hnext mode hmode other hother hstop
    have hrunning := mem_runningModes.mpr ((mem_controlModes h).mp hother)
    exact hnext mode (mem_nextModes.mpr (.inr (mem_started.mp hmode))) other
      (mem_nextModes.mpr (.inl ⟨hrunning, hstop⟩))
  · intro hall a ha b hb
    have hcontrol : ∀ mode ∈ s.runningModes, mode ∈ s.controlModes := fun mode hmode ↦
      (mem_controlModes h).mpr (mem_runningModes.mp hmode)
    rcases mem_nextModes.mp ha with ⟨ha, hsa⟩ | ha <;>
      rcases mem_nextModes.mp hb with ⟨hb, hsb⟩ | hb
    · exact h a ha b hb
    · exact (hall b (mem_started.mpr hb) a (hcontrol a ha) hsa).symm
    · exact hall a (mem_started.mpr ha) b (hcontrol b hb) hsb
    · exact pairwise_compatible_iff.mp hstart a (mem_started.mpr ha) b (mem_started.mpr hb)

omit [UrDouble K] in
/-- A request is prepared if it is granted. -/
theorem prepareCommandModeSwitch_eq (h : Exclusive s.runningModes) (start stop : List String) :
    s.prepareCommandModeSwitch info start stop =
      if Granted info s.runningModes start stop then
        some { s with startModes := info.started start
                      stopModes := fun i ↦ picked info.stopInterface i (slots n stop) }
      else none := by
  have hfold := @foldlM_reserve n info (slots n start) (fun _ ↦ []) (info.started start)
    fun _ ↦ List.Pairwise.nil
  simp only [List.nil_append] at hfold
  by_cases hpairwise : ∀ i, (info.started start i).Pairwise Compatible
  · have hsome := hfold.mpr ⟨fun _ ↦ rfl, hpairwise⟩
    have hrelease := @foldl_release n info (slots n stop) first
      (fun _ ↦ [], fun _ ↦ s.controlModes)
    have hstop : ((slots n stop).foldl (release info) (fun _ ↦ [], fun _ ↦ s.controlModes)).1
        = fun i ↦ picked info.stopInterface i (slots n stop) := funext fun i ↦
      (foldl_release (slots n stop) i _).1.trans (List.nil_append _)
    have hcontrol : ((info.started start first).all (isModeCompatible · (((slots n stop).foldl
        (release info) (fun _ ↦ [], fun _ ↦ s.controlModes)).2 first)) = true) ↔
        Exclusive (nextModes info s.runningModes start stop) := by
      rw [exclusive_nextModes_iff h (hpairwise first), hrelease.2]
      simp only [List.all_eq_true, isModeCompatible_iff, List.mem_filter, decide_eq_true_eq,
        mem_picked, and_imp]
    have heffort : (∀ i, info.started start i = info.started start first) →
        (((List.finRange (n + 1)).any (fun i ↦ Mode.effort ∈ info.started start i) &&
          info.effortRefused) = false ↔
          (info.startInterface first .effort ∈ start → info.effortRefused = false)) := by
      intro halike
      simp only [halike, mem_started, Bool.and_eq_false_imp, List.any_eq_true, List.mem_finRange,
        true_and, decide_eq_true_eq, exists_const]
    rw [Hardware.prepareCommandModeSwitch, hsome, Option.bind_eq_bind, Option.bind_some]
    by_cases halike : ∀ i, info.started start i = info.started start first
    · have hgranted : Granted info s.runningModes start stop ↔
          ¬((List.finRange (n + 1)).any (fun i ↦ Mode.effort ∈ info.started start i) &&
            info.effortRefused) = true ∧
            Exclusive (nextModes info s.runningModes start stop) := by
        rw [Granted, Bool.not_eq_true, heffort halike, and_iff_right halike]
      by_cases hrefused : ((List.finRange (n + 1)).any
          (fun i ↦ Mode.effort ∈ info.started start i) && info.effortRefused) = true
      · rw [if_pos hrefused, if_neg fun hall ↦ (hgranted.mp hall).1 hrefused]
      · rw [if_neg hrefused, if_neg (not_not.mpr halike)]
        dsimp only
        rw [hstop]
        by_cases hnext : Exclusive (nextModes info s.runningModes start stop)
        · rw [if_pos (hcontrol.mpr hnext), if_pos (hgranted.mpr ⟨hrefused, hnext⟩)]
        · rw [if_neg (mt hcontrol.mp hnext), if_neg fun hall ↦ hnext hall.2.2]
    · have hrefused : ¬Granted info s.runningModes start stop := fun hall ↦ halike hall.1
      rw [if_neg hrefused, if_pos halike, ite_self]
  · have hnone : (slots n start).foldlM (reserve info) (fun _ ↦ []) = none := by
      rcases hresult : (slots n start).foldlM (reserve info) (fun _ ↦ []) with _ | startModes
      · rfl
      · have hsome := (@foldlM_reserve n info (slots n start) (fun _ ↦ []) startModes
          fun _ ↦ List.Pairwise.nil).mp hresult
        simp only [List.nil_append] at hsome
        exact absurd hsome.2 hpairwise
    have hrefused : ¬Granted info s.runningModes start stop := by
      rintro ⟨halike, -, hnext⟩
      refine hpairwise fun i ↦ ?_
      rw [halike i]
      exact pairwise_compatible_iff.mpr fun a ha b hb ↦
        hnext a (mem_nextModes.mpr (.inr (mem_started.mp ha))) b
          (mem_nextModes.mpr (.inr (mem_started.mp hb)))
    rw [Hardware.prepareCommandModeSwitch, hnone, if_neg hrefused]
    rfl

/-- A request acts on the running modes as on a set. -/
theorem runningModes_switch (h : Exclusive s.runningModes) (start stop : List String) :
    (s.switch info start stop).runningModes = switchModes info s.runningModes start stop := by
  rw [Hardware.switch, prepareCommandModeSwitch_eq h, switchModes]
  split_ifs with hgranted
  · refine running_performCommandModeSwitch hgranted.2.2 fun mode ↦ ?_
    rw [mem_nextModes, mem_runningModes, mem_picked, mem_started]
  · rfl

/-! ## Runs

Only requests touch the flags, so the set follows a run event by event. -/

/-- An event as it acts on the set of the running modes. -/
def modeStep (info : HardwareInfo n) (modes : Finset Mode) : HardwareEvent K → Finset Mode
  | .switch start stop => switchModes info modes start stop
  | _ => modes

/-- **One event**, seen from the set. -/
theorem runningModes_step (h : Exclusive s.runningModes) (event : HardwareEvent K) :
    (s.step info event).runningModes = modeStep info s.runningModes event := by
  rcases event with ⟨start, stop⟩ | _ | ready | _ | _ | _ | _ | _ | _ | _ | _
  · exact runningModes_switch h start stop
  · rw [Hardware.step, Hardware.read]
    split_ifs <;> rfl
  · rcases ready
    · rfl
    · obtain ⟨f, aside, heq, -⟩ := write_true info s
      rw [Hardware.step, heq]
      rfl
  · rw [Hardware.step, Hardware.checkAsyncIo]
    split_ifs <;> rfl
  all_goals rfl

/-- What runs stays compatible. -/
theorem exclusive_step (h : Exclusive s.runningModes) (event : HardwareEvent K) :
    Exclusive (s.step info event).runningModes := by
  rw [runningModes_step h]
  rcases event with ⟨start, stop⟩ | _ | _ | _ | _ | _ | _ | _ | _ | _ | _
  · exact exclusive_switchModes h start stop
  all_goals exact h

theorem runningModes_initial : (Hardware.initial : Hardware K n).runningModes = ∅ := by
  simp [Hardware.runningModes, Hardware.initial]

theorem exclusive_initial : Exclusive (Hardware.initial : Hardware K n).runningModes := by
  rw [runningModes_initial]
  exact Exclusive.empty

/-- The flags of the hardware interface follow the set of the running modes, whose members are
compatible. -/
theorem running_refines (info : HardwareInfo n) (events : List (HardwareEvent K)) :
    let s : Hardware K n := run (Hardware.step info) Hardware.initial events
    s.runningModes = run (modeStep info) ∅ events ∧ Exclusive s.runningModes := by
  rw [← runningModes_initial (K := K) (n := n)]
  exact run_refines (J := fun s : Hardware K n ↦ Exclusive s.runningModes)
    (fun _ event h ↦ exclusive_step h event) (fun _ event h ↦ runningModes_step h event)
    exclusive_initial

end VzletUr3e.Ur
