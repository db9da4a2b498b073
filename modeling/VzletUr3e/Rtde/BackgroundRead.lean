import VzletUr3e.Library.Runs

/-!
# Handing over packages in the background

The RTDE client reads packages in a thread. It fills one of two buffers, swaps them under a lock,
and only then raises a flag and notifies. `getDataPackage` looks at the flag, copies the other
buffer under the lock and lowers the flag again. If there is nothing new it waits for a
notification, and does not wait on if there is still nothing new then.

Packages are whole and in order in every interleaving, but one of them may be copied twice, and be
returned a third time without being copied (`packages_in_order`, `unchanged_at_most_once`). The
newest one is not missed: it is returned by the next call, and at once (`newest_is_returned`).
-/

namespace VzletUr3e.Rtde

open Runs

/-! ## The parties

A step is what a party does between two points at which the other one can tell: an access to the
flag, or all that happens under the lock. The lock is held over two steps only in `copied`, and the
thread cannot swap its buffers meanwhile. -/

/-- What `tryGet` comes back with. -/
inductive Fetched
  | data
  | textMessage
  | failure
deriving DecidableEq, Repr

/-- Where the thread is. -/
inductive ThreadPc
  | checking
  | reading
  | fetched
  | swapped
  | published
  | leaving
  | ended
deriving DecidableEq, Repr

/-- Where a call of `getDataPackage` is. The lock is held in `copied` only. -/
inductive ClientPc
  | outside
  | entered
  | checked
  | missed
  | waiting
  | notified
  | copied
deriving DecidableEq, Repr

/-- The end of a call. `unchanged` is a success too, with what was in the package of the caller. -/
inductive Answer
  | refused
  | timeout
  | unchanged (dataPackage : ℕ)
  | package (dataPackage : ℕ)
deriving DecidableEq, Repr

/-- Data packages are known by their numbers, in the order in which they are received. 0 is anything
but a whole one. -/
structure BackgroundRead where
  received : ℕ
  dataBuffer0 : ℕ
  dataBuffer1 : ℕ
  newData : Bool
  backgroundReadRunning : Bool
  thread : ThreadPc
  client : ClientPc
  dataPackage : ℕ
  answers : List Answer
deriving DecidableEq, Repr

/-- Whose step is next. The notification of the caller may come without the thread. -/
inductive ReadEvent
  | thread (fetched : Fetched)
  | client
  | timeout
  | spuriousWakeup
  | stop
deriving DecidableEq, Repr

/-- Nothing disturbs the parties. -/
def ReadEvent.Quiet : ReadEvent → Prop
  | .spuriousWakeup | .stop => False
  | _ => True

namespace BackgroundRead

/-- `notify_one`. -/
def notifyOne (s : BackgroundRead) : BackgroundRead :=
  if s.client = .waiting then { s with client := .notified } else s

/-- A step of `backgroundReadThreadFunc`. `fetched` is what comes in, if it reads. -/
def threadStep (s : BackgroundRead) (fetched : Fetched) : BackgroundRead :=
  match s.thread with
  | .checking => { s with thread := if s.backgroundReadRunning then .reading else .leaving }
  | .reading =>
    match fetched with
    | .data =>
      { s with received := s.received + 1, dataBuffer1 := s.received + 1, thread := .fetched }
    | .textMessage | .failure => { s with dataBuffer1 := 0, thread := .checking }
  | .fetched =>
    if s.client = .copied then s
    else { s with dataBuffer0 := s.dataBuffer1, dataBuffer1 := s.dataBuffer0, thread := .swapped }
  | .swapped => { s with newData := true, thread := .published }
  | .published => { s.notifyOne with thread := .checking }
  | .leaving => { s with newData := false, thread := .ended }
  | .ended => s

/-- A step of `getDataPackage`. -/
def clientStep (s : BackgroundRead) : BackgroundRead :=
  match s.client with
  | .outside =>
    if s.backgroundReadRunning then { s with client := .entered }
    else { s with answers := s.answers ++ [.refused] }
  | .entered => { s with client := if s.newData then .checked else .missed }
  | .checked => { s with dataPackage := s.dataBuffer0, client := .copied }
  | .missed => { s with client := .waiting }
  | .waiting => s
  | .notified =>
    if s.newData then { s with dataPackage := s.dataBuffer0, client := .copied }
    else { s with client := .outside, answers := s.answers ++ [.unchanged s.dataPackage] }
  | .copied =>
    { s with newData := false, client := .outside,
             answers := s.answers ++ [.package s.dataPackage] }

/-- A step of one of the parties. What cannot happen changes nothing. -/
def step (s : BackgroundRead) : ReadEvent → BackgroundRead
  | .thread fetched => s.threadStep fetched
  | .client => s.clientStep
  | .timeout =>
    if s.client = .waiting then { s with client := .outside, answers := s.answers ++ [.timeout] }
    else s
  | .spuriousWakeup => s.notifyOne
  | .stop => { s with backgroundReadRunning := false }.notifyOne

/-- Behind `startBackgroundRead`. -/
def start : BackgroundRead where
  received := 0
  dataBuffer0 := 0
  dataBuffer1 := 0
  newData := false
  backgroundReadRunning := true
  thread := .checking
  client := .outside
  dataPackage := 0
  answers := []

/-! ### What a step can do

Each guarded assignment of the two functions has its constructor, and every invariant below is
proved by cases on it. -/

/-- What the parties can do, as long as nothing disturbs them. -/
inductive Moves (s : BackgroundRead) : BackgroundRead → Prop
  | check (hthread : s.thread = .checking) :
    Moves s { s with thread := if s.backgroundReadRunning then .reading else .leaving }
  | fetch (hthread : s.thread = .reading) :
    Moves s { s with received := s.received + 1, dataBuffer1 := s.received + 1, thread := .fetched }
  | fail (hthread : s.thread = .reading) : Moves s { s with dataBuffer1 := 0, thread := .checking }
  | swap (hthread : s.thread = .fetched) (hclient : s.client ≠ .copied) :
    Moves s { s with dataBuffer0 := s.dataBuffer1, dataBuffer1 := s.dataBuffer0,
                     thread := .swapped }
  | store (hthread : s.thread = .swapped) : Moves s { s with newData := true, thread := .published }
  | notify (hthread : s.thread = .published) (hclient : s.client = .waiting) :
    Moves s { s with client := .notified, thread := .checking }
  | miss (hthread : s.thread = .published) (hclient : s.client ≠ .waiting) :
    Moves s { s with thread := .checking }
  | leave (hthread : s.thread = .leaving) : Moves s { s with newData := false, thread := .ended }
  | refuse (hclient : s.client = .outside) : Moves s { s with answers := s.answers ++ [.refused] }
  | enter (hclient : s.client = .outside) : Moves s { s with client := .entered }
  | find (hclient : s.client = .entered) (hnew : s.newData = true) :
    Moves s { s with client := .checked }
  | findNone (hclient : s.client = .entered) (hnew : s.newData = false) :
    Moves s { s with client := .missed }
  | wait (hclient : s.client = .missed) : Moves s { s with client := .waiting }
  | copy (hclient : s.client = .checked ∨ s.client = .notified ∧ s.newData = true) :
    Moves s { s with dataPackage := s.dataBuffer0, client := .copied }
  | unchanged (hclient : s.client = .notified) (hnew : s.newData = false) :
    Moves s { s with client := .outside, answers := s.answers ++ [.unchanged s.dataPackage] }
  | finish (hclient : s.client = .copied) :
    Moves s { s with
      newData := false
      client := .outside
      answers := s.answers ++ [.package s.dataPackage] }
  | timeout (hclient : s.client = .waiting) :
    Moves s { s with client := .outside, answers := s.answers ++ [.timeout] }

/-- Disturbances wake the caller up, or end the thread. -/
inductive Disturbed (s : BackgroundRead) : BackgroundRead → Prop
  | wakeup (hclient : s.client = .waiting) : Disturbed s { s with client := .notified }
  | stop : Disturbed s { s with backgroundReadRunning := false }

/-- A step of the thread is one of its moves, or it waits for the lock. -/
theorem threadStep_cases (s : BackgroundRead) (fetched : Fetched) :
    s.threadStep fetched = s ∨ Moves s (s.threadStep fetched) := by
  rw [threadStep.eq_def]
  split
  case h_1 hthread => exact .inr (.check hthread)
  case h_2 hthread =>
    split
    · exact .inr (.fetch hthread)
    · exact .inr (.fail hthread)
    · exact .inr (.fail hthread)
  case h_3 hthread =>
    split_ifs with hclient
    · exact .inl rfl
    · exact .inr (.swap hthread hclient)
  case h_4 hthread => exact .inr (.store hthread)
  case h_5 hthread =>
    rw [notifyOne]
    split_ifs with hclient
    · exact .inr (.notify hthread hclient)
    · exact .inr (.miss hthread hclient)
  case h_6 hthread => exact .inr (.leave hthread)
  case h_7 => exact .inl rfl

/-- A step of the caller is one of its moves, or it waits for a notification. -/
theorem clientStep_cases (s : BackgroundRead) : s.clientStep = s ∨ Moves s s.clientStep := by
  rw [clientStep.eq_def]
  split
  case h_1 hclient =>
    split_ifs
    · exact .inr (.enter hclient)
    · exact .inr (.refuse hclient)
  case h_2 hclient =>
    split_ifs with hnew
    · exact .inr (.find hclient hnew)
    · exact .inr (.findNone hclient (Bool.eq_false_iff.mpr hnew))
  case h_3 hclient => exact .inr (.copy (.inl hclient))
  case h_4 hclient => exact .inr (.wait hclient)
  case h_5 => exact .inl rfl
  case h_6 hclient =>
    split_ifs with hnew
    · exact .inr (.copy (.inr ⟨hclient, hnew⟩))
    · exact .inr (.unchanged hclient (Bool.eq_false_iff.mpr hnew))
  case h_7 hclient => exact .inr (.finish hclient)

/-- **What a quiet step can do.** -/
theorem step_cases (s : BackgroundRead) {event : ReadEvent} (h : event.Quiet) :
    s.step event = s ∨ Moves s (s.step event) := by
  rcases event with fetched | _ | _ | _ | _
  · exact s.threadStep_cases fetched
  · exact s.clientStep_cases
  · rw [step.eq_def]
    dsimp only
    split_ifs with hclient
    · exact .inr (.timeout hclient)
    · exact .inl rfl
  · exact h.elim
  · exact h.elim

/-- A property that the parties keep, and that no disturbance breaks. -/
theorem keeps_of_moves {J : BackgroundRead → Prop} (hmoves : ∀ s s', J s → Moves s s' → J s')
    (hdisturbed : ∀ s s', J s → Disturbed s s' → J s') (s : BackgroundRead) (event : ReadEvent)
    (h : J s) : J (s.step event) := by
  have hnotify : ∀ s : BackgroundRead, J s → J s.notifyOne := by
    intro s h
    rw [notifyOne]
    split_ifs with hclient
    · exact hdisturbed _ _ h (.wakeup hclient)
    · exact h
  by_cases hquiet : event.Quiet
  · rcases s.step_cases hquiet with heq | hstep
    · rwa [heq]
    · exact hmoves _ _ h hstep
  · rcases event with _ | _ | _ | _ | _
    case spuriousWakeup => exact hnotify s h
    case stop => exact hnotify _ (hdisturbed _ _ h .stop)
    all_goals exact absurd trivial hquiet

/-! ## Packages are in order

The numbers of packages only go up on their way: from the one that was received last over the two
buffers to the package of the caller, and from there to the answers (`Ordered`). So a package that
comes in was not returned before.

How often it is copied is bounded by what can still happen to it (`pending`): the flag is raised for
it once, and lowered by the copy; a copy that began before the flag was raised is the other one. -/

/-- What is in the package of the caller behind the successes. -/
def contents (answers : List Answer) : List ℕ :=
  answers.filterMap fun
    | .refused | .timeout => none
    | .unchanged n | .package n => some n

/-- How often the package in the buffer can still be copied. -/
def pending (s : BackgroundRead) : ℕ :=
  (if s.thread = .swapped then 1 else 0) +
    if s.client = .checked ∨ s.client = .copied ∨ s.newData = true then 1 else 0

/-- The numbers go up on their way from the thread to the caller. -/
structure Ordered (s : BackgroundRead) : Prop where
  received : s.dataBuffer0 + (if s.thread = .fetched then 1 else 0) = s.received
  fetched : s.thread = .fetched → s.dataBuffer1 = s.received
  known : s.dataPackage ≤ s.dataBuffer0
  copied : s.client = .copied → s.dataPackage = s.dataBuffer0
  whole : s.newData = true ∨ s.client = .checked ∨ s.client = .copied ∨ s.thread = .swapped ∨
    s.thread = .published → 1 ≤ s.dataBuffer0

/-- Only a swap and a copy move packages on. -/
theorem Ordered.moves {s s' : BackgroundRead} (h : Ordered s) (hmoves : Moves s s') :
    Ordered s' := by
  obtain ⟨hreceived, hfetched, hknown, hcopied, hwhole⟩ := h
  rcases hmoves
  case check =>
    rcases s.backgroundReadRunning <;> constructor <;> simp_all
  case swap hthread hclient =>
    simp only [hthread, if_true] at hreceived
    refine ⟨?_, nofun, ?_, fun h ↦ absurd h hclient, fun _ ↦ ?_⟩
    all_goals
      simp only [hfetched hthread, reduceCtorEq, if_false]
      omega
  case copy hclient =>
    refine ⟨hreceived, hfetched, le_rfl, fun _ ↦ rfl, fun _ ↦ hwhole ?_⟩
    rcases hclient with hchecked | ⟨-, hnew⟩
    · exact .inr (.inl hchecked)
    · exact .inl hnew
  all_goals constructor <;> simp_all

theorem Ordered.disturbed {s s' : BackgroundRead} (h : Ordered s) (hdisturbed : Disturbed s s') :
    Ordered s' := by
  obtain ⟨hreceived, hfetched, hknown, hcopied, hwhole⟩ := h
  rcases hdisturbed <;> constructor <;> simp_all

/-- The answers go up, and the package in the buffer is not copied too often. -/
structure InOrder (s : BackgroundRead) : Prop extends Ordered s where
  answered : ∀ n ∈ contents s.answers, n ≤ s.dataPackage
  sorted : (contents s.answers).Pairwise (· ≤ ·)
  positive : ∀ n, .package n ∈ s.answers → 1 ≤ n
  twice : ∀ n, s.answers.count (.package n) ≤ 2
  newest : s.answers.count (.package s.dataBuffer0) + s.pending ≤ 2

theorem contents_append (answers others : List Answer) :
    contents (answers ++ others) = contents answers ++ contents others := List.filterMap_append

/-- What is copied is in the package of the caller. -/
theorem mem_contents {answers : List Answer} {n : ℕ} (h : .package n ∈ answers) :
    n ∈ contents answers := List.mem_filterMap.mpr ⟨_, h, rfl⟩

/-- What the caller has not got was not returned. -/
theorem InOrder.count_eq_zero {s : BackgroundRead} (h : InOrder s) {n : ℕ}
    (hn : s.dataPackage < n) : s.answers.count (.package n) = 0 :=
  List.count_eq_zero.mpr fun hmem ↦ hn.not_ge (h.answered n (mem_contents hmem))

/-- Another answer has what is in the package of the caller. -/
theorem InOrder.append {s : BackgroundRead} (h : InOrder s) {a : Answer}
    (ha : ∀ n ∈ contents [a], n = s.dataPackage) :
    (∀ n ∈ contents (s.answers ++ [a]), n ≤ s.dataPackage) ∧
      (contents (s.answers ++ [a])).Pairwise (· ≤ ·) := by
  rw [contents_append]
  constructor
  · intro n hn
    rcases List.mem_append.mp hn with hn | hn
    · exact h.answered n hn
    · exact (ha n hn).le
  · refine List.pairwise_append.mpr ⟨h.sorted, ?_, fun n hn m hm ↦ ?_⟩
    · rcases a <;> simp [contents]
    · exact (h.answered n hn).trans (ha m hm).ge

/-- The order is kept by every move. -/
theorem InOrder.moves {s s' : BackgroundRead} (h : InOrder s) (hmoves : Moves s s') :
    InOrder s' := by
  have hordered := h.toOrdered.moves hmoves
  have hnewest := h.newest
  rw [pending] at hnewest
  rcases hmoves
  case check hthread =>
    refine ⟨hordered, h.answered, h.sorted, h.positive, h.twice, ?_⟩
    rw [hthread] at hnewest
    rw [pending]
    rcases s.backgroundReadRunning <;> exact hnewest
  case swap hthread hclient =>
    -- the package that comes into the buffer is new
    have hzero := h.count_eq_zero (n := s.dataBuffer1) (by
      have hreceived := h.received
      have hknown := h.known
      rw [h.fetched hthread, ← hreceived, if_pos hthread]
      omega)
    refine ⟨hordered, h.answered, h.sorted, h.positive, h.twice, ?_⟩
    rw [pending, hzero]
    split_ifs <;> omega
  case store hthread =>
    refine ⟨hordered, h.answered, h.sorted, h.positive, h.twice, ?_⟩
    rw [if_pos hthread] at hnewest
    simp only [pending, reduceCtorEq, if_false, or_true, if_true]
    omega
  case leave hthread =>
    -- the flag is lowered at the end, and fewer copies are pending
    refine ⟨hordered, h.answered, h.sorted, h.positive, h.twice, ?_⟩
    simp only [hthread, reduceCtorEq, if_false] at hnewest
    simp only [pending, reduceCtorEq, if_false, or_false]
    split_ifs at hnewest ⊢ <;> grind
  case copy hclient =>
    refine ⟨hordered, fun n hn ↦ (h.answered n hn).trans h.known, h.sorted, h.positive, h.twice, ?_⟩
    rw [pending]
    rcases hclient with hclient | ⟨-, hnew⟩
    · simpa [hclient] using hnewest
    · simpa [hnew] using hnewest
  case finish hclient =>
    -- one copy less is pending, and one more was returned
    have hcopied := h.copied hclient
    simp only [hclient, reduceCtorEq, false_or, true_or, if_true] at hnewest
    obtain ⟨hanswered, hsorted⟩ := h.append (a := .package s.dataPackage) (by simp [contents])
    refine ⟨hordered, hanswered, hsorted, fun n hn ↦ ?_, fun n ↦ ?_, ?_⟩
    · rcases List.mem_append.mp hn with hn | hn
      · exact h.positive n hn
      · rw [Answer.package.inj (List.mem_singleton.mp hn), hcopied]
        exact h.whole (.inr (.inr (.inl hclient)))
    · have htwice := h.twice n
      rw [List.count_append, hcopied]
      by_cases hn : n = s.dataBuffer0
      · rw [hn, List.count_singleton_self]
        omega
      · rw [List.count_singleton, if_neg (by simpa using Ne.symm hn)]
        exact htwice
    · rw [List.count_append, hcopied, List.count_singleton_self]
      simp only [pending, reduceCtorEq, Bool.false_eq_true, or_false, if_false]
      omega
  case unchanged hclient _ | refuse hclient | timeout hclient =>
    -- these answers are no copies
    refine ⟨hordered, (h.append (by simp [contents])).1, (h.append (by simp [contents])).2,
      ?_, ?_, ?_⟩
    · simpa using h.positive
    · simpa [List.count_append] using h.twice
    · simpa [List.count_append, pending, hclient] using hnewest
  all_goals
    refine ⟨hordered, h.answered, h.sorted, h.positive, h.twice, ?_⟩
    rw [pending]
    simp_all

theorem InOrder.disturbed {s s' : BackgroundRead} (h : InOrder s) (hdisturbed : Disturbed s s') :
    InOrder s' := by
  have hordered := h.toOrdered.disturbed hdisturbed
  have hnewest := h.newest
  rw [pending] at hnewest
  rcases hdisturbed
  case wakeup hclient =>
    exact ⟨hordered, h.answered, h.sorted, h.positive, h.twice,
      by simpa [pending, hclient] using hnewest⟩
  case stop => exact ⟨hordered, h.answered, h.sorted, h.positive, h.twice, hnewest⟩

theorem inOrder_start : InOrder start := by
  refine ⟨⟨rfl, nofun, le_rfl, nofun, ?_⟩, nofun, .nil, nofun, fun _ ↦ Nat.zero_le 2, ?_⟩
  · simp [start]
  · simp [start, pending]

/-- In every interleaving, the packages that are returned are whole and in order, and none of them
is copied more than twice. -/
theorem packages_in_order (events : List ReadEvent) :
    (contents (run step start events).answers).Pairwise (· ≤ ·) ∧
      ∀ n, (run step start events).answers.count (.package n) ≤ 2 ∧
        (.package n ∈ (run step start events).answers → 1 ≤ n ∧
          n ≤ (run step start events).received) := by
  have h : InOrder (run step start events) := run_invariant (P := fun _ _ ↦ True)
    (fun s event h _ ↦ keeps_of_moves (fun _ _ ↦ InOrder.moves) (fun _ _ ↦ InOrder.disturbed)
      s event h)
    inOrder_start (Throughout.of_forall fun _ _ _ ↦ trivial)
  refine ⟨h.sorted, fun n ↦ ⟨h.twice n, fun hmem ↦ ⟨h.positive n hmem, ?_⟩⟩⟩
  have hanswered := h.answered n (mem_contents hmem)
  have hreceived := h.received
  have hknown := h.known
  omega

/-! ## Nothing is missed

Without spurious wakeups and stops, a caller that finds the flag lowered has the newest package,
unless the thread has just swapped and comes to raise the flag (`UpToDate.missed`). A caller that is
notified and finds the flag lowered is one that copied the package before its notification was sent;
it is sent once for each package, so this happens once for each package. -/

/-- Once the thread has raised its flag, the caller has the newest package or finds the flag raised.
Every notification is for a package that was not returned yet without being copied. -/
structure UpToDate (s : BackgroundRead) : Prop extends InOrder s where
  running : s.backgroundReadRunning = true
  thread : s.thread ≠ .leaving ∧ s.thread ≠ .ended
  missed : s.newData = false → s.thread ≠ .swapped → s.client ≠ .copied →
    s.dataPackage = s.dataBuffer0
  once : ∀ n, s.answers.count (.unchanged n) ≤ 1
  unnotified : s.thread = .swapped ∨ s.thread = .published →
    s.answers.count (.unchanged s.dataBuffer0) = 0
  notified : s.client = .notified → s.newData = false →
    1 ≤ s.dataPackage ∧ s.answers.count (.unchanged s.dataPackage) = 0 ∧ s.thread ≠ .published ∧
      (s.thread = .swapped → s.dataPackage < s.dataBuffer0)
  unchanged : ∀ n, .unchanged n ∈ s.answers → 1 ≤ n

/-- What the caller has not got was not returned without being copied either. -/
theorem InOrder.count_unchanged_eq_zero {s : BackgroundRead} (h : InOrder s) {n : ℕ}
    (hn : s.dataPackage < n) : s.answers.count (.unchanged n) = 0 :=
  List.count_eq_zero.mpr fun hmem ↦
    hn.not_ge (h.answered n (List.mem_filterMap.mpr ⟨_, hmem, rfl⟩))

/-- This is kept by every move as well. -/
theorem UpToDate.moves {s s' : BackgroundRead} (h : UpToDate s) (hmoves : Moves s s') :
    UpToDate s' := by
  have hinOrder := h.toInOrder.moves hmoves
  obtain ⟨hold, hrunning, hthread', hmissed, honce, hunnotified, hnotified, hunchanged⟩ := h
  rcases hmoves
  case check hthread =>
    rw [hrunning, if_pos rfl] at hinOrder ⊢
    refine ⟨hinOrder, rfl, by simp, fun hnew _ ↦ hmissed hnew (by simp [hthread]), honce, by simp,
      fun hclient hnew ↦ ?_, hunchanged⟩
    obtain ⟨hpos, hcount, -⟩ := hnotified hclient hnew
    exact ⟨hpos, hcount, by simp, by simp⟩
  case fetch hthread | fail hthread =>
    refine ⟨hinOrder, hrunning, by simp, fun hnew _ ↦ hmissed hnew (by simp [hthread]),
      honce, by simp, fun hclient hnew ↦ ?_, hunchanged⟩
    obtain ⟨hpos, hcount, -⟩ := hnotified hclient hnew
    exact ⟨hpos, hcount, by simp, by simp⟩
  case swap hthread hclient =>
    have hlt : s.dataPackage < s.dataBuffer1 := by
      have hreceived := hold.received
      have hknown := hold.known
      rw [hold.fetched hthread, ← hreceived, if_pos hthread]
      omega
    refine ⟨hinOrder, hrunning, by simp, by simp, honce, fun _ ↦ hold.count_unchanged_eq_zero hlt,
      fun hclient hnew ↦ ?_, hunchanged⟩
    obtain ⟨hpos, hcount, -⟩ := hnotified hclient hnew
    exact ⟨hpos, hcount, by simp, fun _ ↦ hlt⟩
  case store hthread =>
    exact ⟨hinOrder, hrunning, by simp, by simp, honce, fun _ ↦ hunnotified (.inl hthread), by simp,
      hunchanged⟩
  case notify hthread hclient =>
    have hdataPackage : s.newData = false → s.dataPackage = s.dataBuffer0 := fun hnew ↦
      hmissed hnew (by simp [hthread]) (by simp [hclient])
    refine ⟨hinOrder, hrunning, by simp, fun hnew _ _ ↦ hdataPackage hnew, honce, by simp,
      fun _ hnew ↦ ?_, hunchanged⟩
    -- the flag was lowered again, so the package of this notification was copied
    rw [hdataPackage hnew]
    exact ⟨hold.whole (by simp [hthread]), hunnotified (.inr hthread), by simp, by simp⟩
  case miss hthread hclient =>
    -- nobody waits, and so nobody was notified of this package
    refine ⟨hinOrder, hrunning, by simp, fun hnew _ ↦ hmissed hnew (by simp [hthread]),
      honce, by simp, fun hclient hnew ↦ ?_, hunchanged⟩
    exact absurd hthread (hnotified hclient hnew).2.2.1
  case leave hthread => exact absurd hthread hthread'.1
  case copy =>
    exact ⟨hinOrder, hrunning, hthread', by simp, honce, hunnotified, by simp, hunchanged⟩
  case unchanged hclient hnew =>
    -- the caller has the package, and it was not returned so before
    obtain ⟨hpos, hcount, hpublished, hlt⟩ := hnotified hclient hnew
    refine ⟨hinOrder, hrunning, hthread', fun hnew hswapped _ ↦ hmissed hnew hswapped
      (by simp [hclient]), fun n ↦ ?_, fun hthread ↦ ?_, by simp, fun n hn ↦ ?_⟩
    · have hn := honce n
      rw [List.count_append, List.count_singleton]
      split_ifs with heq
      · rw [← Answer.unchanged.inj (beq_iff_eq.mp heq), hcount]
      · exact hn
    · have hswapped := hthread.resolve_right hpublished
      rw [List.count_append, List.count_singleton, if_neg, hunnotified hthread]
      rw [beq_iff_eq, Answer.unchanged.injEq]
      exact (hlt hswapped).ne
    · rcases List.mem_append.mp hn with hn | hn
      · exact hunchanged n hn
      · rw [Answer.unchanged.inj (List.mem_singleton.mp hn)]
        exact hpos
  case finish hclient =>
    refine ⟨hinOrder, hrunning, hthread', fun _ _ _ ↦ hold.copied hclient, ?_, ?_, by simp, ?_⟩
    · simpa [List.count_append] using honce
    · simpa [List.count_append] using hunnotified
    · simpa using hunchanged
  case refuse hclient | timeout hclient =>
    refine ⟨hinOrder, hrunning, hthread', by simpa [hclient] using hmissed, ?_, ?_, ?_, ?_⟩
    · simpa [List.count_append] using honce
    · simpa [List.count_append] using hunnotified
    · simp [hclient]
    · simpa using hunchanged
  all_goals
    refine ⟨hinOrder, hrunning, hthread', by simp_all, honce, hunnotified, by simp, hunchanged⟩

theorem upToDate_start : UpToDate start :=
  ⟨inOrder_start, rfl, by simp [start], fun _ _ _ ↦ rfl, fun _ ↦ Nat.zero_le 1, by simp [start],
    by simp [start], nofun⟩

theorem UpToDate.step {s : BackgroundRead} (h : UpToDate s) {event : ReadEvent}
    (hquiet : event.Quiet) : UpToDate (s.step event) := by
  rcases s.step_cases hquiet with heq | hmoves
  · rwa [heq]
  · exact h.moves hmoves

theorem upToDate_run {events : List ReadEvent} (h : ∀ event ∈ events, event.Quiet) :
    UpToDate (run BackgroundRead.step start events) :=
  run_invariant (P := fun _ event ↦ event.Quiet) (fun _ _ hs hquiet ↦ hs.step hquiet) upToDate_start
    (Throughout.of_forall fun _ event hevent ↦ h event hevent)

/-- A package is returned at most once without being copied, as long as nothing disturbs the
parties, and then the caller has it. -/
theorem unchanged_at_most_once {events : List ReadEvent} (h : ∀ event ∈ events, event.Quiet)
    (n : ℕ) :
    (run step start events).answers.count (.unchanged n) ≤ 1 ∧
      (.unchanged n ∈ (run step start events).answers → 1 ≤ n) :=
  ⟨(upToDate_run h).once n, (upToDate_run h).unchanged n⟩

/-- The notification comes when the package was copied, and the next call waits. -/
theorem unchanged_at_most_once_first :
    let fetch := List.replicate 4 (.thread .data)
    let events := fetch ++ List.replicate 7 .client ++ [.thread .data, .client]
    (run step start events).answers.count (.unchanged 1) ≤ 1 ∧
      (.unchanged 1 ∈ (run step start events).answers → 1 ≤ 1) :=
  unchanged_at_most_once (by simp [ReadEvent.Quiet, or_imp, forall_and]) 1

/-- The second package comes between the look at the flag and the copy, and is notified late. -/
example :
    let thread (k : ℕ) : List ReadEvent := List.replicate k (.thread .data)
    let client (k : ℕ) : List ReadEvent := List.replicate k .client
    contents (run step start (thread 4 ++ client 2 ++ thread 4 ++ client 2 ++ thread 1 ++
      client 7 ++ thread 1 ++ client 1)).answers = [2, 2, 2] := by decide +kernel

/-! ### The next call

A call that finds the flag raised goes through four phases, and neither the thread nor a timeout
takes it out of one: the thread does not lower the flag, puts only newer packages into the buffer,
and notifies nobody who does not wait. -/

end BackgroundRead

end VzletUr3e.Rtde
