import Mathlib
import VzletUr3e.Library.StateError

/-!
# Commands until the first failure

A script issues its commands one after the other and stops behind the first one that fails. What
comes of the command with number `n` is up to the environment, which is asked by that number. The
trace is kept with the newest command first.
-/

namespace Script

universe u

variable {γ : Type u}

/-- The trace behind the commands. -/
def play (ok : ℕ → Bool) : List γ → List (γ × Bool) → List (γ × Bool)
  | [], trace => trace
  | c :: commands, trace =>
    if ok trace.length then play ok commands ((c, true) :: trace) else (c, false) :: trace

/-- All commands succeed when the first one has the number `n`. -/
def Completes (ok : ℕ → Bool) : ℕ → List γ → Prop
  | _, [] => True
  | n, _ :: commands => ok n = true ∧ Completes ok (n + 1) commands

/-- The command `c` is the first one that fails. -/
def FailsAt (ok : ℕ → Bool) (n : ℕ) (commands : List γ) (c : γ) : Prop :=
  ∃ before behind, commands = before ++ c :: behind ∧ Completes ok n before ∧
    ok (n + before.length) = false

variable {ok : ℕ → Bool} {n : ℕ} {commands : List γ}

theorem completes_cons {c : γ} :
    Completes ok n (c :: commands) ↔ ok n = true ∧ Completes ok (n + 1) commands := Iff.rfl

theorem completes_append {more : List γ} : Completes ok n (commands ++ more) ↔
    Completes ok n commands ∧ Completes ok (n + commands.length) more := by
  induction commands generalizing n with
  | nil => exact ⟨fun h ↦ ⟨trivial, h⟩, fun h ↦ h.2⟩
  | cons c commands ih =>
    rw [List.cons_append, completes_cons, completes_cons, ih, List.length_cons, and_assoc,
      Nat.add_right_comm n 1, Nat.add_assoc n]

theorem completes_of_forall (h : ∀ k, ok k = true) : Completes ok n commands := by
  induction commands generalizing n with
  | nil => trivial
  | cons c commands ih => exact ⟨h n, ih⟩

/-- A command that succeeds puts off the failure. -/
theorem FailsAt.cons {c d : γ} (h : FailsAt ok (n + 1) commands d) (hok : ok n = true) :
    FailsAt ok n (c :: commands) d := by
  obtain ⟨before, behind, rfl, hbefore, hfail⟩ := h
  refine ⟨c :: before, behind, rfl, ⟨hok, hbefore⟩, ?_⟩
  rwa [List.length_cons, Nat.add_comm before.length, ← Nat.add_assoc]

theorem failsAt_cons_iff {c d : γ} : FailsAt ok n (c :: commands) d ↔
    d = c ∧ ok n = false ∨ ok n = true ∧ FailsAt ok (n + 1) commands d := by
  constructor
  · rintro ⟨before, behind, heq, hbefore, hfail⟩
    rcases before with _ | ⟨b, before⟩
    · cases heq
      exact .inl ⟨rfl, hfail⟩
    · cases heq
      refine .inr ⟨hbefore.1, before, behind, rfl, hbefore.2, ?_⟩
      rwa [List.length_cons, Nat.add_comm before.length, ← Nat.add_assoc] at hfail
  · rintro (⟨rfl, hfail⟩ | ⟨hok, h⟩)
    · exact ⟨[], commands, rfl, trivial, hfail⟩
    · exact h.cons hok

/-- A script that fails is not completed. -/
theorem FailsAt.not_completes {c : γ} (h : FailsAt ok n commands c) :
    ¬Completes ok n commands := by
  obtain ⟨before, behind, rfl, -, hfail⟩ := h
  intro hall
  have hok := (completes_append.mp hall).2.1
  rw [hfail] at hok
  cases hok

/-- A script that completes leaves all its commands on the trace. -/
theorem play_of_completes {trace : List (γ × Bool)} (h : Completes ok trace.length commands) :
    play ok commands trace = (commands.map (·, true)).reverse ++ trace := by
  induction commands generalizing trace with
  | nil => rfl
  | cons c commands ih =>
    obtain ⟨hok, hrest⟩ := h
    rw [play, if_pos hok, @ih ((c, true) :: trace) hrest, List.map_cons,
      List.reverse_cons, List.append_assoc]
    rfl

/-- What comes behind a script that completes is played behind it. -/
theorem play_append_of_completes {more : List γ} {trace : List (γ × Bool)}
    (h : Completes ok trace.length commands) :
    play ok (commands ++ more) trace = play ok more (play ok commands trace) := by
  induction commands generalizing trace with
  | nil => rfl
  | cons c commands ih =>
    obtain ⟨hok, hrest⟩ := h
    rw [List.cons_append, play, if_pos hok, play, if_pos hok, @ih ((c, true) :: trace) hrest]

/-- What comes behind a script that fails is not played. -/
theorem play_append_of_failsAt {more : List γ} {trace : List (γ × Bool)} {c : γ}
    (h : FailsAt ok trace.length commands c) :
    play ok (commands ++ more) trace = play ok commands trace := by
  obtain ⟨before, behind, rfl, hbefore, hfail⟩ := h
  have hlength : (play ok before trace).length = trace.length + before.length := by
    rw [play_of_completes hbefore]
    simp [Nat.add_comm]
  rw [List.append_assoc, play_append_of_completes hbefore, play_append_of_completes hbefore,
    List.cons_append, play, if_neg (by rw [hlength, hfail]; simp), play,
    if_neg (by rw [hlength, hfail]; simp)]

/-! ## What a script guarantees -/

theorem length_play_of_completes {trace : List (γ × Bool)}
    (h : Completes ok trace.length commands) :
    (play ok commands trace).length = trace.length + commands.length := by
  rw [play_of_completes h, List.length_append, List.length_reverse, List.length_map, Nat.add_comm]

theorem failsAt_append_iff {more : List γ} {c : γ} : FailsAt ok n (commands ++ more) c ↔
    FailsAt ok n commands c ∨
      Completes ok n commands ∧ FailsAt ok (n + commands.length) more c := by
  induction commands generalizing n with
  | nil =>
    refine ⟨fun h ↦ .inr ⟨trivial, h⟩, ?_⟩
    rintro (⟨before, behind, hnil, -⟩ | ⟨-, h⟩)
    · simp at hnil
    · exact h
  | cons d commands ih =>
    rw [List.cons_append, failsAt_cons_iff, failsAt_cons_iff, ih, completes_cons, List.length_cons,
      Nat.add_right_comm n 1, Nat.add_assoc n]
    tauto

/-- Only one command is the first that fails. -/
theorem FailsAt.unique {c d : γ} (h : FailsAt ok n commands c) (h' : FailsAt ok n commands d) :
    c = d := by
  induction commands generalizing n with
  | nil =>
    obtain ⟨before, behind, hnil, -⟩ := h
    simp at hnil
  | cons e commands ih =>
    rcases failsAt_cons_iff.mp h with ⟨rfl, hfail⟩ | ⟨hok, h⟩
    · rcases failsAt_cons_iff.mp h' with ⟨rfl, -⟩ | ⟨hok, -⟩
      · rfl
      · rw [hfail] at hok
        cases hok
    · rcases failsAt_cons_iff.mp h' with ⟨rfl, hfail⟩ | ⟨-, h'⟩
      · rw [hfail] at hok
        cases hok
      · exact ih h h'

/-- From a trace of `P` a script that completes leads to one of `Q`, and one that fails at a command
leads to one of `E` for it. -/
def Plays (ok : ℕ → Bool) (P : List (γ × Bool) → Prop) (commands : List γ)
    (Q : List (γ × Bool) → Prop) (E : γ → List (γ × Bool) → Prop) : Prop :=
  ∀ trace, P trace → (Completes ok trace.length commands → Q (play ok commands trace)) ∧
    ∀ c, FailsAt ok trace.length commands c → E c (play ok commands trace)

variable {P Q R : List (γ × Bool) → Prop} {E : γ → List (γ × Bool) → Prop}

theorem plays_nil : Plays ok P [] P E := by
  refine fun trace hP ↦ ⟨fun _ ↦ hP, ?_⟩
  rintro c ⟨before, behind, hnil, -⟩
  simp at hnil

theorem Plays.mono {P' Q' : List (γ × Bool) → Prop} (h : Plays ok P commands Q E)
    (hP : ∀ trace, P' trace → P trace) (hQ : ∀ trace, Q trace → Q' trace) :
    Plays ok P' commands Q' E :=
  fun trace hpre ↦ ⟨fun hall ↦ hQ _ ((h trace (hP trace hpre)).1 hall),
    (h trace (hP trace hpre)).2⟩

/-- **One after the other.** -/
theorem Plays.append {more : List γ} (h : Plays ok P commands Q E) (h' : Plays ok Q more R E) :
    Plays ok P (commands ++ more) R E := by
  intro trace hP
  obtain ⟨hall, hfail⟩ := h trace hP
  constructor
  · intro hcompletes
    obtain ⟨hfirst, hsecond⟩ := completes_append.mp hcompletes
    rw [play_append_of_completes hfirst]
    refine (h' _ (hall hfirst)).1 ?_
    rwa [length_play_of_completes hfirst]
  · intro c hc
    rcases failsAt_append_iff.mp hc with hfirst | ⟨hfirst, hsecond⟩
    · rw [play_append_of_failsAt hfirst]
      exact hfail c hfirst
    · rw [play_append_of_completes hfirst]
      refine (h' _ (hall hfirst)).2 c ?_
      rwa [length_play_of_completes hfirst]

theorem plays_singleton {c : γ} (hok : ∀ trace, P trace → Q ((c, true) :: trace))
    (hfail : ∀ trace, P trace → E c ((c, false) :: trace)) : Plays ok P [c] Q E := by
  refine fun trace hP ↦ ⟨fun hcompletes ↦ ?_, fun d hd ↦ ?_⟩
  · rw [play, if_pos hcompletes.1]
    exact hok trace hP
  · rcases failsAt_cons_iff.mp hd with ⟨rfl, hnot⟩ | ⟨-, before, behind, hnil, -⟩
    · rw [play, if_neg (by rw [hnot]; simp)]
      exact hfail trace hP
    · simp at hnil

/-- Commands each of which keeps `P`. -/
theorem plays_of_forall (hok : ∀ c ∈ commands, ∀ trace, P trace → P ((c, true) :: trace))
    (hfail : ∀ c ∈ commands, ∀ trace, P trace → E c ((c, false) :: trace)) :
    Plays ok P commands P E := by
  induction commands with
  | nil => exact plays_nil
  | cons c commands ih =>
    obtain ⟨hc, hcommands⟩ := List.forall_mem_cons.mp hok
    obtain ⟨hc', hcommands'⟩ := List.forall_mem_cons.mp hfail
    exact (plays_singleton hc hc').append (ih hcommands hcommands')

/-! ## What the trace shows -/

/-- Only the newest command can have failed. -/
theorem forall_mem_tail_play {trace : List (γ × Bool)} (h : ∀ e ∈ trace, e.2 = true) :
    ∀ e ∈ (play ok commands trace).tail, e.2 = true := by
  induction commands generalizing trace with
  | nil => exact fun e he ↦ h e (List.mem_of_mem_tail he)
  | cons c commands ih =>
    rw [play]
    split
    · exact ih (List.forall_mem_cons.mpr ⟨rfl, h⟩)
    · exact h

/-- A script completes when the trace shows no failure. -/
theorem forall_mem_play_iff {trace : List (γ × Bool)} (h : ∀ e ∈ trace, e.2 = true) :
    (∀ e ∈ play ok commands trace, e.2 = true) ↔ Completes ok trace.length commands := by
  induction commands generalizing trace with
  | nil => exact ⟨fun _ ↦ trivial, fun _ ↦ h⟩
  | cons c commands ih =>
    rw [play, completes_cons]
    split
    · rename_i hok
      rw [ih (List.forall_mem_cons.mpr ⟨rfl, h⟩), List.length_cons]
      exact ⟨fun hrest ↦ ⟨hok, hrest⟩, fun hall ↦ hall.2⟩
    · rename_i hnot
      exact ⟨fun hall ↦ absurd (List.forall_mem_cons.mp hall).1 Bool.false_ne_true,
        fun hall ↦ absurd hall.1 hnot⟩

/-- The trace shows a beginning of the script. -/
theorem map_fst_play_suffix (ok : ℕ → Bool) (commands : List γ) (trace : List (γ × Bool)) :
    (play ok commands trace).map Prod.fst <:+ commands.reverse ++ trace.map Prod.fst := by
  induction commands generalizing trace with
  | nil => exact List.suffix_refl _
  | cons c commands ih =>
    rw [play, List.reverse_cons, List.append_assoc]
    split
    · exact ih ((c, true) :: trace)
    · exact List.suffix_append _ _

theorem exists_failsAt_of_not_completes (h : ¬Completes ok n commands) :
    ∃ c, FailsAt ok n commands c := by
  induction commands generalizing n with
  | nil => exact absurd trivial h
  | cons c commands ih =>
    cases hok : ok n with
    | false => exact ⟨c, failsAt_cons_iff.mpr (.inl ⟨rfl, hok⟩)⟩
    | true =>
      obtain ⟨d, hd⟩ := ih fun hrest ↦ h ⟨hok, hrest⟩
      exact ⟨d, hd.cons hok⟩

/-! ## Code that plays a script -/

section Performs

variable {ε δ : Type} {x y : EStateM ε (List (δ × Bool)) Bool} {first second : List δ}

/-- One command, whose end is put on the trace and returned. -/
def perform (ok : ℕ → Bool) (c : δ) : EStateM ε (List (δ × Bool)) Bool := fun trace ↦
  .ok (ok trace.length) ((c, ok trace.length) :: trace)

/-- The code raises nothing, plays the script, and returns whether it completes. -/
def Performs (ok : ℕ → Bool) (x : EStateM ε (List (δ × Bool)) Bool) (commands : List δ) : Prop :=
  ∀ trace, ∃ b, x trace = .ok b (play ok commands trace) ∧
    (b = true ↔ Completes ok trace.length commands)

theorem performs_nil : Performs ok (pure true : EStateM ε (List (δ × Bool)) Bool) [] :=
  fun _ ↦ ⟨true, rfl, fun _ ↦ trivial, fun _ ↦ rfl⟩

theorem performs_perform (c : δ) :
    Performs ok (perform ok c : EStateM ε (List (δ × Bool)) Bool) [c] := by
  refine fun trace ↦ ⟨ok trace.length, ?_, fun hok ↦ ⟨hok, trivial⟩, fun hall ↦ hall.1⟩
  rw [perform, play]
  cases ok trace.length <;> rfl

/-- **Going on only when all went well.** -/
theorem Performs.guard (hx : Performs ok x first) (hy : Performs ok y second) :
    Performs ok (x >>= fun done ↦ if ¬done = true then pure false else y) (first ++ second) := by
  intro trace
  obtain ⟨b, hrun, hb⟩ := hx trace
  rw [StateError.bind_of_ok hrun]
  cases b with
  | false =>
    have hnot : ¬Completes ok trace.length first := fun hall ↦ Bool.false_ne_true (hb.mpr hall)
    obtain ⟨c, hfail⟩ := exists_failsAt_of_not_completes hnot
    rw [play_append_of_failsAt hfail]
    exact ⟨false, rfl, fun h ↦ absurd h Bool.false_ne_true,
      fun hall ↦ absurd (completes_append.mp hall).1 hnot⟩
  | true =>
    have hall := hb.mp rfl
    obtain ⟨b', hrun', hb'⟩ := hy (play ok first trace)
    rw [length_play_of_completes hall] at hb'
    rw [play_append_of_completes hall, completes_append]
    exact ⟨b', hrun', hb'.trans ⟨fun hrest ↦ ⟨hall, hrest⟩, fun h ↦ h.2⟩⟩

end Performs

end Script
