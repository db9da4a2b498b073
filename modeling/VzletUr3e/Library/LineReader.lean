import Mathlib

/-!
# Reading lines from a stream

A reader takes one symbol at a time and keeps what has come since the last terminator. At a
terminator it hands the line to a handler and starts afresh. Symbols without a terminator only grow
the unfinished line, so whatever was left of an earlier line becomes the front of the next one
(`feed_line`).

What a stream does to the reader is read off its lines (`Split.feed_eq`).
-/

namespace LineReader

universe u v

/-- The unfinished line, and the state of the handler. -/
structure Reader (α : Type u) (σ : Type v) where
  pending : List α
  state : σ
deriving DecidableEq, Repr

variable {α : Type u} {σ : Type v} [DecidableEq α] (terminator : α) (handle : σ → List α → σ)

/-- One symbol. -/
def step (r : Reader α σ) (a : α) : Reader α σ :=
  if a = terminator then ⟨[], handle r.state r.pending⟩ else { r with pending := r.pending ++ [a] }

/-- The symbols of a stream, one after the other. -/
def feed (r : Reader α σ) (l : List α) : Reader α σ := l.foldl (step terminator handle) r

variable {terminator handle} {r : Reader α σ} {l l' : List α}

@[simp] theorem feed_nil : feed terminator handle r [] = r := rfl

/-- Where a stream is cut does not matter. -/
theorem feed_append :
    feed terminator handle r (l ++ l') = feed terminator handle (feed terminator handle r l) l' :=
  List.foldl_append

/-- Without a terminator nothing is handed on. -/
theorem feed_of_notMem (h : terminator ∉ l) :
    feed terminator handle r l = { r with pending := r.pending ++ l } := by
  induction l generalizing r with
  | nil => simp
  | cons a l ih =>
    rw [List.mem_cons, not_or] at h
    obtain ⟨ha, hl⟩ := h
    change feed terminator handle (step terminator handle r a) l = _
    rw [step, if_neg (Ne.symm ha), ih hl]
    simp

/-- A line is handed on behind what was pending. -/
theorem feed_line (h : terminator ∉ l) :
    feed terminator handle r (l ++ [terminator]) = ⟨[], handle r.state (r.pending ++ l)⟩ := by
  rw [feed_append, feed_of_notMem h]
  change step terminator handle _ terminator = _
  rw [step, if_pos rfl]

/-! ## Lines -/

/-- The lines of a stream, each behind its terminator, and what comes behind the last one. -/
structure Split (terminator : α) (l : List α) (lines : List (List α)) (rest : List α) : Prop where
  eq : l = lines.flatMap (· ++ [terminator]) ++ rest
  lines_notMem : ∀ line ∈ lines, terminator ∉ line
  rest_notMem : terminator ∉ rest

/-- Every stream has its lines. -/
theorem exists_split (terminator : α) (l : List α) :
    ∃ lines rest, Split terminator l lines rest := by
  induction l with
  | nil => exact ⟨[], [], rfl, by simp, by simp⟩
  | cons a l ih =>
    obtain ⟨lines, rest, rfl, hlines, hrest⟩ := ih
    by_cases ha : a = terminator
    · refine ⟨[] :: lines, rest, by simp [ha], ?_, hrest⟩
      exact List.forall_mem_cons.mpr ⟨by simp, hlines⟩
    · rcases lines with _ | ⟨line, lines⟩
      · exact ⟨[], a :: rest, by simp, by simp, by simp [hrest, Ne.symm ha]⟩
      · obtain ⟨hline, hlines⟩ := List.forall_mem_cons.mp hlines
        refine ⟨(a :: line) :: lines, rest, by simp, ?_, hrest⟩
        exact List.forall_mem_cons.mpr ⟨by simp [hline, Ne.symm ha], hlines⟩

/-- **The lines are handed on** one after the other, and what comes behind them is pending. -/
theorem Split.feed_eq {lines : List (List α)} {rest : List α}
    (h : Split terminator l lines rest) (s : σ) :
    feed terminator handle ⟨[], s⟩ l = ⟨rest, lines.foldl handle s⟩ := by
  obtain ⟨rfl, hlines, hrest⟩ := h
  induction lines generalizing s with
  | nil => rw [List.flatMap_nil, List.nil_append, feed_of_notMem hrest, List.nil_append,
      List.foldl_nil]
  | cons line lines ih =>
    obtain ⟨hline, hlines⟩ := List.forall_mem_cons.mp hlines
    rw [List.flatMap_cons, List.append_assoc, feed_append, feed_line hline, List.nil_append,
      ih _ hlines, List.foldl_cons]

theorem notMem_pending (s : σ) : terminator ∉ (feed terminator handle ⟨[], s⟩ l).pending := by
  obtain ⟨lines, rest, h⟩ := exists_split terminator l
  rw [h.feed_eq]
  exact h.rest_notMem

/-- A stream can be taken up again from what is pending. -/
theorem feed_pending_append (s : σ) :
    feed terminator handle ⟨[], (feed terminator handle ⟨[], s⟩ l).state⟩
        ((feed terminator handle ⟨[], s⟩ l).pending ++ l')
      = feed terminator handle ⟨[], s⟩ (l ++ l') := by
  rw [feed_append, feed_append, feed_of_notMem (notMem_pending s), List.nil_append]

omit [DecidableEq α] in
/-- A handler that some lines set and others leave alone ends with the last of those that set it. -/
theorem foldl_getD_eq (f : List α → Option σ) (lines : List (List α)) (s : σ) :
    lines.foldl (fun s line ↦ (f line).getD s) s = (lines.reverse.findSome? f).getD s := by
  induction lines generalizing s with
  | nil => rfl
  | cons line lines ih =>
    rw [List.foldl_cons, ih, List.reverse_cons, List.findSome?_append]
    rcases lines.reverse.findSome? f with _ | a
    · rw [List.findSome?_singleton]
      rfl
    · rfl

end LineReader
