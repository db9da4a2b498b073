import Mathlib

/-!
# Monitors of traces

A trace is a list of events, the newest first. A monitor keeps a view of the trace and says which
events are allowed in which view. A trace is safe when each of its events was allowed when it came.
-/

universe u v

/-- What is kept of a trace, and the events that are allowed then. -/
structure Monitor (ε : Type u) (ν : Type v) where
  start : ν
  observe : ν → ε → ν
  Allowed : ν → ε → Prop

namespace Monitor

variable {ε : Type u} {ν : Type v} (m : Monitor ε ν)

/-- The view of a trace. -/
def view : List ε → ν
  | [] => m.start
  | e :: older => m.observe (view older) e

/-- Every event was allowed in the view of the older ones. -/
def Safe : List ε → Prop
  | [] => True
  | e :: older => m.Allowed (view m older) e ∧ Safe older

variable {m}

@[simp] theorem view_cons (e : ε) (older : List ε) :
    m.view (e :: older) = m.observe (m.view older) e := rfl

@[simp] theorem safe_nil : m.Safe [] := trivial

theorem safe_cons {e : ε} {older : List ε} :
    m.Safe (e :: older) ↔ m.Allowed (m.view older) e ∧ m.Safe older := Iff.rfl

/-- What has happened so far of a safe trace is safe. -/
theorem Safe.suffix {trace older : List ε} (h : m.Safe trace) (hmem : older <:+ trace) :
    m.Safe older := by
  obtain ⟨newer, rfl⟩ := hmem
  induction newer with
  | nil => exact h
  | cons e newer ih => exact ih h.2

/-- **Safe traces.** Whenever an event came, it was allowed. -/
theorem Safe.allowed {trace : List ε} (h : m.Safe trace) {e : ε} {older : List ε}
    (hmem : e :: older <:+ trace) : m.Allowed (m.view older) e :=
  (safe_cons.mp (h.suffix hmem)).1

end Monitor
