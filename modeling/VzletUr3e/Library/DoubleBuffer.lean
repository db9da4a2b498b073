import VzletUr3e.Library.Runs

/-!
# Double buffers

Requests are collected in one of two buffers, while a sender sends the other one. The sender swaps
the buffers as soon as there is something new, sends, and cleans up what it has sent, and requests
may come in between.

Whatever the interleaving, this is the same as collecting the requests in batches, one for each
swap of the buffers (`explained_cut`). A batch goes into what was left of the package before the
last one: what is cleaned up there is only ever sent for the batch it was requested in, and what is
not comes back from every second batch.
-/

namespace DoubleBuffer

open Runs

variable {σ ρ β : Type*}

/-! ## Buffers and their sender -/

/-- What the sender does next: wait for something new, send, or clean up. -/
inductive Pc
  | waiting
  | swapped
  | written
deriving DecidableEq, Repr

/-- Two buffers with their sender, and what was sent. -/
structure Buffers (σ : Type*) where
  store : σ
  send : σ
  newData : Bool
  pc : Pc
  sent : List σ

/-- A request, or a step of the sender. -/
inductive Event (ρ : Type*)
  | request (request : ρ)
  | sender

/-- The requests among the events. -/
def requests (events : List (Event ρ)) : List ρ :=
  events.filterMap fun
    | .request request => some request
    | .sender => none

/-! ## Where the swaps cut the requests -/

section Cut

variable {τ υ : Type*} (next : τ → Event ρ → τ) (swaps : τ → Bool)

/-- A state, with the requests up to each swap, and those since the last one. -/
structure Cut (τ ρ : Type*) where
  state : τ
  batches : List (List ρ)
  current : List ρ

/-- A step, and what it does to the cut. `swaps` tells of a state whether the sender swaps next. -/
def Cut.step (c : Cut τ ρ) : Event ρ → Cut τ ρ
  | .request request => ⟨next c.state (.request request), c.batches, c.current ++ [request]⟩
  | .sender =>
    if swaps c.state then ⟨next c.state .sender, c.batches ++ [c.current], []⟩
    else ⟨next c.state .sender, c.batches, c.current⟩

/-- The requests of a run, as the swaps cut them. -/
def cut (b : τ) (events : List (Event ρ)) : Cut τ ρ := run (Cut.step next swaps) ⟨b, [], []⟩ events

/-- Another view of the state. -/
def Cut.map (f : τ → υ) (c : Cut τ ρ) : Cut υ ρ := ⟨f c.state, c.batches, c.current⟩

theorem state_cut (b : τ) (events : List (Event ρ)) :
    (cut next swaps b events).state = run next b events := by
  refine (run_refines (J := fun _ ↦ True) (fun _ _ _ ↦ trivial) (fun c event _ ↦ ?_) trivial).1
  rcases event with request | _
  · rfl
  · rw [Cut.step]
    split_ifs <;> rfl

/-- No request is lost or put in another place. -/
theorem requests_cut (b : τ) (events : List (Event ρ)) :
    (cut next swaps b events).batches.flatten ++ (cut next swaps b events).current
      = requests events := by
  induction events using List.reverseRecOn with
  | nil => rfl
  | append_singleton events event ih =>
    rw [cut, run_append, run_cons, run_nil, ← cut, requests, List.filterMap_append, ← requests,
      ← ih]
    rcases event with request | _
    · exact (List.append_assoc _ _ _).symm
    · rw [Cut.step]
      split_ifs <;> simp

/-- A system that behaves like another one cuts the requests in the same places. -/
theorem cut_map {next : τ → Event ρ → τ} {swaps : τ → Bool} {next' : υ → Event ρ → υ}
    {swaps' : υ → Bool} {f : τ → υ} (hnext : ∀ b event, f (next b event) = next' (f b) event)
    (hswaps : ∀ b, swaps' (f b) = swaps b) (b : τ) (events : List (Event ρ)) :
    (cut next swaps b events).map f = cut next' swaps' (f b) events := by
  refine (run_refines (J := fun _ ↦ True) (fun _ _ _ ↦ trivial) (fun c event _ ↦ ?_) trivial).1
  rcases event with request | _
  · rw [Cut.step, Cut.step, Cut.map, hnext]
    rfl
  · simp only [Cut.step, Cut.map, hswaps, ← hnext]
    split_ifs <;> rfl

end Cut

/-! ## Steps -/

section Step

variable (apply : σ → ρ → σ × Bool) (reset : σ → σ)

/-- A request may be new or not, the sender sends what is new. -/
def step (b : Buffers σ) : Event ρ → Buffers σ
  | .request request =>
    { b with store := (apply b.store request).1, newData := b.newData || (apply b.store request).2 }
  | .sender =>
    match b.pc with
    | .waiting =>
      if b.newData then
        { b with store := b.send, send := b.store, newData := false, pc := .swapped }
      else b
    | .swapped => { b with pc := .written, sent := b.sent ++ [b.send] }
    | .written => { b with send := reset b.send, pc := .waiting }

/-- The sender swaps the buffers next. -/
def Buffers.swaps (b : Buffers σ) : Bool := b.pc = .waiting && b.newData

/-- Nothing is new, and nothing was sent. -/
def start (store send : σ) : Buffers σ := ⟨store, send, false, .waiting, []⟩

/-! ## Batches -/

/-- A batch of requests. -/
def applyAll (s : σ) (batch : List ρ) : σ := batch.foldl (fun s request ↦ (apply s request).1) s

/-- Whether a batch has something new. -/
def anyNew : σ → List ρ → Bool
  | _, [] => false
  | s, request :: batch => (apply s request).2 || anyNew (apply s request).1 batch

/-- The buffers between two batches, and what was sent. -/
structure Batches (σ : Type*) where
  store : σ
  send : σ
  sent : List σ

/-- One batch, from its first request to the clean-up. -/
def batchStep (b : Batches σ) (batch : List ρ) : Batches σ :=
  ⟨b.send, reset (applyAll apply b.store batch), b.sent ++ [applyAll apply b.store batch]⟩

/-- What batches leave behind two buffers. -/
def behind (s t : σ) (batches : List (List ρ)) : Batches σ :=
  run (batchStep apply reset) ⟨s, t, []⟩ batches

theorem behind_append_singleton (s t : σ) (batches : List (List ρ)) (batch : List ρ) :
    behind apply reset s t (batches ++ [batch])
      = batchStep apply reset (behind apply reset s t batches) batch :=
  run_append _ _ _

theorem applyAll_append (s : σ) (first second : List ρ) :
    applyAll apply s (first ++ second) = applyAll apply (applyAll apply s first) second :=
  List.foldl_append

theorem anyNew_append (s : σ) (first second : List ρ) :
    anyNew apply s (first ++ second)
      = (anyNew apply s first || anyNew apply (applyAll apply s first) second) := by
  induction first generalizing s with
  | nil => simp [anyNew, applyAll]
  | cons request first ih => rw [List.cons_append, anyNew, anyNew, ih, Bool.or_assoc]; rfl

end Step

variable {apply : σ → ρ → σ × Bool} {reset : σ → σ} {s t : σ}

/-- The buffers are what batches leave, and the requests that came in since then. -/
structure Explained (apply : σ → ρ → σ × Bool) (reset : σ → σ) (s t : σ)
    (batches : List (List ρ)) (current : List ρ) (b : Buffers σ) : Prop where
  store_eq : b.store = applyAll apply (behind apply reset s t batches).store current
  newData_eq : b.newData = anyNew apply (behind apply reset s t batches).store current
  send_eq : match b.pc with
    | .waiting => b.send = (behind apply reset s t batches).send
    | .swapped | .written => reset b.send = (behind apply reset s t batches).send
  sent_eq : match b.pc with
    | .waiting | .written => b.sent = (behind apply reset s t batches).sent
    | .swapped => b.sent ++ [b.send] = (behind apply reset s t batches).sent

theorem explained_start : Explained apply reset s t [] [] (start s t) := ⟨rfl, rfl, rfl, rfl⟩

/-- A request comes into the current batch. -/
theorem Explained.request {batches : List (List ρ)} {current : List ρ} {b : Buffers σ}
    (h : Explained apply reset s t batches current b) (request : ρ) :
    Explained apply reset s t batches (current ++ [request])
      (step apply reset b (.request request)) := by
  refine ⟨?_, ?_, h.send_eq, h.sent_eq⟩
  · rw [applyAll_append, ← h.store_eq]
    rfl
  · rw [anyNew_append, ← h.store_eq, ← h.newData_eq]
    simp [step, anyNew]

/-- The sender closes a batch when it swaps the buffers. -/
theorem Explained.swap {batches : List (List ρ)} {current : List ρ} {b : Buffers σ}
    (h : Explained apply reset s t batches current b) (hswaps : b.swaps = true) :
    Explained apply reset s t (batches ++ [current]) [] (step apply reset b .sender) := by
  obtain ⟨hstore, -, hsend, hsent⟩ := h
  obtain ⟨hpc, hnew⟩ := Bool.and_eq_true_iff.mp hswaps
  have hpc := of_decide_eq_true hpc
  rw [hpc] at hsend hsent
  rw [step.eq_def]
  simp only [hpc, hnew, if_true]
  refine ⟨?_, rfl, ?_, ?_⟩
  all_goals
    rw [behind_append_singleton]
    dsimp only [batchStep]
  · exact hsend
  · rw [hstore]
  · rw [hsent, hstore]

/-- Otherwise it goes on with the last one. -/
theorem Explained.sender {batches : List (List ρ)} {current : List ρ} {b : Buffers σ}
    (h : Explained apply reset s t batches current b) (hswaps : b.swaps = false) :
    Explained apply reset s t batches current (step apply reset b .sender) := by
  obtain ⟨store, send, newData, pc, sent⟩ := b
  obtain ⟨hstore, hnewData, hsend, hsent⟩ := h
  rcases pc
  case waiting =>
    obtain rfl : newData = false := by simpa [Buffers.swaps] using hswaps
    exact ⟨hstore, hnewData, hsend, hsent⟩
  all_goals exact ⟨hstore, hnewData, hsend, hsent⟩

/-- Every run is explained by the batches that its swaps cut. None of them is empty, since nothing
is new without a request. -/
theorem explained_cut (events : List (Event ρ)) :
    let c := cut (step apply reset) Buffers.swaps (start s t) events
    (∀ batch ∈ c.batches, batch ≠ []) ∧ Explained apply reset s t c.batches c.current c.state := by
  refine run_invariant (P := fun _ _ ↦ True) (J := fun c : Cut (Buffers σ) ρ ↦
    (∀ batch ∈ c.batches, batch ≠ []) ∧ Explained apply reset s t c.batches c.current c.state)
    (fun c event h _ ↦ ?_) ⟨fun _ h ↦ absurd h List.not_mem_nil, explained_start⟩
    (Throughout.of_forall fun _ _ _ ↦ trivial)
  obtain ⟨hnil, h⟩ := h
  rcases event with request | _
  · exact ⟨hnil, h.request request⟩
  · rw [Cut.step]
    split_ifs with hswaps
    · refine ⟨fun batch hbatch ↦ ?_, h.swap hswaps⟩
      rcases List.mem_append.mp hbatch with hbatch | hbatch
      · exact hnil batch hbatch
      · rw [List.mem_singleton.mp hbatch]
        rintro hcurrent
        have hnew := (Bool.and_eq_true_iff.mp hswaps).2
        rw [h.newData_eq, hcurrent] at hnew
        exact absurd hnew Bool.false_ne_true
    · exact ⟨hnil, h.sender (Bool.not_eq_true _ ▸ hswaps)⟩

theorem length_sent_behind (batches : List (List ρ)) :
    (behind apply reset s t batches).sent.length = batches.length := by
  induction batches using List.reverseRecOn with
  | nil => rfl
  | append_singleton batches batch ih =>
    rw [behind_append_singleton, batchStep, List.length_append, List.length_append, ih]
    rfl

/-! ## What is seen of a package -/

section Field

variable {value : σ → β} {assigned : ρ → Option β} {J : σ → Prop} {P : ρ → Prop}

/-- The last value that requests assign. -/
def lastAssigned (assigned : ρ → Option β) (batch : List ρ) : Option β :=
  (batch.filterMap assigned).getLast?

theorem lastAssigned_append (first second : List ρ) :
    lastAssigned assigned (first ++ second)
      = (lastAssigned assigned second).or (lastAssigned assigned first) := by
  rw [lastAssigned, List.filterMap_append, List.getLast?_append, lastAssigned, lastAssigned]

theorem getD_lastAssigned_append (first second : List ρ) (default : β) :
    (lastAssigned assigned (first ++ second)).getD default
      = (lastAssigned assigned second).getD ((lastAssigned assigned first).getD default) := by
  rw [lastAssigned_append]
  rcases lastAssigned assigned second <;> rfl

/-- The requests of `P` keep `J`, and leave a value or assign it. -/
structure Assigns (apply : σ → ρ → σ × Bool) (value : σ → β) (assigned : ρ → Option β)
    (J : σ → Prop) (P : ρ → Prop) : Prop where
  keep : ∀ s request, J s → P request → J (apply s request).1
  assign : ∀ s request, J s → P request →
    value (apply s request).1 = (assigned request).getD (value s)

theorem Assigns.applyAll (h : Assigns apply value assigned J P) {batch : List ρ}
    (hbatch : ∀ request ∈ batch, P request) (hs : J s) :
    value (applyAll apply s batch) = (lastAssigned assigned batch).getD (value s) ∧
      J (applyAll apply s batch) := by
  induction batch using List.reverseRecOn with
  | nil => exact ⟨rfl, hs⟩
  | append_singleton batch request ih =>
    obtain ⟨hvalue, hkept⟩ := ih fun request hrequest ↦ hbatch request
      (List.mem_append_left _ hrequest)
    have hrequest := hbatch request (by simp)
    rw [applyAll_append, getD_lastAssigned_append, ← hvalue]
    refine ⟨(h.assign _ request hkept hrequest).trans ?_, h.keep _ request hkept hrequest⟩
    rcases hassigned : assigned request <;> simp [lastAssigned, hassigned]

/-- Every package that is sent has what the requests and the clean-up keep. -/
theorem Assigns.forall_sent (h : Assigns apply value assigned J P)
    (hreset : ∀ s, J s → J (reset s)) {batches : List (List ρ)}
    (hbatches : ∀ batch ∈ batches, ∀ request ∈ batch, P request) (hs : J s) (ht : J t) :
    ∀ package ∈ (behind apply reset s t batches).sent, J package := by
  refine (run_invariant (P := fun _ batch ↦ ∀ request ∈ batch, P request)
    (J := fun b : Batches σ ↦ J b.store ∧ J b.send ∧ ∀ package ∈ b.sent, J package)
    (fun b batch hb hbatch ↦ ?_) ⟨hs, ht, fun _ h ↦ absurd h List.not_mem_nil⟩
    (Throughout.of_forall fun _ ↦ hbatches)).2.2
  obtain ⟨hstore, hsend, hsent⟩ := hb
  obtain ⟨-, hkept⟩ := h.applyAll hbatch hstore
  exact ⟨hsend, hreset _ hkept, List.forall_mem_append.mpr
    ⟨hsent, List.forall_mem_singleton.mpr hkept⟩⟩

/-- What is cleaned up is sent for its own batch, and for no other one. -/
theorem Assigns.sent_of_reset (h : Assigns apply value assigned J P) {default : β}
    (hreset : ∀ s, J s → J (reset s) ∧ value (reset s) = default) {batches : List (List ρ)}
    (hbatches : ∀ batch ∈ batches, ∀ request ∈ batch, P request)
    (hs : J s ∧ value s = default) (ht : J t ∧ value t = default) :
    (behind apply reset s t batches).sent.map value
      = batches.map fun batch ↦ (lastAssigned assigned batch).getD default := by
  suffices hrun : ∀ sent : List σ, (run (batchStep apply reset) ⟨s, t, sent⟩ batches).sent.map value
      = sent.map value ++ batches.map fun batch ↦ (lastAssigned assigned batch).getD default from
    (hrun []).trans (List.nil_append _)
  induction batches generalizing s t with
  | nil => exact fun sent ↦ (List.append_nil _).symm
  | cons batch batches ih =>
    intro sent
    obtain ⟨hbatch, hbatches⟩ := List.forall_mem_cons.mp hbatches
    obtain ⟨hvalue, hkept⟩ := h.applyAll hbatch hs.1
    rw [run_cons, batchStep, ih hbatches ht (hreset _ hkept), List.map_append, List.map_singleton,
      hvalue, hs.2, List.append_assoc]
    rfl

/-- The requests of a batch and of those that went into the same buffer before. -/
def alternating : List ρ → List ρ → List (List ρ) → List (List ρ)
  | _, _, [] => []
  | own, other, batch :: batches => (own ++ batch) :: alternating other (own ++ batch) batches

/-- Two batches later, the same buffer has what it had before. -/
theorem alternating_add_two {k : ℕ} : ∀ {own other : List ρ} {batches : List (List ρ)}
    {first third : List ρ}, batches[k]? = some first → batches[k + 2]? = some third →
      ∃ before, (alternating own other batches)[k + 2]? = some (before ++ first ++ third) := by
  induction k with
  | zero =>
    rintro own other (_ | ⟨first, _ | ⟨second, _ | ⟨third, batches⟩⟩⟩) _ _ hfirst hthird
    case cons.cons.cons =>
      obtain rfl := Option.some.inj hfirst
      obtain rfl := Option.some.inj hthird
      exact ⟨own, rfl⟩
    all_goals simp at hthird
  | succ k ih =>
    rintro own other (_ | ⟨batch, batches⟩) first third hfirst hthird
    · exact nomatch hfirst
    · exact ih hfirst hthird

/-- What is not cleaned up is sent as it was assigned for its own batch, or for one that went into
the same buffer before. -/
theorem Assigns.sent_of_kept (h : Assigns apply value assigned J P) {default : β}
    (hreset : ∀ s, J s → J (reset s) ∧ value (reset s) = value s) {batches : List (List ρ)}
    (hbatches : ∀ batch ∈ batches, ∀ request ∈ batch, P request)
    (hs : J s ∧ value s = default) (ht : J t ∧ value t = default) :
    (behind apply reset s t batches).sent.map value
      = (alternating [] [] batches).map fun batch ↦ (lastAssigned assigned batch).getD default := by
  suffices hrun : ∀ (own other : List ρ) (sent : List σ),
      J s ∧ value s = (lastAssigned assigned own).getD default →
      J t ∧ value t = (lastAssigned assigned other).getD default →
      (run (batchStep apply reset) ⟨s, t, sent⟩ batches).sent.map value = sent.map value ++
        (alternating own other batches).map fun batch ↦
          (lastAssigned assigned batch).getD default from
    (hrun [] [] [] hs ht).trans (List.nil_append _)
  clear hs ht
  induction batches generalizing s t with
  | nil => exact fun own other sent _ _ ↦ (List.append_nil _).symm
  | cons batch batches ih =>
    intro own other sent hs ht
    obtain ⟨hbatch, hbatches⟩ := List.forall_mem_cons.mp hbatches
    obtain ⟨hvalue, hkept⟩ := h.applyAll hbatch hs.1
    rw [hs.2, ← getD_lastAssigned_append] at hvalue
    obtain ⟨hkept', hvalue'⟩ := hreset _ hkept
    rw [run_cons, batchStep, ih hbatches other (own ++ batch) _ ht ⟨hkept', hvalue'.trans hvalue⟩,
      List.map_append, List.map_singleton, hvalue, List.append_assoc]
    rfl

end Field

end DoubleBuffer
