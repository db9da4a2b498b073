import VzletUr3e.Library.Runs
import VzletUr3e.Suction.System

/-!
# The loop of `send_line`

`send_line` keeps a pointer into the line and the number of bytes that remain. Each `::write` is
offered the bytes from the pointer on, and moves both by as many as the device takes. Here the
results of `::write` are an endless sequence, of which the loop uses the first ones. What it does
with finitely many of them is `sendLine` (`sendLine_eq`).
-/

namespace VzletUr3e.Suction

open Runs

/-! ## The loop -/

/-- The pointer, the number of bytes that remain, the bytes that the device has taken so far, and
the result once `send_line` has returned. -/
structure Sending where
  data : ℕ
  remaining : ℕ
  taken : List Char
  result : Option Bool
deriving DecidableEq, Repr

/-- The head of the loop. -/
def Sending.head (s : Sending) : Sending :=
  if 0 < s.remaining then s else { s with result := some true }

theorem Sending.remaining_head (s : Sending) : s.head.remaining = s.remaining := by
  rw [head]
  split_ifs
  · rfl
  · rfl

def Sending.enter (line : List Char) : Sending := Sending.head ⟨0, line.length, [], none⟩

/-- One turn, with the result of its `::write`. -/
def Sending.turn (line : List Char) (s : Sending) : WriteResult → Sending
  | .again => s.head
  | .failed => { s with result := some false }
  | .accepted written =>
    Sending.head { s with
      remaining := s.remaining - written
      data := s.data + written
      taken := s.taken ++ (line.drop s.data).take written }

/-- Nothing happens any more once it has returned. -/
def Sending.next (line : List Char) (s : Sending) (o : WriteResult) : Sending :=
  if s.result.isSome then s else s.turn line o

/-- The loop behind the first `k` results. -/
def sending (line : List Char) (results : ℕ → WriteResult) : ℕ → Sending
  | 0 => .enter line
  | k + 1 => (sending line results k).next line (results k)

/-- How many bytes the device has taken. -/
def WriteResult.count : WriteResult → ℕ
  | .accepted written => written
  | .again => 0
  | .failed => 0

/-- The device takes no more than it is offered. -/
def Offered (line : List Char) (results : ℕ → WriteResult) : Prop :=
  ∀ k written, (sending line results k).result = none → results k = .accepted written →
    written ≤ (sending line results k).remaining

variable {line : List Char} {results : ℕ → WriteResult} {s : Sending}

/-! ## The invariant -/

/-- The device has what is in front of the pointer, the rest remains, and success is told exactly
when nothing does. -/
structure Sending.Ok (line : List Char) (s : Sending) : Prop where
  taken : s.taken = line.take s.data
  remaining : s.data + s.remaining = line.length
  done : s.result = some true ↔ s.remaining = 0

theorem Sending.Ok.head (htaken : s.taken = line.take s.data)
    (hremaining : s.data + s.remaining = line.length) (hresult : s.result = none) :
    s.head.Ok line := by
  rw [Sending.head]
  split_ifs with hpos
  · exact ⟨htaken, hremaining, iff_of_false (by rw [hresult]; simp) hpos.ne'⟩
  · exact ⟨htaken, hremaining, iff_of_true rfl (Nat.eq_zero_of_not_pos hpos)⟩

theorem Sending.ok_enter (line : List Char) : (Sending.enter line).Ok line :=
  .head (List.take_zero).symm (Nat.zero_add _) rfl

/-- **One turn** keeps the invariant. -/
theorem Sending.Ok.next (h : s.Ok line) {o : WriteResult}
    (ho : ∀ written, s.result = none → o = .accepted written → written ≤ s.remaining) :
    (s.next line o).Ok line := by
  obtain ⟨htaken, hremaining, hdone⟩ := h
  rw [Sending.next]
  split_ifs with hreturned
  · exact ⟨htaken, hremaining, hdone⟩
  rw [Option.not_isSome_iff_eq_none] at hreturned
  have hpos : ¬s.remaining = 0 := by
    rw [← hdone, hreturned]
    simp
  cases o with
  | again => exact .head htaken hremaining hreturned
  | failed => exact ⟨htaken, hremaining, iff_of_false (by simp [turn]) hpos⟩
  | accepted written =>
    have hle := ho written hreturned rfl
    refine .head ?_ ?_ hreturned
    · change s.taken ++ (line.drop s.data).take written = line.take (s.data + written)
      rw [htaken, List.take_add]
    · change s.data + written + (s.remaining - written) = line.length
      omega

/-- **All turns** keep it. -/
theorem ok_sending (h : Offered line results) (k : ℕ) : (sending line results k).Ok line := by
  induction k with
  | zero => exact Sending.ok_enter line
  | succ k ih => exact ih.next (h k)

theorem Sending.taken_head (s : Sending) : s.head.taken = s.taken := by
  rw [head]
  split_ifs
  · rfl
  · rfl

/-- **One turn** takes as many bytes as its `::write` has accepted. -/
theorem Sending.Ok.length_taken_turn (h : s.Ok line) {o : WriteResult}
    (ho : ∀ written, o = .accepted written → written ≤ s.remaining) :
    (s.turn line o).taken.length = s.taken.length + o.count := by
  cases o with
  | again => rw [turn, taken_head, WriteResult.count, Nat.add_zero]
  | failed => rw [turn, WriteResult.count, Nat.add_zero]
  | accepted written =>
    have hle := ho written rfl
    have hremaining := h.remaining
    rw [turn, taken_head, List.length_append, List.length_take, List.length_drop,
      WriteResult.count, Nat.min_eq_left (by omega)]

theorem Sending.Ok.taken_eq_iff (h : s.Ok line) : s.taken = line ↔ s.remaining = 0 := by
  rw [h.taken, List.take_eq_self_iff, ← h.remaining]
  omega

/-! ## The result

The loop returns once and for good, so each question is about the turn that does it. True comes with
the last byte. False comes with an error, and only from a turn that was still running. Any other
result that is accepted makes the remainder smaller, which is the measure for the end of the loop.
-/

/-- The result stays. -/
theorem sending_of_result {k : ℕ} {b : Bool} (h : (sending line results k).result = some b) :
    sending line results (k + 1) = sending line results k := by
  rw [sending, Sending.next, if_pos (by rw [h]; rfl)]

/-- Each turn of the loop either fails, or leaves it to the head to return. -/
theorem Sending.result_turn (o : WriteResult) (hresult : s.result = none) :
    (s.turn line o).result = some false ↔ o = .failed := by
  have hhead : ∀ s' : Sending, s'.result = none → s'.head.result ≠ some false := by
    intro s' hs'
    rw [Sending.head]
    split_ifs
    · rw [hs']
      simp
    · simp
  cases o with
  | again => exact iff_of_false (hhead s hresult) (by simp)
  | failed => exact iff_of_true rfl rfl
  | accepted written => exact iff_of_false (hhead _ hresult) (by simp)

theorem sending_of_none {k : ℕ} (h : (sending line results k).result = none) :
    sending line results (k + 1) = (sending line results k).turn line (results k) := by
  rw [sending, Sending.next, if_neg (by rw [h]; simp)]

/-- Failure is told exactly when an error has come before the whole line was taken. -/
theorem result_eq_false_iff (h : Offered line results) {k : ℕ} :
    (sending line results k).result = some false ↔
      ∃ j < k, results j = .failed ∧ (sending line results j).taken ≠ line := by
  induction k with
  | zero =>
    refine iff_of_false ?_ (by simp)
    change (Sending.enter line).result ≠ some false
    rw [Sending.enter, Sending.head]
    split_ifs
    · simp
    · simp
  | succ k ih =>
    have hdone := (ok_sending h k).done
    rw [← (ok_sending h k).taken_eq_iff] at hdone
    rcases hresult : (sending line results k).result with _ | b
    · rw [hresult] at ih hdone
      have hnotyet : ¬(sending line results k).taken = line := by
        rw [← hdone]
        simp
      rw [sending_of_none hresult, Sending.result_turn _ hresult]
      constructor
      · exact fun hfailed ↦ ⟨k, Nat.lt_succ_self k, hfailed, hnotyet⟩
      · rintro ⟨j, hj, hfailed, hj'⟩
        rcases Nat.lt_succ_iff_lt_or_eq.mp hj with hlt | rfl
        · exact absurd (ih.mpr ⟨j, hlt, hfailed, hj'⟩) (by simp)
        · exact hfailed
    · rw [sending_of_result hresult, ih]
      constructor
      · rintro ⟨j, hj, hrest⟩
        exact ⟨j, hj.trans (Nat.lt_succ_self k), hrest⟩
      · rintro ⟨j, hj, hfailed, hj'⟩
        rcases Nat.lt_succ_iff_lt_or_eq.mp hj with hlt | rfl
        · exact ⟨j, hlt, hfailed, hj'⟩
        · cases b with
          | true => exact absurd (hdone.mp hresult) hj'
          | false => exact ih.mp hresult

/-- A result that is no stutter brings the loop to its end or closer to it. -/
theorem remaining_lt (h : Offered line results) {k : ℕ}
    (hrunning : (sending line results (k + 1)).result = none)
    (hagain : results k ≠ .again) (hzero : results k ≠ .accepted 0) :
    (sending line results (k + 1)).remaining < (sending line results k).remaining := by
  have hbefore : (sending line results k).result = none := by
    by_contra hreturned
    obtain ⟨b, hb⟩ := Option.ne_none_iff_exists'.mp hreturned
    rw [sending_of_result hb, hb] at hrunning
    cases hrunning
  have hturn := sending_of_none hbefore
  rcases ho : results k with written | _ | _
  · have hle := h k written hbefore ho
    have hpos : written ≠ 0 := by
      rintro rfl
      exact hzero ho
    rw [hturn, ho, Sending.turn, Sending.remaining_head]
    change (sending line results k).remaining - written < _
    omega
  · exact absurd ho hagain
  · rw [hturn, ho] at hrunning
    cases hrunning

/-- **The loop returns** if only finitely many results make no progress. -/
theorem exists_result (h : Offered line results)
    (hfinite : {k | results k = .again ∨ results k = .accepted 0}.Finite) :
    ∃ k b, (sending line results k).result = some b := by
  have hstep : ∀ k, ¬(sending line results (k + 1)).result ≠ none →
      k ∉ {k | results k = .again ∨ results k = .accepted 0} →
      (sending line results (k + 1)).remaining < (sending line results k).remaining := by
    intro k hrunning hprogress
    obtain ⟨hagain, hzero⟩ := not_or.mp hprogress
    exact remaining_lt h (not_not.mp hrunning) hagain hzero
  obtain ⟨k, hk⟩ := exists_of_finite_stutter
    hfinite
    (fun k ↦ (sending line results k).remaining) hstep
  obtain ⟨b, hb⟩ := Option.ne_none_iff_exists'.mp hk
  exact ⟨k + 1, b, hb⟩

/-- **The loop of `send_line`**, for every line and all results of `::write`. What the device has
taken is at any time a front part of the line. It starts from nothing and grows by what each
`::write` accepts, until the loop has returned. True is returned exactly if it is the whole line,
false exactly if an error came before, and the loop returns unless it stutters for ever. -/
theorem send_line_results (h : Offered line results) :
    (∀ k, (sending line results k).taken <+: line) ∧
      (sending line results 0).taken = [] ∧
      (∀ k, (sending line results k).result = none →
        (sending line results (k + 1)).taken.length
            = (sending line results k).taken.length + (results k).count ∧
          (results k = .failed → (sending line results (k + 1)).result = some false)) ∧
      (∀ k, (sending line results k).result ≠ none →
        sending line results (k + 1) = sending line results k) ∧
      (∀ k, (sending line results k).result = some true ↔ (sending line results k).taken = line) ∧
      (∀ k, (sending line results k).result = some false ↔
        ∃ j < k, results j = .failed ∧ (sending line results j).taken ≠ line) ∧
      ({k | results k = .again ∨ results k = .accepted 0}.Finite →
        ∃ k b, (sending line results k).result = some b) := by
  refine ⟨fun k ↦ ?_, Sending.taken_head _, fun k hnone ↦ ⟨?_, fun hfailed ↦ ?_⟩,
    fun k hreturned ↦ ?_, fun k ↦ ?_, fun k ↦ result_eq_false_iff h, exists_result h⟩
  · rw [(ok_sending h k).taken]
    exact List.take_prefix _ line
  · rw [sending_of_none hnone]
    exact (ok_sending h k).length_taken_turn fun written ↦ h k written hnone
  · rw [sending_of_none hnone, hfailed, Sending.turn]
  · obtain ⟨b, hb⟩ := Option.ne_none_iff_exists'.mp hreturned
    exact sending_of_result hb
  · rw [(ok_sending h k).done, (ok_sending h k).taken_eq_iff]

/-- Three bytes, no room, no bytes, and then the rest. -/
def slowResults : ℕ → WriteResult
  | 0 => .accepted 3
  | 1 => .again
  | 2 => .accepted 0
  | _ => .accepted 5

theorem send_line_slow : ∃ k b, (sending "pneumo1\n".toList slowResults k).result = some b := by
  have hreturned : ∀ k, (sending "pneumo1\n".toList slowResults (k + 4)).result = some true := by
    intro k
    induction k with
    | zero => decide
    | succ k ih => exact (congrArg Sending.result (sending_of_result ih)).trans ih
  have hoffered : Offered "pneumo1\n".toList slowResults := by
    intro k written hrunning hresult
    match k with
    | 0 => cases hresult; decide
    | 1 => cases hresult
    | 2 => cases hresult; decide
    | 3 => cases hresult; decide
    | k + 4 =>
      rw [hreturned k] at hrunning
      cases hrunning
  have hfinite : {k | slowResults k = .again ∨ slowResults k = .accepted 0}.Finite := by
    refine (Set.finite_Iio 3).subset fun k hk ↦ ?_
    by_contra hge
    obtain ⟨j, rfl⟩ := Nat.exists_eq_add_of_le' (not_lt.mp hge)
    rcases hk with hk | hk
    · cases hk
    · cases hk
  exact (send_line_results hoffered).2.2.2.2.2.2 hfinite

/-! ## Finitely many results

Both recursions look at the results one by one; they differ in what they keep, a pointer into the
line here and the rest of the line there. The induction is over the results, from any pointer. -/

theorem sendLine_of_nil (outcomes : List WriteResult) :
    sendLine [] outcomes = ([], some true) := by
  cases outcomes <;> rfl

theorem sendLine_nil {data : List Char} (h : data ≠ []) : sendLine data [] = ([], none) := by
  obtain ⟨d, data, rfl⟩ := List.exists_cons_of_ne_nil h
  rfl

theorem sendLine_again {data : List Char} (h : data ≠ []) (rest : List WriteResult) :
    sendLine data (.again :: rest) = sendLine data rest := by
  obtain ⟨d, data, rfl⟩ := List.exists_cons_of_ne_nil h
  rfl

theorem sendLine_failed {data : List Char} (h : data ≠ []) (rest : List WriteResult) :
    sendLine data (.failed :: rest) = ([], some false) := by
  obtain ⟨d, data, rfl⟩ := List.exists_cons_of_ne_nil h
  rfl

theorem sendLine_accepted {data : List Char} (h : data ≠ []) (n : ℕ) (rest : List WriteResult) :
    sendLine data (.accepted n :: rest)
      = (data.take n ++ (sendLine (data.drop n) rest).1, (sendLine (data.drop n) rest).2) := by
  obtain ⟨d, data, rfl⟩ := List.exists_cons_of_ne_nil h
  rfl

/-- The turns of several results. -/
def Sending.turns (line : List Char) (s : Sending) (outcomes : List WriteResult) : Sending :=
  outcomes.foldl (Sending.next line) s

theorem Sending.turns_of_result {b : Bool} (h : s.result = some b) (outcomes : List WriteResult) :
    s.turns line outcomes = s := by
  induction outcomes with
  | nil => rfl
  | cons o outcomes ih =>
    rw [turns, List.foldl_cons, next, if_pos (by rw [h]; rfl)]
    exact ih

theorem Sending.rest_eq_nil_iff (hremaining : s.remaining = line.length - s.data) :
    line.drop s.data = [] ↔ s.remaining = 0 := by
  rw [List.drop_eq_nil_iff]
  omega

/-- With nothing left to send, neither the turns nor `sendLine` look at a result. -/
theorem Sending.turns_head_of_done (hremaining : s.remaining = line.length - s.data)
    (hzero : s.remaining = 0) (outcomes : List WriteResult) :
    (s.head.turns line outcomes).taken = s.taken ++ (sendLine (line.drop s.data) outcomes).1 ∧
      (s.head.turns line outcomes).result = (sendLine (line.drop s.data) outcomes).2 := by
  rw [head, if_neg (by rw [hzero]; exact Nat.lt_irrefl 0), turns_of_result rfl,
    (rest_eq_nil_iff hremaining).mpr hzero, sendLine_of_nil, List.append_nil]
  exact ⟨rfl, rfl⟩

/-- Behind the pointer, the turns are `sendLine`. -/
theorem Sending.turns_head (hresult : s.result = none)
    (hremaining : s.remaining = line.length - s.data) (outcomes : List WriteResult) :
    (s.head.turns line outcomes).taken = s.taken ++ (sendLine (line.drop s.data) outcomes).1 ∧
      (s.head.turns line outcomes).result = (sendLine (line.drop s.data) outcomes).2 := by
  induction outcomes generalizing s with
  | nil =>
    rcases Nat.eq_zero_or_pos s.remaining with hzero | hpos
    · exact turns_head_of_done hremaining hzero []
    · have hne : line.drop s.data ≠ [] := mt (rest_eq_nil_iff hremaining).mp hpos.ne'
      rw [head, if_pos hpos, sendLine_nil hne, List.append_nil]
      exact ⟨rfl, hresult⟩
  | cons o outcomes ih =>
    rcases Nat.eq_zero_or_pos s.remaining with hzero | hpos
    · exact turns_head_of_done hremaining hzero (o :: outcomes)
    · have hne : line.drop s.data ≠ [] := mt (rest_eq_nil_iff hremaining).mp hpos.ne'
      have hturn : s.head.turns line (o :: outcomes) = (s.turn line o).turns line outcomes := by
        rw [head, if_pos hpos, turns, List.foldl_cons, next, if_neg (by rw [hresult]; simp)]
        rfl
      rw [hturn]
      cases o with
      | again =>
        rw [sendLine_again hne]
        exact ih hresult hremaining
      | failed =>
        rw [turn, turns_of_result rfl, sendLine_failed hne, List.append_nil]
        exact ⟨rfl, rfl⟩
      | accepted written =>
        obtain ⟨htaken, hrest⟩ := ih (s := ⟨s.data + written, s.remaining - written,
          s.taken ++ (line.drop s.data).take written, s.result⟩) hresult (by
            change s.remaining - written = line.length - (s.data + written)
            omega)
        rw [sendLine_accepted hne, List.drop_drop, ← List.append_assoc]
        exact ⟨htaken, hrest⟩

/-- **What the loop does** with the first results is `sendLine`. -/
theorem sendLine_eq (line : List Char) (results : ℕ → WriteResult) (k : ℕ) :
    sendLine line ((List.range k).map results)
      = ((sending line results k).taken, (sending line results k).result) := by
  have hturns : sending line results k
      = (Sending.enter line).turns line ((List.range k).map results) := by
    induction k with
    | zero => rfl
    | succ k ih =>
      rw [sending, ih, List.range_succ, List.map_append, Sending.turns, Sending.turns,
        List.foldl_append]
      rfl
  have hstart : (⟨0, line.length, [], none⟩ : Sending).remaining = line.length - 0 := rfl
  obtain ⟨htaken, hresult⟩ := Sending.turns_head rfl hstart ((List.range k).map results)
  rw [hturns, Sending.enter, htaken, hresult]
  rfl

end VzletUr3e.Suction
