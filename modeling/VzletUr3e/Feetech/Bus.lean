import VzletUr3e.Feetech.Replies
import VzletUr3e.Library.Runs

/-!
# Late replies

The bus carries bytes that were caused by one call and may arrive during another. `Bus` keeps them
in order of arrival, each with the number of its call; an `Exchange` is one call together with what
the environment decides about it: what the servos answer, and how many of the bytes on their way
arrive before the call stops waiting. Bytes that a call does not read stay where they are.

The protocol has no way to tell whose bytes it reads. A call that succeeds has the replies to itself
exactly when the bytes left by earlier calls do not look like the beginning of a packet
(`answered_iff_undisturbed`); along a run this decides every call of it.
-/

namespace VzletUr3e.Feetech

open StateError Runs

/-! ## Calls -/

/-- The calls of the protocol that expect replies. -/
inductive Call
  | read (N : ℕ) (id memoryAddress : UInt8)
  | write (id memoryAddress : UInt8) (parameters : List UInt8)
  | syncRead (N : ℕ) (ids : List UInt8) (memoryAddress : UInt8)

namespace Call

/-- The call itself, with everything it returns. -/
def run : Call → Cpp (List (List UInt8))
  | read N id memoryAddress => do
    let data ← readServo N id memoryAddress
    return [data]
  | write id memoryAddress parameters => do
    writeServo id memoryAddress parameters
    return []
  | syncRead N ids memoryAddress => Feetech.syncRead N ids memoryAddress

/-- The number of serial writes of the request. -/
def writes : Call → ℕ
  | read _ _ _ => 1
  | write _ _ _ => 1
  | syncRead _ ids _ => ids.length + 2

/-- The payload of a reply, in bytes. -/
def payload : Call → ℕ
  | read N _ _ => N
  | write _ _ _ => 0
  | syncRead N _ _ => N

/-- The number of packets the call reads. -/
def expects : Call → ℕ
  | read _ _ _ => 1
  | write id _ _ => if id = kBroadcastId then 0 else 1
  | syncRead _ ids _ => ids.length

/-- The servos that answer. None answers a broadcast. -/
def addressed : Call → List UInt8
  | read _ id _ => if id = kBroadcastId then [] else [id]
  | write id _ _ => if id = kBroadcastId then [] else [id]
  | syncRead _ ids _ => ids

/-- What the call checks of the packets it reads. -/
def Accepts : Call → List StatusPacket → Prop
  | read _ _ _, packets => ∀ p ∈ packets, p.Verifies
  | write id _ _, packets => ∀ p ∈ packets, p.Verifies ∧ p.Answers 0 id
  | syncRead _ _ _, packets => ∀ p ∈ packets, p.Verifies

/-- What the call returns of the packets it reads. -/
def content : Call → List StatusPacket → List (List UInt8)
  | read _ _ _, packets => packets.map StatusPacket.data
  | write _ _ _, _ => []
  | syncRead _ _ _, packets => packets.map StatusPacket.data

/-- Replies the servos can give: each that answers sends one verifying packet of its own. -/
def AnsweredWith (c : Call) (replies : List StatusPacket) : Prop :=
  ∃ answering, answering.Sublist c.addressed ∧ List.Forall₂ (fun p id ↦
    p.Answers c.payload id ∧ p.data.length = c.payload ∧ p.Verifies) replies answering

theorem addressed_length_le (c : Call) : c.addressed.length ≤ c.expects := by
  cases c with
  | read N id memoryAddress =>
    rw [addressed, expects]
    split <;> simp
  | write id memoryAddress parameters =>
    rw [addressed, expects]
    split <;> simp
  | syncRead N ids memoryAddress => exact le_rfl

theorem AnsweredWith.length_le {c : Call} {replies : List StatusPacket}
    (h : c.AnsweredWith replies) : replies.length ≤ c.expects := by
  obtain ⟨answering, hsub, hall⟩ := h
  exact (hall.length_eq.trans_le hsub.length_le).trans c.addressed_length_le

theorem AnsweredWith.size {c : Call} {replies : List StatusPacket}
    (h : c.AnsweredWith replies) : ∀ p ∈ replies, p.data.length = c.payload := by
  obtain ⟨answering, -, hall⟩ := h
  intro p hp
  induction hall with
  | nil => simp at hp
  | cons hpq _ ih =>
    rcases List.mem_cons.mp hp with rfl | hp
    · exact hpq.2.1
    · exact ih hp

/-- **When a call succeeds**, and with what. -/
theorem run_eq_ok_iff {c : Call} {port : SerialPort} {data : List (List UInt8)} :
    (∃ port', c.run port = .ok data port') ↔ port.CanWrite c.writes ∧
      ∃ packets rest, Delivers c.payload port.rx packets rest ∧ packets.length = c.expects ∧
        c.Accepts packets ∧ data = c.content packets := by
  cases c with
  | read N id memoryAddress =>
    simp only [run, bind_eq_ok_iff, readServo_eq_ok_iff, pure_apply, writes, expects, payload,
      Accepts, content]
    constructor
    · rintro ⟨_, _, _, ⟨hcan, p, rest, htakes, hver, rfl, rfl⟩, ⟨⟩⟩
      exact ⟨hcan, [p], rest, delivers_singleton_iff.mpr htakes, rfl, by simpa using hver, rfl⟩
    · rintro ⟨hcan, packets, rest, hdel, hlen, hver, rfl⟩
      obtain ⟨p, rfl⟩ := List.length_eq_one_iff.mp hlen
      exact ⟨_, _, _, ⟨hcan, p, rest, delivers_singleton_iff.mp hdel, by simpa using hver, rfl,
        rfl⟩, rfl⟩
  | write id memoryAddress parameters =>
    have hrun : (∃ port', run (write id memoryAddress parameters) port = .ok data port') ↔
        data = [] ∧ ∃ port', writeServo id memoryAddress parameters port = .ok () port' := by
      simp only [run, bind_eq_ok_iff, pure_apply]
      constructor
      · rintro ⟨_, _, _, h, ⟨⟩⟩
        exact ⟨rfl, _, h⟩
      · rintro ⟨rfl, port', h⟩
        exact ⟨port', (), port', h, rfl⟩
    simp only [hrun, writeServo_eq_ok_iff, writes, expects, payload, Accepts, content]
    by_cases hid : id = kBroadcastId
    · simp only [if_pos hid]
      constructor
      · rintro ⟨rfl, _, hcan, -⟩
        exact ⟨hcan, [], _, .nil _, rfl, by simp, rfl⟩
      · rintro ⟨hcan, packets, rest, -, -, -, rfl⟩
        exact ⟨rfl, _, hcan, _, rfl, rfl⟩
    · simp only [if_neg hid]
      constructor
      · rintro ⟨rfl, _, hcan, rest, -, p, htakes, hver, hans⟩
        exact ⟨hcan, [p], rest, delivers_singleton_iff.mpr htakes, rfl, by simpa using ⟨hver, hans⟩,
          rfl⟩
      · rintro ⟨hcan, packets, rest, hdel, hlen, hacc, rfl⟩
        obtain ⟨p, rfl⟩ := List.length_eq_one_iff.mp hlen
        obtain ⟨hver, hans⟩ := hacc p List.mem_cons_self
        exact ⟨rfl, _, hcan, rest, rfl, p, delivers_singleton_iff.mp hdel, hver, hans⟩
  | syncRead N ids memoryAddress =>
    simp only [run, syncRead_eq_ok_iff, writes, expects, payload, Accepts, content]
    constructor
    · rintro ⟨_, hcan, packets, rest, hdel, hlen, hver, rfl, rfl⟩
      exact ⟨hcan, packets, rest, hdel, hlen, hver, rfl⟩
    · rintro ⟨hcan, packets, rest, hdel, hlen, hver, rfl⟩
      exact ⟨_, hcan, packets, rest, hdel, hlen, hver, rfl, rfl⟩

end Call

/-! ## The bus -/

/-- A byte on its way to the port, and the call that caused it. -/
structure InFlight where
  call : ℕ
  byte : UInt8
deriving DecidableEq, Repr

/-- The port, the bytes that have not been read yet, and the number of the next call. -/
structure Bus where
  port : SerialPort
  inFlight : List InFlight
  calls : ℕ
  /-- Only calls that were made have caused bytes. -/
  earlier : ∀ b ∈ inFlight, b.call < calls

/-- One call, and what the environment decides about it. -/
structure Exchange where
  call : Call
  /-- What the servos answer. -/
  replies : List StatusPacket
  answered : call.AnsweredWith replies
  /-- How many of the bytes then in flight arrive before the call gives up. -/
  arrived : ℕ

/-- The packet with its header. -/
def StatusPacket.frame (p : StatusPacket) : List UInt8 := [0xff, 0xff] ++ p.bytes

/-- The bytes of `replies`, caused by the call `own`. -/
def answerBytes (own : ℕ) (replies : List StatusPacket) : List InFlight :=
  (replies.flatMap StatusPacket.frame).map fun b ↦ ⟨own, b⟩

namespace Bus

/-- A bus on which nothing was sent yet. -/
def idle (port : SerialPort) : Bus := ⟨port, [], 0, by simp⟩

/-- All bytes that have not been read when the servos have answered. -/
def pending (bus : Bus) (e : Exchange) : List InFlight :=
  bus.inFlight ++ answerBytes bus.calls e.replies

/-- The part of them that arrives in time. -/
def line (bus : Bus) (e : Exchange) : List InFlight := (bus.pending e).take e.arrived

/-- The run of the call. -/
def result (bus : Bus) (e : Exchange) : EStateM.Result Fault SerialPort (List (List UInt8)) :=
  e.call.run { bus.port with rx := (bus.line e).map fun b ↦ .byte b.byte }

theorem pending_call_lt (bus : Bus) (e : Exchange) :
    ∀ b ∈ bus.pending e, b.call < bus.calls + 1 := by
  intro b hb
  rcases List.mem_append.mp hb with h | h
  · exact Nat.lt_succ_of_lt (bus.earlier b h)
  · obtain ⟨_, -, rfl⟩ := List.mem_map.mp h
    exact Nat.lt_succ_self _

/-- What the call has read is gone; everything else is still there at the next call. -/
def next (bus : Bus) (e : Exchange) : Bus where
  port := finalState (bus.result e)
  inFlight := (bus.pending e).drop ((bus.line e).length - (finalState (bus.result e)).rx.length)
  calls := bus.calls + 1
  earlier := fun b hb ↦ bus.pending_call_lt e b (List.mem_of_mem_drop hb)

/-- The bus after the exchange. -/
def Next (bus : Bus) (e : Exchange) (bus' : Bus) : Prop := bus' = bus.next e

end Bus

/-! ## Whose replies a call has taken -/

/-- The first packets of the bytes in flight, when each of them is made of bytes of one call. -/
inductive Carries (own : ℕ) : List InFlight → List StatusPacket → Prop
  | nil (line : List InFlight) : Carries own line []
  | cons {noise frame rest : List InFlight} {p : StatusPacket} {ps : List StatusPacket} :
    HeaderFree (noise.map InFlight.byte) → frame.map InFlight.byte = p.frame →
    (∀ b ∈ frame, b.call = own) → Carries own rest ps →
      Carries own (noise ++ frame ++ rest) (p :: ps)

/-- If the call succeeds, the packets it has taken are the replies to it, made of their own bytes,
and it returns what they contain. -/
def Answered (bus : Bus) (e : Exchange) : Prop :=
  ∀ data port', bus.result e = .ok data port' → Carries bus.calls (bus.line e) e.replies ∧
    e.replies.length = e.call.expects ∧ data = e.call.content e.replies

/-- If what arrives would make the call succeed, the bytes left by earlier calls hold no header, nor
the first half of one at their end. -/
def Undisturbed (bus : Bus) (e : Exchange) : Prop :=
  bus.port.CanWrite e.call.writes → 0 < e.call.expects →
    (∃ packets rest, Delivers e.call.payload ((bus.line e).map fun b ↦ .byte b.byte) packets rest ∧
      packets.length = e.call.expects ∧ e.call.Accepts packets) →
    HeaderFree (bus.inFlight.map InFlight.byte)

theorem StatusPacket.frame_injective {p q : StatusPacket} (h : p.frame = q.frame) : p = q := by
  cases p
  cases q
  simp only [frame, bytes, List.cons_append, List.nil_append, List.cons.injEq, true_and] at h
  obtain ⟨rfl, rfl, rfl, h⟩ := h
  obtain ⟨rfl, h⟩ := List.append_inj' h rfl
  simpa using h

@[simp] theorem StatusPacket.length_frame (p : StatusPacket) :
    p.frame.length = p.data.length + 6 := by
  simp [frame, bytes]

theorem answerBytes_cons (own : ℕ) (q : StatusPacket) (qs : List StatusPacket) :
    answerBytes own (q :: qs) = q.frame.map (fun b ↦ ⟨own, b⟩) ++ answerBytes own qs := by
  simp [answerBytes]

theorem map_byte_eq {line : List InFlight} {bytes : List UInt8}
    (h : (line.map fun b ↦ RxEvent.byte b.byte) = bytes.map .byte) :
    line.map InFlight.byte = bytes := by
  have hinj : Function.Injective RxEvent.byte := fun _ _ h ↦ RxEvent.byte.inj h
  apply List.map_injective_iff.mpr hinj
  rw [List.map_map]
  exact h

/-- A packet of a line, as a part of the bytes in flight. -/
theorem TakesPacket.split {N : ℕ} {line : List InFlight} {p : StatusPacket} {mid : List RxEvent}
    (h : TakesPacket N (line.map fun b ↦ .byte b.byte) p mid) : ∃ noise frame rest,
      line = noise ++ frame ++ rest ∧ HeaderFree (noise.map InFlight.byte) ∧
      frame.map InFlight.byte = p.frame ∧ (rest.map fun b ↦ .byte b.byte) = mid := by
  obtain ⟨-, noise, -, hfree, hmap⟩ := h
  have hsplit : (noise ++ [0xff, 0xff] ++ p.bytes).map RxEvent.byte ++ mid
      = noise.map .byte ++ (p.frame.map .byte ++ mid) := by
    simp [StatusPacket.frame]
  rw [hsplit] at hmap
  obtain ⟨front, back, rfl, hfront, hback⟩ := List.map_eq_append_iff.mp hmap
  obtain ⟨frame, rest, rfl, hframe, hrest⟩ := List.map_eq_append_iff.mp hback
  refine ⟨front, frame, rest, by rw [List.append_assoc], ?_, map_byte_eq hframe, hrest⟩
  rw [map_byte_eq hfront]
  exact hfree

/-- The first packet behind bytes without a header is the first reply of the call. -/
theorem carries_of_delivers {N own : ℕ} : ∀ {packets replies : List StatusPacket}
    {leftover line extra : List InFlight} {rest : List RxEvent},
    (∀ q ∈ replies, q.data.length = N) → HeaderFree (leftover.map InFlight.byte) →
    leftover ++ answerBytes own replies = line ++ extra →
    Delivers N (line.map fun b ↦ .byte b.byte) packets rest →
    packets <+: replies ∧ Carries own line packets := by
  intro packets
  induction packets with
  | nil => exact fun _ _ _ _ ↦ ⟨List.nil_prefix, .nil _⟩
  | cons p packets ih =>
    intro replies leftover line extra rest hsize hfree hline hdel
    cases hdel with
    | cons htakes hdel =>
      obtain ⟨noise, frame, tail, rfl, hnoise, hframe, rfl⟩ := htakes.split
      have hbytes := congrArg (List.map InFlight.byte) hline
      simp only [List.map_append, hframe, List.append_assoc] at hbytes
      cases replies with
      | nil =>
        -- nothing was answered, so the header would be among the bytes left over
        rw [answerBytes, List.flatMap_nil, List.map_nil, List.map_nil, List.append_nil] at hbytes
        rw [hbytes] at hfree
        exact absurd hfree HeaderFree.not_header
      | cons q qs =>
        rw [answerBytes_cons] at hline hbytes
        have hq : (q.frame.map fun b ↦ InFlight.mk own b).map InFlight.byte = q.frame := by
          rw [List.map_map]
          exact List.map_id _
        rw [List.map_append, hq] at hbytes
        -- both are followed by a header, and the first header is in one place
        have hsame : leftover.map InFlight.byte = noise.map InFlight.byte :=
          hfree.unique hnoise hbytes
        have hlen : leftover.length = noise.length := by simpa using congrArg List.length hsame
        rw [List.append_assoc, List.append_assoc] at hline
        obtain ⟨rfl, hbehind⟩ := List.append_inj hline hlen
        have hframes : (q.frame.map fun b ↦ InFlight.mk own b).length = frame.length := by
          have hN := hsize q List.mem_cons_self
          have hp := congrArg List.length hframe
          rw [List.length_map, StatusPacket.length_frame, htakes.size] at hp
          rw [List.length_map, StatusPacket.length_frame, hN, hp]
        obtain ⟨rfl, htail⟩ := List.append_inj hbehind hframes
        obtain rfl : q = p := StatusPacket.frame_injective (hq.symm.trans hframe)
        have hnil : HeaderFree (([] : List InFlight).map InFlight.byte) := by decide
        obtain ⟨hstart, hcarries⟩ :=
          ih (fun r hr ↦ hsize r (List.mem_cons_of_mem q hr)) hnil htail hdel
        refine ⟨List.cons_prefix_cons.mpr ⟨rfl, hstart⟩, .cons hnoise hframe ?_ hcarries⟩
        intro b hb
        obtain ⟨_, -, rfl⟩ := List.mem_map.mp hb
        rfl

/-- A packet made of bytes of the call begins behind everything left over. -/
theorem headerFree_of_carries {own : ℕ} {p : StatusPacket} {packets replies : List StatusPacket}
    {leftover line extra : List InFlight} (hearlier : ∀ b ∈ leftover, b.call < own)
    (hline : leftover ++ answerBytes own replies = line ++ extra)
    (h : Carries own line (p :: packets)) : HeaderFree (leftover.map InFlight.byte) := by
  cases h with
  | @cons noise frame rest _ _ hnoise hframe hown _ =>
    rw [List.append_assoc, List.append_assoc] at hline
    rcases List.append_eq_append_iff.mp hline with ⟨more, rfl, hmore⟩ | ⟨more, rfl, hmore⟩
    · cases more with
      | nil => rwa [List.append_nil] at hnoise
      | cons b more =>
        -- the first byte of an answer opens a header
        cases replies with
        | nil => simp [answerBytes] at hmore
        | cons q qs =>
          rw [answerBytes_cons, StatusPacket.frame, List.cons_append, List.map_cons,
            List.cons_append, List.cons_append] at hmore
          obtain ⟨rfl, -⟩ := List.cons.inj hmore
          rw [List.map_append, List.map_cons] at hnoise
          exact hnoise.of_append
    · cases more with
      | nil => rwa [List.append_nil]
      | cons b more =>
        cases frame with
        | nil => simp [StatusPacket.frame] at hframe
        | cons c frame =>
          rw [List.cons_append, List.cons_append, List.cons.injEq] at hmore
          obtain ⟨rfl, -⟩ := hmore
          have hb := hown c List.mem_cons_self
          have hlt := hearlier c (by simp)
          exact absurd hb hlt.ne

theorem Bus.result_eq_ok_iff {bus : Bus} {e : Exchange} {data : List (List UInt8)} :
    (∃ port', bus.result e = .ok data port') ↔ bus.port.CanWrite e.call.writes ∧
      ∃ packets rest, Delivers e.call.payload ((bus.line e).map fun b ↦ .byte b.byte) packets rest ∧
        packets.length = e.call.expects ∧ e.call.Accepts packets ∧ data = e.call.content packets :=
  ⟨fun h ↦ (Call.run_eq_ok_iff.mp h).imp (fun ⟨hopen, hacc⟩ ↦ ⟨hopen, hacc⟩) id,
    fun ⟨⟨hopen, hacc⟩, h⟩ ↦ Call.run_eq_ok_iff.mpr ⟨⟨hopen, hacc⟩, h⟩⟩

/-- **One call.** What it returns are the replies to it exactly when the bytes left by earlier calls
do not disturb it. -/
theorem answered_iff_undisturbed {bus : Bus} {e : Exchange} :
    Answered bus e ↔ Undisturbed bus e := by
  have hline : bus.inFlight ++ answerBytes bus.calls e.replies
      = bus.line e ++ (bus.pending e).drop e.arrived := (List.take_append_drop _ _).symm
  constructor
  · rintro h hcan hexpects ⟨packets, rest, hdel, hlen, hacc⟩
    obtain ⟨port', hrun⟩ := Bus.result_eq_ok_iff.mpr ⟨hcan, packets, rest, hdel, hlen, hacc, rfl⟩
    obtain ⟨hcarries, hcount, -⟩ := h _ _ hrun
    cases hreplies : e.replies with
    | nil =>
      rw [hreplies, List.length_nil] at hcount
      omega
    | cons p replies =>
      rw [hreplies] at hcarries hline
      exact headerFree_of_carries bus.earlier hline hcarries
  · intro h data port' hrun
    obtain ⟨hcan, packets, rest, hdel, hlen, hacc, rfl⟩ :=
      Bus.result_eq_ok_iff.mp ⟨port', hrun⟩
    have hle := e.answered.length_le
    rcases Nat.eq_zero_or_pos e.call.expects with h0 | hpos
    · have hnil : e.replies = [] := List.length_eq_zero_iff.mp (by omega)
      obtain rfl : packets = [] := List.length_eq_zero_iff.mp (by omega)
      rw [hnil]
      exact ⟨.nil _, h0.symm, rfl⟩
    · have hfree := h hcan hpos ⟨packets, rest, hdel, hlen, hacc⟩
      obtain ⟨hstart, hcarries⟩ := carries_of_delivers e.answered.size hfree hline hdel
      obtain rfl := hstart.eq_of_length_le (by omega)
      exact ⟨hcarries, hlen, rfl⟩

/-- **Every run.** All calls of a run that succeed have the replies to themselves exactly when none
of them is disturbed by what the calls before it left over. -/
theorem run_answered_iff (bus : Bus) (es : List Exchange) :
    Along Bus.Next Answered bus es ↔ Along Bus.Next Undisturbed bus es :=
  along_iff_along (fun _ _ _ ↦ answered_iff_undisturbed) (fun _ _ _ h _ _ ↦ h) (J := fun _ ↦ True)
    trivial

/-- A position reply of servo 1. -/
def replyOfOne : StatusPacket := ⟨1, 4, 0, [0x00, 0x08], 0xf2⟩

/-- Another one, a tick further. -/
def nextReplyOfOne : StatusPacket := ⟨1, 4, 0, [0x01, 0x08], 0xf1⟩

/-- The position of servo 1 is asked for, and `reply` arrives as far as `arrived` says. -/
def askOne (reply : StatusPacket) (h : (Call.read 2 1 smsStsPresentPositionL).AnsweredWith [reply])
    (arrived : ℕ) : Exchange :=
  ⟨.read 2 1 smsStsPresentPositionL, [reply], h, arrived⟩

theorem replyOfOne_answers : (Call.read 2 1 smsStsPresentPositionL).AnsweredWith [replyOfOne] :=
  ⟨[1], .refl _, .cons (by decide) .nil⟩

theorem nextReplyOfOne_answers :
    (Call.read 2 1 smsStsPresentPositionL).AnsweredWith [nextReplyOfOne] :=
  ⟨[1], .refl _, .cons (by decide) .nil⟩

/-- A reply that comes after its read has timed out is taken by the next read of the same servo. -/
theorem late_reply_taken : ¬ Along Bus.Next Answered (Bus.idle (openPort []))
    [askOne replyOfOne replyOfOne_answers 0, askOne nextReplyOfOne nextReplyOfOne_answers 16] := by
  intro h
  obtain ⟨-, hrest⟩ := along_cons_iff.mp h
  obtain ⟨hanswered, -⟩ := along_cons_iff.mp (hrest _ rfl)
  -- the first call has read nothing, so all of its reply is left over
  have hleft : ((Bus.idle (openPort [])).next (askOne replyOfOne replyOfOne_answers 0)).inFlight
      = answerBytes 0 [replyOfOne] := by rfl
  have hfree := answered_iff_undisturbed.mp hanswered ⟨fun _ ↦ rfl, fun _ _ ↦ rfl⟩ Nat.one_pos ?_
  · rw [hleft] at hfree
    exact absurd hfree (by decide)
  · refine ⟨[replyOfOne], (answerBytes 1 [nextReplyOfOne]).map fun b ↦ .byte b.byte,
      delivers_singleton_iff.mpr ⟨rfl, [], by simp, by decide, ?_⟩, rfl, ?_⟩
    · rfl
    · intro p hp
      obtain rfl := List.mem_singleton.mp hp
      decide

end VzletUr3e.Feetech
