import VzletUr3e.Rtde.Parser

/-!
# Packages on a connection

`URStream::read` reads a package from a socket: the two bytes of its size, and then as many as are
left. It takes the size from the buffer behind the first call, no matter how many bytes that call
returned, and counts in 64 bits without a sign. The producer calls it again where nothing arrived in
time, with the same count of bytes.

Packages are recovered one by one from every stream in which no size is cut in two and no package
pauses (`tryGets_serializePackage`). Where a size is cut in two, the buffer decides on its second
byte (`read_cut_iff`). A size that is smaller than what was already read makes the count wrap, and
this is the only way to write behind the buffer (`read_eq_none_iff`).
-/

namespace VzletUr3e.Rtde

open ByteCodec

/-! ## Sockets

A call of `TCPSocket::read` waits for the first byte and returns what is there then, so the list of
what comes in has a `later` wherever a call ends early. All that the proofs need of a call is in
`Socket.read_some`, and that it consumes something (`Socket.length_read`), for which every loop over
a socket terminates. -/

/-- What comes in. Bytes that are not there together have a `later` between them, and a receive
timeout passes at a `timeout`. -/
inductive Incoming
  | byte (byte : UInt8)
  | later
  | timeout
  | lost
deriving DecidableEq, Repr

inductive SocketState
  | invalid
  | connected
  | disconnected
  | closed
deriving DecidableEq, Repr

structure Socket where
  state : SocketState
  incoming : List Incoming
deriving DecidableEq, Repr

/-- The bytes that are there, but at most `n`. -/
def available : ℕ → List Incoming → List UInt8 × List Incoming
  | n + 1, .byte byte :: incoming =>
    let (bytes, rest) := available n incoming
    (byte :: bytes, rest)
  | _, incoming => ([], incoming)

/-- `TCPSocket::read` of at most `n` bytes, which are at least one. Nothing more comes in at the end
of the list. -/
def Socket.read (socket : Socket) (n : ℕ) : Option (List UInt8) × Socket :=
  if socket.state ≠ .connected then (none, socket)
  else
    match socket.incoming.dropWhile (· = .later) with
    | [] => (none, { socket with incoming := [] })
    | .timeout :: rest => (none, { socket with incoming := rest })
    | .lost :: rest => (none, { state := .disconnected, incoming := rest })
    | incoming => (some (available n incoming).1,
      { socket with incoming := (available n incoming).2 })

/-- Nothing is lost between what is there and what is left. -/
theorem available_eq (n : ℕ) (incoming : List Incoming) :
    incoming = (available n incoming).1.map .byte ++ (available n incoming).2 := by
  induction n generalizing incoming with
  | zero => simp [available]
  | succ n ih =>
    rcases incoming with _ | ⟨_ | _ | _ | _, rest⟩
    case cons.byte =>
      rw [available, List.map_cons, List.cons_append, ← ih]
    all_goals rfl

theorem length_available_le (n : ℕ) (incoming : List Incoming) :
    (available n incoming).1.length ≤ n := by
  induction n generalizing incoming with
  | zero => simp [available]
  | succ n ih =>
    rcases incoming with _ | ⟨_ | _ | _ | _, rest⟩
    case cons.byte =>
      rw [available, List.length_cons]
      exact Nat.succ_le_succ (ih rest)
    all_goals exact Nat.zero_le _

/-- Behind the `later`s there is no other one. -/
theorem dropWhile_later_ne (incoming rest : List Incoming) :
    incoming.dropWhile (· = .later) ≠ .later :: rest := by
  intro h
  have hhead := List.head_dropWhile_not (p := (· = Incoming.later)) (l := incoming)
    (by rw [h]; exact List.cons_ne_nil _ _)
  simp [h] at hhead

/-- What is read was at the beginning of what comes in. -/
theorem Socket.read_some {socket socket' : Socket} {n : ℕ} {bytes : List UInt8}
    (h : socket.read n = (some bytes, socket')) :
    socket.state = .connected ∧ socket'.state = .connected ∧ bytes.length ≤ n ∧
      socket.incoming.dropWhile (· = .later) = bytes.map .byte ++ socket'.incoming ∧
      (0 < n → bytes ≠ []) := by
  rw [Socket.read] at h
  split_ifs at h with hstate
  · simp at h
  split at h
  · simp at h
  · simp at h
  · simp at h
  · next incoming hnil htimeout hlost =>
    obtain ⟨hbytes, rfl⟩ := Prod.mk.inj h
    obtain rfl := Option.some.inj hbytes
    refine ⟨not_not.mp hstate, not_not.mp hstate, length_available_le _ _, available_eq _ _,
      fun hn ↦ ?_⟩
    rcases hincoming : socket.incoming.dropWhile (· = .later) with _ | ⟨_ | _ | _ | _, rest⟩
    · exact absurd hincoming hnil
    · obtain ⟨n, rfl⟩ := Nat.exists_eq_succ_of_ne_zero hn.ne'
      rw [hincoming, available]
      exact List.cons_ne_nil _ _
    · exact absurd hincoming (dropWhile_later_ne _ rest)
    · exact absurd hincoming (htimeout rest)
    · exact absurd hincoming (hlost rest)

/-- A call consumes something. -/
theorem Socket.length_read {socket socket' : Socket} {n : ℕ} {bytes : List UInt8}
    (h : socket.read n = (some bytes, socket')) (hn : 0 < n) :
    socket'.incoming.length < socket.incoming.length := by
  obtain ⟨-, -, -, heq, hbytes⟩ := Socket.read_some h
  have hlength := congrArg List.length heq
  have hdrop := (List.dropWhile_sublist (l := socket.incoming) (· = Incoming.later)).length_le
  have hpos := List.length_pos_iff.mpr (hbytes hn)
  rw [List.length_append, List.length_map] at hlength
  omega

/-! ## Reading a package -/

/-- `getPackageLength`, in network byte order. -/
def getPackageLength (buf : List UInt8) : UInt64 := UInt64.ofNat (number (buf.take 2))

/-- The variables of the loop. -/
structure Reading where
  buf : List UInt8
  pos : ℕ
  remainder : UInt64
  initial : Bool
  total : ℕ
deriving DecidableEq, Repr

/-- The buffer behind a call that wrote at `pos`. -/
def overwrite (buf : List UInt8) (pos : ℕ) (bytes : List UInt8) : List UInt8 :=
  buf.take pos ++ bytes ++ buf.drop (pos + bytes.length)

/-- The loop of `URStream::read`. It is undefined where something is written behind the buffer. -/
def URStream.readLoop (reading : Reading) (socket : Socket) : Option (Bool × Reading × Socket) :=
  if _hremainder : reading.remainder = 0 then some (true, reading, socket)
  else
    match _hread : socket.read reading.remainder.toNat with
    | (none, socket) => some (false, reading, socket)
    | (some bytes, socket') =>
      if reading.buf.length < reading.pos + bytes.length then none
      else
        let buf := overwrite reading.buf reading.pos bytes
        -- the size is taken even if its second byte has not come in
        let remainder := if reading.initial then getPackageLength buf else reading.remainder
        if reading.initial ∧ buf.length - 2 ≤ remainder.toNat then
          some (false, { reading with buf, remainder }, socket')
        else
          URStream.readLoop
            { buf
              pos := reading.pos + bytes.length
              remainder := remainder - UInt64.ofNat bytes.length
              initial := false
              total := reading.total + bytes.length }
            socket'
termination_by socket.incoming.length
decreasing_by
  exact Socket.length_read _hread (Nat.pos_of_ne_zero fun h ↦ _hremainder (UInt64.toNat_inj.mp h))

/-- `URStream::read` into a buffer, with the number of bytes that is counted on. -/
def URStream.read (buf : List UInt8) (total : ℕ) (socket : Socket) :
    Option (Bool × Reading × Socket) :=
  URStream.readLoop { buf, pos := 0, remainder := 2, initial := true, total } socket

/-! ## What the loop does

Behind the size, only the bytes before the next gap matter, and not how the calls cut them:
`upToGap` gives them, and a call takes the first ones away (`Socket.upToGap_read`). So both results
about the loop, that it reads as many bytes as remained (`readLoop_of_le`) and when it writes behind
the buffer (`readLoop_eq_none_iff`), are inductions on what comes in that take one call off in front
(`readLoop_cases`). -/

/-- The bytes before the next gap, wherever they are cut. -/
def upToGap : List Incoming → List UInt8
  | [] => []
  | .byte byte :: incoming => byte :: upToGap incoming
  | .later :: incoming => upToGap incoming
  | .timeout :: _ => []
  | .lost :: _ => []

/-- What comes in behind the first `n` bytes. -/
def after : ℕ → List Incoming → List Incoming
  | n + 1, .byte _ :: incoming => after n incoming
  | n + 1, .later :: incoming => after (n + 1) incoming
  | _, incoming => incoming

@[simp] theorem upToGap_map_append (bytes : List UInt8) (incoming : List Incoming) :
    upToGap (bytes.map .byte ++ incoming) = bytes ++ upToGap incoming := by
  induction bytes with
  | nil => rfl
  | cons byte bytes ih => rw [List.map_cons, List.cons_append, upToGap, ih, List.cons_append]

/-- A `later` is no gap. -/
@[simp] theorem upToGap_dropWhile (incoming : List Incoming) :
    upToGap (incoming.dropWhile (· = .later)) = upToGap incoming := by
  induction incoming with
  | nil => rfl
  | cons first incoming ih =>
    rcases first with _ | _ | _ | _
    case later => exact ih
    all_goals rfl

@[simp] theorem after_zero (incoming : List Incoming) : after 0 incoming = incoming := by
  rw [after]
  all_goals simp

@[simp] theorem after_map_append (bytes : List UInt8) (incoming : List Incoming) (n : ℕ) :
    after (bytes.length + n) (bytes.map .byte ++ incoming) = after n incoming := by
  induction bytes with
  | nil => rw [List.length_nil, zero_add, List.map_nil, List.nil_append]
  | cons byte bytes ih =>
    rw [List.length_cons, Nat.succ_add, List.map_cons, List.cons_append, after, ih]

theorem after_dropWhile {n : ℕ} (hn : 0 < n) (incoming : List Incoming) :
    after n (incoming.dropWhile (· = .later)) = after n incoming := by
  obtain ⟨n, rfl⟩ := Nat.exists_eq_succ_of_ne_zero hn.ne'
  induction incoming with
  | nil => rfl
  | cons first incoming ih =>
    rcases first with _ | _ | _ | _
    case later => exact ih
    all_goals rfl

/-- The bytes of one call are the first ones before the gap. -/
theorem Socket.upToGap_read {incoming : List Incoming} {socket : Socket} {n : ℕ}
    {bytes : List UInt8} (h : Socket.read ⟨.connected, incoming⟩ n = (some bytes, socket)) :
    upToGap incoming = bytes ++ upToGap socket.incoming := by
  obtain ⟨-, -, -, heq, -⟩ := Socket.read_some h
  rw [← upToGap_dropWhile, heq, upToGap_map_append]

/-- What is left by one call and the ones behind it. -/
theorem Socket.after_read {incoming : List Incoming} {socket : Socket} {n : ℕ}
    {bytes : List UInt8} (h : Socket.read ⟨.connected, incoming⟩ n = (some bytes, socket)) {k : ℕ}
    (hk : 0 < bytes.length + k) : after (bytes.length + k) incoming = after k socket.incoming := by
  obtain ⟨-, -, -, heq, -⟩ := Socket.read_some h
  rw [← after_dropWhile hk, heq, after_map_append]

/-- A call fails at a gap. -/
theorem Socket.upToGap_of_read_none {incoming : List Incoming} {socket : Socket} {n : ℕ}
    (h : Socket.read ⟨.connected, incoming⟩ n = (none, socket)) : upToGap incoming = [] := by
  rw [Socket.read, if_neg (by simp)] at h
  split at h
  · next hnil => rw [← upToGap_dropWhile, hnil, upToGap]
  · next hrest => rw [← upToGap_dropWhile, hrest, upToGap]
  · next hrest => rw [← upToGap_dropWhile, hrest, upToGap]
  · exact nomatch (Prod.mk.inj h).1

theorem length_overwrite {buf bytes : List UInt8} {pos : ℕ} (h : pos + bytes.length ≤ buf.length) :
    (overwrite buf pos bytes).length = buf.length := by
  rw [overwrite, List.length_append, List.length_append, List.length_drop,
    List.length_take_of_le (by omega)]
  omega

/-- Two calls write what one would. -/
theorem overwrite_overwrite {buf first second : List UInt8} {pos : ℕ}
    (h : pos + first.length ≤ buf.length) :
    overwrite (overwrite buf pos first) (pos + first.length) second
      = overwrite buf pos (first ++ second) := by
  have htake : (buf.take pos ++ first).length = pos + first.length := by
    rw [List.length_append, List.length_take_of_le (by omega)]
  rw [overwrite, overwrite, overwrite, List.take_left' htake, ← List.drop_drop,
    List.drop_left' htake, List.drop_drop, List.length_append, List.append_assoc _ first second,
    add_assoc]

/-- The count does not wrap as long as no more is read than remained. -/
theorem toNat_sub_ofNat {remainder : UInt64} {k : ℕ} (h : k ≤ remainder.toNat) :
    (remainder - UInt64.ofNat k).toNat = remainder.toNat - k := by
  have hk : (UInt64.ofNat k).toNat = k :=
    UInt64.toNat_ofNat_of_lt' (h.trans_lt remainder.toNat_lt)
  rw [UInt64.toNat_sub_of_le _ _ (by rwa [UInt64.le_iff_toNat_le, hk]), hk]

/-- One iteration behind the size. -/
theorem URStream.readLoop_cases (buf : List UInt8) (pos : ℕ) {remainder : UInt64}
    (hremainder : remainder ≠ 0) (total : ℕ) (incoming : List Incoming) :
    (upToGap incoming = [] ∧ ∃ socket, URStream.readLoop ⟨buf, pos, remainder, false, total⟩
      ⟨.connected, incoming⟩ = some (false, ⟨buf, pos, remainder, false, total⟩, socket)) ∨
    ∃ bytes rest, rest.length < incoming.length ∧ bytes.length ≤ remainder.toNat ∧
      upToGap incoming = bytes ++ upToGap rest ∧
      (∀ k, 0 < bytes.length + k → after (bytes.length + k) incoming = after k rest) ∧
      URStream.readLoop ⟨buf, pos, remainder, false, total⟩ ⟨.connected, incoming⟩ =
        if buf.length < pos + bytes.length then none
        else URStream.readLoop ⟨overwrite buf pos bytes, pos + bytes.length,
          remainder - UInt64.ofNat bytes.length, false, total + bytes.length⟩
          ⟨.connected, rest⟩ := by
  have hpos : 0 < remainder.toNat := Nat.pos_of_ne_zero fun h ↦
    hremainder (UInt64.toNat_inj.mp h)
  rw [URStream.readLoop, dif_neg hremainder]
  split
  · next socket hread => exact .inl ⟨Socket.upToGap_of_read_none hread, socket, rfl⟩
  · next bytes socket hread =>
    obtain ⟨-, hstate, hle, -, -⟩ := Socket.read_some hread
    have hlength := Socket.length_read hread hpos
    have hgap := Socket.upToGap_read hread
    have hafter : ∀ k, 0 < bytes.length + k →
        after (bytes.length + k) incoming = after k socket.incoming :=
      fun k hk ↦ Socket.after_read hread hk
    obtain ⟨state, rest⟩ := socket
    obtain rfl := hstate
    refine .inr ⟨bytes, rest, hlength, hle, hgap, hafter, ?_⟩
    simp only [Bool.false_eq_true, false_and, if_false]

/-- Behind the size, the loop reads on until nothing remains. -/
theorem URStream.readLoop_of_le (buf : List UInt8) (pos : ℕ) (remainder : UInt64) (total : ℕ)
    (incoming : List Incoming) (henough : remainder.toNat ≤ (upToGap incoming).length)
    (hfit : pos + remainder.toNat ≤ buf.length) :
    URStream.readLoop ⟨buf, pos, remainder, false, total⟩ ⟨.connected, incoming⟩ = some (true,
      ⟨overwrite buf pos ((upToGap incoming).take remainder.toNat), pos + remainder.toNat, 0, false,
        total + remainder.toNat⟩, ⟨.connected, after remainder.toNat incoming⟩) := by
  induction hlength : incoming.length using Nat.strong_induction_on
    generalizing buf pos remainder total incoming with
  | _ length ih =>
    by_cases hremainder : remainder = 0
    · obtain rfl := hremainder
      rw [URStream.readLoop, dif_pos rfl]
      simp [overwrite]
    · have hpos : 0 < remainder.toNat := Nat.pos_of_ne_zero fun h ↦
        hremainder (UInt64.toNat_inj.mp h)
      obtain ⟨hgap, -⟩ | ⟨bytes, rest, hlt, hle, hgap, hafter, hloop⟩ :=
        URStream.readLoop_cases buf pos hremainder total incoming
      · rw [hgap] at henough
        exact absurd henough (Nat.not_le_of_lt hpos)
      · obtain ⟨k, hk⟩ := Nat.exists_eq_add_of_le hle
        have hsub : (remainder - UInt64.ofNat bytes.length).toNat = k := by
          rw [toNat_sub_ofNat hle, hk, Nat.add_sub_cancel_left]
        rw [hgap, List.length_append, hk] at henough
        rw [hloop, if_neg (by omega), ih rest.length (by omega) _ _ _ _ rest (by omega)
          (by rw [length_overwrite (by omega)]; omega) rfl, hsub, hk, hafter k (by omega), hgap,
          overwrite_overwrite (by omega), List.take_length_add_append, add_assoc, add_assoc]

/-- Behind the size, the loop writes behind the buffer exactly if there are more bytes before the
next gap than have room, and as many remain. -/
theorem URStream.readLoop_eq_none_iff (buf : List UInt8) (pos : ℕ) (remainder : UInt64) (total : ℕ)
    (incoming : List Incoming) (hpos : pos ≤ buf.length) :
    URStream.readLoop ⟨buf, pos, remainder, false, total⟩ ⟨.connected, incoming⟩ = none ↔
      buf.length < pos + min remainder.toNat (upToGap incoming).length := by
  induction hlength : incoming.length using Nat.strong_induction_on
    generalizing buf pos remainder total incoming with
  | _ length ih =>
    by_cases hremainder : remainder = 0
    · obtain rfl := hremainder
      rw [URStream.readLoop, dif_pos rfl]
      simp [hpos]
    · obtain ⟨hgap, socket, hloop⟩ | ⟨bytes, rest, hlt, hle, hgap, -, hloop⟩ :=
        URStream.readLoop_cases buf pos hremainder total incoming
      · rw [hloop, hgap]
        simp [hpos]
      · rw [hloop, hgap, List.length_append]
        split_ifs with hroom
        · simp only [true_iff]
          omega
        -- the room and the bytes become less by the same number
        · rw [ih rest.length (by omega) _ _ _ _ rest (by rw [length_overwrite (by omega)]; omega)
            rfl, length_overwrite (by omega), toNat_sub_ofNat hle]
          omega

/-! ### The size

The first call reads at most two bytes, and the loop goes on with the size that it finds then
(`read_cases`). This is the only place where the count can wrap. -/

/-- The bytes of the first call. -/
def firstBytes (incoming : List Incoming) : List UInt8 :=
  (available 2 (incoming.dropWhile (· = .later))).1

/-- The size that is found behind the first call. -/
def sizeFound (buf : List UInt8) (incoming : List Incoming) : UInt64 :=
  getPackageLength (overwrite buf 0 (firstBytes incoming))

/-- The first call, from which the size is taken. -/
theorem URStream.read_cases {buf : List UInt8} (hbuf : 2 ≤ buf.length) (total : ℕ)
    (incoming : List Incoming) :
    (upToGap incoming = [] ∧ firstBytes incoming = [] ∧ ∃ socket,
      URStream.read buf total ⟨.connected, incoming⟩ =
        some (false, ⟨buf, 0, 2, true, total⟩, socket)) ∨
    ∃ rest, firstBytes incoming ≠ [] ∧ (firstBytes incoming).length ≤ 2 ∧
      incoming.dropWhile (· = .later) = (firstBytes incoming).map .byte ++ rest ∧
      URStream.read buf total ⟨.connected, incoming⟩ =
        if buf.length - 2 ≤ (sizeFound buf incoming).toNat then
          some (false, ⟨overwrite buf 0 (firstBytes incoming), 0, sizeFound buf incoming,
            true, total⟩, ⟨.connected, rest⟩)
        else URStream.readLoop ⟨overwrite buf 0 (firstBytes incoming), (firstBytes incoming).length,
          sizeFound buf incoming - UInt64.ofNat (firstBytes incoming).length, false,
          total + (firstBytes incoming).length⟩ ⟨.connected, rest⟩ := by
  rw [URStream.read, URStream.readLoop, dif_neg (show ¬(2 : UInt64) = 0 by decide)]
  split
  · next socket hread =>
    have hgap := Socket.upToGap_of_read_none hread
    refine .inl ⟨hgap, ?_, socket, rfl⟩
    have heq := congrArg upToGap (available_eq 2 (incoming.dropWhile (· = .later)))
    rw [upToGap_dropWhile, hgap, upToGap_map_append] at heq
    exact (List.append_eq_nil_iff.mp heq.symm).1
  · next bytes socket hread =>
    obtain ⟨-, hstate, hle, heq, hbytes⟩ := Socket.read_some hread
    obtain ⟨state, rest⟩ := socket
    obtain rfl := hstate
    have hfirst : firstBytes incoming = bytes := by
      rw [Socket.read, if_neg (by simp)] at hread
      split at hread
      · exact nomatch (Prod.mk.inj hread).1
      · exact nomatch (Prod.mk.inj hread).1
      · exact nomatch (Prod.mk.inj hread).1
      · exact Option.some.inj (Prod.mk.inj hread).1
    have hlength : (overwrite buf 0 bytes).length = buf.length :=
      length_overwrite (by rw [zero_add]; exact hle.trans hbuf)
    rw [sizeFound, hfirst]
    refine .inr ⟨rest, hbytes (show 0 < (2 : UInt64).toNat by decide), hle, heq, ?_⟩
    rw [if_neg (by dsimp only; rw [zero_add, not_lt]; exact hle.trans hbuf)]
    simp only [true_and, if_true, hlength, zero_add]

/-- Nothing is written behind the buffer, unless the size is smaller than the bytes it was read with
and more bytes come in without a gap than have room. -/
theorem URStream.read_eq_none_iff {buf : List UInt8} {total : ℕ} {socket : Socket}
    (hbuf : 4 ≤ buf.length) (hmax : buf.length + 2 ≤ 2 ^ 64) :
    URStream.read buf total socket = none ↔ socket.state = .connected ∧
      (sizeFound buf socket.incoming).toNat < (firstBytes socket.incoming).length ∧
      buf.length < (upToGap socket.incoming).length := by
  obtain ⟨state, incoming⟩ := socket
  by_cases hstate : state = .connected
  · obtain rfl := hstate
    obtain ⟨hgap, hfirst, socket, hread⟩ | ⟨rest, hfirst, hle, heq, hread⟩ :=
      URStream.read_cases (show 2 ≤ buf.length by omega) total incoming
    · rw [hread, hfirst]
      simp
    · have hlength : (overwrite buf 0 (firstBytes incoming)).length = buf.length :=
        length_overwrite (by omega)
      have hgap : (upToGap incoming).length
          = (firstBytes incoming).length + (upToGap rest).length := by
        rw [← upToGap_dropWhile, heq, upToGap_map_append, List.length_append]
      have hpos := List.length_pos_iff.mpr hfirst
      rw [hread, hgap]
      simp only [true_and]
      split_ifs with hsize
      · simp only [false_iff]
        omega
      · rw [URStream.readLoop_eq_none_iff _ _ _ _ _ (by omega), hlength]
        -- the count wraps exactly where the size is too small
        rcases Nat.lt_or_ge (sizeFound buf incoming).toNat (firstBytes incoming).length
          with hlt | hge
        · have hwrap : 2 ^ 64 - 2 ≤
              (sizeFound buf incoming - UInt64.ofNat (firstBytes incoming).length).toNat := by
            rw [UInt64.toNat_sub, UInt64.toNat_ofNat_of_lt' (by simp [UInt64.size]; omega)]
            omega
          omega
        · rw [toNat_sub_ofNat hge]
          omega
  · rw [URStream.read, URStream.readLoop, dif_neg (show ¬(2 : UInt64) = 0 by decide)]
    split
    · simp [hstate]
    · next bytes socket hread => exact absurd (Socket.read_some hread).1 hstate

/-- A size of zero, and five bytes for a buffer of four. -/
theorem read_eq_none_iff_fourBytes :
    let socket : Socket := ⟨.connected, List.replicate 5 (.byte 0)⟩
    URStream.read [0, 0, 0, 0] 0 socket = none ↔ socket.state = .connected ∧
      (sizeFound [0, 0, 0, 0] socket.incoming).toNat < (firstBytes socket.incoming).length ∧
      [(0 : UInt8), 0, 0, 0].length < (upToGap socket.incoming).length :=
  URStream.read_eq_none_iff (by decide) (by decide)

/-! ## The producer

`tryGetImpl` reads again where nothing came in in time, from the front of the buffer and with a new
size. What was read of a package before the timeout is lost, so packages have to come in whole. -/

/-- What `tryGet` ends with: a package, a failure of the parser, the loss of the connection, a stop,
nothing as long as nothing comes in, or undefined behaviour. -/
inductive Produced (α : Type)
  | product (product : α)
  | refused
  | lost
  | stopped
  | waiting
  | undefined
deriving DecidableEq, Repr

/-- `URProducer::tryGetImpl` with a callback for lost connections. `read` is not reset where it
reads again. -/
def URProducer.tryGetImpl {α : Type} (parse : List UInt8 → Option α) (running : Bool)
    (buf : List UInt8) (read : ℕ) (socket : Socket) : Produced α × Socket :=
  match URStream.read buf read socket with
  | none => (.undefined, socket)
  | some (true, reading, socket) =>
    if reading.buf.length < reading.total then (.undefined, socket)
    else
      match parse (reading.buf.take reading.total) with
      | some product => (.product product, socket)
      | none => (.refused, socket)
  | some (false, reading, socket') =>
    if ¬running then (.stopped, socket')
    else if socket'.state = .connected then
      if socket'.incoming.length < socket.incoming.length then
        URProducer.tryGetImpl parse running reading.buf reading.total socket'
      else (.waiting, socket')
    else (.lost, socket')
termination_by socket.incoming.length

/-- One call after the other. Each one has a new buffer, whose bytes may be any, and its own
package to parse into. -/
def URProducer.tryGets {α : Type} (running : Bool) :
    List (List UInt8 × (List UInt8 → Option α)) → Socket → List (Produced α) × Socket
  | [], socket => ([], socket)
  | (buf, parse) :: calls, socket =>
    let (first, socket) := URProducer.tryGetImpl parse running buf 0 socket
    let (others, socket) := URProducer.tryGets running calls socket
    (first :: others, socket)

/-! ## Whole packages

A package comes in whole if it is what comes first before the next gap, and its size is what the
first call returns. Then the size that is found is its length, the loop reads what is left of it
(`read_whole`), and the next package begins where this one ends (`tryGets_whole`). -/

/-- Between packages. -/
def isPause (incoming : Incoming) : Bool := incoming = .later || incoming = .timeout

/-- Packages come in one after the other. There may be pauses between them, but none inside of them,
and the two bytes of a size come in together. -/
def ComeWhole : List (List UInt8) → List Incoming → Prop
  | [], _ => True
  | package :: packages, incoming =>
    package <+: upToGap (incoming.dropWhile isPause) ∧
      (firstBytes (incoming.dropWhile isPause)).length = 2 ∧
      ComeWhole packages (after package.length (incoming.dropWhile isPause))

/-- What comes in behind them. -/
def behind : List (List UInt8) → List Incoming → List Incoming
  | [], incoming => incoming
  | package :: packages, incoming =>
    behind packages (after package.length (incoming.dropWhile isPause))

/-- The size of a package is in its first two bytes. -/
def Sized (package : List UInt8) : Prop :=
  2 ≤ package.length ∧ number (package.take 2) = package.length

/-- A package that comes in whole is read. -/
theorem URStream.read_whole {buf package : List UInt8} {incoming : List Incoming}
    (hsized : Sized package) (hbuf : package.length + 2 < buf.length)
    (hpackage : package <+: upToGap incoming) (hfirst : (firstBytes incoming).length = 2) :
    URStream.read buf 0 ⟨.connected, incoming⟩ = some (true,
      ⟨overwrite buf 0 package, package.length, 0, false, package.length⟩,
      ⟨.connected, after package.length incoming⟩) := by
  obtain ⟨hmin, hsize⟩ := hsized
  obtain ⟨tail, htail⟩ := hpackage
  obtain ⟨hgap, -⟩ | ⟨rest, -, -, heq, hread⟩ :=
    URStream.read_cases (show 2 ≤ buf.length by omega) 0 incoming
  · rw [hgap, List.append_eq_nil_iff] at htail
    rw [htail.1] at hmin
    exact absurd hmin (by simp)
  · obtain ⟨body, rfl⟩ : firstBytes incoming <+: package := by
      refine List.prefix_of_prefix_length_le (show _ <+: upToGap incoming from ?_)
        ⟨tail, htail⟩ (by omega)
      rw [← upToGap_dropWhile, heq, upToGap_map_append]
      exact List.prefix_append _ _
    set first := firstBytes incoming with hdef
    have hrest : body ++ tail = upToGap rest := by
      rw [← upToGap_dropWhile, heq, upToGap_map_append, List.append_assoc] at htail
      exact List.append_cancel_left htail
    -- both bytes of the size are there, so it is the length of the package
    have hfound : sizeFound buf incoming = UInt64.ofNat (first ++ body).length := by
      rw [sizeFound, ← hdef, getPackageLength, overwrite, List.take_zero, List.nil_append,
        List.take_left' hfirst, ← hsize, List.take_left' hfirst]
    have htoNat : (sizeFound buf incoming).toNat = (first ++ body).length := by
      have hlt := number_lt ((first ++ body).take 2)
      rw [hsize, List.length_take_of_le hmin] at hlt
      rw [hfound, UInt64.toNat_ofNat_of_lt' (hlt.trans (by decide))]
    have hsub : (sizeFound buf incoming - UInt64.ofNat first.length).toNat = body.length := by
      rw [toNat_sub_ofNat (by rw [htoNat, List.length_append]; omega), htoNat, List.length_append,
        Nat.add_sub_cancel_left]
    rw [hread, if_neg (by omega), URStream.readLoop_of_le _ _ _ _ _
      (by rw [hsub, ← hrest, List.length_append]; omega)
      (by rw [hsub, length_overwrite (by omega)]; rw [List.length_append] at hbuf; omega), hsub,
      ← hrest, List.take_left, ← Nat.zero_add first.length, overwrite_overwrite (by omega),
      List.length_append, zero_add, ← after_dropWhile (n := first.length + body.length) (by omega)
      incoming, heq, after_map_append, zero_add]

/-- The loop ends well with as many bytes as remained. -/
theorem URStream.readLoop_true {buf : List UInt8} {pos : ℕ} {remainder : UInt64} {total : ℕ}
    {incoming : List Incoming} {reading : Reading} {socket : Socket}
    (h : URStream.readLoop ⟨buf, pos, remainder, false, total⟩ ⟨.connected, incoming⟩
      = some (true, reading, socket)) :
    reading.total = total + remainder.toNat ∧ reading.buf.length = buf.length := by
  induction hlength : incoming.length using Nat.strong_induction_on
    generalizing buf pos remainder total incoming with
  | _ length ih =>
    by_cases hremainder : remainder = 0
    · obtain rfl := hremainder
      rw [URStream.readLoop, dif_pos rfl] at h
      rw [← (Prod.mk.inj (Prod.mk.inj (Option.some.inj h)).2).1]
      exact ⟨rfl, rfl⟩
    · obtain ⟨-, socket, hloop⟩ | ⟨bytes, rest, hlt, hle, -, -, hloop⟩ :=
        URStream.readLoop_cases buf pos hremainder total incoming
      · rw [hloop] at h
        exact nomatch (Prod.mk.inj (Option.some.inj h)).1
      · rw [hloop] at h
        split_ifs at h with hroom
        obtain ⟨htotal, hbuf⟩ := ih rest.length (hlength ▸ hlt) h rfl
        rw [htotal, hbuf, toNat_sub_ofNat hle, length_overwrite (not_lt.mp hroom)]
        exact ⟨by omega, rfl⟩

theorem exists_cons_cons {bytes : List UInt8} (h : 2 ≤ bytes.length) :
    ∃ first second rest, bytes = first :: second :: rest := by
  rcases bytes with _ | ⟨first, _ | ⟨second, rest⟩⟩
  · exact absurd h (by simp)
  · exact absurd h (by simp)
  · exact ⟨first, second, rest, rfl⟩

/-! ### A size that is cut in two

The first call returns one byte, and the size is made of it and of the old second byte of the
buffer. If that is another one than the package has there, the loop reads another number of bytes,
and what is read has not the length of the package. -/

/-- After a single byte, the second byte of the size is the one that the buffer had there. -/
theorem sizeFound_of_firstBytes {incoming : List Incoming} {head : UInt8}
    (hfirst : firstBytes incoming = [head]) (other old : UInt8) (others : List UInt8) :
    (sizeFound (other :: old :: others) incoming).toNat = head.toNat * 256 + old.toNat := by
  have hlt : number [head, old] < 256 ^ 2 := number_lt [head, old]
  rw [sizeFound, hfirst, getPackageLength, overwrite]
  exact (UInt64.toNat_ofNat_of_lt' (hlt.trans (by decide))).trans (by simp [number])

/-- Where the two bytes of a size do not come in together, the second one is taken from what was in
the buffer before. The package is read exactly if that is the same byte. -/
theorem URStream.read_cut_iff {buf package : List UInt8} {incoming : List Incoming}
    (hsized : Sized package) (hbuf : package.length + 2 < buf.length)
    (hpackage : package <+: upToGap incoming) (hfirst : (firstBytes incoming).length = 1) :
    (∃ reading socket, URStream.read buf 0 ⟨.connected, incoming⟩ = some (true, reading, socket) ∧
      reading.buf.take reading.total = package) ↔ buf[1]? = package[1]? := by
  obtain ⟨hmin, hsize⟩ := hsized
  obtain ⟨tail, htail⟩ := hpackage
  obtain ⟨hgap, -⟩ | ⟨rest, -, -, heq, hread⟩ :=
    URStream.read_cases (show 2 ≤ buf.length by omega) 0 incoming
  · rw [hgap, List.append_eq_nil_iff] at htail
    rw [htail.1] at hmin
    exact absurd hmin (by simp)
  obtain ⟨first, hfirst⟩ := List.length_eq_one_iff.mp hfirst
  rw [← upToGap_dropWhile, heq, upToGap_map_append, hfirst] at htail
  obtain ⟨head, low, body, rfl⟩ := exists_cons_cons (show 2 ≤ package.length by omega)
  obtain ⟨other, old, others, rfl⟩ := exists_cons_cons (show 2 ≤ buf.length by omega)
  obtain ⟨rfl, hrest⟩ := List.cons.inj htail
  have hrest : low :: (body ++ tail) = upToGap rest := hrest
  have hsize : head.toNat * 256 + low.toNat = body.length + 2 := by
    rw [List.length_cons, List.length_cons] at hsize
    rw [← hsize]
    simp [number]
  have hfound := sizeFound_of_firstBytes hfirst other old others
  simp only [List.length_cons] at hbuf
  have hlow := low.toNat_lt
  have hold := old.toNat_lt
  rw [hfirst] at hread
  simp only [List.getElem?_cons_succ, List.getElem?_cons_zero, Option.some.injEq]
  constructor
  · rintro ⟨reading, socket, h, htake⟩
    rw [hread] at h
    split_ifs at h with hlarge
    · exact absurd (Prod.mk.inj (Option.some.inj h)).1 Bool.false_ne_true
    -- as many bytes were read as the size says, so the two sizes are equal
    · obtain ⟨htotal, hlength⟩ := URStream.readLoop_true h
      have hsub := UInt64.toNat_sub (sizeFound (other :: old :: others) incoming) (UInt64.ofNat 1)
      rw [hfound, show (UInt64.ofNat 1).toNat = 1 from rfl] at hsub
      rw [List.length_singleton, hsub] at htotal
      rw [length_overwrite (by simp), List.length_cons, List.length_cons] at hlength
      have htake := congrArg List.length htake
      rw [List.length_take, hlength, List.length_cons, List.length_cons] at htake
      rw [← UInt8.toNat_inj]
      omega
  · rintro rfl
    have hsub : (sizeFound (other :: old :: others) incoming - UInt64.ofNat 1).toNat
        = body.length + 1 := by
      rw [toNat_sub_ofNat (by omega), hfound]
      omega
    have hloop := URStream.readLoop_of_le (overwrite (other :: old :: others) 0 [head]) 1
      (sizeFound (other :: old :: others) incoming - UInt64.ofNat 1) (0 + 1) rest
      (by rw [hsub, ← hrest]; simp)
      (by rw [hsub, length_overwrite (by simp)]; simp; omega)
    rw [if_neg (by simp; omega)] at hread
    refine ⟨_, _, hread.trans hloop, ?_⟩
    have hover : overwrite (overwrite (other :: old :: others) 0 [head]) (0 + 1) (old :: body)
        = overwrite (other :: old :: others) 0 ([head] ++ old :: body) :=
      overwrite_overwrite (by simp)
    dsimp only
    rw [hsub, ← hrest, ← List.cons_append, List.take_left' (by simp), ← Nat.zero_add 1, hover,
      overwrite, List.take_zero, List.nil_append, List.singleton_append,
      List.take_left' (by simp; omega)]

/-- The buffer holds zeros, and so the size that is found is zero. -/
theorem read_cut_iff_threeBytes :
    let incoming : List Incoming := [.byte 0, .later, .byte 3, .byte 7]
    (∃ reading socket, URStream.read (List.replicate 8 0) 0 ⟨.connected, incoming⟩
        = some (true, reading, socket) ∧ reading.buf.take reading.total = [0, 3, 7]) ↔
      (List.replicate 8 (0 : UInt8))[1]? = [(0 : UInt8), 3, 7][1]? :=
  URStream.read_cut_iff ⟨by decide, by decide⟩ (by decide) (by decide) (by decide)

/-! ### One package behind the other -/

theorem dropWhile_isPause (incoming : List Incoming) :
    (incoming.dropWhile (· = .later)).dropWhile isPause = incoming.dropWhile isPause := by
  induction incoming with
  | nil => rfl
  | cons first incoming ih =>
    rcases first with _ | _ | _ | _
    case later => exact ih
    all_goals rfl

/-- Where nothing comes in in time, the buffer stays as it is. -/
theorem URStream.read_timeout (buf : List UInt8) {incoming rest : List Incoming}
    (h : incoming.dropWhile (· = .later) = .timeout :: rest) :
    URStream.read buf 0 ⟨.connected, incoming⟩
      = some (false, ⟨buf, 0, 2, true, 0⟩, ⟨.connected, rest⟩) := by
  have hnone : Socket.read ⟨.connected, incoming⟩ 2 = (none, ⟨.connected, rest⟩) := by
    rw [Socket.read, if_neg (by simp)]
    simp only [h]
  rw [URStream.read, URStream.readLoop, dif_neg (show ¬(2 : UInt64) = 0 by decide)]
  split
  · next socket hread => rw [(Prod.mk.inj (hread.symm.trans hnone)).2]
  · next bytes socket hread => exact nomatch (Prod.mk.inj (hread.symm.trans hnone)).1

/-- The producer hands over what the parser makes of a package that comes in whole. -/
theorem URProducer.tryGetImpl_whole {α : Type} {parse : List UInt8 → Option α}
    {buf package : List UInt8} (hsized : Sized package) (hbuf : package.length + 2 < buf.length)
    (incoming : List Incoming) (hpackage : package <+: upToGap (incoming.dropWhile isPause))
    (hfirst : (firstBytes (incoming.dropWhile isPause)).length = 2) :
    URProducer.tryGetImpl parse true buf 0 ⟨.connected, incoming⟩ =
      ((parse package).elim .refused .product,
        ⟨.connected, after package.length (incoming.dropWhile isPause)⟩) := by
  induction hlength : incoming.length using Nat.strong_induction_on generalizing incoming with
  | _ length ih =>
    have hmin := hsized.1
    have hnil : upToGap (incoming.dropWhile isPause) ≠ [] := by
      intro h
      rw [h, List.prefix_nil] at hpackage
      rw [hpackage] at hmin
      exact absurd hmin (by simp)
    rw [← dropWhile_isPause] at hpackage hfirst hnil ⊢
    rcases hincoming : incoming.dropWhile (· = .later) with _ | ⟨_ | _ | _ | _, rest⟩
    · exact absurd (by rw [hincoming]; rfl) hnil
    · next byte =>
      have hdrop : (incoming.dropWhile (· = .later)).dropWhile isPause
          = incoming.dropWhile (· = .later) := by
        rw [hincoming]
        rfl
      rw [hdrop] at hpackage hfirst
      rw [upToGap_dropWhile] at hpackage
      rw [firstBytes, List.dropWhile_idempotent, ← firstBytes] at hfirst
      rw [hdrop, after_dropWhile (by omega), URProducer.tryGetImpl,
        URStream.read_whole hsized hbuf hpackage hfirst]
      dsimp only
      rw [if_neg (by rw [length_overwrite (by omega)]; omega), overwrite, List.take_zero,
        List.nil_append, List.take_left]
      rcases parse package <;> rfl
    · exact absurd hincoming (dropWhile_later_ne _ rest)
    -- a timeout passes between packages, and the producer reads again
    · have hread := URStream.read_timeout buf hincoming
      have hshorter : rest.length < incoming.length := by
        have hle := (List.dropWhile_sublist (l := incoming) (· = Incoming.later)).length_le
        rw [hincoming, List.length_cons] at hle
        omega
      rw [hincoming] at hpackage hfirst
      rw [hincoming, URProducer.tryGetImpl, hread]
      dsimp only
      rw [if_neg (by simp), if_pos rfl, if_pos hshorter]
      exact ih rest.length (hlength ▸ hshorter) rest hpackage hfirst rfl
    · exact absurd (by rw [hincoming]; rfl) hnil

/-- Packages that come in whole are handed over one by one. -/
theorem URProducer.tryGets_whole {α : Type}
    {calls : List ((List UInt8 × (List UInt8 → Option α)) × List UInt8)}
    (hcalls : ∀ call ∈ calls, Sized call.2 ∧ call.2.length + 2 < call.1.1.length)
    {incoming : List Incoming} (hwhole : ComeWhole (calls.map (·.2)) incoming) :
    URProducer.tryGets true (calls.map (·.1)) ⟨.connected, incoming⟩ =
      (calls.map fun call ↦ (call.1.2 call.2).elim .refused .product,
        ⟨.connected, behind (calls.map (·.2)) incoming⟩) := by
  induction calls generalizing incoming with
  | nil => rfl
  | cons call calls ih =>
    obtain ⟨⟨hsized, hbuf⟩, hcalls⟩ := List.forall_mem_cons.mp hcalls
    obtain ⟨hpackage, hfirst, hwhole⟩ := hwhole
    rw [List.map_cons, URProducer.tryGets,
      URProducer.tryGetImpl_whole hsized hbuf incoming hpackage hfirst]
    dsimp only
    rw [ih hcalls hwhole, List.map_cons, List.map_cons]
    rfl

/-! ## Data packages

A package that is serialized announces its own size (`sized_serializePackage`), and the parser takes
it apart again (`parse_of_eq_two`). -/

/-- The number of bytes a package is written in. -/
theorem length_serializePackage {package : DataPackage} {recipe : List String}
    (h : package.OfRecipe recipe) : package.serializePackage.length = package.dataSize + 4 := by
  rw [DataPackage.serializePackage, serializeHeader]
  simp only [List.length_append, length_writeWord, List.length_cons, List.length_nil,
    length_writeRecord h.ne_string, DataPackage.map_snd_types, DataPackage.dataSize]
  omega

/-- A package that is small enough for a size of two bytes announces it. -/
theorem sized_serializePackage {package : DataPackage} {recipe : List String}
    (h : package.OfRecipe recipe) (hsize : package.dataSize + 4 < 2 ^ 16) :
    Sized package.serializePackage := by
  have hpayload := toNat_payloadSize (show package.dataSize + 1 < 2 ^ 16 by omega)
  have hadd : (3 + package.payloadSize).toNat = package.dataSize + 4 := by
    rw [UInt16.toNat_add, hpayload]
    exact (Nat.mod_eq_of_lt (by simp only [UInt16.reduceToNat]; omega)).trans
      (by simp only [UInt16.reduceToNat]; omega)
  refine ⟨by rw [length_serializePackage h]; omega, ?_⟩
  rw [length_serializePackage h, DataPackage.serializePackage, serializeHeader, hadd,
    List.append_assoc, List.take_left' (length_writeWord _ _), number_writeWord (by omega)]

/-- What is read into: a buffer, and a package that was made before. -/
structure Call where
  buf : List UInt8
  filled : DataPackage

/-- Data packages of a recipe that come in whole are handed over one by one, as they were sent. -/
theorem tryGets_serializePackage {recipe : List String} {protocolVersion : UInt16}
    {sent : List (Call × DataPackage)}
    (hsent : ∀ call ∈ sent, call.2.OfRecipe recipe ∧ call.2.dataSize + 6 < 4096)
    (hcalls : ∀ call ∈ sent, call.1.buf.length = 4096 ∧ call.1.filled.OfRecipe recipe ∧
      call.1.filled.protocolVersion = 2)
    {incoming : List Incoming} (hwhole : ComeWhole (sent.map (·.2.serializePackage)) incoming) :
    (URProducer.tryGets true
      (sent.map fun call ↦ (call.1.buf, RTDEParser.parse protocolVersion call.1.filled))
      ⟨.connected, incoming⟩).1 =
      sent.map fun call ↦ .product (.data { call.2 with protocolVersion := 2 }) := by
  let calls := sent.map fun call ↦
    ((call.1.buf, RTDEParser.parse protocolVersion call.1.filled), call.2.serializePackage)
  have hfirst : calls.map (·.1) = sent.map fun call ↦
      (call.1.buf, RTDEParser.parse protocolVersion call.1.filled) := by
    rw [List.map_map]
    rfl
  have hsecond : calls.map (·.2) = sent.map (·.2.serializePackage) := by
    rw [List.map_map]
    rfl
  have hroom : ∀ call ∈ calls, Sized call.2 ∧ call.2.length + 2 < call.1.1.length := by
    intro call hcall
    obtain ⟨call, hmem, rfl⟩ := List.mem_map.mp hcall
    obtain ⟨hrecipe, hroom⟩ := hsent call hmem
    obtain ⟨hlength, -, -⟩ := hcalls call hmem
    refine ⟨sized_serializePackage hrecipe (by omega), ?_⟩
    rw [length_serializePackage hrecipe]
    exact hroom.trans_eq hlength.symm
  rw [← hfirst, URProducer.tryGets_whole hroom (by rwa [hsecond]), List.map_map]
  refine List.map_congr_left fun call hcall ↦ ?_
  obtain ⟨hrecipe, hroom⟩ := hsent call hcall
  obtain ⟨hlength, hfilled, hversion⟩ := hcalls call hcall
  rw [Function.comp_apply]
  dsimp only
  rw [parse_of_eq_two hrecipe hfilled (by omega) hversion, hversion]
  rfl

/-- A package that comes in behind a timeout and in two parts. -/
theorem tryGets_serializePackage_timestamp :
    let package : DataPackage := ⟨1, [("timestamp", ⟨.double, 5⟩)], 2⟩
    let filled : DataPackage := ⟨0, [("timestamp", ⟨.double, 0⟩)], 2⟩
    let sent : List (Call × DataPackage) := [(⟨List.replicate 4096 0, filled⟩, package)]
    let incoming := .timeout :: [0, 12, 85].map .byte ++
      .later :: [1, 0, 0, 0, 0, 0, 0, 0, 5].map .byte
    (URProducer.tryGets true
      (sent.map fun call ↦ (call.1.buf, RTDEParser.parse 1 call.1.filled)) ⟨.connected, incoming⟩).1
      = sent.map fun call ↦ .product (.data { call.2 with protocolVersion := 2 }) := by
  intro package filled sent incoming
  have hdata : initEmpty ["timestamp"] = some filled.data := by decide +kernel
  exact tryGets_serializePackage
    (List.forall_mem_singleton.mpr ⟨⟨_, hdata, rfl, rfl⟩, by decide⟩)
    (List.forall_mem_singleton.mpr ⟨List.length_replicate, ⟨_, hdata, rfl, rfl⟩, rfl⟩)
    ⟨by decide +kernel, by decide +kernel, trivial⟩

end VzletUr3e.Rtde
