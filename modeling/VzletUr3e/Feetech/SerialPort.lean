import VzletUr3e.Feetech.Common
import VzletUr3e.Library.StateError

/-!
# The serial port

`SerialPort` wraps the serial library. What the line will still deliver is part of the state: bytes
in order of arrival, silences longer than `timeout_`, and failures of the device. A write is an
event of its own, whose outcome the environment chooses.

The wrapper turns the library's exceptions into error values, with two exceptions that matter
later: `readByte` catches the timeout only, and it does not check that the port is open.
-/

namespace VzletUr3e.Feetech

open StateError

/-! ## The state -/

/-- What the line delivers next. -/
inductive RxEvent
  /-- A byte that arrives in time. -/
  | byte (b : UInt8)
  /-- No byte for longer than the timeout of one read. -/
  | silence
  /-- The device fails while it is read. -/
  | failure (what : String)
deriving DecidableEq, Repr

/-- The outcome of one write of the serial library. -/
inductive WriteOutcome
  /-- All bytes were taken. -/
  | accepted
  /-- The device failed after taking some of the bytes. -/
  | failed (sent : ℕ) (what : String)
deriving DecidableEq, Repr

structure SerialPort where
  dev : String
  isOpen : Bool
  /-- What the line still delivers. Once it is exhausted the line is silent. -/
  rx : List RxEvent
  /-- The outcome of each write, in order. -/
  outcome : ℕ → WriteOutcome
  /-- How many writes were made. -/
  writeCount : ℕ
  /-- The bytes the device has taken. -/
  tx : List UInt8

/-- How a call can end other than with a value: it returns an error, or an exception escapes it. -/
inductive Fault
  | unexpected (message : String)
  | thrown (e : Exception)
deriving DecidableEq, Repr

/-- Code that owns the port. -/
abbrev Cpp := EStateM Fault SerialPort

/-- Every write from now on is taken whole. -/
def SerialPort.AcceptsAll (port : SerialPort) : Prop :=
  ∀ k, port.writeCount ≤ k → port.outcome k = .accepted

/-! ## Errors that are passed on

The code passes an error on under a longer message. It does not touch an exception. -/

variable {σ α : Type}

/-- `if (!result) return unexpected(fmt::format(..., result.error()))`. -/
def mapUnexpected (f : String → String) (x : EStateM Fault σ α) : EStateM Fault σ α := fun s ↦
  match x s with
  | .error (.unexpected message) s' => .error (.unexpected (f message)) s'
  | r => r

@[simp] theorem mapUnexpected_eq_ok_iff {f : String → String} {x : EStateM Fault σ α} {s s' : σ}
    {a : α} : mapUnexpected f x s = .ok a s' ↔ x s = .ok a s' := by
  unfold mapUnexpected
  cases hx : x s with
  | ok b t => simp
  | error e t => cases e <;> simp

/-! ## The serial library -/

/-- How the library's read can fail. -/
inductive DeviceError
  /-- `LibSerial::ReadTimeout`. -/
  | timeout
  /-- `std::runtime_error`. -/
  | failure (what : String)
deriving DecidableEq, Repr

/-- One byte from the device. -/
def fetch : EStateM DeviceError SerialPort UInt8 := fun port ↦
  match port.rx with
  | [] => .error .timeout port
  | .byte b :: rest => .ok b { port with rx := rest }
  | .silence :: rest => .error .timeout { port with rx := rest }
  | .failure what :: rest => .error (.failure what) { port with rx := rest }

/-- `n` bytes from the device. Those taken before a timeout are gone. -/
def fetchBytes : ℕ → EStateM DeviceError SerialPort (List UInt8)
  | 0 => pure []
  | n + 1 => do
    let b ← fetch
    let bs ← fetchBytes n
    return b :: bs

/-- The text of `LibSerial::ReadTimeout`. -/
def readTimeout : String := "Read timeout"

/-! ## The operations -/

def checkPort : Cpp Unit := fun port ↦
  if port.isOpen then .ok () port
  else
    let dev := port.dev
    .error (.unexpected s!"Port [{dev}] is not open") port

def readByte : Cpp UInt8 := fun port ↦
  if port.isOpen then
    match fetch port with
    | .ok b port' => .ok b port'
    | .error .timeout port' => .error (.unexpected s!"SerialPort::read_byte [{readTimeout}]") port'
    | .error (.failure what) port' => .error (.thrown (.runtimeError what)) port'
  else .error (.thrown .notOpen) port

def readExact (n : ℕ) : Cpp (List UInt8) := fun port ↦
  match fetchBytes n port with
  | .ok bs port' => .ok bs port'
  | .error .timeout port' => .error (.unexpected s!"SerialPort::read_exact [{readTimeout}]") port'
  | .error (.failure what) port' => .error (.unexpected s!"SerialPort::read_exact [{what}]") port'

def read (n : ℕ) : Cpp (List UInt8) := do
  checkPort
  readExact n

def writeAll (buffer : List UInt8) : Cpp Unit := fun port ↦
  match port.outcome port.writeCount with
  | .accepted =>
    .ok () { port with writeCount := port.writeCount + 1, tx := port.tx ++ buffer }
  | .failed sent what =>
    .error (.unexpected s!"SerialPort::write [{what}]")
      { port with writeCount := port.writeCount + 1, tx := port.tx ++ buffer.take sent }

def write (buffer : List UInt8) : Cpp Unit := do
  checkPort
  writeAll buffer

/-! ## What each operation does -/

theorem checkPort_eq_ok_iff {port port' : SerialPort} :
    checkPort port = .ok () port' ↔ port.isOpen = true ∧ port' = port := by
  unfold checkPort
  by_cases h : port.isOpen = true
  · simp [h, eq_comm]
  · simp [h]

theorem fetch_eq_ok_iff {port port' : SerialPort} {b : UInt8} :
    fetch port = .ok b port' ↔
      ∃ rest, port.rx = .byte b :: rest ∧ port' = { port with rx := rest } := by
  unfold fetch
  cases port.rx with
  | nil => simp
  | cons e rest => cases e <;> simp [eq_comm]

theorem fetchBytes_eq_ok_iff {n : ℕ} : ∀ {port port' : SerialPort} {bs : List UInt8},
    fetchBytes n port = .ok bs port' ↔ bs.length = n ∧
      ∃ rest, port.rx = bs.map .byte ++ rest ∧ port' = { port with rx := rest } := by
  induction n with
  | zero =>
    intro port port' bs
    rw [fetchBytes, pure_apply]
    constructor
    · rintro ⟨⟩
      exact ⟨rfl, port.rx, rfl, rfl⟩
    · rintro ⟨hlen, rest, hrx, rfl⟩
      obtain rfl := List.length_eq_zero_iff.mp hlen
      rw [List.map_nil, List.nil_append] at hrx
      rw [← hrx]
  | succ n ih =>
    intro port port' bs
    rw [fetchBytes, bind_eq_ok_iff]
    constructor
    · rintro ⟨b, mid, hfetch, h⟩
      obtain ⟨rest, hrx, rfl⟩ := fetch_eq_ok_iff.mp hfetch
      obtain ⟨tail, mid, hread, hpure⟩ := bind_eq_ok_iff.mp h
      obtain ⟨hlen, rest', hrest, rfl⟩ := ih.mp hread
      cases hpure
      refine ⟨by rw [List.length_cons, hlen], rest', ?_, rfl⟩
      rw [hrx, List.map_cons, List.cons_append, ← hrest]
    · rintro ⟨hlen, rest', hrx, rfl⟩
      cases bs with
      | nil => simp at hlen
      | cons b tail =>
        rw [List.map_cons, List.cons_append] at hrx
        refine ⟨b, { port with rx := tail.map .byte ++ rest' },
          fetch_eq_ok_iff.mpr ⟨_, hrx, rfl⟩, ?_⟩
        rw [bind_eq_ok_iff]
        exact ⟨tail, _, ih.mpr ⟨by simpa using hlen, rest', rfl, rfl⟩, rfl⟩

theorem readByte_eq_ok_iff {port port' : SerialPort} {b : UInt8} :
    readByte port = .ok b port' ↔ port.isOpen = true ∧
      ∃ rest, port.rx = .byte b :: rest ∧ port' = { port with rx := rest } := by
  rw [← fetch_eq_ok_iff, readByte]
  by_cases h : port.isOpen = true
  · rw [if_pos h, and_iff_right h]
    cases fetch port with
    | ok a p => simp
    | error e p => cases e <;> simp
  · simp [h]

/-- A read that succeeds took exactly the bytes at the front of the line. -/
theorem read_eq_ok_iff {n : ℕ} {port port' : SerialPort} {bs : List UInt8} :
    read n port = .ok bs port' ↔ port.isOpen = true ∧ bs.length = n ∧
      ∃ rest, port.rx = bs.map .byte ++ rest ∧ port' = { port with rx := rest } := by
  have hexact : ∀ p : SerialPort, readExact n p = .ok bs port' ↔ fetchBytes n p = .ok bs port' := by
    intro p
    unfold readExact
    cases fetchBytes n p with
    | ok a p => simp
    | error e p => cases e <;> simp
  rw [read, bind_eq_ok_iff, ← fetchBytes_eq_ok_iff, ← hexact]
  constructor
  · rintro ⟨_, _, hcheck, hread⟩
    obtain ⟨hopen, rfl⟩ := checkPort_eq_ok_iff.mp hcheck
    exact ⟨hopen, hread⟩
  · rintro ⟨hopen, hread⟩
    exact ⟨(), port, checkPort_eq_ok_iff.mpr ⟨hopen, rfl⟩, hread⟩

theorem writeAll_eq_ok_iff {buffer : List UInt8} {port port' : SerialPort} :
    writeAll buffer port = .ok () port' ↔ port.outcome port.writeCount = .accepted ∧
      port' = { port with writeCount := port.writeCount + 1, tx := port.tx ++ buffer } := by
  unfold writeAll
  cases port.outcome port.writeCount with
  | accepted => simp [eq_comm]
  | failed sent what => simp

/-- A write that succeeds put exactly its buffer on the wire and left the input alone. -/
theorem write_eq_ok_iff {buffer : List UInt8} {port port' : SerialPort} :
    write buffer port = .ok () port' ↔ port.isOpen = true ∧
      port.outcome port.writeCount = .accepted ∧
      port' = { port with writeCount := port.writeCount + 1, tx := port.tx ++ buffer } := by
  rw [write, bind_eq_ok_iff, ← writeAll_eq_ok_iff]
  constructor
  · rintro ⟨_, _, hcheck, hwrite⟩
    obtain ⟨hopen, rfl⟩ := checkPort_eq_ok_iff.mp hcheck
    exact ⟨hopen, hwrite⟩
  · rintro ⟨hopen, hwrite⟩
    exact ⟨(), port, checkPort_eq_ok_iff.mpr ⟨hopen, rfl⟩, hwrite⟩

/-! ## Functions that only read

Whatever they return, they change nothing but what the line still delivers. -/

/-- `x` leaves the port as it is, apart from the bytes it takes off the line. -/
def ReadsOnly (x : Cpp α) : Prop := Preserves (fun port ↦ { port with rx := [] }) x

namespace ReadsOnly

variable {β : Type} {x : Cpp α}

theorem tx_eq (hx : ReadsOnly x) (port : SerialPort) : (finalState (x port)).tx = port.tx :=
  (congrArg SerialPort.tx (hx port) :)

theorem mapUnexpected (f : String → String) (hx : ReadsOnly x) :
    ReadsOnly (Feetech.mapUnexpected f x) := by
  intro port
  have h := hx port
  unfold Feetech.mapUnexpected
  cases hr : x port with
  | ok a s => rwa [hr] at h
  | error e s =>
    rw [hr] at h
    cases e <;> exact h

end ReadsOnly

theorem readsOnly_fetchBytes (n : ℕ) :
    Preserves (fun port : SerialPort ↦ { port with rx := [] }) (fetchBytes n) := by
  induction n with
  | zero => exact Preserves.pure []
  | succ n ih =>
    refine Preserves.bind (fun port ↦ ?_) fun b ↦ Preserves.bind ih fun bs ↦ Preserves.pure _
    unfold fetch
    cases port.rx with
    | nil => rfl
    | cons e rest => cases e <;> rfl

theorem readsOnly_readByte : ReadsOnly readByte := by
  intro port
  unfold readByte fetch
  by_cases hopen : port.isOpen = true
  · rw [if_pos hopen]
    cases port.rx with
    | nil => rfl
    | cons e rest => cases e <;> rfl
  · rw [if_neg hopen]
    rfl

theorem readsOnly_checkPort : ReadsOnly checkPort := by
  intro port
  unfold checkPort
  by_cases hopen : port.isOpen = true
  · rw [if_pos hopen]
    rfl
  · rw [if_neg hopen]
    rfl

theorem readsOnly_read (n : ℕ) : ReadsOnly (read n) := by
  refine Preserves.bind readsOnly_checkPort fun _ port ↦ ?_
  have h := readsOnly_fetchBytes n port
  unfold readExact
  cases hr : fetchBytes n port with
  | ok bs p => rwa [hr] at h
  | error e p =>
    rw [hr] at h
    cases e <;> exact h

/-! ## Exceptions

The wrapper is meant to turn every exception of the serial library into an error value. `readByte`
does not. -/

/-- The run of `x` lets an exception out. -/
def Escapes (x : Cpp α) (port : SerialPort) : Prop :=
  ∃ e port', x port = .error (.thrown e) port'

theorem escapes_bind_iff {β : Type} {x : Cpp α} {f : α → Cpp β} {port : SerialPort} :
    Escapes (x >>= f) port ↔
      Escapes x port ∨ ∃ a port', x port = .ok a port' ∧ Escapes (f a) port' := by
  simp only [Escapes, bind_eq_error_iff]
  constructor
  · rintro ⟨e, port', h | ⟨a, mid, hx, hf⟩⟩
    · exact Or.inl ⟨e, port', h⟩
    · exact Or.inr ⟨a, mid, hx, e, port', hf⟩
  · rintro (⟨e, port', h⟩ | ⟨a, mid, hx, e, port', hf⟩)
    · exact ⟨e, port', Or.inl h⟩
    · exact ⟨e, port', Or.inr ⟨a, mid, hx, hf⟩⟩

@[simp] theorem escapes_mapUnexpected_iff {f : String → String} {x : Cpp α} {port : SerialPort} :
    Escapes (mapUnexpected f x) port ↔ Escapes x port := by
  unfold Escapes mapUnexpected
  cases hx : x port with
  | ok b t => simp
  | error e t => cases e <;> simp

@[simp] theorem not_escapes_pure (a : α) (port : SerialPort) :
    ¬ Escapes (pure a : Cpp α) port := by
  rintro ⟨_, _, ⟨⟩⟩

@[simp] theorem not_escapes_unexpected (message : String) (port : SerialPort) :
    ¬ Escapes (throw (.unexpected message) : Cpp α) port := by
  rintro ⟨_, _, ⟨⟩⟩

theorem not_escapes_ite {c : Prop} [Decidable c] {x y : Cpp α} {port : SerialPort}
    (hx : ¬ Escapes x port) (hy : ¬ Escapes y port) :
    ¬ Escapes (if c then x else y) port := by
  split <;> assumption

@[simp] theorem not_escapes_checkPort (port : SerialPort) : ¬ Escapes checkPort port := by
  unfold Escapes checkPort
  by_cases hopen : port.isOpen = true <;> simp [hopen]

@[simp] theorem not_escapes_read (n : ℕ) (port : SerialPort) : ¬ Escapes (read n) port := by
  have hexact : ∀ p, ¬ Escapes (readExact n) p := by
    intro p
    unfold Escapes readExact
    cases fetchBytes n p with
    | ok bs q => simp
    | error e q => cases e <;> simp
  rw [read, escapes_bind_iff]
  rintro (h | ⟨_, p, -, h⟩)
  · exact not_escapes_checkPort port h
  · exact hexact p h

@[simp] theorem not_escapes_write (buffer : List UInt8) (port : SerialPort) :
    ¬ Escapes (write buffer) port := by
  have hall : ∀ p, ¬ Escapes (writeAll buffer) p := by
    intro p
    unfold Escapes writeAll
    cases p.outcome p.writeCount <;> simp
  rw [write, escapes_bind_iff]
  rintro (h | ⟨_, p, -, h⟩)
  · exact not_escapes_checkPort port h
  · exact hall p h

/-- On an open port the byte that fails to come for another reason than a timeout escapes. -/
theorem escapes_readByte_iff {port : SerialPort} (hopen : port.isOpen = true) :
    Escapes readByte port ↔ ∃ what rest, port.rx = .failure what :: rest := by
  unfold Escapes readByte fetch
  rw [if_pos hopen]
  cases port.rx with
  | nil => simp
  | cons e rest => cases e <;> simp

end VzletUr3e.Feetech
