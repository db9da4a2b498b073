import Mathlib

/-!
# Codecs of bytes

A codec writes a value to bytes and reads a value from the beginning of bytes, if it can. It is
lawful if it reads back what it wrote and leaves the rest alone, and if it reads nothing else: then
what is accepted is exactly what is written. A reader that accepts more than one form of a value
recognizes the forms.

Words in network byte order are lawful, arrays of lawful values are, and so are records whose fields
are read one after the other, each by its own type.
-/

namespace ByteCodec

/-! ## Lawful codecs -/

/-- Reading a value from the beginning of bytes. -/
abbrev Reader (α : Type*) := List UInt8 → Option (α × List UInt8)

variable {α β : Type*}

/-- `read` reads what `write` writes, and nothing else. -/
structure Lawful (write : α → List UInt8) (read : Reader α) : Prop where
  read_write : ∀ a rest, read (write a ++ rest) = some (a, rest)
  eq_of_read : ∀ {bytes a rest}, read bytes = some (a, rest) → bytes = write a ++ rest

theorem Lawful.read_eq_some_iff {write : α → List UInt8} {read : Reader α} (h : Lawful write read)
    {bytes : List UInt8} {a : α} {rest : List UInt8} :
    read bytes = some (a, rest) ↔ bytes = write a ++ rest := by
  refine ⟨h.eq_of_read, ?_⟩
  rintro rfl
  exact h.read_write a rest

/-- `read` reads the forms of a value, and nothing else. -/
def Recognizes (form : α → List UInt8 → Prop) (read : Reader α) : Prop :=
  ∀ bytes a rest, read bytes = some (a, rest) ↔ ∃ w, form a w ∧ bytes = w ++ rest

/-- What a reader and another one behind it read. -/
theorem Recognizes.bind_eq_some_iff {form : α → List UInt8 → Prop} {read : Reader α}
    (h : Recognizes form read) {γ : Type*} {next : α × List UInt8 → Option γ} {bytes : List UInt8}
    {c : γ} :
    (read bytes).bind next = some c ↔
      ∃ a w rest, form a w ∧ bytes = w ++ rest ∧ next (a, rest) = some c := by
  rw [Option.bind_eq_some_iff]
  constructor
  · rintro ⟨⟨a, rest⟩, hread, hnext⟩
    obtain ⟨w, hform, hbytes⟩ := (h bytes a rest).mp hread
    exact ⟨a, w, rest, hform, hbytes, hnext⟩
  · rintro ⟨a, w, rest, hform, hbytes, hnext⟩
    exact ⟨(a, rest), (h bytes a rest).mpr ⟨w, hform, hbytes⟩, hnext⟩

theorem Lawful.recognizes {write : α → List UInt8} {read : Reader α} (h : Lawful write read) :
    Recognizes (fun a w ↦ w = write a) read := by
  intro bytes a rest
  rw [h.read_eq_some_iff, exists_eq_left]

/-! ## Words -/

/-- The last `k` bytes of a number, in network byte order. -/
def writeWord : ℕ → ℕ → List UInt8
  | 0, _ => []
  | k + 1, n => writeWord k (n / 256) ++ [UInt8.ofNat n]

/-- The number that is written in bytes. -/
def number (bytes : List UInt8) : ℕ := bytes.foldl (fun n b ↦ n * 256 + b.toNat) 0

/-- The number in the first `k` bytes. -/
def readWord (k : ℕ) : Reader ℕ := fun bytes ↦
  if k ≤ bytes.length then some (number (bytes.take k), bytes.drop k) else none

@[simp] theorem length_writeWord (k n : ℕ) : (writeWord k n).length = k := by
  induction k generalizing n with
  | zero => rfl
  | succ k ih => rw [writeWord, List.length_append, ih, List.length_singleton]

theorem number_append_singleton (bytes : List UInt8) (b : UInt8) :
    number (bytes ++ [b]) = number bytes * 256 + b.toNat := by
  rw [number, List.foldl_append, List.foldl_cons, List.foldl_nil, number]

theorem number_writeWord {k n : ℕ} (h : n < 256 ^ k) : number (writeWord k n) = n := by
  induction k generalizing n with
  | zero =>
    rw [pow_zero, Nat.lt_one_iff] at h
    rw [h]
    rfl
  | succ k ih =>
    have hdiv : n / 256 < 256 ^ k := Nat.div_lt_of_lt_mul (by rwa [pow_succ, mul_comm] at h)
    rw [writeWord, number_append_singleton, ih hdiv, UInt8.toNat_ofNat']
    omega

theorem number_lt (bytes : List UInt8) : number bytes < 256 ^ bytes.length := by
  induction bytes using List.reverseRecOn with
  | nil => exact Nat.one_pos
  | append_singleton bytes b ih =>
    have hb := b.toNat_lt
    rw [number_append_singleton, List.length_append, List.length_singleton, pow_succ]
    omega

theorem writeWord_number (bytes : List UInt8) : writeWord bytes.length (number bytes) = bytes := by
  induction bytes using List.reverseRecOn with
  | nil => rfl
  | append_singleton bytes b ih =>
    have hb := b.toNat_lt
    have hdiv : (number bytes * 256 + b.toNat) / 256 = number bytes := by omega
    have hbyte : UInt8.ofNat (number bytes * 256 + b.toNat) = b := by
      rw [← UInt8.toNat_inj, UInt8.toNat_ofNat']
      omega
    rw [number_append_singleton, List.length_append, List.length_singleton, writeWord, hdiv, ih,
      hbyte]

theorem readWord_writeWord {k n : ℕ} (h : n < 256 ^ k) (rest : List UInt8) :
    readWord k (writeWord k n ++ rest) = some (n, rest) := by
  have hle : k ≤ (writeWord k n ++ rest).length := by simp
  rw [readWord, if_pos hle, List.take_left' (length_writeWord k n),
    List.drop_left' (length_writeWord k n), number_writeWord h]

theorem eq_of_readWord {k n : ℕ} {bytes rest : List UInt8} (h : readWord k bytes = some (n, rest)) :
    bytes = writeWord k n ++ rest ∧ n < 256 ^ k := by
  rw [readWord] at h
  split_ifs at h with hle
  obtain ⟨rfl, rfl⟩ := Prod.mk.inj (Option.some.inj h)
  have hlength : (bytes.take k).length = k := List.length_take_of_le hle
  have hword := writeWord_number (bytes.take k)
  have hlt := number_lt (bytes.take k)
  rw [hlength] at hword hlt
  exact ⟨by rw [hword, List.take_append_drop], hlt⟩

/-- A value in the first `k` bytes. -/
def readAs (k : ℕ) (ofNat : ℕ → α) : Reader α := fun bytes ↦
  (readWord k bytes).map fun p ↦ (ofNat p.1, p.2)

/-- A type of the numbers below `256 ^ k` is written in `k` bytes. -/
theorem lawful_word {k : ℕ} {toNat : α → ℕ} {ofNat : ℕ → α} (hlt : ∀ a, toNat a < 256 ^ k)
    (hleft : ∀ a, ofNat (toNat a) = a) (hright : ∀ n < 256 ^ k, toNat (ofNat n) = n) :
    Lawful (fun a ↦ writeWord k (toNat a)) (readAs k ofNat) where
  read_write a rest := by
    rw [readAs, readWord_writeWord (hlt a), Option.map_some, hleft]
  eq_of_read {bytes a rest} hread := by
    obtain ⟨⟨n, rest'⟩, hword, heq⟩ := Option.map_eq_some_iff.mp hread
    obtain ⟨rfl, rfl⟩ := Prod.mk.inj heq
    obtain ⟨hbytes, hn⟩ := eq_of_readWord hword
    dsimp only at hbytes ⊢
    rw [hright n hn]
    exact hbytes

/-! ## Arrays -/

def writeArray (write : α → List UInt8) : (n : ℕ) → (Fin n → α) → List UInt8
  | 0, _ => []
  | n + 1, f => write (f 0) ++ writeArray write n (Fin.tail f)

def readArray (read : Reader α) : (n : ℕ) → Reader (Fin n → α)
  | 0, bytes => some (Fin.elim0, bytes)
  | n + 1, bytes => do
    let (a, bytes) ← read bytes
    let (f, bytes) ← readArray read n bytes
    return (Fin.cons a f, bytes)

theorem length_writeArray {write : α → List UInt8} {size : ℕ} (h : ∀ a, (write a).length = size) :
    ∀ (n : ℕ) (f : Fin n → α), (writeArray write n f).length = n * size := by
  intro n
  induction n with
  | zero => exact fun _ ↦ (Nat.zero_mul size).symm
  | succ n ih =>
    intro f
    rw [writeArray, List.length_append, h, ih, Nat.succ_mul, Nat.add_comm]

theorem Lawful.array {write : α → List UInt8} {read : Reader α} (h : Lawful write read) (n : ℕ) :
    Lawful (writeArray write n) (readArray read n) := by
  induction n with
  | zero =>
    refine ⟨fun f rest ↦ ?_, fun {bytes f rest} hread ↦ ?_⟩
    · rw [readArray, Subsingleton.elim f Fin.elim0]
      rfl
    · exact (Prod.mk.inj (Option.some.inj hread)).2
  | succ n ih =>
    refine ⟨fun f rest ↦ ?_, fun {bytes f rest} hread ↦ ?_⟩
    · rw [readArray, writeArray, List.append_assoc, h.read_write]
      simp only [Option.bind_eq_bind, Option.bind_some, ih.read_write, Option.pure_def,
        Fin.cons_self_tail]
    · obtain ⟨⟨a, middle⟩, hhead, hread⟩ := Option.bind_eq_some_iff.mp hread
      obtain ⟨⟨tail, last⟩, htail, hread⟩ := Option.bind_eq_some_iff.mp hread
      obtain ⟨rfl, rfl⟩ := Prod.mk.inj (Option.some.inj hread)
      rw [writeArray, Fin.cons_zero, Fin.tail_cons, List.append_assoc, ← ih.eq_of_read htail]
      exact h.eq_of_read hhead

/-! ## Records -/

section Record

universe u

variable {ι : Type u} {V : ι → Type u}

/-- The fields of a record, one after the other. -/
def writeRecord (write : ∀ i, V i → List UInt8) (fields : List (Sigma V)) : List UInt8 :=
  fields.flatMap fun field ↦ write field.1 field.2

/-- A record whose fields have the given types. -/
def readRecord (read : ∀ i, Reader (V i)) : List ι → Reader (List (Sigma V))
  | [], bytes => some ([], bytes)
  | i :: types, bytes => do
    let (value, bytes) ← read i bytes
    let (fields, bytes) ← readRecord read types bytes
    return (⟨i, value⟩ :: fields, bytes)

/-- The forms of a record. -/
def RecordForm (form : ∀ i, V i → List UInt8 → Prop) : List (Sigma V) → List UInt8 → Prop
  | [], w => w = []
  | field :: fields, w =>
    ∃ first others, form field.1 field.2 first ∧ RecordForm form fields others ∧ w = first ++ others

variable {form : ∀ i, V i → List UInt8 → Prop} {write : ∀ i, V i → List UInt8}
  {read : ∀ i, Reader (V i)}

theorem recordForm_writeRecord {fields : List (Sigma V)}
    (h : ∀ field ∈ fields, form field.1 field.2 (write field.1 field.2)) :
    RecordForm form fields (writeRecord write fields) := by
  induction fields with
  | nil => rfl
  | cons field fields ih =>
    obtain ⟨hfield, hfields⟩ := List.forall_mem_cons.mp h
    exact ⟨_, _, hfield, ih hfields, rfl⟩

/-- What is read is a form of a record of the given types. -/
theorem readRecord_eq_some_iff :
    ∀ {types : List ι} {bytes rest : List UInt8} {fields : List (Sigma V)},
      (∀ i ∈ types, Recognizes (form i) (read i)) →
      (readRecord read types bytes = some (fields, rest) ↔
        fields.map (·.1) = types ∧ ∃ w, RecordForm form fields w ∧ bytes = w ++ rest) := by
  intro types
  induction types with
  | nil =>
    intro bytes rest fields _
    rw [readRecord, Option.some.injEq, Prod.mk.injEq, List.map_eq_nil_iff]
    constructor
    · rintro ⟨rfl, rfl⟩
      exact ⟨rfl, [], rfl, rfl⟩
    · rintro ⟨rfl, w, rfl, rfl⟩
      exact ⟨rfl, rfl⟩
  | cons i types ih =>
    intro bytes rest fields hrecognizes
    obtain ⟨hi, htypes⟩ := List.forall_mem_cons.mp hrecognizes
    constructor
    · intro hread
      rw [readRecord] at hread
      obtain ⟨⟨value, middle⟩, hhead, hread⟩ := Option.bind_eq_some_iff.mp hread
      obtain ⟨⟨tail, last⟩, htail, hread⟩ := Option.bind_eq_some_iff.mp hread
      obtain ⟨rfl, rfl⟩ := Prod.mk.inj (Option.some.inj hread)
      obtain ⟨hmap, others, hothers, rfl⟩ := (ih htypes).mp htail
      obtain ⟨first, hfirst, rfl⟩ := (hi _ _ _).mp hhead
      refine ⟨by rw [List.map_cons, hmap], first ++ others,
        ⟨first, others, hfirst, hothers, rfl⟩, ?_⟩
      rw [List.append_assoc]
    · rintro ⟨hmap, w, hw, rfl⟩
      obtain ⟨field, tail, rfl, rfl, htail⟩ := List.map_eq_cons_iff.mp hmap
      obtain ⟨first, others, hfirst, hothers, rfl⟩ := hw
      have hhead : read field.1 (first ++ (others ++ rest)) = some (field.2, others ++ rest) :=
        (hi _ _ _).mpr ⟨first, hfirst, rfl⟩
      have hrest : readRecord read types (others ++ rest) = some (tail, rest) :=
        (ih htypes).mpr ⟨htail, others, hothers, rfl⟩
      rw [readRecord, List.append_assoc, hhead]
      simp only [Option.bind_eq_bind, Option.bind_some, hrest]
      rfl

end Record

end ByteCodec
