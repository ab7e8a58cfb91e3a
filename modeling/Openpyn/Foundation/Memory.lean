import Mathlib.Algebra.Ring.Nat

/-!
# Bytes in memory

A memory gives a byte for every address. Structures in it keep apart by ownership: a map says
whose every address is. What one owner writes the others do not see, so a proof about one
structure needs only to know whose bytes are written. Bytes that belong to nobody can be claimed.
-/

namespace Openpyn.Foundation

/-- Bytes by their addresses. -/
def Memory := Nat → UInt8

namespace Memory

/-! ## Reading and writing -/

def read (memory : Memory) (address size : Nat) : List UInt8 :=
  (List.range size).map fun index => memory (address + index)

def write (memory : Memory) (address : Nat) (bytes : List UInt8) : Memory := fun other =>
  if address ≤ other ∧ other < address + bytes.length then bytes.getD (other - address) 0
  else memory other

variable {memory : Memory}

@[simp] theorem length_read (address size : Nat) : (memory.read address size).length = size := by
  simp [read]

theorem read_congr {other : Memory} {address size : Nat}
    (same : ∀ index < size, memory (address + index) = other (address + index)) :
    memory.read address size = other.read address size :=
  List.map_congr_left fun index member => same index (List.mem_range.mp member)

theorem read_write (memory : Memory) (address : Nat) (bytes : List UInt8) :
    (memory.write address bytes).read address bytes.length = bytes := by
  apply List.ext_getElem
  · simp
  · intro index _ bound
    simp [read, write, bound]

theorem write_apart {address other : Nat} {bytes : List UInt8}
    (apart : other < address ∨ address + bytes.length ≤ other) :
    memory.write address bytes other = memory other :=
  if_neg (by omega)

theorem read_write_apart (memory : Memory) {address other size : Nat} {bytes : List UInt8}
    (apart : address + size ≤ other ∨ other + bytes.length ≤ address) :
    (memory.write other bytes).read address size = memory.read address size :=
  read_congr fun _ _ => write_apart (by omega)

/-! ## Numbers -/

/-- The bytes of a number, the lowest first. -/
def bytesOf : (count value : Nat) → List UInt8
  | 0, _ => []
  | count + 1, value => UInt8.ofNat value :: bytesOf count (value / 256)

/-- The number that bytes stand for. -/
def numberOf : List UInt8 → Nat
  | [] => 0
  | byte :: rest => byte.toNat + 256 * numberOf rest

@[simp] theorem length_bytesOf (count value : Nat) : (bytesOf count value).length = count := by
  induction count generalizing value with
  | zero => rfl
  | succ count inductionHypothesis => rw [bytesOf, List.length_cons, inductionHypothesis]

/-- A number that fits into the bytes is read back. -/
theorem numberOf_bytesOf {count value : Nat} (fits : value < 256 ^ count) :
    numberOf (bytesOf count value) = value := by
  induction count generalizing value with
  | zero =>
      rw [Nat.pow_zero] at fits
      have none : value = 0 := by omega
      rw [none]
      rfl
  | succ count inductionHypothesis =>
      rw [Nat.pow_succ] at fits
      have smaller : value / 256 < 256 ^ count := by omega
      rw [bytesOf, numberOf, inductionHypothesis smaller, UInt8.toNat_ofNat']
      omega

def readNumber (memory : Memory) (address count : Nat) : Nat := numberOf (memory.read address count)

def writeNumber (memory : Memory) (address count value : Nat) : Memory :=
  memory.write address (bytesOf count value)

theorem readNumber_writeNumber (memory : Memory) (address : Nat) {count value : Nat}
    (fits : value < 256 ^ count) :
    (memory.writeNumber address count value).readNumber address count = value := by
  have written := memory.read_write address (bytesOf count value)
  rw [length_bytesOf] at written
  rw [readNumber, writeNumber, written, numberOf_bytesOf fits]

theorem numberOf_replicate_zero (count : Nat) : numberOf (List.replicate count 0) = 0 := by
  induction count with
  | zero => rfl
  | succ count inductionHypothesis =>
      rw [List.replicate_succ, numberOf, inductionHypothesis]
      rfl

/-- Zeroed bytes are read as zero wherever the number begins. -/
theorem readNumber_zeroed (memory : Memory) (address : Nat) {start count total : Nat}
    (inside : start + count ≤ total) :
    (memory.write address (List.replicate total 0)).readNumber (address + start) count = 0 := by
  have zeroed : (memory.write address (List.replicate total 0)).read (address + start) count =
      List.replicate count 0 := by
    apply List.ext_getElem
    · simp
    · intro index _ bound
      rw [List.length_replicate] at bound
      have here : address ≤ address + start + index ∧
          address + start + index < address + total := by omega
      simp only [read, write, List.getElem_map, List.getElem_range, List.length_replicate,
        if_pos here, List.getElem_replicate, List.getD_eq_getElem?_getD, List.getElem?_replicate]
      split <;> rfl
  rw [readNumber, zeroed, numberOf_replicate_zero]

end Memory

/-! ## Owners -/

/-- A memory, and whose each byte is. -/
structure Region (α : Type) where
  memory : Memory
  owner : Nat → α

namespace Region

variable {α : Type} {region before after : Region α} {name : α} {address size : Nat}
  {writes : α → Prop}

/-- The bytes from an address on belong to one owner. -/
def Owns (region : Region α) (name : α) (address size : Nat) : Prop :=
  ∀ index < size, region.owner (address + index) = name

/-- An owner's bytes, and what is written there. -/
def Has (region : Region α) (name : α) (address : Nat) (bytes : List UInt8) : Prop :=
  region.Owns name address bytes.length ∧ region.memory.read address bytes.length = bytes

/-- An owner's bytes, and the number written there. -/
def HasNumber (region : Region α) (name : α) (address size value : Nat) : Prop :=
  region.Owns name address size ∧ region.memory.readNumber address size = value

/-- Owners that are not named keep their bytes and what is written there. -/
def Keeps (writes : α → Prop) (before after : Region α) : Prop :=
  ∀ name, ¬ writes name → ∀ address size, before.Owns name address size →
    after.Owns name address size ∧
      after.memory.read address size = before.memory.read address size

theorem Owns.part (owns : region.Owns name address size) {start length : Nat}
    (inside : start + length ≤ size) : region.Owns name (address + start) length := by
  intro index bound
  rw [Nat.add_assoc]
  exact owns (start + index) (by omega)

/-! ### What is kept -/

theorem Keeps.refl (region : Region α) : Keeps writes region region :=
  fun _ _ _ _ owns => ⟨owns, rfl⟩

theorem Keeps.trans {last : Region α} (first : Keeps writes before after)
    (second : Keeps writes after last) : Keeps writes before last := by
  intro name kept address size owns
  obtain ⟨owned, read⟩ := first name kept address size owns
  obtain ⟨stillOwned, stillRead⟩ := second name kept address size owned
  exact ⟨stillOwned, stillRead.trans read⟩

theorem Keeps.mono {more : α → Prop} (keeps : Keeps writes before after)
    (named : ∀ name, writes name → more name) : Keeps more before after :=
  fun name kept => keeps name fun written => kept (named name written)

theorem Owns.keeps (owns : before.Owns name address size) (keeps : Keeps writes before after)
    (kept : ¬ writes name) : after.Owns name address size :=
  (keeps name kept address size owns).1

theorem Has.keeps {bytes : List UInt8} (has : before.Has name address bytes)
    (keeps : Keeps writes before after) (kept : ¬ writes name) : after.Has name address bytes := by
  obtain ⟨owned, read⟩ := keeps name kept address bytes.length has.1
  exact ⟨owned, read.trans has.2⟩

theorem HasNumber.keeps {value : Nat} (has : before.HasNumber name address size value)
    (keeps : Keeps writes before after) (kept : ¬ writes name) :
    after.HasNumber name address size value := by
  obtain ⟨owned, read⟩ := keeps name kept address size has.1
  refine ⟨owned, ?_⟩
  rw [Memory.readNumber, read]
  exact has.2

/-! ### Writing -/

def write (region : Region α) (address : Nat) (bytes : List UInt8) : Region α :=
  { region with memory := region.memory.write address bytes }

def writeNumber (region : Region α) (address count value : Nat) : Region α :=
  { region with memory := region.memory.writeNumber address count value }

/-- Writing changes no owners. -/
theorem Owns.write (owns : region.Owns name address size) (place : Nat) (bytes : List UInt8) :
    (region.write place bytes).Owns name address size := owns

theorem has_write {bytes : List UInt8} (owns : region.Owns name address bytes.length) :
    (region.write address bytes).Has name address bytes :=
  ⟨owns, region.memory.read_write address bytes⟩

theorem hasNumber_writeNumber {value : Nat} (owns : region.Owns name address size)
    (fits : value < 256 ^ size) :
    (region.writeNumber address size value).HasNumber name address size value :=
  ⟨owns, region.memory.readNumber_writeNumber address fits⟩

/-- Bytes of several owners may be written at once. -/
theorem keeps_write_each {bytes : List UInt8}
    (named : ∀ index < bytes.length, writes (region.owner (address + index))) :
    Keeps writes region (region.write address bytes) := by
  intro other kept place length ownsOther
  refine ⟨ownsOther, Memory.read_congr fun index bound => Memory.write_apart ?_⟩
  by_contra inside
  have mine := named (place + index - address) (by omega)
  rw [show address + (place + index - address) = place + index by omega,
    ownsOther index bound] at mine
  exact kept mine

theorem keeps_write {bytes : List UInt8} (owns : region.Owns name address bytes.length)
    (named : writes name) : Keeps writes region (region.write address bytes) :=
  keeps_write_each fun index bound => (owns index bound).symm ▸ named

theorem keeps_writeNumber {value : Nat} (owns : region.Owns name address size)
    (named : writes name) : Keeps writes region (region.writeNumber address size value) :=
  keeps_write (by rwa [Memory.length_bytesOf]) named

/-- Numbers beside the bytes written are kept, whoever owns them. -/
theorem HasNumber.apart {value other : Nat} {bytes : List UInt8}
    (has : region.HasNumber name address size value)
    (apart : address + size ≤ other ∨ other + bytes.length ≤ address) :
    (region.write other bytes).HasNumber name address size value := by
  refine ⟨has.1, ?_⟩
  have same : (region.write other bytes).memory.read address size =
      region.memory.read address size := region.memory.read_write_apart apart
  rw [Memory.readNumber, same]
  exact has.2

/-! ### Claiming -/

/-- Bytes get new owners, by their places in the range. -/
def claim (region : Region α) (names : Nat → α) (address size : Nat) : Region α :=
  { region with
    owner := fun place =>
      if address ≤ place ∧ place < address + size then names (place - address)
      else region.owner place }

theorem owns_claim {names : Nat → α} {total start : Nat} (inside : start + size ≤ total)
    (named : ∀ index < size, names (start + index) = name) :
    (region.claim names address total).Owns name (address + start) size := by
  intro index bound
  have here : address ≤ address + start + index ∧
      address + start + index < address + total := by omega
  have place : address + start + index - address = start + index := by omega
  simp only [claim]
  rw [if_pos here, place]
  exact named index bound

/-- Who claims what belongs to nobody takes nothing from the others. -/
theorem keeps_claim {names : Nat → α} (nobody : region.Owns name address size)
    (named : writes name) : Keeps writes region (region.claim names address size) := by
  intro other kept place length ownsOther
  refine ⟨fun index bound => ?_, rfl⟩
  simp only [claim]
  rw [if_neg]
  · exact ownsOther index bound
  · intro inside
    have mine := nobody (place + index - address) (by omega)
    rw [show address + (place + index - address) = place + index by omega,
      ownsOther index bound] at mine
    exact kept (mine ▸ named)

end Region
end Openpyn.Foundation
