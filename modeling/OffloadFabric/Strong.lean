import OffloadFabric.BigEndian
import Mathlib.Data.List.Lex
import Mathlib.Data.Prod.Lex
import Mathlib.Order.Lattice

/-!
Strongly typed identities, generations, ticks and names.
Every counter is a 64-bit value whose successor is checked, and a name carries
the proof that its bytes are in the canonical character set and length bound.
-/
namespace OffloadFabric

/-- Families of opaque identities; zero is the nil identity. -/
inductive IdTag where
  | evidence | attempt | leaseId | effect | request | plan
  deriving DecidableEq

/-- Families of monotonic generations; zero means never advanced. -/
inductive GenTag where
  | topology | capability | policy | failover | state | leaseTerm | fence | incarnation
  | epoch | boot | evidenceSeq
  deriving DecidableEq

inductive NameTag where
  | service | scope | host | device | target | source
  deriving DecidableEq

@[ext] structure Id (tag : IdTag) where
  value : UInt64 := 0
  deriving Inhabited

@[ext] structure Gen (tag : GenTag) where
  value : UInt64 := 0
  deriving Inhabited

/-- Logical coordinator tick. Never wall clock. -/
@[ext] structure LogicalTick where
  value : UInt64 := 0
  deriving Inhabited

def u64Max : UInt64 := 18446744073709551615

/-- Increment used only for the observable accounting counters. -/
def saturatingInc (value : UInt64) : UInt64 := if value = u64Max then value else value + 1

theorem toNat_add_one_of_ne_max {value : UInt64} (h : value ≠ u64Max) :
    (value + 1).toNat = value.toNat + 1 := by
  have hlt : value.toNat < 2 ^ 64 := value.toNat_lt
  have hne : value.toNat ≠ 18446744073709551615 := fun heq =>
    h (UInt64.toNat_inj.mp (by rw [heq]; rfl))
  rw [UInt64.toNat_add, UInt64.toNat_one]
  omega

namespace Id

variable {tag : IdTag}

def isNil (id : Id tag) : Bool := id.value == 0

instance : LinearOrder (Id tag) :=
  LinearOrder.lift' (fun id => id.value.toNat) fun _ _ h => Id.ext (UInt64.toNat_inj.mp h)

end Id

namespace Gen

variable {tag : GenTag}

def isInitial (gen : Gen tag) : Bool := gen.value == 0

instance : LinearOrder (Gen tag) :=
  LinearOrder.lift' (fun gen => gen.value.toNat) fun _ _ h => Gen.ext (UInt64.toNat_inj.mp h)

/-- The successor, or none when the generation space is exhausted. -/
def successor (gen : Gen tag) : Option (Gen tag) :=
  if gen.value = u64Max then none else some ⟨gen.value + 1⟩

theorem lt_iff (a b : Gen tag) : a < b ↔ a.value.toNat < b.value.toNat := Iff.rfl

theorem le_iff (a b : Gen tag) : a ≤ b ↔ a.value.toNat ≤ b.value.toNat := Iff.rfl

theorem successor_toNat {gen next : Gen tag} (h : gen.successor = some next) :
    next.value.toNat = gen.value.toNat + 1 := by
  simp only [successor] at h
  split_ifs at h with hmax
  obtain rfl := Option.some.inj h
  exact toNat_add_one_of_ne_max hmax

end Gen

namespace LogicalTick

instance : LinearOrder LogicalTick :=
  LinearOrder.lift' (fun tick => tick.value.toNat) fun _ _ h =>
    LogicalTick.ext (UInt64.toNat_inj.mp h)

def successor (tick : LogicalTick) : Option LogicalTick :=
  if tick.value = u64Max then none else some ⟨tick.value + 1⟩

theorem lt_iff (a b : LogicalTick) : a < b ↔ a.value.toNat < b.value.toNat := Iff.rfl

theorem successor_toNat {tick next : LogicalTick} (h : tick.successor = some next) :
    next.value.toNat = tick.value.toNat + 1 := by
  simp only [successor] at h
  split_ifs at h with hmax
  obtain rfl := Option.some.inj h
  exact toNat_add_one_of_ne_max hmax

end LogicalTick

/-! ### Names -/

def kMaxNameLength : Nat := 64

/-- Letters, digits and the five punctuation characters `. _ - : @`. -/
def isValidNameChar (c : UInt8) : Bool :=
  (97 ≤ c.toNat && c.toNat ≤ 122) || (65 ≤ c.toNat && c.toNat ≤ 90) ||
    (48 ≤ c.toNat && c.toNat ≤ 57) || c == 46 || c == 95 || c == 45 || c == 58 || c == 64

/-- A canonical name. The empty name is a well-formed value that names no entity. -/
@[ext] structure Name (tag : NameTag) where
  bytes : Bytes
  valid : bytes.length ≤ kMaxNameLength ∧ bytes.all isValidNameChar = true

namespace Name

variable {tag : NameTag}

def nil : Name tag := ⟨[], by decide⟩

instance : Inhabited (Name tag) := ⟨nil⟩

def isEmpty (name : Name tag) : Bool := name.bytes.isEmpty

/-- Names are ordered as their byte strings. -/
instance : LinearOrder (Name tag) :=
  LinearOrder.lift' (fun name => name.bytes.map UInt8.toNat) fun _ _ h => Name.ext <|
    List.map_injective_iff.mpr (fun _ _ hx => UInt8.toNat_inj.mp hx) h

instance : LawfulBEq (Name tag) := inferInstance

/-- Parse a canonical encoding field; an empty field is accepted. -/
def parseCanonical (text : Bytes) : Option (Name tag) :=
  if h : text.length ≤ kMaxNameLength ∧ text.all isValidNameChar = true then some ⟨text, h⟩
  else none

/-- Parse from external bytes; an empty text names nothing and is refused. -/
def parse (text : Bytes) : Option (Name tag) :=
  if text.isEmpty then none else parseCanonical text

@[simp] theorem parseCanonical_bytes (name : Name tag) :
    parseCanonical name.bytes = some name := by
  simp [parseCanonical, name.valid]

end Name

abbrev ServiceName := Name .service
abbrev ScopeName := Name .scope
abbrev HostName := Name .host
abbrev DeviceName := Name .device
abbrev TargetName := Name .target
abbrev SourceName := Name .source

abbrev EvidenceId := Id .evidence
abbrev AttemptId := Id .attempt
abbrev LeaseId := Id .leaseId
abbrev EffectId := Id .effect
abbrev RequestKey := Id .request
abbrev PlanId := Id .plan

abbrev TopologyGeneration := Gen .topology
abbrev CapabilityGeneration := Gen .capability
abbrev PolicyGeneration := Gen .policy
abbrev FailoverGeneration := Gen .failover
abbrev StateGeneration := Gen .state
abbrev LeaseTerm := Gen .leaseTerm
abbrev FenceToken := Gen .fence
abbrev Incarnation := Gen .incarnation
abbrev CoordinatorEpoch := Gen .epoch
abbrev BootId := Gen .boot
abbrev EvidenceSeq := Gen .evidenceSeq

end OffloadFabric
