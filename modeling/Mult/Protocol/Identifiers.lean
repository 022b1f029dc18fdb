import Mult.Foundation.Ranked

/-! The numeric and opaque identities of the wire protocol.

Opaque 16-byte identities are 128-bit words; every counter is a 64-bit word
whose successor is absent past the last value.
-/

set_option autoImplicit false

namespace Mult.Protocol
open Foundation

/-- One past the largest `u64`. -/
def u64Bound : Nat := 2 ^ 64

structure SessionId where
  raw : Nat
  deriving DecidableEq, Repr

structure PaneId where
  raw : Nat
  deriving DecidableEq, Repr

structure StateNamespace where
  bytes : BitVec 128
  nonzero : bytes ≠ 0
  deriving DecidableEq, Repr

structure SessionToken where
  bytes : BitVec 128
  nonzero : bytes ≠ 0
  deriving DecidableEq, Repr

structure AgentGeneration where
  bytes : BitVec 128
  nonzero : bytes ≠ 0
  deriving DecidableEq, Repr

structure SessionIdentity where
  stateNamespace : StateNamespace
  token : SessionToken
  deriving DecidableEq, Repr

/-- Server-issued identity of a resumable client request scope. -/
structure ClientScopeId where
  bytes : BitVec 128
  deriving DecidableEq, Repr

/-- Identity generated once for each daemon process. -/
structure ServerInstanceId where
  bytes : BitVec 128
  deriving DecidableEq, Repr

theorem bytes_one : (1 : BitVec 128) ≠ 0 := by decide
theorem bytes_two : (2 : BitVec 128) ≠ 0 := by decide
theorem bytes_three : (3 : BitVec 128) ≠ 0 := by decide
theorem bytes_seven : (7 : BitVec 128) ≠ 0 := by decide

structure NonZeroU64 where
  value : Nat
  nonzero : value ≠ 0
  bounded : value < u64Bound
  deriving DecidableEq, Repr

def NonZeroU64.new (value : Nat) : Option NonZeroU64 :=
  if nonzero : value ≠ 0 then
    if bounded : value < u64Bound then some ⟨value, nonzero, bounded⟩ else none
  else none

def NonZeroU64.min : NonZeroU64 := ⟨1, by decide, by decide⟩

def NonZeroU64.checkedNext (current : NonZeroU64) : Option NonZeroU64 :=
  NonZeroU64.new (current.value + 1)

theorem NonZeroU64.ext_value {a b : NonZeroU64} (same : a.value = b.value) : a = b := by
  cases a; cases b; simp_all

theorem NonZeroU64.checkedNext_value {current next : NonZeroU64}
    (found : current.checkedNext = some next) : next.value = current.value + 1 := by
  unfold checkedNext new at found
  split at found
  · split at found
    · cases found; rfl
    · cases found
  · cases found

/-- A request number scoped to one `ClientScopeId`. -/
structure RequestId where
  raw : NonZeroU64
  deriving DecidableEq, Repr

/-- A capability for mutating one attached pane. -/
structure AttachmentLease where
  raw : NonZeroU64
  deriving DecidableEq, Repr

/-- Absolute byte offset in a pane's output stream. -/
structure OutputSequence where
  value : Nat
  bounded : value < u64Bound
  deriving DecidableEq, Repr

def RequestId.min : RequestId := ⟨.min⟩
def RequestId.get (id : RequestId) : Nat := id.raw.value
def RequestId.checkedNext (id : RequestId) : Option RequestId :=
  id.raw.checkedNext.map RequestId.mk

def AttachmentLease.min : AttachmentLease := ⟨.min⟩
def AttachmentLease.get (lease : AttachmentLease) : Nat := lease.raw.value
def AttachmentLease.checkedNext (lease : AttachmentLease) : Option AttachmentLease :=
  lease.raw.checkedNext.map AttachmentLease.mk

theorem RequestId.ext_get {a b : RequestId} (same : a.get = b.get) : a = b := by
  cases a; cases b
  exact congrArg RequestId.mk (NonZeroU64.ext_value same)

theorem AttachmentLease.ext_get {a b : AttachmentLease} (same : a.get = b.get) : a = b := by
  cases a; cases b
  exact congrArg AttachmentLease.mk (NonZeroU64.ext_value same)

theorem AttachmentLease.get_checkedNext {lease next : AttachmentLease}
    (found : lease.checkedNext = some next) : next.get = lease.get + 1 := by
  obtain ⟨raw, successor, rfl⟩ := Option.map_eq_some_iff.mp found
  exact NonZeroU64.checkedNext_value successor

def OutputSequence.zero : OutputSequence := ⟨0, by decide⟩
def OutputSequence.get (sequence : OutputSequence) : Nat := sequence.value

def OutputSequence.checkedAddBytes (sequence : OutputSequence) (byteCount : Nat) :
    Option OutputSequence :=
  if bounded : sequence.value + byteCount < u64Bound then
    some ⟨sequence.value + byteCount, bounded⟩
  else none

theorem OutputSequence.ext_get {a b : OutputSequence} (same : a.get = b.get) : a = b := by
  cases a; cases b; simp_all [get]

theorem OutputSequence.get_checkedAddBytes {sequence next : OutputSequence} {byteCount : Nat}
    (found : sequence.checkedAddBytes byteCount = some next) :
    next.get = sequence.get + byteCount := by
  unfold checkedAddBytes at found
  split at found
  · cases found; rfl
  · cases found

instance : Ranked SessionId := ⟨SessionId.raw, fun a b same => by cases a; cases b; simp_all⟩
instance : Ranked PaneId := ⟨PaneId.raw, fun a b same => by cases a; cases b; simp_all⟩
instance : Ranked ClientScopeId :=
  ⟨fun scope => scope.bytes.toNat, fun a b same => by
    cases a; cases b; simpa [BitVec.toNat_inj] using same⟩
instance : Ranked RequestId := ⟨RequestId.get, fun _ _ same => RequestId.ext_get same⟩

instance : Ranked SessionIdentity where
  rank identity := identity.stateNamespace.bytes.toNat * 2 ^ 128 + identity.token.bytes.toNat
  rank_injective a b same := by
    obtain ⟨⟨namespaceA, _⟩, ⟨tokenA, _⟩⟩ := a
    obtain ⟨⟨namespaceB, _⟩, ⟨tokenB, _⟩⟩ := b
    have boundA := tokenA.isLt
    have boundB := tokenB.isLt
    simp only at same
    have namespaces : namespaceA = namespaceB := BitVec.eq_of_toNat_eq (by omega)
    have tokens : tokenA = tokenB := BitVec.eq_of_toNat_eq (by omega)
    simp [namespaces, tokens]

end Mult.Protocol
