import Qwen3xOrin.Io.Tensor
import Qwen3xOrin.Library.Guard
import Qwen3xOrin.Prefill.PlanTypes

/-! Regions of a request arena and the cursor that places them. Offsets and sizes are unsigned
64-bit: a checked operation fails instead of wrapping, an unchecked one is reduced. -/

namespace Qwen3xOrin.Request

open Io Library
open Prefill (LayerType)

def requestArenaAlignment : ℕ := 256
def absoluteRequestMaxSequenceLength : ℕ := 262144
def maximumRequestPrefillChunkSize : ℕ := 512
def requestLayerCount : ℕ := 64
def requestLinearLayerCount : ℕ := 48
def requestFullLayerCount : ℕ := 16
def requestHiddenBufferCount : ℕ := 3
def requestProjectionBufferCount : ℕ := 4
def requestConvStateBytes : ℕ := 2949120
def requestGdnStateBytes : ℕ := 75497472
def maximumRequestArenaBytes : ℕ := 17437720576
def maximumConfigurableArenaBytes : ℕ := 64 * 1024 * 1024 * 1024

def bf16Bytes : ℕ := 2
def fp32Bytes : ℕ := 4
def hiddenElements : ℕ := 5120
def projectionElements : ℕ := 17408
def linearScalarElements : ℕ := 48
def fp32MinimumElements : ℕ := 262144
def queryHeadCount : ℕ := 24
def kvHeadCount : ℕ := 4
def headDimension : ℕ := 256
def convChannels : ℕ := 10240
def convHistory : ℕ := 3
def gdnValueHeads : ℕ := 48
def requestGdnHeadDimension : ℕ := 128
def ropePairs : ℕ := 32

inductive RequestErrorCode
  | none
  | invalidOption
  | arithmeticOverflow
  | invalidLayerSchedule
  | arenaLimitExceeded
  | insufficientDeviceMemory
  | cudaFailure
  | allocationFailure
  deriving DecidableEq, Repr

structure RequestDiagnostic where
  code : RequestErrorCode
  message : String
  context : String
  expected : String := ""
  actual : String := ""
  deriving DecidableEq, Repr

structure RequestRegion where
  arenaOffset : ℕ := 0
  byteSize : ℕ := 0
  elementCapacity : ℕ := 0
  elementSizeBytes : ℕ := 0
  deriving DecidableEq, Repr

structure RequestMatrixRegion where
  storage : RequestRegion := {}
  rowCapacity : ℕ := 0
  columns : ℕ := 0
  rowStrideElements : ℕ := 0
  deriving DecidableEq, Repr

structure RequestLayerSlot where
  type : LayerType := .invalid
  slot : ℕ := 0
  deriving DecidableEq

def wrap (value : ℕ) : ℕ := value % (uint64Max + 1)

lemma wrap_eq {value : ℕ} (h : value ≤ uint64Max) : wrap value = value :=
  Nat.mod_eq_of_lt (Nat.lt_succ_of_le h)

-- Adding the mask and clearing the low bits rounds up to a multiple of the alignment.
def alignUp (value : ℕ) : ℕ :=
  (value + (requestArenaAlignment - 1)) / requestArenaAlignment * requestArenaAlignment

def checkedAlign (value : ℕ) : Option ℕ :=
  if uint64Max - (requestArenaAlignment - 1) < value then none else some (alignUp value)

lemma alignUp_eq (value : ℕ) : alignUp value = (value + 255) / 256 * 256 := rfl

lemma alignUp_of_dvd {value : ℕ} (h : 256 ∣ value) : alignUp value = value := by
  rw [alignUp_eq]
  omega

lemma alignUp_dvd (value : ℕ) : 256 ∣ alignUp value := Dvd.intro_left _ rfl

lemma alignUp_add {base : ℕ} (h : 256 ∣ base) (value : ℕ) :
    alignUp (base + value) = base + alignUp value := by
  rw [alignUp_eq, alignUp_eq]
  omega

namespace PlanBuilder

def add (elements elementSize cursor : ℕ) : Option (RequestRegion × ℕ) := do
  guard (elementSize ≠ 0)
  let bytes ← checkedMultiply elements elementSize
  guard (bytes ≠ 0)
  let aligned ← checkedAlign cursor
  let stop ← checkedAdd aligned bytes
  pure (⟨aligned, bytes, elements, elementSize⟩, stop)

def align (cursor : ℕ) : Option ℕ := checkedAlign cursor

-- The loops over buffers of one shape, in the order of their indices.
def addEach (elements elementSize : ℕ) : ℕ → ℕ → Option (List RequestRegion × ℕ)
  | 0, cursor => some ([], cursor)
  | count + 1, cursor => do
    let (region, cursor) ← add elements elementSize cursor
    let (regions, cursor) ← addEach elements elementSize count cursor
    pure (region :: regions, cursor)

-- The loop over the full attention slots, a key cache and a value cache each.
def addCaches (elements elementSize : ℕ) :
    ℕ → ℕ → Option (List (RequestRegion × RequestRegion) × ℕ)
  | 0, cursor => some ([], cursor)
  | count + 1, cursor => do
    let (key, cursor) ← add elements elementSize cursor
    let (value, cursor) ← add elements elementSize cursor
    let (caches, cursor) ← addCaches elements elementSize count cursor
    pure ((key, value) :: caches, cursor)

section

variable {elements elementSize cursor count : ℕ}

lemma add_ok (hbytes : 0 < elements * elementSize)
    (hfits : cursor + elements * elementSize + 255 ≤ uint64Max) :
    add elements elementSize cursor = some
      (⟨alignUp cursor, elements * elementSize, elements, elementSize⟩,
        alignUp cursor + elements * elementSize) := by
  have hsize : elementSize ≠ 0 := by
    rintro rfl
    omega
  have hmultiply : checkedMultiply elements elementSize = some (elements * elementSize) :=
    checkedMultiply_eq_some.mpr ⟨rfl, by omega⟩
  have halign : checkedAlign cursor = some (alignUp cursor) :=
    if_neg (by simp only [requestArenaAlignment]; omega)
  have hle : alignUp cursor ≤ cursor + 255 := by
    rw [alignUp_eq]
    omega
  have hadd : checkedAdd (alignUp cursor) (elements * elementSize) =
      some (alignUp cursor + elements * elementSize) :=
    (checkedAdd_eq_some (by omega)).mpr ⟨rfl, by omega⟩
  simp [add, hsize, hmultiply, hbytes.ne', halign, hadd, guard]

lemma add_aligned (hcursor : 256 ∣ cursor) (hbytes : 0 < elements * elementSize)
    (hfits : cursor + elements * elementSize + 255 ≤ uint64Max) :
    add elements elementSize cursor = some
      (⟨cursor, elements * elementSize, elements, elementSize⟩,
        cursor + elements * elementSize) := by
  rw [add_ok hbytes hfits, alignUp_of_dvd hcursor]

lemma add_at {offset bytes : ℕ} (hoffset : alignUp cursor = offset)
    (hsize : elements * elementSize = bytes) (hbytes : 0 < bytes)
    (hfits : cursor + bytes + 255 ≤ uint64Max) :
    add elements elementSize cursor =
      some (⟨offset, bytes, elements, elementSize⟩, offset + bytes) := by
  subst hoffset hsize
  exact add_ok hbytes hfits

lemma align_ok (h : cursor + 255 ≤ uint64Max) : align cursor = some (alignUp cursor) :=
  if_neg (by simp only [requestArenaAlignment]; omega)

lemma addEach_ok (hcursor : 256 ∣ cursor) (hbytes : 0 < elements * elementSize)
    (haligned : 256 ∣ elements * elementSize)
    (hfits : cursor + count * (elements * elementSize) + 255 ≤ uint64Max) :
    addEach elements elementSize count cursor = some
      ((List.range count).map fun i =>
        ⟨cursor + i * (elements * elementSize), elements * elementSize, elements, elementSize⟩,
        cursor + count * (elements * elementSize)) := by
  induction count generalizing cursor with
  | zero => simp [addEach]
  | succ count ih =>
    rw [Nat.succ_mul] at hfits
    have hrest := @ih (cursor + elements * elementSize) (Dvd.dvd.add hcursor haligned) (by omega)
    rw [addEach, add_aligned hcursor hbytes (by omega)]
    simp only [Option.bind_eq_bind, Option.bind_some, hrest, Option.pure_def, Option.some.injEq,
      Prod.mk.injEq, List.range_succ_eq_map, List.map_cons, List.map_map]
    refine ⟨?_, by ring⟩
    congr 1
    · simp
    · refine List.map_congr_left fun i _ => ?_
      simp only [Function.comp_apply, Nat.succ_mul]
      congr 1
      omega

lemma addCaches_ok (hcursor : 256 ∣ cursor) (hbytes : 0 < elements * elementSize)
    (haligned : 256 ∣ elements * elementSize)
    (hfits : cursor + count * (2 * (elements * elementSize)) + 255 ≤ uint64Max) :
    addCaches elements elementSize count cursor = some
      ((List.range count).map fun i =>
        (⟨cursor + i * (2 * (elements * elementSize)), elements * elementSize, elements,
          elementSize⟩,
        ⟨cursor + i * (2 * (elements * elementSize)) + elements * elementSize,
          elements * elementSize, elements, elementSize⟩),
        cursor + count * (2 * (elements * elementSize))) := by
  induction count generalizing cursor with
  | zero => simp [addCaches]
  | succ count ih =>
    rw [Nat.succ_mul] at hfits
    have hvalue : 256 ∣ cursor + elements * elementSize := Dvd.dvd.add hcursor haligned
    have hrest := @ih (cursor + elements * elementSize + elements * elementSize)
      (Dvd.dvd.add hvalue haligned) (by omega)
    rw [addCaches, add_aligned hcursor hbytes (by omega)]
    simp only [Option.bind_eq_bind, Option.bind_some, add_aligned hvalue hbytes
      (show cursor + elements * elementSize + elements * elementSize + 255 ≤ uint64Max by omega),
      hrest, Option.pure_def, Option.some.injEq, Prod.mk.injEq, List.range_succ_eq_map,
      List.map_cons, List.map_map]
    refine ⟨?_, by ring⟩
    congr 1
    · simp
    · refine List.map_congr_left fun i _ => ?_
      simp only [Function.comp_apply, Nat.succ_mul]
      congr 2 <;> omega

end

end PlanBuilder

end Qwen3xOrin.Request
