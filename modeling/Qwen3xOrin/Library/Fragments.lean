import Mathlib.Tactic

/-! The fragments of a matrix product of sixteen rows, eight columns and depth sixteen: which lane of
a warp holds which elements in which register. The product itself is a parameter. -/

namespace Qwen3xOrin.Library

abbrev Mma (F : Type) :=
  (Fin 16 → Fin 16 → UInt16) → (Fin 16 → Fin 8 → UInt16) → (Fin 16 → Fin 8 → F) →
    Fin 16 → Fin 8 → F

section Layout

variable {F : Type}

-- The threads of a warp.
def warpLanes (warp : ℕ) : List ℕ := (List.range 32).map (warp * 32 + ·)

lemma warpLane_mem {warp lane : ℕ} (hlane : lane < 32) : warp * 32 + lane ∈ warpLanes warp :=
  List.mem_map_of_mem (List.mem_range.mpr hlane)

-- The words of the lanes, a register after another.
def fourRegisters (x0 x1 x2 x3 : ℕ → ℕ → UInt16) (lane : ℕ) : ℕ → ℕ → UInt16
  | 0 => x0 lane
  | 1 => x1 lane
  | 2 => x2 lane
  | _ => x3 lane

def twoRegisters (x0 x1 : ℕ → ℕ → UInt16) (lane : ℕ) : ℕ → ℕ → UInt16
  | 0 => x0 lane
  | _ => x1 lane

def LanesA (a : ℕ → ℕ → ℕ → UInt16) (m : ℕ → ℕ → UInt16) : Prop :=
  ∀ lane < 32, ∀ register < 4, ∀ half < 2, a lane register half =
    m (lane / 4 + 8 * (register % 2)) (lane % 4 * 2 + half + 8 * (register / 2))

def LanesB (b : ℕ → ℕ → ℕ → UInt16) (m : ℕ → ℕ → UInt16) : Prop :=
  ∀ lane < 32, ∀ register < 2, ∀ half < 2, b lane register half =
    m (lane % 4 * 2 + half + 8 * register) (lane / 4)

def LanesC (c : ℕ → ℕ → F) (m : ℕ → ℕ → F) : Prop :=
  ∀ lane < 32, ∀ i < 4, c lane i = m (lane / 4 + 8 * (i / 2)) (lane % 4 * 2 + i % 2)

def gatherA (a : ℕ → ℕ → ℕ → UInt16) (r c : Fin 16) : UInt16 :=
  a (r % 8 * 4 + c % 8 / 2) (r / 8 + 2 * (c / 8)) (c % 2)

def gatherB (b : ℕ → ℕ → ℕ → UInt16) (k : Fin 16) (n : Fin 8) : UInt16 :=
  b (n * 4 + k % 8 / 2) (k / 8) (k % 2)

def gatherC (c : ℕ → ℕ → F) (r : Fin 16) (n : Fin 8) : F :=
  c (r % 8 * 4 + n / 2) (r / 8 * 2 + n % 2)

-- The product of a warp, from the registers of its lanes into those of its lanes.
def mmaSync (mma : Mma F) (a b : ℕ → ℕ → ℕ → UInt16) (c : ℕ → ℕ → F) (lane i : ℕ) : F :=
  mma (gatherA a) (gatherB b) (gatherC c) ⟨lane / 4 % 8 + 8 * (i / 2 % 2), by omega⟩
    ⟨lane % 4 * 2 + i % 2, by omega⟩

def product (mma : Mma F) (a b : ℕ → ℕ → UInt16) (c : ℕ → ℕ → F) (r n : ℕ) : F :=
  if h : r < 16 ∧ n < 8 then
    mma (fun r k => a r k) (fun k n => b k n) (fun r n => c r n) ⟨r, h.1⟩ ⟨n, h.2⟩
  else c r n

lemma lanes_mmaSync {mma : Mma F} {a b : ℕ → ℕ → ℕ → UInt16} {c : ℕ → ℕ → F}
    {a' b' : ℕ → ℕ → UInt16} {c' : ℕ → ℕ → F} (ha : LanesA a a') (hb : LanesB b b')
    (hc : LanesC c c') : LanesC (mmaSync mma a b c) (product mma a' b' c') := by
  have hA : gatherA a = fun (r k : Fin 16) => a' r k := by
    funext r k
    rw [gatherA, ha _ (by omega) _ (by omega) _ (by omega)]
    congr 1 <;> omega
  have hB : gatherB b = fun (k : Fin 16) (n : Fin 8) => b' k n := by
    funext k n
    rw [gatherB, hb _ (by omega) _ (by omega) _ (by omega)]
    congr 1 <;> omega
  have hC : gatherC c = fun (r : Fin 16) (n : Fin 8) => c' r n := by
    funext r n
    rw [gatherC, hc _ (by omega) _ (by omega)]
    congr 1 <;> omega
  intro lane hlane i hi
  rw [mmaSync, hA, hB, hC, product, dif_pos (by omega)]
  congr 2
  omega

end Layout

section Columns

variable {F : Type}

-- A product that treats its columns alike and apart from each other.
abbrev Column (F : Type) :=
  (Fin 16 → Fin 16 → UInt16) → (Fin 16 → UInt16) → (Fin 16 → F) → Fin 16 → F

def Columnwise (mma : Mma F) (column : Column F) : Prop :=
  ∀ a b c r n, mma a b c r n = column a (fun k => b k n) (fun r => c r n) r

def columnFold (column : Column F) (zero : F) (a : ℕ → Fin 16 → Fin 16 → UInt16)
    (x : ℕ → Fin 16 → UInt16) : ℕ → Fin 16 → F
  | 0 => fun _ => zero
  | slice + 1 => column (a slice) (x slice) (columnFold column zero a x slice)

-- And its rows as well.
def Rowwise (column : Column F) (dot : (Fin 16 → UInt16) → (Fin 16 → UInt16) → F → F) : Prop :=
  ∀ a x c r, column a x c r = dot (a r) x (c r)

def dotFold (dot : (Fin 16 → UInt16) → (Fin 16 → UInt16) → F → F) (zero : F)
    (a x : ℕ → Fin 16 → UInt16) : ℕ → F
  | 0 => zero
  | slice + 1 => dot (a slice) (x slice) (dotFold dot zero a x slice)

lemma columnFold_congr {column : Column F} {zero : F} {a a' : ℕ → Fin 16 → Fin 16 → UInt16}
    {x x' : ℕ → Fin 16 → UInt16} {slices : ℕ} (ha : ∀ s < slices, a s = a' s)
    (hx : ∀ s < slices, x s = x' s) :
    columnFold column zero a x slices = columnFold column zero a' x' slices := by
  induction slices with
  | zero => rfl
  | succ slices ih =>
    rw [columnFold, columnFold, ha slices (by omega), hx slices (by omega),
      ih (fun s hs => ha s (by omega)) fun s hs => hx s (by omega)]

lemma columnFold_rowwise {column : Column F}
    {dot : (Fin 16 → UInt16) → (Fin 16 → UInt16) → F → F} (h : Rowwise column dot) (zero : F)
    (a : ℕ → Fin 16 → Fin 16 → UInt16) (x : ℕ → Fin 16 → UInt16) (slices : ℕ) (r : Fin 16) :
    columnFold column zero a x slices r = dotFold dot zero (fun s => a s r) x slices := by
  induction slices with
  | zero => rfl
  | succ slices ih => rw [columnFold, h, ih, dotFold]

end Columns

end Qwen3xOrin.Library
