import Qwen3xOrin.Fp8.PackExact
import Qwen3xOrin.Fp8.Ring
import Qwen3xOrin.Library.Loops

/-! The products of a stage, fed from a slot that has landed: the swizzle, the order of the sidecar
and the lanes of the fragments cancel. -/

namespace Qwen3xOrin.Fp8

open Library

section Elements

lemma vectorElement_elementVector (elements : ℕ → UInt16) (offset i : ℕ) :
    vectorElement (elementVector elements offset) i = elements (offset + i) := by
  have hlt : (elements (offset + i)).toNat < 65536 := (elements (offset + i)).toNat_lt
  have hlow : (elementVector elements offset (2 * i)).toNat =
      (elements (offset + i)).toNat % 256 := by
    rw [elementVector, if_pos (by omega), show 2 * i / 2 = i by omega]
    exact UInt8.toNat_ofNat_of_lt' (Nat.mod_lt _ (by decide))
  have hhigh : (elementVector elements offset (2 * i + 1)).toNat =
      (elements (offset + i)).toNat / 256 := by
    rw [elementVector, if_neg (by omega), show (2 * i + 1) / 2 = i by omega]
    exact UInt8.toNat_ofNat_of_lt' (Nat.div_lt_of_lt_mul (by exact hlt))
  rw [vectorElement, hlow, hhigh, Nat.mod_add_div]
  exact UInt16.ofNat_toNat

lemma decodedWeights_eq {code : ℕ} (hcode : code < 256) :
    decodedWeights code = decodeE4m3fnToBf16Bits (UInt8.ofNat code) := by
  have hlaw : WriteLaw (fun (table : ℕ → UInt16) thread =>
      Function.update table thread (decodeE4m3fnToBf16Bits (UInt8.ofNat thread)))
      (fun table i => table i) (fun thread i => thread = i)
      fun thread _ => decodeE4m3fnToBf16Bits (UInt8.ofNat thread) :=
    ⟨fun h => by rw [← h, Function.update_self], fun h => Function.update_of_ne (Ne.symm h) _ _⟩
  exact hlaw.agreed ⟨code, List.mem_range.mpr hcode, rfl⟩ (fun w _ h => by rw [h]) _

lemma decodedWeights_byte (byte : UInt8) :
    decodedWeights byte.toNat = decodeE4m3fnToBf16Bits byte := by
  rw [decodedWeights_eq byte.toNat_lt, UInt8.ofNat_toNat]

-- The bytes of a word in the order of the registers and their halves.
lemma decodeFp8x4_eq (word : ℕ → UInt8) {register half : ℕ} (hregister : register < 2)
    (hhalf : half < 2) : decodeFp8x4ToBf16x4 word register half =
      decodeE4m3fnToBf16Bits (word (register + 2 * half)) := by
  interval_cases register <;> interval_cases half <;>
    exact decodedWeights_byte _

end Elements

namespace Gemm

open SharedMemory

variable {F : Type} {g : Gemm F} {task : Task F} {base stage : ℕ} {s : SharedMemory Uint4}
  {committed visible : ℕ}

structure Landed (g : Gemm F) (task : Task F) (base stage : ℕ) (s : SharedMemory Uint4)
    (committed visible : ℕ) : Prop where
  held : g.StageHeld task base stage s
  counts : Counts g.order s committed visible visible
  visible : base + stage < visible

section Loads

lemma Landed.load (h : g.Threads) (hs : g.Landed task base stage s committed visible) {warp : ℕ}
    {address : ℕ → ℕ} (haddress : ∀ lane < 32, InSlot (stage % 4) (address (warp * 32 + lane))) :
    ∃ values s', s.load (warpLanes warp) address = some (values, s') ∧
      (∀ lane < 32, values (warp * 32 + lane) =
        g.slotData task stage (stage % 4) (address (warp * 32 + lane))) ∧
      g.Landed task base stage s' committed visible ∧ s'.cells = s.cells := by
  obtain ⟨values, s', hrun, hvalues, hcells, hcounts⟩ :=
    @Holds.load Uint4 s g.order _ _ _ _ _ _ _ _ hs.held hs.counts hs.visible
      (slotOwner_mem h (Nat.mod_lt stage (by decide))) (warpLanes warp) address fun t ht => by
        obtain ⟨lane, hlane, rfl⟩ := List.mem_map.mp ht
        exact haddress lane (List.mem_range.mp hlane)
  exact ⟨values, s', hrun, fun lane hlane => hvalues _ (warpLane_mem hlane),
    ⟨hs.held.congr fun a _ => congrFun hcells a, hcounts, hs.visible⟩, hcells⟩

-- The tokens and the columns of a panel of sixteen tokens and a slice of sixteen columns.
def activationSlice (g : Gemm F) (task : Task F) (mPanel slice r c : ℕ) : UInt16 :=
  g.activations ((task.tokenTile * 64 + (mPanel * 16 + r)) * g.columns + (slice * 16 + c))

lemma chunkAddress_row {row c : ℕ} (hc : c < 8) :
    chunkAddress (row * 8 + c) = row * 8 + (c ^^^ (row &&& 7)) := by
  rw [chunkAddress, show (row * 8 + c) / 8 = row by omega, show (row * 8 + c) % 8 = c by omega]

lemma and_seven (x : ℕ) : x &&& 7 = x % 8 := Nat.and_two_pow_sub_one_eq_mod x 3

lemma activationVector_element {token chunk e : ℕ} (hchunk : chunk < 8) (i : ℕ) (hi : i < 8)
    (hcolumn : chunk * 8 + i = e) :
    vectorElement (g.activationVector task stage (token * 8 + chunk)) i =
      g.activations ((task.tokenTile * 64 + token) * g.columns + (stage * 64 + e)) := by
  rw [activationVector, vectorElement_elementVector, show (token * 8 + chunk) / 8 = token by omega,
    show (token * 8 + chunk) % 8 = chunk by omega, ← hcolumn, Nat.add_assoc, Nat.add_assoc]
  rfl

lemma activation_fragment (h : g.Threads) (hs : g.Landed task base stage s committed visible)
    (warp : ℕ) {mPanel k16 : ℕ} (hmPanel : mPanel < 4) (hk16 : k16 < 4) :
    ∃ fragment s', loadM16k16ActivationFragment (stage % 4) mPanel k16 warp s =
        some (fragment, s') ∧
      LanesA fragment (g.activationSlice task mPanel (stage * 4 + k16)) ∧
      g.Landed task base stage s' committed visible ∧ s'.cells = s.cells := by
  have haddress (lane : ℕ) (hlane : lane < 32) :
      activationSlot (stage % 4) + ((mPanel * 16 + (lane % 8 + (lane / 8 &&& 1) * 8)) * 8 +
        ((k16 * 2 + ((lane / 8) >>> 1)) ^^^ (lane % 8 + (lane / 8 &&& 1) * 8 &&& 7))) =
      activationSlot (stage % 4) + chunkAddress ((mPanel * 16 + (lane % 8 + lane / 8 % 2 * 8)) * 8 +
        (k16 * 2 + lane / 8 / 2)) := by
    have hand : lane / 8 &&& 1 = lane / 8 % 2 := Nat.and_two_pow_sub_one_eq_mod _ 1
    have hshift : (lane / 8) >>> 1 = lane / 8 / 2 := by
      rw [Nat.shiftRight_eq_div_pow, Nat.pow_one]
    have hrow : (mPanel * 16 + (lane % 8 + lane / 8 % 2 * 8)) &&& 7 =
        (lane % 8 + lane / 8 % 2 * 8) &&& 7 := by
      rw [and_seven, and_seven]
      omega
    rw [chunkAddress_row (by omega), hand, hshift, hrow]
  have hthread (lane : ℕ) (hlane : lane < 32) : (warp * 32 + lane) % 32 = lane := by omega
  obtain ⟨vector, s', hrun, hvector, hlanded, hcells⟩ := @Landed.load F g task base stage s
    committed visible h hs warp (fun thread => activationSlot (stage % 4) +
      ((mPanel * 16 + (thread % 32 % 8 + (thread % 32 / 8 &&& 1) * 8)) * 8 +
        ((k16 * 2 + ((thread % 32 / 8) >>> 1)) ^^^
          (thread % 32 % 8 + (thread % 32 / 8 &&& 1) * 8 &&& 7)))) fun lane hlane => by
      rw [hthread lane hlane, haddress lane hlane]
      exact .inl (activation_in (by omega))
  refine ⟨fun lane register half => vectorElement (vector (warp * 32 + (register * 8 + lane / 4)))
    (lane % 4 * 2 + half), s', ?_, fun lane hlane register hregister half hhalf => ?_, hlanded,
    hcells⟩
  · rw [loadM16k16ActivationFragment]
    dsimp only
    rw [hrun]
    rfl
  · have hsource : register * 8 + lane / 4 < 32 := by omega
    dsimp only
    rw [hvector _ hsource, hthread _ hsource, haddress _ hsource, slotData_activation (by omega),
      activationVector_element (by omega) _ (by omega) rfl, activationSlice]
    congr 1
    have hrow : mPanel * 16 + ((register * 8 + lane / 4) % 8 +
        (register * 8 + lane / 4) / 8 % 2 * 8) = mPanel * 16 + (lane / 4 + 8 * (register % 2)) := by
      omega
    have hcolumn : stage * 64 + ((k16 * 2 + (register * 8 + lane / 4) / 8 / 2) * 8 +
        (lane % 4 * 2 + half)) =
        (stage * 4 + k16) * 16 + (lane % 4 * 2 + half + 8 * (register / 2)) := by
      omega
    rw [hrow, hcolumn]

-- A sidecar that holds the packed bytes of a matrix.
def Carries (part : Partition F) (columns : ℕ) (canonical : ℕ → UInt8) : Prop :=
  ∀ i : PackIndex, i.Valid (part.nblocks * (columns / columnsPerStage)) →
    part.sidecar (i.write columns).1 = canonical (i.write columns).2

def weightSlice (g : Gemm F) (task : Task F) (canonical : ℕ → UInt8)
    (warp nPanel slice c n : ℕ) : UInt16 :=
  decodeE4m3fnToBf16Bits (canonical
    ((task.localNblock * 256 + (warp * 32 + (nPanel * 8 + n))) * g.columns + (slice * 16 + c)))

lemma sharedWord (h : g.Threads) (hs : g.Landed task base stage s committed visible)
    {warp k16 nPanel : ℕ} (hwarp : warp < 8) (hk16 : k16 < 4) (hnPanel : nPanel < 4) :
    ∃ word s', loadSharedU32 (stage % 4) k16 nPanel warp s = some (word, s') ∧
      (∀ lane < 32, ∀ byte < 4, word lane byte = task.part.sidecar
        (4 * packWord (task.localNblock * g.kstageCount + stage) (warp * 32 + lane) k16 nPanel +
          byte)) ∧
      g.Landed task base stage s' committed visible ∧ s'.cells = s.cells := by
  have hword (lane : ℕ) (hlane : lane < 32) :
      (k16 * n8PanelsPerWarp + nPanel) * threads + (warp * 32 + lane) < 4096 := by
    unfold n8PanelsPerWarp threads
    omega
  have hvectorIndex (lane : ℕ) (hlane : lane < 32) :
      ((k16 * n8PanelsPerWarp + nPanel) * threads + (warp * 32 + lane)) / 4 < 1024 := by
    have hlt := hword lane hlane
    omega
  obtain ⟨vector, s', hrun, hvector, hlanded, hcells⟩ := @Landed.load F g task base stage s
    committed visible h hs warp (fun thread => weightSlot (stage % 4) +
      ((k16 * n8PanelsPerWarp + nPanel) * threads + thread) / 4) fun lane hlane =>
      .inr (weight_in (hvectorIndex lane hlane))
  refine ⟨fun lane byte => vector (warp * 32 + lane)
    (((k16 * n8PanelsPerWarp + nPanel) * threads + (warp * 32 + lane)) % 4 * 4 + byte), s', ?_,
    fun lane hlane byte hbyte => ?_, hlanded, hcells⟩
  · rw [loadSharedU32]
    dsimp only
    rw [hrun]
    rfl
  · dsimp only
    rw [hvector lane hlane, slotData_weight (Nat.mod_lt stage (by decide)) (hvectorIndex lane hlane),
      weightVector, byteVector, packWord]
    congr 1
    rw [show sidecarVectorsPerStage = 1024 from rfl, show sidecarWordsPerStage = 4096 from rfl]
    omega

lemma packSource_column (g : Gemm F) {nblock stage warp lane k16 nPanel register half : ℕ}
    (hstage : stage < g.kstageCount) (hlane : lane < 32) (hregister : register < 2) :
    packSource g.columns (nblock * g.kstageCount + stage) (warp * 32 + lane) k16 nPanel
        (register + 2 * half) =
      (nblock * 256 + (warp * 32 + (nPanel * 8 + lane / 4))) * g.columns +
        ((stage * 4 + k16) * 16 + (lane % 4 * 2 + half + 8 * register)) := by
  have htile : (nblock * g.kstageCount + stage) / (g.columns / columnsPerStage) = nblock := by
    rw [← kstageCount, Nat.mul_comm, Nat.mul_add_div (by omega), Nat.div_eq_of_lt hstage,
      Nat.add_zero]
  have hkstage : (nblock * g.kstageCount + stage) % (g.columns / columnsPerStage) = stage := by
    rw [← kstageCount, Nat.mul_comm, Nat.mul_add_mod, Nat.mod_eq_of_lt hstage]
  have hwarp : (warp * 32 + lane) / 32 = warp := by omega
  have hlane' : (warp * 32 + lane) % 32 = lane := by omega
  have hrow : packRow (g.columns / columnsPerStage) (nblock * g.kstageCount + stage)
      (warp * 32 + lane) nPanel = nblock * 256 + (warp * 32 + (nPanel * 8 + lane / 4)) := by
    rw [packRow, htile, warpSize, hwarp, hlane', Nat.add_assoc, Nat.add_assoc]
    rfl
  have hcolumn : packColumn (g.columns / columnsPerStage) (nblock * g.kstageCount + stage)
      (warp * 32 + lane) k16 + packByte (register + 2 * half) =
      (stage * 4 + k16) * 16 + (lane % 4 * 2 + half + 8 * register) := by
    rw [packColumn, packByte, hkstage, warpSize, hlane', columnsPerStage]
    omega
  rw [packSource, hrow, hcolumn]

lemma weight_fragment (h : g.Threads) (hs : g.Landed task base stage s committed visible)
    {canonical : ℕ → UInt8} (hcarries : Carries task.part g.columns canonical)
    (hblock : task.localNblock < task.part.nblocks) (hstage : stage < g.kstageCount)
    {warp k16 nPanel : ℕ} (hwarp : warp < 8) (hk16 : k16 < 4) (hnPanel : nPanel < 4) :
    ∃ word s', loadSharedU32 (stage % 4) k16 nPanel warp s = some (word, s') ∧
      LanesB (fun lane => decodeFp8x4ToBf16x4 (word lane))
        (g.weightSlice task canonical warp nPanel (stage * 4 + k16)) ∧
      g.Landed task base stage s' committed visible ∧ s'.cells = s.cells := by
  obtain ⟨word, s', hrun, hword, hlanded, hcells⟩ := sharedWord h hs hwarp hk16 hnPanel
  refine ⟨word, s', hrun, fun lane hlane register hregister half hhalf => ?_, hlanded, hcells⟩
  have htile : task.localNblock * g.kstageCount + stage <
      task.part.nblocks * (g.columns / columnsPerStage) := by
    have hle := Nat.mul_le_mul_right g.kstageCount (Nat.succ_le_of_lt hblock)
    rw [Nat.succ_mul] at hle
    exact (Nat.add_lt_add_left hstage _).trans_le hle
  have hbyte := hcarries ⟨task.localNblock * g.kstageCount + stage, warp * 32 + lane, k16, nPanel,
    register + 2 * half⟩ ⟨htile, by unfold threads; dsimp only; omega, hk16, hnPanel, by dsimp only; omega⟩
  dsimp only [PackIndex.write] at hbyte
  rw [packSource_column g hstage hlane hregister] at hbyte
  dsimp only
  rw [decodeFp8x4_eq _ hregister hhalf, hword lane hlane _ (by omega), hbyte, weightSlice]

end Loads

section Products

variable {canonical : ℕ → UInt8} {warp k16 : ℕ}

-- What a task needs of its partition.
structure Fits (g : Gemm F) (task : Task F) (canonical : ℕ → UInt8) : Prop where
  carries : Carries task.part g.columns canonical
  block : task.localNblock < task.part.nblocks

structure Loaded (g : Gemm F) (task : Task F) (canonical : ℕ → UInt8) (warp slice : ℕ)
    (r : RegisterStage) : Prop where
  activations : ∀ mPanel < 4, LanesA (r.activations mPanel) (g.activationSlice task mPanel slice)
  weights : ∀ nPanel < 4, LanesB (fun lane => decodeFp8x4ToBf16x4 (r.packedWeights nPanel lane))
    (g.weightSlice task canonical warp nPanel slice)

-- The accumulators of a panel of tokens and a panel of rows after a number of slices.
def accumulated (g : Gemm F) (task : Task F) (canonical : ℕ → UInt8) (warp mPanel nPanel : ℕ) :
    ℕ → ℕ → ℕ → F
  | 0 => fun _ _ => g.zero
  | slice + 1 => product g.mma (g.activationSlice task mPanel slice)
      (g.weightSlice task canonical warp nPanel slice)
      (g.accumulated task canonical warp mPanel nPanel slice)

def Accumulated (g : Gemm F) (task : Task F) (canonical : ℕ → UInt8) (warp slices : ℕ)
    (c : Accumulators F) : Prop :=
  ∀ mPanel < 4, ∀ nPanel < 4,
    LanesC (c mPanel nPanel) (g.accumulated task canonical warp mPanel nPanel slices)

lemma registerStage_loaded (h : g.Threads) (hs : g.Landed task base stage s committed visible)
    (hfits : g.Fits task canonical) (hstage : stage < g.kstageCount) (hwarp : warp < 8)
    (hk16 : k16 < 4) :
    ∃ r s', loadSupermatrixRegisterStage (stage % 4) k16 warp s = some (r, s') ∧
      g.Loaded task canonical warp (stage * 4 + k16) r ∧
      g.Landed task base stage s' committed visible ∧ s'.cells = s.cells := by
  obtain ⟨activations, s₁, hrun₁, hactivations, -, h₁, hcells₁⟩ := @foldlM_table_some _ ℕ _
    (fun mPanel s => loadM16k16ActivationFragment (stage % 4) mPanel k16 warp s)
    (fun s' => g.Landed task base stage s' committed visible ∧ s'.cells = s.cells)
    (fun mPanel fragment => LanesA fragment (g.activationSlice task mPanel (stage * 4 + k16))) _
    (List.range 4) (fun _ _ _ _ => 0) s List.nodup_range ⟨hs, rfl⟩ fun mPanel hmPanel s' hs' => by
      obtain ⟨fragment, s'', hrun, hlanes, hlanded, hcells⟩ :=
        activation_fragment h hs'.1 warp (List.mem_range.mp hmPanel) hk16
      exact ⟨fragment, s'', hrun, hlanes, hlanded, hcells.trans hs'.2⟩
  obtain ⟨packedWeights, s₂, hrun₂, hweights, -, h₂, hcells₂⟩ := @foldlM_table_some _ ℕ _
    (fun nPanel s => loadSharedU32 (stage % 4) k16 nPanel warp s)
    (fun s' => g.Landed task base stage s' committed visible ∧ s'.cells = s₁.cells)
    (fun nPanel word => LanesB (fun lane => decodeFp8x4ToBf16x4 (word lane))
      (g.weightSlice task canonical warp nPanel (stage * 4 + k16))) _
    (List.range 4) (fun _ _ _ => 0) s₁ List.nodup_range ⟨h₁, rfl⟩ fun nPanel hnPanel s' hs' => by
      obtain ⟨word, s'', hrun, hlanes, hlanded, hcells⟩ := weight_fragment h hs'.1 hfits.carries
        hfits.block hstage hwarp hk16 (List.mem_range.mp hnPanel)
      exact ⟨word, s'', hrun, hlanes, hlanded, hcells.trans hs'.2⟩
  refine ⟨⟨activations, packedWeights⟩, s₂, ?_, ⟨fun mPanel hmPanel =>
    hactivations mPanel (List.mem_range.mpr hmPanel), fun nPanel hnPanel =>
      hweights nPanel (List.mem_range.mpr hnPanel)⟩, h₂, hcells₂.trans hcells₁⟩
  rw [loadSupermatrixRegisterStage]
  refine (congrArg (· >>= _) hrun₁).trans ?_
  exact congrArg (· >>= _) hrun₂

-- The registers of the current slice are loaded, one slice ahead of the products.
structure Ahead (g : Gemm F) (task : Task F) (canonical : ℕ → UInt8) (base stage : ℕ)
    (cells : ℕ → Option (Copy Uint4)) (committed visible warp k16 : ℕ) (w : WarpState F) : Prop where
  landed : g.Landed task base stage w.shared committed visible
  cells : w.shared.cells = cells
  loaded : k16 < 4 → g.Loaded task canonical warp (stage * 4 + k16) (w.stages (k16 % 2))
  accumulated : g.Accumulated task canonical warp (stage * 4 + k16) w.accumulators

lemma k16Step_ahead (h : g.Threads) (hfits : g.Fits task canonical) (hstage : stage < g.kstageCount)
    (hwarp : warp < 8) (hk16 : k16 < 4) {cells : ℕ → Option (Copy Uint4)} {w : WarpState F}
    (hw : g.Ahead task canonical base stage cells committed visible warp k16 w) :
    ∃ w', g.k16Step (stage % 4) warp w k16 = some w' ∧
      g.Ahead task canonical base stage cells committed visible warp (k16 + 1) w' := by
  have hcurrent : k16 &&& 1 = k16 % 2 := Nat.and_two_pow_sub_one_eq_mod k16 1
  have hnext : k16 % 2 ^^^ 1 = (k16 + 1) % 2 := by
    interval_cases k16 <;> rfl
  have hne : (k16 + 1) % 2 ≠ k16 % 2 := by omega
  have hproduct (stages : ℕ → RegisterStage)
      (hsame : stages (k16 % 2) = w.stages (k16 % 2)) :
      g.Accumulated task canonical warp (stage * 4 + (k16 + 1)) fun mPanel nPanel =>
        mmaSync g.mma ((stages (k16 % 2)).activations mPanel)
          (fun lane => decodeFp8x4ToBf16x4 ((stages (k16 % 2)).packedWeights nPanel lane))
          (w.accumulators mPanel nPanel) := by
    intro mPanel hmPanel nPanel hnPanel
    rw [hsame]
    exact lanes_mmaSync ((hw.loaded hk16).activations mPanel hmPanel)
      ((hw.loaded hk16).weights nPanel hnPanel) (hw.accumulated mPanel hmPanel nPanel hnPanel)
  rw [k16Step, hcurrent, hnext]
  by_cases hmore : k16 + 1 < 4
  · obtain ⟨r, s', hrun, hloaded, hlanded, hcells⟩ :=
      registerStage_loaded h hw.landed hfits hstage hwarp hmore
    rw [if_pos (show k16 + 1 < k16Groups from hmore), hrun]
    exact ⟨_, rfl, hlanded, hcells.trans hw.cells,
      fun _ => by dsimp only; rw [Function.update_self]; exact hloaded,
      hproduct _ (Function.update_of_ne hne.symm _ _)⟩
  · rw [if_neg (show ¬ k16 + 1 < k16Groups from hmore)]
    exact ⟨_, rfl, hw.landed, hw.cells, fun hlt => absurd hlt hmore, hproduct _ rfl⟩

lemma warpStage_products (h : g.Threads) (hfits : g.Fits task canonical)
    (hstage : stage < g.kstageCount) (hwarp : warp < 8) {r : Registers F}
    (hr : g.Landed task base stage r.shared committed visible)
    (hc : g.Accumulated task canonical warp (stage * 4) (r.accumulators warp)) :
    ∃ c s', g.warpStage (stage % 4) r warp = some ⟨s', Function.update r.accumulators warp c⟩ ∧
      g.Accumulated task canonical warp ((stage + 1) * 4) c ∧
      g.Landed task base stage s' committed visible ∧ s'.cells = r.shared.cells := by
  obtain ⟨first, s₁, hrun₁, hloaded, hlanded, hcells⟩ :=
    registerStage_loaded h hr hfits hstage hwarp (show 0 < 4 by decide)
  obtain ⟨w, hrun, hw⟩ := @foldlM_range_some _ (g.k16Step (stage % 4) warp)
    (fun k16 w => g.Ahead task canonical base stage r.shared.cells committed visible warp k16 w)
    k16Groups ⟨s₁, fun _ => first, r.accumulators warp⟩ ⟨hlanded, hcells, fun _ => hloaded, hc⟩
    fun k16 hk16 w hw => k16Step_ahead h hfits hstage hwarp hk16 hw
  refine ⟨w.accumulators, w.shared, ?_, ?_, hw.landed, hw.cells⟩
  · rw [warpStage, hrun₁]
    refine (congrArg (· >>= _) hrun).trans ?_
    rfl
  · rw [Nat.add_mul]
    exact hw.accumulated

lemma warps_products (h : g.Threads) (hfits : g.Fits task canonical)
    (hstage : stage < g.kstageCount) {warps : List ℕ} (hnodup : warps.Nodup)
    (hwarps : ∀ warp ∈ warps, warp < 8) {r : Registers F}
    (hr : g.Landed task base stage r.shared committed visible)
    (hc : ∀ warp ∈ warps, g.Accumulated task canonical warp (stage * 4) (r.accumulators warp)) :
    ∃ r', warps.foldlM (g.warpStage (stage % 4)) r = some r' ∧
      (∀ warp ∈ warps,
        g.Accumulated task canonical warp ((stage + 1) * 4) (r'.accumulators warp)) ∧
      (∀ warp ∉ warps, r'.accumulators warp = r.accumulators warp) ∧
      g.Landed task base stage r'.shared committed visible ∧ r'.shared.cells = r.shared.cells := by
  induction warps generalizing r with
  | nil => exact ⟨r, rfl, fun _ hw => absurd hw List.not_mem_nil, fun _ _ => rfl, hr, rfl⟩
  | cons warp warps ih =>
    obtain ⟨hfresh, hnodup⟩ := List.nodup_cons.mp hnodup
    obtain ⟨c, s₁, hrun₁, hc₁, hlanded, hcells⟩ := warpStage_products h hfits hstage
      (hwarps warp List.mem_cons_self) hr (hc warp List.mem_cons_self)
    have hother (v : ℕ) (hv : v ≠ warp) :
        Function.update r.accumulators warp c v = r.accumulators v := Function.update_of_ne hv _ _
    obtain ⟨r', hrun, hproducts, hkept, hr', hcells'⟩ := @ih hnodup
      (fun v hv => hwarps v (List.mem_cons_of_mem warp hv))
      ⟨s₁, Function.update r.accumulators warp c⟩ hlanded fun v hv => by
        dsimp only
        rw [hother v fun heq => hfresh (heq ▸ hv)]
        exact hc v (List.mem_cons_of_mem warp hv)
    refine ⟨r', ?_, fun v hv => ?_, fun v hv => ?_, hr', hcells'.trans hcells⟩
    · rw [List.foldlM_cons, hrun₁]
      exact hrun
    · obtain rfl | hv := List.mem_cons.mp hv
      · rw [hkept v hfresh]
        dsimp only
        rw [Function.update_self]
        exact hc₁
      · exact hproducts v hv
    · obtain ⟨hne, hv⟩ := not_or.mp (mt List.mem_cons.mpr hv)
      rw [hkept v hv]
      exact hother v hne

-- Before a stage the ring is fed and the accumulators hold the slices of the stages before.
structure Turn (g : Gemm F) (task : Task F) (canonical : ℕ → UInt8) (base stage : ℕ)
    (r : Registers F) : Prop where
  ring : g.Ring task base stage r.shared
  accumulated : ∀ warp < 8,
    g.Accumulated task canonical warp (stage * 4) (r.accumulators warp)

lemma Threads.mem_warpOrder (h : g.Threads) {warp : ℕ} : warp ∈ g.warpOrder ↔ warp < 8 := by
  rw [h.warpOrder.mem_iff, List.mem_range]

lemma stageStep_turn (h : g.Threads) (hfits : g.Fits task canonical)
    (hstage : stage < g.kstageCount) {r : Registers F}
    (hr : g.Turn task canonical base stage r) :
    ∃ r', g.stageStep task r stage = some r' ∧ g.Turn task canonical base (stage + 1) r' := by
  obtain ⟨s, hfeed, hfed⟩ := hr.ring.feed h hstage
  have hlanded : g.Landed task base stage s (base + min (stage + 4) g.kstageCount)
      (base + stage + 1) :=
    ⟨hfed.held stage le_rfl (by omega) hstage, hfed.counts, Nat.lt_succ_self _⟩
  obtain ⟨r', hrun, hproducts, -, hlanded', hcells⟩ := @warps_products F g task base stage _ _
    canonical h hfits hstage g.warpOrder (h.warpOrder.nodup_iff.mpr List.nodup_range)
    (fun warp hwarp => h.mem_warpOrder.mp hwarp) ⟨s, r.accumulators⟩ hlanded
    fun warp hwarp => hr.accumulated warp (h.mem_warpOrder.mp hwarp)
  refine ⟨r', ?_, hfed.next h hstage hcells hlanded'.counts,
    fun warp hwarp => hproducts warp (h.mem_warpOrder.mpr hwarp)⟩
  have hstep : g.stageStep task r stage = (g.feed task stage r.shared).bind fun shared =>
      g.warpOrder.foldlM (g.warpStage (stage % pipelineStages)) ⟨shared, r.accumulators⟩ := by
    rw [stageStep, Gemm.feed]
    dsimp only
    split_ifs <;> rfl
  rw [hstep, hfeed]
  exact hrun

-- A task ends with all its slices accumulated and the ring at rest.
lemma runTask_outputs (h : g.Threads) (hfits : g.Fits task canonical) (hK : 3 ≤ g.kstageCount)
    (hs : g.Idle base s) :
    ∃ c s', g.runTask task s = some (g.order.flatMap (g.outputs task c), s') ∧
      (∀ warp < 8, g.Accumulated task canonical warp (g.kstageCount * 4) (c warp)) ∧
      g.Idle (base + g.kstageCount) s' := by
  obtain ⟨s₁, s₂, s₃, hrun₁, hrun₂, hrun₃, hring⟩ := hs.start h task hK
  have hstart : g.Turn task canonical base 0 ⟨s₃, fun _ _ _ _ _ => g.zero⟩ :=
    ⟨hring, fun warp _ mPanel _ nPanel _ lane _ i _ => by
      rw [Nat.zero_mul, Gemm.accumulated]⟩
  obtain ⟨r, hrun, hturn⟩ := @foldlM_range_some _ (g.stageStep task)
    (fun stage r => g.Turn task canonical base stage r) g.kstageCount _ hstart
    fun stage hstage r hr => stageStep_turn h hfits hstage hr
  refine ⟨r.accumulators, _, ?_, hturn.accumulated, hturn.ring.finish h⟩
  rw [runTask, hrun₁, Option.bind_eq_bind, Option.bind_some, hrun₂, Option.bind_some, hrun₃,
    Option.bind_some, hrun]
  rfl

end Products

end Gemm

end Qwen3xOrin.Fp8
