import Qwen3xOrin.Library.Loops
import Qwen3xOrin.Mtp.DraftTiles

/-! What the draft projection writes: each output of a token once, as the fold of the products over
the slices of its own row, whatever the batch around it is. -/

namespace Qwen3xOrin.Mtp.DraftLaunch

open Library

variable {F : Type} {p : DraftLaunch F} {block : ℕ}

section Writes

def warpOf (token row : ℕ) : ℕ := token / 8 * 4 + row % 64 / 16

def output (p : DraftLaunch F) (token row : ℕ) : UInt16 :=
  p.rounded (p.accumulated (row / 64) (warpOf token row) (p.k / 16) (row % 16) (token % 8))

lemma output_u32 (hp : p.Admitted) {token row : ℕ} (htoken : token < p.count) (hrow : row < p.n) :
    u32 (token * p.n + row) = token * p.n + row := by
  have hle : (token + 1) * p.n ≤ p.count * p.n := Nat.mul_le_mul_right _ htoken
  rw [Nat.add_mul, Nat.one_mul] at hle
  have hfit := hp.outputFit
  exact Nat.mod_eq_of_lt (by omega)

lemma thread_warp (hp : p.Admitted) {thread : ℕ} (hthread : thread ∈ p.order) :
    thread / 32 ∈ p.warpOrder := by
  have hlt := List.mem_range.mp (hp.threads.mem_iff.mp hthread)
  refine hp.warps.mem_iff.mpr (List.mem_range.mpr ?_)
  obtain hcapacity | hcapacity | hcapacity := hp.capacity
  all_goals
    unfold blockDim at *
    omega

-- The token, the row and the value of a register of a thread.
lemma results_eq (hp : p.Admitted) {c : ℕ → ℕ → ℕ → F}
    (hc : ∀ warp ∈ p.warpOrder, LanesC (c warp) (p.accumulated block warp (p.k / 16)))
    {thread : ℕ} (hthread : thread ∈ p.order) :
    p.results block c thread = (List.range 4).filterMap fun i =>
      if thread / 32 / 4 * 8 + thread % 32 % 4 * 2 + i % 2 < p.count then
        some (u32 ((thread / 32 / 4 * 8 + thread % 32 % 4 * 2 + i % 2) * p.n + (block * 64 +
          (thread / 32 % 4 * 16 + (thread % 32 / 4 + 8 * (i / 2))))),
          p.rounded (p.accumulated block (thread / 32) (p.k / 16)
            (thread % 32 / 4 + 8 * (i / 2)) (thread % 32 % 4 * 2 + i % 2)))
      else none := by
  refine List.filterMap_congr fun i hi => ?_
  rw [List.mem_range] at hi
  have hand : i &&& 1 = i % 2 := Nat.and_two_pow_sub_one_eq_mod i 1
  have hhalf : (if 2 ≤ i then 8 else 0) = 8 * (i / 2) := by split_ifs <;> omega
  have hrow : block * 64 + (thread / 32 % 4 * 16 + thread % 32 / 4) + 8 * (i / 2) =
      block * 64 + (thread / 32 % 4 * 16 + (thread % 32 / 4 + 8 * (i / 2))) := by
    rw [Nat.add_assoc, Nat.add_assoc]
  dsimp only
  rw [hand, hhalf, hrow, hc _ (thread_warp hp hthread) _ (Nat.mod_lt _ (by decide)) i hi]

lemma output_eq {warp token row r n : ℕ} (hblock : row / 64 = block) (hwarp : warpOf token row = warp)
    (hr : row % 16 = r) (hn : token % 8 = n) :
    p.rounded (p.accumulated block warp (p.k / 16) r n) = p.output token row := by
  rw [output, hblock, hwarp, hr, hn]

lemma row_split {w r : ℕ} (hw : w < 4) (hr : r < 16) :
    (block * 64 + (w * 16 + r)) / 64 = block ∧ (block * 64 + (w * 16 + r)) % 64 / 16 = w ∧
      (block * 64 + (w * 16 + r)) % 16 = r := by omega

lemma mem_results (hp : p.Admitted) (hblock : block < p.n / 64) {c : ℕ → ℕ → ℕ → F}
    (hc : ∀ warp ∈ p.warpOrder, LanesC (c warp) (p.accumulated block warp (p.k / 16)))
    {thread : ℕ} (hthread : thread ∈ p.order) {q : ℕ × UInt16} :
    q ∈ p.results block c thread ↔ ∃ token < p.count, ∃ row, row / 64 = block ∧
      thread = warpOf token row * 32 + (row % 8 * 4 + token % 8 / 2) ∧
        q = (token * p.n + row, p.output token row) := by
  have hlane : thread % 32 < 32 := Nat.mod_lt _ (by decide)
  rw [results_eq hp hc hthread, List.mem_filterMap]
  constructor
  · rintro ⟨i, hi, hq⟩
    rw [List.mem_range] at hi
    split_ifs at hq with htoken
    cases hq
    have htokenTile : (thread / 32 / 4 * 8 + thread % 32 % 4 * 2 + i % 2) / 8 = thread / 32 / 4 := by
      omega
    have htokenLane : (thread / 32 / 4 * 8 + thread % 32 % 4 * 2 + i % 2) % 8 =
        thread % 32 % 4 * 2 + i % 2 := by omega
    have hrowLane : thread % 32 / 4 + 8 * (i / 2) < 16 := by omega
    obtain ⟨hrowBlock, hrowTile, hrowIndex⟩ :=
      @row_split block _ _ (Nat.mod_lt (thread / 32) (show 4 > 0 by decide)) hrowLane
    have hwarp : warpOf (thread / 32 / 4 * 8 + thread % 32 % 4 * 2 + i % 2)
        (block * 64 + (thread / 32 % 4 * 16 + (thread % 32 / 4 + 8 * (i / 2)))) = thread / 32 := by
      rw [warpOf, htokenTile, hrowTile]
      omega
    refine ⟨_, htoken, block * 64 + (thread / 32 % 4 * 16 + (thread % 32 / 4 + 8 * (i / 2))),
      hrowBlock, ?_, Prod.ext (output_u32 hp htoken (by omega)) ?_⟩
    · rw [hwarp, htokenLane]
      omega
    · exact output_eq hrowBlock hwarp hrowIndex htokenLane
  · rintro ⟨token, htoken, row, hrow, rfl, rfl⟩
    refine ⟨row % 16 / 8 * 2 + token % 2, List.mem_range.mpr (by omega), ?_⟩
    have hwarp : (warpOf token row * 32 + (row % 8 * 4 + token % 8 / 2)) / 32 =
        warpOf token row := by omega
    have hthreadLane : (warpOf token row * 32 + (row % 8 * 4 + token % 8 / 2)) % 32 =
        row % 8 * 4 + token % 8 / 2 := by omega
    have htokenIndex : warpOf token row / 4 * 8 + (row % 8 * 4 + token % 8 / 2) % 4 * 2 +
        (row % 16 / 8 * 2 + token % 2) % 2 = token := by
      unfold warpOf
      omega
    have hrowIndex : block * 64 + (warpOf token row % 4 * 16 +
        ((row % 8 * 4 + token % 8 / 2) / 4 + 8 * ((row % 16 / 8 * 2 + token % 2) / 2))) = row := by
      unfold warpOf
      omega
    rw [hwarp, hthreadLane, htokenIndex, if_pos htoken, hrowIndex,
      output_u32 hp htoken (by omega), output_eq hrow rfl (by omega) (by omega)]

lemma thread_of_mem (hp : p.Admitted) {token row : ℕ} (htoken : token < p.count) :
    warpOf token row * 32 + (row % 8 * 4 + token % 8 / 2) ∈ p.order := by
  refine hp.threads.mem_iff.mpr (List.mem_range.mpr ?_)
  have hcount := hp.count
  unfold blockDim warpOf
  obtain hcapacity | hcapacity | hcapacity := hp.capacity <;> omega

lemma mem_blockWrites (hp : p.Admitted) (hblock : block < p.n / 64) {c : ℕ → ℕ → ℕ → F}
    (hc : ∀ warp ∈ p.warpOrder, LanesC (c warp) (p.accumulated block warp (p.k / 16)))
    {q : ℕ × UInt16} :
    q ∈ p.order.flatMap (p.results block c) ↔ ∃ token < p.count, ∃ row, row / 64 = block ∧
      q = (token * p.n + row, p.output token row) := by
  rw [List.mem_flatMap]
  constructor
  · rintro ⟨thread, hthread, hq⟩
    obtain ⟨token, htoken, row, hrow, -, rfl⟩ := (mem_results hp hblock hc hthread).mp hq
    exact ⟨token, htoken, row, hrow, rfl⟩
  · rintro ⟨token, htoken, row, hrow, rfl⟩
    have hthread := @thread_of_mem F p hp token row htoken
    exact ⟨_, hthread, (mem_results hp hblock hc hthread).mpr ⟨token, htoken, row, hrow, rfl, rfl⟩⟩

lemma index_decodes {token row : ℕ} (hrow : row < p.n) :
    (token * p.n + row) / p.n = token ∧ (token * p.n + row) % p.n = row := by
  rw [Nat.mul_comm, Nat.mul_add_div (by omega), Nat.mul_add_mod, Nat.div_eq_of_lt hrow,
    Nat.mod_eq_of_lt hrow, Nat.add_zero]
  exact ⟨rfl, rfl⟩

lemma results_nodup (hp : p.Admitted) (hblock : block < p.n / 64) {c : ℕ → ℕ → ℕ → F}
    (hc : ∀ warp ∈ p.warpOrder, LanesC (c warp) (p.accumulated block warp (p.k / 16)))
    {thread : ℕ} (hthread : thread ∈ p.order) :
    ((p.results block c thread).map Prod.fst).Nodup := by
  rw [results_eq hp hc hthread, List.map_filterMap]
  refine @nodup_filterMap_of_key _ _ _ _ (fun index =>
    index % p.n % 16 / 8 * 2 + index / p.n % 2) List.nodup_range fun i hi index hindex => ?_
  rw [List.mem_range] at hi
  split_ifs at hindex with htoken
  · cases hindex
    have hlane : thread % 32 < 32 := Nat.mod_lt _ (by decide)
    dsimp only
    rw [output_u32 hp htoken (by omega), (index_decodes (by omega)).1,
      (index_decodes (by omega)).2]
    omega
  · cases hindex

lemma blockWrites_nodup (hp : p.Admitted) (hblock : block < p.n / 64) {c : ℕ → ℕ → ℕ → F}
    (hc : ∀ warp ∈ p.warpOrder, LanesC (c warp) (p.accumulated block warp (p.k / 16))) :
    ((p.order.flatMap (p.results block c)).map Prod.fst).Nodup := by
  rw [List.map_flatMap]
  refine @nodup_flatMap_of_key _ _ _ _ (fun index =>
    warpOf (index / p.n) (index % p.n) * 32 + (index % p.n % 8 * 4 + index / p.n % 8 / 2))
    (order_nodup hp) (fun thread hthread => results_nodup hp hblock hc hthread)
    fun thread hthread index hindex => ?_
  obtain ⟨q, hq, rfl⟩ := List.mem_map.mp hindex
  obtain ⟨token, htoken, row, hrow, hsame, rfl⟩ := (mem_results hp hblock hc hthread).mp hq
  obtain ⟨hdiv, hmod⟩ := @index_decodes F p token row (by omega)
  dsimp only
  rw [hdiv, hmod, hsame]

-- Every output of a token is written once, and no output of a padding token.
lemma run_writes (hp : p.Admitted) : ∃ writes, p.run = some writes ∧
    (writes.map Prod.fst).Perm (List.range (p.count * p.n)) ∧
    ∀ token < p.count, ∀ row < p.n, (token * p.n + row, p.output token row) ∈ writes := by
  have hblocks (block : ℕ) : block ∈ p.blockOrder ↔ block < p.n / 64 := by
    rw [hp.blocks.mem_iff, List.mem_range]
  have : Nonempty F := ⟨p.zero⟩
  choose! c hrun hc using fun block (hblock : block < p.n / 64) =>
    draftWeightMajor_writes hp hblock
  have hmem (q : ℕ × UInt16) :
      q ∈ p.blockOrder.flatMap (fun block => p.order.flatMap (p.results block (c block))) ↔
        ∃ token < p.count, ∃ row < p.n, q = (token * p.n + row, p.output token row) := by
    have hrows := hp.rows
    rw [List.mem_flatMap]
    constructor
    · rintro ⟨block, hblock, hq⟩
      rw [hblocks] at hblock
      obtain ⟨token, htoken, row, hrow, rfl⟩ :=
        (mem_blockWrites hp hblock (hc block hblock)).mp hq
      exact ⟨token, htoken, row, by omega, rfl⟩
    · rintro ⟨token, htoken, row, hrow, rfl⟩
      have hblock : row / 64 < p.n / 64 := by omega
      exact ⟨row / 64, (hblocks _).mpr hblock, (mem_blockWrites hp hblock (hc _ hblock)).mpr
        ⟨token, htoken, row, rfl, rfl⟩⟩
  refine ⟨p.blockOrder.flatMap fun block => p.order.flatMap (p.results block (c block)), ?_,
    perm_range ?_ fun index => ?_, fun token htoken row hrow =>
      (hmem _).mpr ⟨token, htoken, row, hrow, rfl⟩⟩
  · exact (foldlM_append_each (fun block hblock => hrun block ((hblocks block).mp hblock)) []).trans
      (by rw [List.nil_append])
  · rw [List.map_flatMap]
    refine @nodup_flatMap_of_key _ _ _ _ (fun index => index % p.n / 64)
      (hp.blocks.nodup_iff.mpr List.nodup_range) (fun block hblock => blockWrites_nodup hp
        ((hblocks block).mp hblock) (hc block ((hblocks block).mp hblock)))
      fun block hblock index hindex => ?_
    rw [hblocks] at hblock
    obtain ⟨q, hq, rfl⟩ := List.mem_map.mp hindex
    obtain ⟨token, htoken, row, hrow, rfl⟩ := (mem_blockWrites hp hblock (hc block hblock)).mp hq
    dsimp only
    rw [(@index_decodes F p token row (by omega)).2, hrow]
  · rw [List.mem_map]
    constructor
    · rintro ⟨q, hq, rfl⟩
      obtain ⟨token, htoken, row, hrow, rfl⟩ := (hmem q).mp hq
      have hle : (token + 1) * p.n ≤ p.count * p.n := Nat.mul_le_mul_right _ htoken
      rw [Nat.add_mul, Nat.one_mul] at hle
      dsimp only
      omega
    · intro hindex
      have hn : 0 < p.n := Nat.pos_of_ne_zero fun hzero => by
        rw [hzero, Nat.mul_zero] at hindex
        exact Nat.not_lt_zero _ hindex
      refine ⟨_, (hmem _).mpr ⟨index / p.n, Nat.div_lt_of_lt_mul (by rwa [Nat.mul_comm]),
        index % p.n, Nat.mod_lt _ hn, rfl⟩, ?_⟩
      exact Nat.div_add_mod' index p.n

end Writes

section Fold

variable {column : Column F}

-- The fold of a token's own row against the sixteen weight rows that share a fragment.
def tokenFold (p : DraftLaunch F) (column : Column F) (x : ℕ → UInt16) (row : ℕ) : Fin 16 → F :=
  columnFold column p.zero
    (fun slice r c => p.weights ((row / 16 * 16 + r) * p.k + (slice * 16 + c)))
    (fun slice c => x (slice * 16 + c)) (p.k / 16)

lemma accumulated_fold (hcolumns : Columnwise p.mma column) {token row : ℕ} (slices : ℕ)
    (r : Fin 16) :
    p.accumulated (row / 64) (warpOf token row) slices r (token % 8) =
      columnFold column p.zero
        (fun slice r c => p.weights ((row / 16 * 16 + r) * p.k + (slice * 16 + c)))
        (fun slice c => p.tokenRow token (slice * 16 + c)) slices r := by
  induction slices generalizing r with
  | zero => rfl
  | succ slices ih =>
    have hrows (r : ℕ) : row / 64 * 64 + (warpOf token row % 4 * 16 + r) = row / 16 * 16 + r := by
      unfold warpOf
      omega
    have htoken : warpOf token row / 4 * 8 + token % 8 = token := by
      unfold warpOf
      omega
    rw [accumulated, product, dif_pos ⟨r.isLt, Nat.mod_lt _ (by decide)⟩, hcolumns, columnFold]
    simp only [weightSlice, tokenSlice, hrows, htoken, ih]

lemma output_fold (hcolumns : Columnwise p.mma column) {token : ℕ} (htoken : token < p.count)
    (row : ℕ) :
    p.output token row = p.rounded (p.tokenFold column (fun j => p.input (token * p.k + j)) row
      ⟨row % 16, Nat.mod_lt _ (by decide)⟩) := by
  rw [output, tokenFold]
  refine congrArg p.rounded ((accumulated_fold hcolumns (p.k / 16)
    ⟨row % 16, Nat.mod_lt _ (by decide)⟩).trans ?_)
  simp only [tokenRow, if_pos htoken]

end Fold

section Launch

structure Ordered (p : DraftLaunch F) : Prop where
  threads : p.order.Perm (List.range p.blockDim)
  warps : p.warpOrder.Perm (List.range (p.blockDim / 32))
  blocks : p.blockOrder.Perm (List.range (p.n / 64))

def capacityOf (p : DraftLaunch F) : ℕ := if p.count ≤ 8 then 8 else if p.count ≤ 16 then 16 else 32

-- A launch that is not refused is one that the kernels can run.
lemma launch_admitted {weights input out : ℕ} (hvalid : p.invalid weights input out = false)
    (hordered : (p.withCapacity p.capacityOf).Ordered) :
    p.launchMtpPrefillProjection weights input out = some (p.withCapacity p.capacityOf).run ∧
      (p.withCapacity p.capacityOf).Admitted := by
  refine ⟨?_, ?_⟩
  · rw [launchMtpPrefillProjection, if_neg (by rw [hvalid]; decide), capacityOf]
    split_ifs <;> rfl
  · simp only [invalid, Bool.or_eq_false_iff, decide_eq_false_iff_not, Bool.not_eq_false', not_or,
      shape, decide_eq_true_eq] at hvalid
    obtain ⟨⟨⟨⟨⟨⟨-, -, -, hpositive, hcount⟩, hshape⟩, -⟩, -⟩, -⟩, -⟩ := hvalid
    replace hcount : p.count ≤ 32 := Nat.le_of_not_lt hcount
    have hcapacity : p.capacityOf = 8 ∨ p.capacityOf = 16 ∨ p.capacityOf = 32 := by
      unfold capacityOf
      split_ifs <;> simp
    have hfits : p.count ≤ p.capacityOf := by
      unfold capacityOf
      split_ifs <;> omega
    have hn : 64 ∣ p.n ∧ p.n ≤ 17408 := by
      obtain ⟨hn, -⟩ | ⟨hn | hn | hn, -⟩ := hshape <;> omega
    have hk : 128 ∣ p.k ∧ 256 ≤ p.k ∧ p.k ≤ 17408 := by
      obtain ⟨-, hk | hk | hk⟩ | ⟨-, hk⟩ := hshape <;> omega
    exact
      { capacity := hcapacity
        positive := Nat.pos_of_ne_zero hpositive
        count := hfits
        rows := hn.1
        columns := hk.1
        tiles := hk.2.1
        weightsFit := (Nat.mul_le_mul hn.2 hk.2.2).trans_lt (by decide)
        inputFit := (Nat.mul_le_mul hcount hk.2.2).trans_lt (by decide)
        outputFit := (Nat.mul_le_mul hcount hn.2).trans_lt (by decide)
        threads := hordered.threads
        warps := hordered.warps
        blocks := hordered.blocks }

end Launch

section Batches

-- Launches of one projection, on batches that may differ.
structure SameProjection (p q : DraftLaunch F) : Prop where
  weights : p.weights = q.weights
  n : p.n = q.n
  k : p.k = q.k
  mma : p.mma = q.mma
  zero : p.zero = q.zero
  floatAsUint : p.floatAsUint = q.floatAsUint

def tokenOutput (p : DraftLaunch F) (column : Column F) (x : ℕ → UInt16) (row : ℕ) : UInt16 :=
  p.rounded (p.tokenFold column x row ⟨row % 16, Nat.mod_lt _ (by decide)⟩)

lemma tokenOutput_congr {column : Column F} {q : DraftLaunch F} (h : SameProjection p q)
    (hk : 16 ∣ p.k) {x y : ℕ → UInt16} (hxy : ∀ j < p.k, x j = y j) (row : ℕ) :
    p.tokenOutput column x row = q.tokenOutput column y row := by
  have hround : p.rounded = q.rounded := by
    funext result
    rw [rounded, rounded, h.floatAsUint]
  have hfold : p.tokenFold column x row = q.tokenFold column y row := by
    rw [tokenFold, tokenFold, h.weights, h.k, h.zero]
    refine columnFold_congr (fun _ _ => rfl) fun s hs => funext fun c => hxy _ ?_
    have hc := c.isLt
    rw [h.k] at hk ⊢
    omega
  rw [tokenOutput, tokenOutput, hround, hfold]

lemma written_iff {writes : List (ℕ × UInt16)} (hnodup : (writes.map Prod.fst).Nodup) {i : ℕ}
    {v w : UInt16} (hv : (i, v) ∈ writes) : (i, w) ∈ writes ↔ w = v :=
  ⟨fun hw => congrArg Prod.snd (List.inj_on_of_nodup_map hnodup hw hv rfl), fun h => h ▸ hv⟩

-- Each output of a token is written once, as the fold over the slices of its own row; so it is the
-- same in every batch. The launcher only runs what the kernels can run, and where the products
-- treat their rows apart as well, the fold is that of the weight row alone.
theorem draft_projection_ignores_batch {F : Type} (column : Column F) :
    (∀ p : DraftLaunch F, p.Admitted → Columnwise p.mma column →
      ∃ writes, p.run = some writes ∧
        (writes.map Prod.fst).Perm (List.range (p.count * p.n)) ∧
        ∀ token < p.count, ∀ row < p.n, (token * p.n + row,
          p.tokenOutput column (fun j => p.input (token * p.k + j)) row) ∈ writes) ∧
    (∀ p q : DraftLaunch F, p.Admitted → q.Admitted → SameProjection p q →
      Columnwise p.mma column → ∀ token < p.count, ∀ token' < q.count,
        (∀ j < p.k, p.input (token * p.k + j) = q.input (token' * q.k + j)) →
        ∀ writes writes', p.run = some writes → q.run = some writes' → ∀ row < p.n, ∀ v,
          (token * p.n + row, v) ∈ writes ↔ (token' * q.n + row, v) ∈ writes') ∧
    (∀ (p : DraftLaunch F) (weights input out : ℕ), p.invalid weights input out = false →
      (p.withCapacity p.capacityOf).Ordered →
        p.launchMtpPrefillProjection weights input out = some (p.withCapacity p.capacityOf).run ∧
          (p.withCapacity p.capacityOf).Admitted) ∧
    ∀ (p : DraftLaunch F) (dot : (Fin 16 → UInt16) → (Fin 16 → UInt16) → F → F),
      Rowwise column dot → ∀ x row, p.tokenOutput column x row =
        p.rounded (dotFold dot p.zero (fun slice c => p.weights (row * p.k + (slice * 16 + c)))
          (fun slice c => x (slice * 16 + c)) (p.k / 16)) := by
  have hruns (p : DraftLaunch F) (hp : p.Admitted) (hcolumns : Columnwise p.mma column) :
      ∃ writes, p.run = some writes ∧
        (writes.map Prod.fst).Perm (List.range (p.count * p.n)) ∧
        ∀ token < p.count, ∀ row < p.n, (token * p.n + row,
          p.tokenOutput column (fun j => p.input (token * p.k + j)) row) ∈ writes := by
    obtain ⟨writes, hrun, hperm, hmem⟩ := run_writes hp
    refine ⟨writes, hrun, hperm, fun token htoken row hrow => ?_⟩
    rw [tokenOutput, ← output_fold hcolumns htoken row]
    exact hmem token htoken row hrow
  refine ⟨hruns, fun p q hp hq hsame hcolumns token htoken token' htoken' hrows writes writes' hrun
    hrun' row hrow v => ?_, fun p weights input out => launch_admitted, fun p dot hdot x row => ?_⟩
  · obtain ⟨_, hrun₁, hperm, hmem⟩ := hruns p hp hcolumns
    obtain ⟨_, hrun₂, hperm', hmem'⟩ := hruns q hq (hsame.mma ▸ hcolumns)
    obtain rfl := Option.some.inj (hrun.symm.trans hrun₁)
    obtain rfl := Option.some.inj (hrun'.symm.trans hrun₂)
    have hk : 16 ∣ p.k := Dvd.dvd.trans (by decide) hp.columns
    rw [written_iff (hperm.nodup_iff.mpr List.nodup_range) (hmem token htoken row hrow),
      written_iff (hperm'.nodup_iff.mpr List.nodup_range)
        (hmem' token' htoken' row (hsame.n ▸ hrow)), tokenOutput_congr hsame hk hrows]
  · have hrow : row / 16 * 16 + row % 16 = row := Nat.div_add_mod' row 16
    rw [tokenOutput, tokenFold, columnFold_rowwise hdot]
    simp only [hrow]

-- A product of integers in place of floating-point numbers.
def integerColumn : Column ℕ := fun a x c r => ∑ k, (a r k).toNat * (x k).toNat + c r

def threeTokens : DraftLaunch ℕ where
  capacity := 8
  count := 3
  n := 1024
  k := 5120
  weights i := UInt16.ofNat i
  input i := UInt16.ofNat (i + 1)
  mma a b c r n := integerColumn a (fun k => b k n) (fun r => c r n) r
  zero := 0
  floatAsUint := UInt32.ofNat
  order := List.range 128
  warpOrder := List.range 4
  blockOrder := List.range 16

theorem three_tokens_projected : ∃ writes, threeTokens.run = some writes ∧
    (writes.map Prod.fst).Perm (List.range (3 * 1024)) ∧
    ∀ token < 3, ∀ row < 1024, (token * 1024 + row, threeTokens.tokenOutput integerColumn
      (fun j => threeTokens.input (token * 5120 + j)) row) ∈ writes :=
  (draft_projection_ignores_batch integerColumn).1 threeTokens
    ⟨.inl rfl, by decide, by decide, by decide, by decide, by decide, by decide, by decide,
      by decide, .refl _, .refl _, .refl _⟩ fun _ _ _ _ _ => rfl

end Batches

end Qwen3xOrin.Mtp.DraftLaunch
