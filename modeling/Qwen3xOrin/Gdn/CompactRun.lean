import Qwen3xOrin.Gdn.CompactQk
import Qwen3xOrin.Library.Loops

/-! A launch of the kernel that fills the compact heads, with the blocks in any order: what is in
memory afterwards, and which accesses were made. -/

namespace Qwen3xOrin.Gdn

open Library

variable {𝔽 : Type} {ops : FloatOps 𝔽} {b : ConvBuffers} {m : ℕ → UInt16} {n : ℕ} {eps : 𝔽}

section Content

variable {block tile warp headInBlock dim : ℕ}

lemma normalized_congr {ownsQ : Prop} [Decidable ownsQ] {f g : ℕ → 𝔽} (h : ∀ k < 128, f k = g k)
    (hdim : dim < 128) : normalized ops eps ownsQ f dim = normalized ops eps ownsQ g dim := by
  simp only [normalized, normalizedQ, normalizedK, scalarSquareSum_congr h, h dim hdim]

-- The two halves of the first sixteen blocks are the query heads and the key heads.
lemma firstChannel_eq (hblock : block < 16) :
    (if block < 8 then 0 else qkHeadCount * qkHeadDimension) +
      (block % 8 * 2 + headInBlock) * qkHeadDimension = block * threads +
        headInBlock * qkHeadDimension := by
  unfold qkHeadCount qkHeadDimension threads
  split_ifs <;> omega

lemma staged_eq_row {d r : Device}
    (h : BlockLeaves ops b m n block tile (decide (block < 16)) d r) (hblock : block < 16)
    (hwarp : warp < 8) (hhead : headInBlock < 2) {k : ℕ} (hk : k < 128) :
    staged ops n r.shared tile warp headInBlock k = convolvedRow ops b m n
      ((if block < 8 then 0 else qkHeadCount * qkHeadDimension) +
        (block % 8 * 2 + headInBlock) * qkHeadDimension) (tile * tokenTile + warp) k := by
  rw [staged, convolvedRow]
  by_cases hreal : tile * tokenTile + warp < n
  · have hthread : headInBlock * qkHeadDimension + k < threads := by
      unfold qkHeadDimension threads
      omega
    have hstaged := h.staged (decide_eq_true hblock) warp hwarp _ hthread hreal
    rw [if_pos hreal, if_pos hreal, Nat.add_assoc, hstaged, firstChannel_eq hblock, Nat.add_assoc]
  · rw [if_neg hreal, if_neg hreal]

lemma stored_value {d r : Device} (hs : SeparateCompact b n n)
    (h : BlockLeaves ops b m n block tile (decide (block < 16)) d r)
    (htile : tile * tokenTile < paddedTokenCount n) {s : Stored}
    (hstored : s ∈ blockStores ops b n eps r.shared block tile) :
    CompactOwned b block tile (s.pointer + s.index) ∧
      s.value = afterCompact ops b m n eps (s.pointer + s.index) := by
  obtain ⟨hblock, warp, hwarp, headInBlock, hhead, dim, hdim, rfl⟩ := mem_blockStores.mp hstored
  refine ⟨⟨hblock, warp, hwarp, headInBlock, hhead, dim, hdim, rfl⟩, ?_⟩
  have hheads : block % 8 * 2 + headInBlock < qkHeadCount := by
    unfold qkHeadCount
    omega
  have htoken : tile * tokenTile + warp < paddedTokenCount n := by
    unfold paddedTokenCount tokenTile chunkSize at *
    omega
  obtain ⟨hsame, hsameHead, hsameDim⟩ := @compactDestination_decodes (tile * tokenTile + warp) _ dim
    hheads hdim
  dsimp only
  rw [afterCompact_pointer hs (compactDestination_lt htoken hheads hdim), compactElement, hsame,
    hsameHead, hsameDim]
  exact normalized_congr (fun k hk => staged_eq_row h hblock hwarp hhead hk) hdim

end Content

section Block

variable {block tile : ℕ}

def CompactBlockOwned (b : ConvBuffers) (n block tile a : ℕ) : Prop :=
  BlockOwned b n block tile a ∨ CompactOwned b block tile a

lemma compactOwned_inside (htile : tile * tokenTile < paddedTokenCount n) {a : ℕ}
    (ha : CompactOwned b block tile a) : InCompact b n a := by
  obtain ⟨hblock, warp, hwarp, headInBlock, hhead, dim, hdim, rfl⟩ := ha
  have hheads : block % 8 * 2 + headInBlock < qkHeadCount := by
    unfold qkHeadCount
    omega
  have htoken : tile * tokenTile + warp < paddedTokenCount n := by
    unfold paddedTokenCount tokenTile chunkSize at *
    omega
  have hlt := compactDestination_lt htoken hheads hdim
  by_cases hq : block < 8
  · rw [compactPointer, if_pos hq]
    exact .inl ⟨Nat.le_add_right _ _, Nat.add_lt_add_left hlt _⟩
  · rw [compactPointer, if_neg hq]
    exact .inr ⟨Nat.le_add_right _ _, Nat.add_lt_add_left hlt _⟩

-- What lies inside a buffer apart from both compact tensors is in neither of them.
lemma outside_of_apart {pointer size i : ℕ} (hquery : Apart b.compactQ (compactLength n) pointer size)
    (hkey : Apart b.compactK (compactLength n) pointer size) (hi : i < size) :
    ¬ InCompact b n (pointer + i) := by
  unfold Apart at hquery hkey
  rintro (⟨hle, hlt⟩ | ⟨hle, hlt⟩)
  · omega
  · omega

lemma element_lt {count width c k : ℕ} (hc : c < count) (hk : k < width) :
    c * width + k < count * width :=
  Nat.lt_of_lt_of_le (Nat.add_lt_add_left hk _)
    (Nat.succ_mul c width ▸ Nat.mul_le_mul_right width hc)

lemma blockSeen_outside (hs : SeparateCompact b n n) (hblock : block < blocks) {a : ℕ}
    (ha : BlockSeen b n block tile a) : ¬ InCompact b n a := by
  obtain ⟨thread, hthread, ha⟩ := ha
  have hc := channel_lt hblock hthread
  obtain ⟨t, ht, rfl⟩ | ⟨k, hk, rfl⟩ | ⟨-, k, hk, rfl⟩ := ha
  · exact outside_of_apart hs.queryRaw hs.keyRaw (element_lt ht hc)
  · exact outside_of_apart hs.queryWeight hs.keyWeight (element_lt hc hk)
  · exact outside_of_apart hs.queryHistory hs.keyHistory (element_lt hc hk)

lemma blockOwned_outside (hs : SeparateCompact b n n) (hblock : block < blocks) {a : ℕ}
    (ha : BlockOwned b n block tile a) : ¬ InCompact b n a := by
  obtain ⟨thread, hthread, ha⟩ := ha
  have hc := channel_lt hblock hthread
  obtain ⟨t, -, -, ht, rfl⟩ | ⟨-, k, hk, rfl⟩ := ha
  · exact outside_of_apart hs.queryOutput hs.keyOutput (element_lt ht hc)
  · exact outside_of_apart hs.queryHistory hs.keyHistory (element_lt hc hk)

lemma compactBlock_leaves (hs : Separate b n) (hcompact : SeparateCompact b n n)
    (hdisjoint : Apart b.raw (n * gdnQkvChannels) b.output (n * gdnQkvChannels)) (hn : 1 ≤ n)
    (hblock : block < blocks) (htile : tile * tokenTile < paddedTokenCount n)
    {stale : ℕ → UInt16} {d : Device} (hd : ∀ a, BlockSeen b n block tile a → d.memory a = m a)
    (a : ℕ) :
    (CompactBlockOwned b n block tile a →
        (causalConv1dSiluUpdateTokenParallelCompactQkKernel ops b n eps stale block tile
          d).2.memory a = afterCompact ops b m n eps a) ∧
      (¬ CompactBlockOwned b n block tile a →
        (causalConv1dSiluUpdateTokenParallelCompactQkKernel ops b n eps stale block tile
          d).2.memory a = d.memory a) := by
  have hleaves : BlockLeaves ops b m n block tile (decide (block < 16)) { d with shared := stale }
      (tileThreads ops b n block tile { d with shared := stale }).2 :=
    tileThreads_leave hs hdisjoint hn hblock hd
  rw [compactKernel_apply]
  generalize (tileThreads ops b n block tile { d with shared := stale }).2 = r at hleaves ⊢
  have huntouched (hnot : ¬ CompactOwned b block tile a) :
      (r.apply (blockStores ops b n eps r.shared block tile)).memory a = r.memory a := by
    refine apply_law.untouched (fun s hstored htouch => hnot ?_) r
    exact htouch ▸ (stored_value hcompact hleaves htile hstored).1
  refine ⟨fun howned => ?_, fun hnot => ?_⟩
  · by_cases hcompactOwned : CompactOwned b block tile a
    · refine apply_law.agreed ?_ (fun s hstored htouch => ?_) r
      · obtain ⟨hqk, warp, hwarp, headInBlock, hhead, dim, hdim, rfl⟩ := hcompactOwned
        exact ⟨_, mem_blockStores.mpr ⟨hqk, warp, hwarp, headInBlock, hhead, dim, hdim, rfl⟩, rfl⟩
      · rw [← htouch]
        exact (stored_value hcompact hleaves htile hstored).2
    · have hmemory := howned.resolve_right hcompactOwned
      rw [huntouched hcompactOwned, (hleaves.memory a).1 hmemory,
        afterCompact_else (blockOwned_outside hcompact hblock hmemory)]
  · obtain ⟨hmemory, hcompactOwned⟩ := not_or.mp hnot
    rw [huntouched hcompactOwned, (hleaves.memory a).2 hmemory]

lemma compactBlockOwned_not_seen (hs : Separate b n) (hcompact : SeparateCompact b n n)
    (hdisjoint : Apart b.raw (n * gdnQkvChannels) b.output (n * gdnQkvChannels))
    {p q : ℕ × ℕ} (hp : p.1 < blocks) (htile : p.2 * tokenTile < paddedTokenCount n)
    (hq : q.1 < blocks) (hne : p ≠ q) {a : ℕ} (howned : CompactBlockOwned b n p.1 p.2 a) :
    ¬ BlockSeen b n q.1 q.2 a := by
  obtain hmemory | hheads := howned
  · exact blockOwned_not_seen hs hdisjoint hp hq hne hmemory
  · exact fun hseen => blockSeen_outside hcompact hq hseen (compactOwned_inside htile hheads)

end Block

section Run

variable {block tile : ℕ}

-- The elements of a compact tensor that a block writes, in the order in which it writes them.
def blockIndices (block tile : ℕ) : List ℕ :=
  (List.range 8).flatMap fun warp => (List.range 2).flatMap fun headInBlock =>
    (List.range 32).flatMap fun lane => (List.range 4).map fun item =>
      compactDestination (tile * tokenTile + warp) (block % 8 * 2 + headInBlock) +
        (lane + item * 32)

lemma mem_blockIndices {i : ℕ} : i ∈ blockIndices block tile ↔
    ∃ warp < 8, ∃ headInBlock < 2, ∃ dim < 128,
      i = compactDestination (tile * tokenTile + warp) (block % 8 * 2 + headInBlock) + dim := by
  simp only [blockIndices, List.mem_flatMap, List.mem_map, List.mem_range]
  refine exists_congr fun warp => and_congr_right fun _ => exists_congr fun headInBlock =>
    and_congr_right fun _ => ⟨?_, ?_⟩
  · rintro ⟨lane, hlane, item, hitem, rfl⟩
    exact ⟨lane + item * 32, by omega, rfl⟩
  · rintro ⟨dim, hdim, rfl⟩
    exact ⟨dim % 32, by omega, dim / 32, by omega, by omega⟩

def compactTiles (n : ℕ) : ℕ := paddedTokenCount n / tokenTile

lemma compactTile_lt {n tile : ℕ} (h : tile < compactTiles n) :
    tile * tokenTile < paddedTokenCount n := by
  unfold compactTiles paddedTokenCount tokenTile chunkSize at *
  omega

def headBlock (firstBlock i : ℕ) : ℕ × ℕ :=
  (firstBlock + compactHead i / 2, compactToken i / tokenTile)

lemma headBlock_mem {firstBlock i : ℕ} (hfirst : firstBlock ≤ 8) (hi : i < compactLength n) :
    headBlock firstBlock i ∈ grid blocks (compactTiles n) := by
  have htoken := compactToken_lt hi
  refine mem_grid.mpr ⟨?_, ?_⟩
  · unfold headBlock compactHead qkHeadCount blocks gdnQkvChannels threads
    omega
  · unfold headBlock compactTiles paddedTokenCount tokenTile chunkSize at *
    omega

lemma headBlock_indices {firstBlock : ℕ} (hfirst : firstBlock = 0 ∨ firstBlock = 8) (i : ℕ) :
    i ∈ blockIndices (headBlock firstBlock i).1 (headBlock firstBlock i).2 := by
  have hhead : compactHead i < 16 := by
    unfold compactHead qkHeadCount
    omega
  have htoken : compactToken i / tokenTile * tokenTile + compactToken i % tokenTile =
      compactToken i := Nat.div_add_mod' _ _
  have hsame : (firstBlock + compactHead i / 2) % 8 * 2 + compactHead i % 2 = compactHead i := by
    omega
  refine mem_blockIndices.2 ⟨compactToken i % tokenTile, Nat.mod_lt _ (by decide),
    compactHead i % 2, Nat.mod_lt _ (by decide), i % qkHeadDimension, Nat.mod_lt _ (by decide), ?_⟩
  rw [headBlock]
  dsimp only
  rw [htoken, hsame, compactDestination_encodes]

lemma headBlock_owned {firstBlock i : ℕ} (hfirst : firstBlock = 0 ∨ firstBlock = 8) :
    CompactOwned b (headBlock firstBlock i).1 (headBlock firstBlock i).2
      (compactPointer b firstBlock + i) := by
  have hhead : compactHead i < 16 := by
    unfold compactHead qkHeadCount
    omega
  have hhalf : (headBlock firstBlock i).1 < 8 ↔ firstBlock < 8 := by
    unfold headBlock
    omega
  have hpointer : compactPointer b (headBlock firstBlock i).1 = compactPointer b firstBlock := by
    simp only [compactPointer, hhalf]
  obtain ⟨warp, hwarp, h, hh, dim, hdim, heq⟩ := mem_blockIndices.1 (headBlock_indices hfirst i)
  refine ⟨?_, warp, hwarp, h, hh, dim, hdim, by rw [hpointer, ← heq]⟩
  unfold headBlock
  omega

lemma inCompact_owned {a : ℕ} (ha : InCompact b n a) :
    ∃ p ∈ grid blocks (compactTiles n), CompactBlockOwned b n p.1 p.2 a := by
  obtain ⟨hle, hlt⟩ | ⟨hle, hlt⟩ := ha
  · have howned := @headBlock_owned b 0 (a - b.compactQ) (.inl rfl)
    rw [compactPointer, if_pos (by decide), Nat.add_sub_cancel' hle] at howned
    exact ⟨_, headBlock_mem (by decide) (Nat.sub_lt_left_of_lt_add hle hlt), .inr howned⟩
  · have howned := @headBlock_owned b 8 (a - b.compactK) (.inr rfl)
    rw [compactPointer, if_neg (by decide), Nat.add_sub_cancel' hle] at howned
    exact ⟨_, headBlock_mem (by decide) (Nat.sub_lt_left_of_lt_add hle hlt), .inr howned⟩

lemma compactKernel_after (hs : Separate b n) (hcompact : SeparateCompact b n n)
    (hdisjoint : Apart b.raw (n * gdnQkvChannels) b.output (n * gdnQkvChannels)) (hn : 1 ≤ n)
    {order : List (ℕ × ℕ)} (horder : order.Perm (grid blocks (compactTiles n)))
    (stale : ℕ × ℕ → ℕ → UInt16) (d : Device) :
    (runBlocks order (fun channelBlock tile =>
      causalConv1dSiluUpdateTokenParallelCompactQkKernel ops b n eps
        (stale (channelBlock, tile)) channelBlock tile) d).memory =
      afterCompact ops b d.memory n eps := by
  have hblock (p : ℕ × ℕ) (hp : p ∈ order) := mem_grid.mp (horder.mem_iff.mp hp)
  have hblocks := @runBlocks_works (fun channelBlock tile =>
      causalConv1dSiluUpdateTokenParallelCompactQkKernel ops b n eps
        (stale (channelBlock, tile)) channelBlock tile)
    (fun p => CompactBlockOwned b n p.1 p.2) (fun p => BlockSeen b n p.1 p.2)
    (afterCompact ops b d.memory n eps) order d
    (fun p hp d' hd' => @compactBlock_leaves 𝔽 ops b d.memory n eps p.1 p.2 hs hcompact hdisjoint hn
      (hblock p hp).1 (compactTile_lt (hblock p hp).2) (stale (p.1, p.2)) d' hd')
    (fun p hp q hq hne a => compactBlockOwned_not_seen hs hcompact hdisjoint (hblock p hp).1
      (compactTile_lt (hblock p hp).2) (hblock q hq).1 hne)
    (horder.nodup_iff.mpr (grid_nodup _ _))
  funext a
  by_cases howned : ∃ p ∈ order, CompactBlockOwned b n p.1 p.2 a
  · exact (hblocks a).1 howned
  · refine ((hblocks a).2 fun p hp hown => howned ⟨p, hp, hown⟩).trans ?_
    have houtside : ¬ InCompact b n a := fun hin => by
      obtain ⟨p, hp, hown⟩ := inCompact_owned hin
      exact howned ⟨p, horder.mem_iff.mpr hp, hown⟩
    rw [afterCompact_else houtside]
    refine (@not_blockOwned 𝔽 ops b d.memory n (compactTiles n) a hn ?_ fun p hp hown =>
      howned ⟨p, horder.mem_iff.mpr hp, .inl hown⟩).symm
    unfold compactTiles paddedTokenCount tokenTile chunkSize
    omega

end Run

section Accesses

variable {block tile : ℕ}

def writesTo (p : ℕ) (log : List Access) : List ℕ :=
  log.filterMap fun
    | .write q i => if q = p then some i else none
    | .read _ _ => none

lemma writesTo_append (p : ℕ) (l l' : List Access) :
    writesTo p (l ++ l') = writesTo p l ++ writesTo p l' := List.filterMap_append

lemma blockStores_log {shared : ℕ → UInt16} :
    (blockStores ops b n eps shared block tile).map (fun s => Access.write s.pointer s.index) =
      if block < 16 then (blockIndices block tile).map (.write (compactPointer b block))
      else [] := by
  rw [blockStores]
  by_cases hblock : block < 16
  · rw [if_pos hblock, if_pos hblock, blockIndices]
    simp only [warpStores, headStores, List.map_flatMap, List.map_map]
    rfl
  · rw [if_neg hblock, if_neg hblock, List.map_nil]

lemma writesTo_writes (p q : ℕ) (l : List ℕ) :
    writesTo p (l.map (.write q)) = if q = p then l else [] := by
  rw [writesTo, List.filterMap_map]
  by_cases hpq : q = p
  · rw [if_pos hpq]
    exact (List.filterMap_congr fun i _ => if_pos hpq).trans List.filterMap_some
  · rw [if_neg hpq]
    exact List.filterMap_eq_nil_iff.mpr fun i _ => if_neg hpq

lemma blockIndices_nodup : (blockIndices block tile).Nodup := by
  have hhead (h : ℕ) (hh : h < 2) : block % 8 * 2 + h < qkHeadCount := by
    unfold qkHeadCount
    omega
  refine @nodup_flatMap_of_key _ _ _ _ (fun i => compactToken i % 8) List.nodup_range
    (fun warp hwarp => @nodup_flatMap_of_key _ _ _ _ (fun i => compactHead i % 2) List.nodup_range
      (fun h hh => @nodup_flatMap_of_key _ _ _ _ (fun i => i % qkHeadDimension % 32)
        List.nodup_range (fun lane hlane => ?_) fun lane hlane i hi => ?_) fun h hh i hi => ?_)
    fun warp hwarp i hi => ?_
  · exact List.nodup_range.map fun x y hxy => by omega
  all_goals
    simp only [List.mem_flatMap, List.mem_map, List.mem_range] at *
  · obtain ⟨item, hitem, rfl⟩ := hi
    obtain ⟨-, -, hdim⟩ := @compactDestination_decodes (tile * tokenTile + warp) _
      (lane + item * 32) (hhead h hh) (by unfold qkHeadDimension; omega)
    rw [hdim]
    omega
  · obtain ⟨lane, hlane, item, hitem, rfl⟩ := hi
    obtain ⟨-, hsame, -⟩ := @compactDestination_decodes (tile * tokenTile + warp) _
      (lane + item * 32) (hhead h hh) (by unfold qkHeadDimension; omega)
    rw [hsame]
    omega
  · obtain ⟨h, hh, lane, hlane, item, hitem, rfl⟩ := hi
    obtain ⟨hsame, -, -⟩ := @compactDestination_decodes (tile * tokenTile + warp) _
      (lane + item * 32) (hhead h hh) (by unfold qkHeadDimension; omega)
    rw [hsame]
    unfold tokenTile
    omega

-- The elements that a launch writes of the heads whose blocks start at `firstBlock`.
def launchIndices (order : List (ℕ × ℕ)) (firstBlock : ℕ) : List ℕ :=
  order.flatMap fun p =>
    if firstBlock ≤ p.1 ∧ p.1 < firstBlock + 8 then blockIndices p.1 p.2 else []

lemma headBlock_of_mem {firstBlock i : ℕ} (hfirst : firstBlock = 0 ∨ firstBlock = 8)
    (hblock : firstBlock ≤ block ∧ block < firstBlock + 8) (hi : i ∈ blockIndices block tile) :
    headBlock firstBlock i = (block, tile) := by
  obtain ⟨warp, hwarp, h, hh, dim, hdim, rfl⟩ := mem_blockIndices.1 hi
  obtain ⟨hsame, hsameHead, -⟩ := @compactDestination_decodes (tile * tokenTile + warp)
    (block % 8 * 2 + h) dim (by unfold qkHeadCount; omega) hdim
  rw [headBlock, hsame, hsameHead]
  unfold tokenTile
  refine Prod.ext ?_ ?_
  · dsimp only
    omega
  · dsimp only
    omega

lemma launchIndices_perm {order : List (ℕ × ℕ)}
    (horder : order.Perm (grid blocks (compactTiles n))) {firstBlock : ℕ}
    (hfirst : firstBlock = 0 ∨ firstBlock = 8) :
    (launchIndices order firstBlock).Perm (List.range (compactLength n)) := by
  refine perm_range ?_ fun i => ?_
  · refine @nodup_flatMap_of_key _ _ _ _ (headBlock firstBlock)
      (horder.nodup_iff.mpr (grid_nodup _ _)) (fun p _ => ?_) fun p _ i hi => ?_
    · split_ifs
      exacts [blockIndices_nodup, List.nodup_nil]
    · split_ifs at hi with hblock
      · exact headBlock_of_mem hfirst hblock hi
      · exact absurd hi List.not_mem_nil
  · rw [launchIndices, List.mem_flatMap]
    constructor
    · rintro ⟨p, hp, hi⟩
      split_ifs at hi with hblock
      · obtain ⟨warp, hwarp, h, hh, dim, hdim, rfl⟩ := mem_blockIndices.1 hi
        have htile := compactTile_lt (mem_grid.mp (horder.mem_iff.mp hp)).2
        refine compactDestination_lt ?_ (by unfold qkHeadCount; omega) hdim
        unfold paddedTokenCount tokenTile chunkSize at *
        omega
      · exact absurd hi List.not_mem_nil
    · intro hi
      have hhead : compactHead i < 16 := by
        unfold compactHead qkHeadCount
        omega
      refine ⟨headBlock firstBlock i, horder.mem_iff.mpr (headBlock_mem (by omega) hi), ?_⟩
      rw [if_pos (by unfold headBlock; omega)]
      exact headBlock_indices hfirst i

structure CompactLog (b : ConvBuffers) (n : ℕ) (queries keys : List ℕ) (l : List Access) :
    Prop where
  reads : ∀ p i, .read p i ∈ l → InTensors b n (.read p i)
  query : writesTo b.compactQ l = queries
  key : writesTo b.compactK l = keys

lemma CompactLog.append {q k q' k' : List ℕ} {l l' : List Access} (h : CompactLog b n q k l)
    (h' : CompactLog b n q' k' l') : CompactLog b n (q ++ q') (k ++ k') (l ++ l') where
  reads p i hmem := (List.mem_append.mp hmem).elim (h.reads p i) (h'.reads p i)
  query := by rw [writesTo_append, h.query, h'.query]
  key := by rw [writesTo_append, h.key, h'.key]

lemma Apart.ne {p length q length' : ℕ} (h : Apart p length q length') (hlength : 0 < length)
    (hlength' : 0 < length') : p ≠ q := by
  unfold Apart at h
  omega

lemma compactLength_pos (hn : 1 ≤ n) : 0 < compactLength n := by
  unfold compactLength paddedTokenCount chunkSize qkHeadCount qkHeadDimension
  omega

lemma rows_pos (hn : 1 ≤ n) : 0 < n * gdnQkvChannels := Nat.mul_pos hn (by decide)

lemma writesTo_inTensors {p : ℕ} (houtput : p ≠ b.output) (hhistory : p ≠ b.history)
    {l : List Access} (hl : ∀ e ∈ l, InTensors b n e) : writesTo p l = [] := by
  refine List.filterMap_eq_nil_iff.mpr fun e he => ?_
  cases e with
  | read q i => rfl
  | write q i =>
    refine if_neg fun heq => ?_
    obtain ⟨hq, -⟩ | ⟨hq, -⟩ := hl _ he
    · exact houtput (heq.symm.trans hq)
    · exact hhistory (heq.symm.trans hq)

lemma compactLog_convolve (hcompact : SeparateCompact b n n) (hn : 1 ≤ n) {l : List Access}
    (hl : ∀ e ∈ l, InTensors b n e) : CompactLog b n [] [] l where
  reads p i h := hl _ h
  query := writesTo_inTensors
    (hcompact.queryOutput.ne (compactLength_pos hn) (rows_pos hn))
    (hcompact.queryHistory.ne (compactLength_pos hn) (by decide)) hl
  key := writesTo_inTensors
    (hcompact.keyOutput.ne (compactLength_pos hn) (rows_pos hn))
    (hcompact.keyHistory.ne (compactLength_pos hn) (by decide)) hl

lemma compactLog_stores (hcompact : SeparateCompact b n n) (hn : 1 ≤ n) {shared : ℕ → UInt16} :
    CompactLog b n (if 0 ≤ block ∧ block < 0 + 8 then blockIndices block tile else [])
      (if 8 ≤ block ∧ block < 8 + 8 then blockIndices block tile else [])
      ((blockStores ops b n eps shared block tile).map fun s =>
        Access.write s.pointer s.index) := by
  have hne := hcompact.queryKey.ne (compactLength_pos hn) (compactLength_pos hn)
  rw [blockStores_log]
  by_cases hblock : block < 16
  · rw [if_pos hblock]
    refine ⟨fun p i h => ?_, ?_, ?_⟩
    · obtain ⟨j, -, hj⟩ := List.mem_map.mp h
      exact nomatch hj
    all_goals
      rw [writesTo_writes, compactPointer]
      by_cases hq : block < 8
    · rw [if_pos hq, if_pos rfl, if_pos (by omega)]
    · rw [if_neg hq, if_neg hne.symm, if_neg (by omega)]
    · rw [if_pos hq, if_neg hne, if_neg (by omega)]
    · rw [if_neg hq, if_pos rfl, if_pos (by omega)]
  · rw [if_neg hblock]
    refine ⟨fun p i h => absurd h List.not_mem_nil, ?_, ?_⟩
    all_goals
      rw [if_neg (by omega)]
      rfl

lemma compactBlock_log (hcompact : SeparateCompact b n n) (hn : 1 ≤ n) (hblock : block < blocks)
    {stale : ℕ → UInt16} (d : Device) :
    ∃ l, (causalConv1dSiluUpdateTokenParallelCompactQkKernel ops b n eps stale block tile d).2.log =
        d.log ++ l ∧
      CompactLog b n (if 0 ≤ block ∧ block < 0 + 8 then blockIndices block tile else [])
        (if 8 ≤ block ∧ block < 8 + 8 then blockIndices block tile else []) l := by
  have hemits : Emits (InTensors b n) (tileThreads ops b n block tile) :=
    emits_forM fun thread hthread =>
      emits_tokenTileThread hn (channel_lt hblock (List.mem_range.mp hthread))
  obtain ⟨l, hlog, hl⟩ := hemits { d with shared := stale }
  rw [compactKernel_apply, apply_log, hlog]
  refine ⟨_, List.append_assoc _ _ _, ?_⟩
  exact (compactLog_convolve hcompact hn hl).append (compactLog_stores hcompact hn)

lemma compactKernel_log (hcompact : SeparateCompact b n n) (hn : 1 ≤ n) {order : List (ℕ × ℕ)}
    (horder : ∀ p ∈ order, p.1 < blocks) (stale : ℕ × ℕ → ℕ → UInt16) (d : Device) :
    ∃ l, (runBlocks order (fun channelBlock tile =>
        causalConv1dSiluUpdateTokenParallelCompactQkKernel ops b n eps
          (stale (channelBlock, tile)) channelBlock tile) d).log = d.log ++ l ∧
      CompactLog b n (launchIndices order 0) (launchIndices order 8) l := by
  induction order generalizing d with
  | nil => exact ⟨[], (List.append_nil _).symm, fun _ _ h => absurd h List.not_mem_nil, rfl, rfl⟩
  | cons p order ih =>
    obtain ⟨l, hlog, hl⟩ := @compactBlock_log 𝔽 ops b n eps p.1 p.2 hcompact hn
      (horder p List.mem_cons_self) (stale (p.1, p.2)) d
    obtain ⟨l', hlog', hl'⟩ := ih (fun q hq => horder q (List.mem_cons_of_mem p hq))
      (causalConv1dSiluUpdateTokenParallelCompactQkKernel ops b n eps (stale (p.1, p.2)) p.1 p.2
        d).2
    refine ⟨l ++ l', ?_, hl.append hl'⟩
    rw [runBlocks, List.foldl_cons, ← List.append_assoc, ← hlog]
    exact hlog'

end Accesses

end Qwen3xOrin.Gdn
