import Qwen3xOrin.Resident.WholeLoad

/-! The whole load of a plan that was built: every shard loads, the final check of the statistics
passes, and the arena holds the text tensors in whatever order the copies arrive. -/

namespace Qwen3xOrin.Resident

open Library Io

-- What the arena is to hold when the load is done.
def textArena (plan : ResidentLoadPlan) (contents : String → ℕ → UInt8) (arena : ℕ → UInt8) :
    ℕ → UInt8 := fun address =>
  match plan.tensors.find? fun tensor => tensor.Holds address with
  | some tensor => contents tensor.shard (tensor.sourceBegin + (address - tensor.arenaOffset))
  | none => arena address

lemma foldl_applyCopy_unwritten (contents : String → ℕ → UInt8) {copies : List ScatterCopy}
    {address : ℕ} (h : ∀ copy ∈ copies, ¬ copy.Writes address) (arena : ℕ → UInt8) :
    copies.foldl (applyCopy contents) arena address = arena address := by
  induction copies generalizing arena with
  | nil => rfl
  | cons copy copies ih =>
    rw [List.foldl_cons, ih fun c hc => h c (List.mem_cons_of_mem _ hc)]
    exact if_neg (h copy List.mem_cons_self)

lemma foldl_applyCopy_written (contents : String → ℕ → UInt8) {copies : List ScatterCopy}
    {address : ℕ} {value : UInt8} (hwritten : ∃ copy ∈ copies, copy.Writes address)
    (hvalue : ∀ copy ∈ copies, copy.Writes address →
      contents copy.shard (copy.source + (address - copy.destination)) = value)
    (arena : ℕ → UInt8) : copies.foldl (applyCopy contents) arena address = value := by
  induction copies generalizing arena with
  | nil =>
    obtain ⟨copy, hmem, -⟩ := hwritten
    cases hmem
  | cons copy copies ih =>
    rw [List.foldl_cons]
    by_cases hlater : ∃ c ∈ copies, c.Writes address
    · exact ih hlater (fun c hc => hvalue c (List.mem_cons_of_mem _ hc)) _
    · rw [foldl_applyCopy_unwritten contents fun c hc hw => hlater ⟨c, hc, hw⟩]
      obtain ⟨c, hc, hw⟩ := hwritten
      obtain rfl | hc := List.mem_cons.mp hc
      · rw [applyCopy, if_pos hw]
        exact hvalue c List.mem_cons_self hw
      · exact absurd ⟨c, hc, hw⟩ hlater

lemma sum_single {κ : Type} [DecidableEq κ] {keys : List κ} (hunique : keys.Nodup) {key : κ}
    (hkey : key ∈ keys) (c : ℕ) : (keys.map fun k => if key = k then c else 0).sum = c := by
  induction keys with
  | nil => cases hkey
  | cons k keys ih =>
    obtain ⟨hfresh, hunique⟩ := List.nodup_cons.mp hunique
    rw [List.map_cons, List.sum_cons]
    obtain rfl | hkey := List.mem_cons.mp hkey
    · have hzero : (keys.map fun k => if key = k then c else 0).sum = 0 := by
        apply List.sum_eq_zero
        intro x hx
        obtain ⟨k, hk, rfl⟩ := List.mem_map.mp hx
        exact if_neg fun (h : key = k) => hfresh (h ▸ hk)
      rw [if_pos rfl, hzero, Nat.add_zero]
    · rw [if_neg fun (h : key = k) => hfresh (h ▸ hkey), ih hunique hkey, Nat.zero_add]

-- Summing over the groups of a list is summing over the list.
lemma sum_groups {α κ : Type} [DecidableEq κ] (group : α → κ) {keys : List κ}
    (hunique : keys.Nodup) {l : List α} (hgroup : ∀ a ∈ l, group a ∈ keys) (f : α → ℕ) :
    (keys.map fun key => ((l.filter fun a => group a = key).map f).sum).sum = (l.map f).sum := by
  induction l with
  | nil => simp
  | cons a l ih =>
    have hsplit : ∀ key, (((a :: l).filter fun b => group b = key).map f).sum =
        (if group a = key then f a else 0) + ((l.filter fun b => group b = key).map f).sum := by
      intro key
      rw [List.filter_cons]
      by_cases h : group a = key <;> simp [h]
    simp only [hsplit]
    rw [List.sum_map_add, sum_single hunique (hgroup a List.mem_cons_self),
      ih fun b hb => hgroup b (List.mem_cons_of_mem a hb), List.map_cons, List.sum_cons]

section Plan

variable {manifest : WeightManifest} {identities : List ShardIdentity} {plan : ResidentLoadPlan}

-- The plan as the loader finds it, one shard at a time.
structure Loadable (plan : ResidentLoadPlan) : Prop where
  arenaBytes : plan.arenaBytes ≤ uint64Max
  copiedBytes : plan.copiedBytes ≤ uint64Max
  copied : plan.copiedBytes = (plan.tensors.map PlannedTensor.byteSize).sum
  sourceBytes : plan.sourceBytes ≤ uint64Max
  source : plan.sourceBytes = (plan.shards.map fun shard => shard.identity.fileSize.toNat).sum
  unique : (plan.shards.map fun shard => shard.identity.filename).Nodup
  stored : ∀ tensor ∈ plan.tensors,
    tensor.shard ∈ plan.shards.map fun shard => shard.identity.filename
  tensors : ∀ shard ∈ plan.shards, shardTensors plan shard =
    plan.tensors.filter fun tensor => tensor.shard = shard.identity.filename
  segments : ∀ shard ∈ plan.shards,
    SegmentsSound plan shard.identity.fileSize.toNat (shardTensors plan shard)
  size : ∀ tensor ∈ plan.tensors, tensor.byteSize = tensor.sourceEnd - tensor.sourceBegin
  nonempty : ∀ tensor ∈ plan.tensors, tensor.sourceBegin < tensor.sourceEnd
  disjoint : plan.tensors.Pairwise fun a b => a.arenaOffset + a.byteSize ≤ b.arenaOffset

lemma planned_located (h : PlanConditions manifest identities) {tensor : PlannedTensor}
    (htensor : tensor ∈ (residentPlan manifest identities).tensors) :
    tensor.sourceBegin < tensor.sourceEnd ∧
      tensor.byteSize = tensor.sourceEnd - tensor.sourceBegin ∧
      ∃ identity ∈ identities, identity.filename = tensor.shard ∧
        tensor.sourceEnd ≤ identity.fileSize.toNat := by
  rw [residentPlan_tensors] at htensor
  obtain ⟨item, hitem, heq, -, -⟩ := placedTensors_mem htensor
  have hlocated := h.located item (List.mem_filter.mp ((textTensors_perm _).mem_iff.mp hitem)).1
  rw [heq]
  exact ⟨hlocated.nonempty, hlocated.byteSize.symm, hlocated.inside⟩

lemma loadable (h : PlanConditions manifest identities) :
    Loadable (residentPlan manifest identities) := by
  have hlayout := residentPlan_layout h
  have hids : (residentPlan manifest identities).shards.map PlannedShard.identity =
      identityMap identities := by
    simp [residentPlan, grownPlan, emptyPlan, grownShard, Function.comp_def]
  have hnames : ∀ {β : Type} (f : ShardIdentity → β),
      ((residentPlan manifest identities).shards.map fun shard => f shard.identity).Perm
        (identities.map f) := by
    intro β f
    have hmap := congrArg (List.map f) hids
    rw [List.map_map] at hmap
    exact (List.Perm.of_eq hmap).trans ((identityMap_perm identities).map f)
  have htensors : ∀ shard ∈ (residentPlan manifest identities).shards,
      shardTensors (residentPlan manifest identities) shard =
        (residentPlan manifest identities).tensors.filter fun tensor =>
          tensor.shard = shard.identity.filename := by
    intro shard hshard
    have hsome := congrArg (List.filterMap id) (hlayout.indices shard hshard)
    rw [List.filterMap_map, List.filterMap_map] at hsome
    simpa [shardTensors, Function.comp_def] using hsome
  have hsource : (residentPlan manifest identities).sourceBytes =
      (identities.map fun identity => identity.fileSize.toNat).sum := rfl
  have hunique := (hnames ShardIdentity.filename).nodup_iff.mpr h.unique
  constructor
  · rw [residentPlan_arenaBytes]
    exact h.arenaBytes
  · rw [residentPlan_copiedBytes]
    exact h.copiedBytes
  · have hbytes := (hlayout.tensors.map fun entry => entry.2.2.2).sum_eq
    rw [List.map_map, List.map_map] at hbytes
    rw [residentPlan_copiedBytes]
    exact hbytes.symm
  · rw [hsource]
    exact h.sourceBytes
  · rw [hsource]
    exact (hnames fun identity => identity.fileSize.toNat).sum_eq.symm
  · exact hunique
  · intro tensor ht
    obtain ⟨-, -, identity, hidentity, hname, -⟩ := planned_located h ht
    exact (hnames ShardIdentity.filename).mem_iff.mpr
      (hname ▸ List.mem_map_of_mem hidentity)
  · exact htensors
  · intro shard hshard
    rw [htensors shard hshard]
    have hmem : ∀ tensor ∈ (residentPlan manifest identities).tensors.filter fun tensor =>
        tensor.shard = shard.identity.filename,
        tensor ∈ (residentPlan manifest identities).tensors ∧
          tensor.shard = shard.identity.filename := by
      intro tensor ht
      simpa using List.mem_filter.mp ht
    refine ⟨fun tensor ht => (planned_located h (hmem tensor ht).1).1, fun tensor ht => ?_,
      fun tensor ht => ?_, hlayout.ordered shard hshard⟩
    · obtain ⟨-, -, identity, hidentity, hname, hle⟩ := planned_located h (hmem tensor ht).1
      have hin : shard.identity ∈ identities :=
        hlayout.shards.mem_iff.mp (List.mem_map_of_mem hshard)
      have hsame := find_identity h.unique hidentity
      rw [hname, (hmem tensor ht).2, find_identity h.unique hin] at hsame
      obtain rfl := Option.some.inj hsame
      exact hle
    · have hsize := (planned_located h (hmem tensor ht).1).2.1
      have hcontained := hlayout.contained tensor (hmem tensor ht).1
      omega
  · exact fun tensor ht => (planned_located h ht).2.1
  · exact fun tensor ht => (planned_located h ht).1
  · exact hlayout.disjoint

end Plan

section Load

variable {plan : ResidentLoadPlan} {options : ResidentLoadOptions} {planned : ℕ}

def issuedCopies (plan : ResidentLoadPlan) (options : ResidentLoadOptions) (shard : PlannedShard) :
    List ScatterCopy :=
  shardCopies shard.identity.filename shard.identity.fileSize.toNat options.chunkBytes
    (shardTensors plan shard) shard.identity.fileSize.toNat 0

lemma planOperations_ok {tensors : List PlannedTensor} {start : ℕ} (hstart : start ≤ uint64Max)
    (hlimit : start ≤ options.maxMemcpyOperations)
    (h : tensors.foldlM (planOperation options) start = .ok planned) :
    planned = start + (tensors.map (tensorOperations options)).sum ∧
      planned ≤ uint64Max ∧ planned ≤ options.maxMemcpyOperations := by
  induction tensors generalizing start with
  | nil =>
    obtain rfl := Except.ok.inj h
    exact ⟨by simp, hstart, hlimit⟩
  | cons tensor tensors ih =>
    rw [List.foldlM_cons, bind_ok] at h
    obtain ⟨next, hnext, h⟩ := h
    unfold planOperation at hnext
    cases hadd : checkedAdd start (tensorOperations options tensor) with
    | none =>
      rw [hadd] at hnext
      cases hnext
    | some sum =>
      rw [hadd] at hnext
      obtain ⟨rfl, hle⟩ := (checkedAdd_eq_some hstart).mp hadd
      dsimp only at hnext
      rw [guard_ok] at hnext
      obtain ⟨hless, heq⟩ := hnext
      obtain rfl := Except.ok.inj heq
      obtain ⟨hsum, hbounds⟩ := ih hle (not_lt.mp hless) h
      refine ⟨?_, hbounds⟩
      rw [hsum, List.map_cons, List.sum_cons, Nat.add_assoc]

lemma sum_shards (h : Loadable plan) (f : PlannedTensor → ℕ) :
    (plan.shards.map fun shard => ((shardTensors plan shard).map f).sum).sum =
      (plan.tensors.map f).sum := by
  rw [← sum_groups PlannedTensor.shard h.unique h.stored f, List.map_map]
  congr 1
  apply List.map_congr_left
  intro shard hshard
  rw [h.tensors shard hshard]
  rfl

lemma issuedCopies_length (h : Loadable plan) (hchunk : 0 < options.chunkBytes)
    {shard : PlannedShard} (hshard : shard ∈ plan.shards) :
    (issuedCopies plan options shard).length =
      ((shardTensors plan shard).map (tensorOperations options)).sum :=
  shardCopies_length hchunk (h.segments shard hshard)

lemma issuedCopies_bytes (h : Loadable plan) (hchunk : 0 < options.chunkBytes)
    {shard : PlannedShard} (hshard : shard ∈ plan.shards) :
    copiedBytes (issuedCopies plan options shard) =
      ((shardTensors plan shard).map PlannedTensor.byteSize).sum := by
  rw [issuedCopies, shardCopies_bytes hchunk (h.segments shard hshard)]
  congr 1
  apply List.map_congr_left
  intro tensor ht
  rw [h.tensors shard hshard] at ht
  exact (h.size tensor (List.mem_of_mem_filter ht)).symm

lemma issuedCopies_room (h : Loadable plan) (hchunk : 0 < options.chunkBytes)
    (hplanned : plannedMemcpyOperations plan options = .ok planned) {shard : PlannedShard}
    (hshard : shard ∈ plan.shards) : Room options {} (issuedCopies plan options shard) := by
  obtain ⟨hsum, hle, hlimit⟩ := planOperations_ok (Nat.zero_le _) (Nat.zero_le _) hplanned
  have hpart : ∀ f : PlannedTensor → ℕ, ((shardTensors plan shard).map f).sum ≤
      (plan.tensors.map f).sum := by
    intro f
    rw [← sum_shards h]
    exact List.single_le_sum (fun _ _ => Nat.zero_le _) _
      (List.mem_map_of_mem (f := fun shard => ((shardTensors plan shard).map f).sum) hshard)
  have hlength := issuedCopies_length h hchunk hshard
  have hbytes := issuedCopies_bytes h hchunk hshard
  have hoperations := hpart (tensorOperations options)
  have hcopied := hpart PlannedTensor.byteSize
  have htotal := h.copied
  have hmax := h.copiedBytes
  constructor <;> dsimp only <;> omega

-- One shard after its load, apart from the number of chunks.
lemma loadOneShard_ok (h : Loadable plan) (hchunk : 0 < options.chunkBytes)
    (hplanned : plannedMemcpyOperations plan options = .ok planned) {shard : PlannedShard}
    (hshard : shard ∈ plan.shards) :
    ∃ chunks ≤ shard.identity.fileSize.toNat, loadOneShard plan options shard = .ok
      { copies := issuedCopies plan options shard
        stats :=
          { bytesRead := shard.identity.fileSize.toNat
            bytesCopied := copiedBytes (issuedCopies plan options shard)
            chunks := chunks
            memcpyOperations := (issuedCopies plan options shard).length } } := by
  obtain ⟨chunks, hle, hload⟩ := loadChunks_ok h.arenaBytes hchunk (h.segments shard hshard)
    (by omega) (Nat.zero_le _) rfl le_rfl (issuedCopies_room h hchunk hplanned hshard)
  refine ⟨chunks, hle, ?_⟩
  rw [loadOneShard, hload]
  simp [ShardProgress.issued, issuedCopies]

lemma addStatistics_all {shards : List ShardLoadStats} {total : ShardLoadStats}
    (hread : total.bytesRead + (shards.map ShardLoadStats.bytesRead).sum ≤ uint64Max)
    (hcopied : total.bytesCopied + (shards.map ShardLoadStats.bytesCopied).sum ≤ uint64Max)
    (hchunks : total.chunks + (shards.map ShardLoadStats.chunks).sum ≤ uint64Max)
    (hoperations : total.memcpyOperations + (shards.map ShardLoadStats.memcpyOperations).sum ≤
      uint64Max) :
    shards.foldlM addStatistics total = some
      { bytesRead := total.bytesRead + (shards.map ShardLoadStats.bytesRead).sum
        bytesCopied := total.bytesCopied + (shards.map ShardLoadStats.bytesCopied).sum
        chunks := total.chunks + (shards.map ShardLoadStats.chunks).sum
        memcpyOperations :=
          total.memcpyOperations + (shards.map ShardLoadStats.memcpyOperations).sum } := by
  induction shards generalizing total with
  | nil => simp
  | cons stats shards ih =>
    simp only [List.map_cons, List.sum_cons, ← Nat.add_assoc] at hread hcopied hchunks hoperations ⊢
    have hadd : addStatistics total stats = some
        { bytesRead := total.bytesRead + stats.bytesRead
          bytesCopied := total.bytesCopied + stats.bytesCopied
          chunks := total.chunks + stats.chunks
          memcpyOperations := total.memcpyOperations + stats.memcpyOperations } := by
      unfold addStatistics
      rw [(checkedAdd_eq_some (by omega)).mpr ⟨rfl, by omega⟩,
        (checkedAdd_eq_some (by omega)).mpr ⟨rfl, by omega⟩,
        (checkedAdd_eq_some (by omega)).mpr ⟨rfl, by omega⟩,
        (checkedAdd_eq_some (by omega)).mpr ⟨rfl, by omega⟩]
      rfl
    rw [List.foldlM_cons, hadd, Option.bind_eq_bind, Option.bind_some]
    exact ih hread hcopied hchunks hoperations

lemma mapM_ok {ε α β : Type} {f : α → Except ε β} {g : α → β} {l : List α}
    (h : ∀ a ∈ l, f a = .ok (g a)) : l.mapM f = .ok (l.map g) := by
  induction l with
  | nil => rfl
  | cons a l ih =>
    rw [List.mapM_cons, h a List.mem_cons_self, ih fun b hb => h b (List.mem_cons_of_mem a hb)]
    rfl

lemma written_shards (h : Loadable plan) (hchunk : 0 < options.chunkBytes) (address : ℕ) :
    timesWritten (plan.shards.flatMap (issuedCopies plan options)) address =
      plan.tensors.countP fun tensor => decide (tensor.Holds address) := by
  rw [timesWritten, List.countP_flatMap, countP_eq_sum, ← sum_shards h]
  congr 1
  apply List.map_congr_left
  intro shard hshard
  rw [← countP_eq_sum]
  refine shardCopies_written hchunk (h.segments shard hshard) ?_ address
  intro tensor ht
  rw [h.tensors shard hshard] at ht
  exact h.size tensor (List.mem_of_mem_filter ht)

lemma held_once {tensors : List PlannedTensor}
    (hdisjoint : tensors.Pairwise fun a b => a.arenaOffset + a.byteSize ≤ b.arenaOffset)
    {tensor : PlannedTensor} (htensor : tensor ∈ tensors) {address : ℕ}
    (hholds : tensor.Holds address) :
    tensors.countP (fun tensor => decide (tensor.Holds address)) = 1 ∧
      tensors.find? (fun tensor => decide (tensor.Holds address)) = some tensor := by
  induction tensors with
  | nil => cases htensor
  | cons first tensors ih =>
    obtain ⟨hfirst, hrest⟩ := List.pairwise_cons.mp hdisjoint
    obtain rfl | htensor := List.mem_cons.mp htensor
    · have hzero : tensors.countP (fun t => decide (t.Holds address)) = 0 := by
        rw [List.countP_eq_zero]
        intro t ht
        have := hfirst t ht
        rw [decide_eq_true_eq]
        unfold PlannedTensor.Holds at *
        omega
      rw [List.countP_cons, hzero, List.find?_cons]
      simp [hholds]
    · have hnot : ¬ first.Holds address := by
        have := hfirst tensor htensor
        unfold PlannedTensor.Holds at *
        omega
      rw [List.countP_cons, List.find?_cons]
      simpa [hnot] using ih hrest htensor

lemma issuedCopies_value (h : Loadable plan) {shard : PlannedShard} (hshard : shard ∈ plan.shards)
    {copy : ScatterCopy} (hcopy : copy ∈ issuedCopies plan options shard) {address : ℕ}
    (hwrites : copy.Writes address) :
    ∃ tensor ∈ plan.tensors, tensor.Holds address ∧ copy.shard = tensor.shard ∧
      copy.source + (address - copy.destination) =
        tensor.sourceBegin + (address - tensor.arenaOffset) := by
  obtain ⟨tensor, ht, o, chunkEnd, hpiece⟩ := shardCopies_piece hcopy
  rw [h.tensors shard hshard] at ht
  have hmem := List.mem_of_mem_filter ht
  have hname : tensor.shard = shard.identity.filename := by simpa using List.of_mem_filter ht
  have hholds := ((piece_writes (h.size tensor hmem) address).mp ⟨copy, hpiece, hwrites⟩).1
  refine ⟨tensor, hmem, hholds, ?_, ?_⟩ <;> unfold piece at hpiece <;>
    split_ifs at hpiece <;> obtain rfl := Option.some.inj hpiece
  · exact hname.symm
  · unfold ScatterCopy.Writes at hwrites
    dsimp only at hwrites ⊢
    omega

end Load

-- A load as the claim about it reads: every byte once, as many copies as planned, and an arena
-- that only the plan and the shard contents determine.
structure LoadedExactly (plan : ResidentLoadPlan) (options : ResidentLoadOptions) (planned : ℕ)
    (loaded : List ShardProgress) : Prop where
  once : ∀ tensor ∈ plan.tensors, ∀ address, tensor.Holds address →
    timesWritten (loaded.flatMap ShardProgress.copies) address = 1
  nowhere : ∀ address, (∀ tensor ∈ plan.tensors, ¬ tensor.Holds address) →
    timesWritten (loaded.flatMap ShardProgress.copies) address = 0
  operations : (loaded.flatMap ShardProgress.copies).length =
    (plan.tensors.map (tensorOperations options)).sum
  counted : planned = (plan.tensors.map (tensorOperations options)).sum
  statistics : (finishStatistics plan planned (loaded.map ShardProgress.stats)).isOk = true
  arena : ∀ contents arena (issued : List ScatterCopy),
    issued.Perm (loaded.flatMap ShardProgress.copies) →
    issued.foldl (applyCopy contents) arena = textArena plan contents arena

section Exact

variable {plan : ResidentLoadPlan} {options : ResidentLoadOptions} {planned : ℕ}

def loadedShard (plan : ResidentLoadPlan) (options : ResidentLoadOptions)
    (chunks : PlannedShard → ℕ) (shard : PlannedShard) : ShardProgress where
  copies := issuedCopies plan options shard
  stats :=
    { bytesRead := shard.identity.fileSize.toNat
      bytesCopied := copiedBytes (issuedCopies plan options shard)
      chunks := chunks shard
      memcpyOperations := (issuedCopies plan options shard).length }

lemma finishStatistics_ok (h : Loadable plan) (hchunk : 0 < options.chunkBytes)
    (hplanned : plannedMemcpyOperations plan options = .ok planned) {chunks : PlannedShard → ℕ}
    (hchunks : ∀ shard ∈ plan.shards, chunks shard ≤ shard.identity.fileSize.toNat) :
    (finishStatistics plan planned
      (plan.shards.map fun shard => (loadedShard plan options chunks shard).stats)).isOk = true := by
  obtain ⟨hsum, hle, -⟩ := planOperations_ok (Nat.zero_le _) (Nat.zero_le _) hplanned
  have hread : (plan.shards.map fun shard => shard.identity.fileSize.toNat).sum =
      plan.sourceBytes := h.source.symm
  have hcopied : (plan.shards.map fun shard => copiedBytes (issuedCopies plan options shard)).sum =
      plan.copiedBytes := by
    rw [h.copied, ← sum_shards h]
    congr 1
    exact List.map_congr_left fun shard hshard => issuedCopies_bytes h hchunk hshard
  have hoperations : (plan.shards.map fun shard => (issuedCopies plan options shard).length).sum =
      planned := by
    rw [hsum, Nat.zero_add, ← sum_shards h]
    congr 1
    exact List.map_congr_left fun shard hshard => issuedCopies_length h hchunk hshard
  have hcount : (plan.shards.map chunks).sum ≤ plan.sourceBytes := by
    rw [← hread]
    exact List.sum_le_sum hchunks
  have hinside : plan.copiedBytes ≤ plan.sourceBytes := by
    rw [← hread, ← hcopied]
    apply List.sum_le_sum
    intro shard hshard
    have hsegments := h.segments shard hshard
    have hbytes := hsegments.sum_le (fun _ _ => Nat.zero_le _) (Nat.zero_le _)
    rw [Nat.zero_add, ← shardCopies_bytes hchunk hsegments] at hbytes
    exact hbytes
  have hcopiedBytes := h.copiedBytes
  have hsourceBytes := h.sourceBytes
  have hstats := @addStatistics_all
    (plan.shards.map fun shard => (loadedShard plan options chunks shard).stats) {}
  simp only [List.map_map, Function.comp_def, loadedShard, hread, hcopied, hoperations,
    Nat.zero_add] at hstats
  unfold finishStatistics loadedShard
  rw [hstats hsourceBytes hcopiedBytes (hcount.trans hsourceBytes) hle]
  dsimp only
  rw [if_neg (by omega)]
  rfl

lemma arena_eq (h : Loadable plan) (hchunk : 0 < options.chunkBytes) {issued : List ScatterCopy}
    (hissued : issued.Perm (plan.shards.flatMap (issuedCopies plan options)))
    (contents : String → ℕ → UInt8) (arena : ℕ → UInt8) :
    issued.foldl (applyCopy contents) arena = textArena plan contents arena := by
  funext address
  have hvalue : ∀ copy ∈ issued, copy.Writes address →
      ∃ tensor ∈ plan.tensors, tensor.Holds address ∧ copy.shard = tensor.shard ∧
        copy.source + (address - copy.destination) =
          tensor.sourceBegin + (address - tensor.arenaOffset) := by
    intro copy hcopy hwrites
    obtain ⟨shard, hshard, hcopy⟩ := List.mem_flatMap.mp (hissued.mem_iff.mp hcopy)
    exact issuedCopies_value h hshard hcopy hwrites
  unfold textArena
  by_cases hheld : ∃ tensor ∈ plan.tensors, tensor.Holds address
  · obtain ⟨tensor, htensor, hholds⟩ := hheld
    obtain ⟨hcount, hfind⟩ := held_once h.disjoint htensor hholds
    rw [hfind]
    apply foldl_applyCopy_written
    · have htimes := written_shards h hchunk address
      rw [hcount, timesWritten, ← hissued.countP_eq] at htimes
      obtain ⟨copy, hcopy, hwrites⟩ := List.countP_pos_iff.mp (htimes ▸ Nat.one_pos)
      exact ⟨copy, hcopy, of_decide_eq_true hwrites⟩
    · intro copy hcopy hwrites
      obtain ⟨other, hother, hholds', hshard, hsource⟩ := hvalue copy hcopy hwrites
      have hsame := (held_once h.disjoint hother hholds').2
      rw [hfind] at hsame
      obtain rfl := Option.some.inj hsame
      rw [hshard, hsource]
  · rw [List.find?_eq_none.mpr fun tensor htensor hholds =>
      hheld ⟨tensor, htensor, of_decide_eq_true hholds⟩]
    apply foldl_applyCopy_unwritten
    intro copy hcopy hwrites
    obtain ⟨tensor, htensor, hholds, -⟩ := hvalue copy hcopy hwrites
    exact hheld ⟨tensor, htensor, hholds⟩

lemma load_exact (h : Loadable plan) (hchunk : 0 < options.chunkBytes)
    (hplanned : plannedMemcpyOperations plan options = .ok planned) :
    ∃ loaded, plan.shards.mapM (loadOneShard plan options) = .ok loaded ∧
      LoadedExactly plan options planned loaded := by
  have hload : ∀ shard, ∃ chunks, shard ∈ plan.shards →
      chunks ≤ shard.identity.fileSize.toNat ∧
        loadOneShard plan options shard = .ok (loadedShard plan options (fun _ => chunks) shard) := by
    intro shard
    by_cases hshard : shard ∈ plan.shards
    · obtain ⟨chunks, hle, heq⟩ := loadOneShard_ok h hchunk hplanned hshard
      exact ⟨chunks, fun _ => ⟨hle, heq⟩⟩
    · exact ⟨0, fun h => absurd h hshard⟩
  choose chunks hchunks using hload
  have hcopies : (plan.shards.map (loadedShard plan options chunks)).flatMap
      ShardProgress.copies = plan.shards.flatMap (issuedCopies plan options) :=
    List.flatMap_map ..
  have hsum := (planOperations_ok (Nat.zero_le _) (Nat.zero_le _) hplanned).1
  rw [Nat.zero_add] at hsum
  refine ⟨_, mapM_ok fun shard hshard => (hchunks shard hshard).2, ?_⟩
  change LoadedExactly plan options planned (plan.shards.map (loadedShard plan options chunks))
  constructor
  · intro tensor htensor address hholds
    rw [hcopies, written_shards h hchunk]
    exact (held_once h.disjoint htensor hholds).1
  · intro address hnone
    rw [hcopies, written_shards h hchunk, List.countP_eq_zero]
    exact fun tensor htensor hholds => hnone tensor htensor (of_decide_eq_true hholds)
  · rw [hcopies, List.length_flatMap, ← sum_shards h]
    congr 1
    exact List.map_congr_left fun shard hshard => issuedCopies_length h hchunk hshard
  · exact hsum
  · rw [List.map_map]
    exact finishStatistics_ok h hchunk hplanned fun shard hshard => (hchunks shard hshard).1
  · intro contents arena issued hissued
    rw [hcopies] at hissued
    exact arena_eq h hchunk hissued contents arena

end Exact

lemma textArena_tensor {plan : ResidentLoadPlan}
    (hdisjoint : plan.tensors.Pairwise fun a b => a.arenaOffset + a.byteSize ≤ b.arenaOffset)
    {tensor : PlannedTensor} (htensor : tensor ∈ plan.tensors) {i : ℕ} (hi : i < tensor.byteSize)
    (contents : String → ℕ → UInt8) (arena : ℕ → UInt8) :
    textArena plan contents arena (tensor.arenaOffset + i) =
      contents tensor.shard (tensor.sourceBegin + i) := by
  have hholds : tensor.Holds (tensor.arenaOffset + i) := ⟨by omega, by omega⟩
  rw [textArena, (held_once hdisjoint htensor hholds).2]
  dsimp only
  rw [Nat.add_sub_cancel_left]

lemma sample_textTensors : textTensors sampleManifest.tensors =
    [("lm_head.weight",
      { category := .text, shard := "a.safetensors", fileBegin := 500, fileEnd := 1000
        byteSize := 500, dtype := .bf16, shape := [10, 25] })] := by
  have hfilter : (sampleManifest.tensors.filter fun item => classifyTensor item.1 = .text) =
      [("lm_head.weight",
        { category := .text, shard := "a.safetensors", fileBegin := 500, fileEnd := 1000
          byteSize := 500, dtype := .bf16, shape := [10, 25] })] := by decide +kernel
  rw [textTensors, hfilter, List.mergeSort_singleton]

-- A tensor of 500 bytes read in chunks of 300 spans three of them.
lemma sample_planned :
    plannedMemcpyOperations (residentPlan sampleManifest sampleIdentities)
      { chunkBytes := 300, maxMemcpyOperations := 10 } = .ok 3 := by
  rw [plannedMemcpyOperations, residentPlan_tensors, sample_textTensors]
  decide +kernel

end Qwen3xOrin.Resident
