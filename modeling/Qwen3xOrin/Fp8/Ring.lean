import Qwen3xOrin.Fp8.Supermatrix
import Qwen3xOrin.Library.Loops

/-! The ring of four slots: what the copies of a stage leave in its slot, and when a slot may be
overwritten. -/

namespace Qwen3xOrin.Fp8.Gemm

open Library SharedMemory

variable {F : Type} {g : Gemm F} {task : Task F}

structure Threads (g : Gemm F) : Prop where
  order : g.order.Perm (List.range threads)
  warpOrder : g.warpOrder.Perm (List.range 8)
  blockOrder : g.blockOrder.Perm (List.range persistentBlocks)

lemma Threads.mem_order (h : g.Threads) {thread : ℕ} : thread ∈ g.order ↔ thread < 256 := by
  rw [h.order.mem_iff, List.mem_range, threads]

lemma Threads.order_nodup (h : g.Threads) : g.order.Nodup :=
  h.order.nodup_iff.mpr List.nodup_range

section Slots

variable {slot slot' a i : ℕ}

-- Where a chunk of a row of eight goes, and where it is found again.
def chunkAddress (i : ℕ) : ℕ := i / 8 * 8 + (i % 8 ^^^ (i / 8 &&& 7))

lemma xor_lt {c x : ℕ} (hc : c < 8) : c ^^^ (x &&& 7) < 8 := by
  rw [show x &&& 7 = x % 8 from Nat.and_two_pow_sub_one_eq_mod x 3]
  exact @Nat.xor_lt_two_pow _ _ 3 hc (Nat.mod_lt x (by decide))

lemma chunkAddress_parts (i : ℕ) :
    chunkAddress i / 8 = i / 8 ∧ chunkAddress i % 8 = i % 8 ^^^ (i / 8 &&& 7) := by
  have hlt := @xor_lt (i % 8) (i / 8) (Nat.mod_lt i (by decide))
  unfold chunkAddress
  omega

lemma chunkAddress_twice (i : ℕ) : chunkAddress (chunkAddress i) = i := by
  obtain ⟨hdiv, hmod⟩ := chunkAddress_parts i
  rw [chunkAddress, hdiv, hmod, xor_twice]
  exact Nat.div_add_mod' i 8

lemma chunkAddress_lt (hi : i < 512) : chunkAddress i < 512 := by
  have hdiv := (chunkAddress_parts i).1
  omega

def InActivations (slot a : ℕ) : Prop :=
  activationSlot slot ≤ a ∧ a < activationSlot slot + activationVectorsPerStage

def InWeights (slot a : ℕ) : Prop :=
  weightSlot slot ≤ a ∧ a < weightSlot slot + sidecarVectorsPerStage

instance : Decidable (InActivations slot a) := inferInstanceAs (Decidable (_ ∧ _))

def InSlot (slot a : ℕ) : Prop := InActivations slot a ∨ InWeights slot a

def slotOwner (slot a : ℕ) : ℕ :=
  if InActivations slot a then chunkAddress (a - activationSlot slot) % threads
  else (a - weightSlot slot) % threads

def activationVector (g : Gemm F) (task : Task F) (stage i : ℕ) : Uint4 :=
  elementVector g.activations ((task.tokenTile * residentTokenCount + i / 8) * g.columns +
    stage * columnsPerStage + i % 8 * 8)

def weightVector (g : Gemm F) (task : Task F) (stage i : ℕ) : Uint4 :=
  byteVector task.part.sidecar
    (((task.localNblock * g.kstageCount + stage) * sidecarVectorsPerStage + i) * 16)

def slotData (g : Gemm F) (task : Task F) (stage slot a : ℕ) : Uint4 :=
  if InActivations slot a then g.activationVector task stage (chunkAddress (a - activationSlot slot))
  else g.weightVector task stage (a - weightSlot slot)

lemma activations_apart (hslot : slot < 4) (h : InWeights slot' a) : ¬ InActivations slot a := by
  simp only [InActivations, InWeights, activationSlot, weightSlot, pipelineStages,
    activationVectorsPerStage, sidecarVectorsPerStage, residentTokenCount, columnsPerStage] at *
  omega

lemma slots_apart (hslot : slot < 4) (hslot' : slot' < 4) (hne : slot ≠ slot')
    (h : InSlot slot a) : ¬ InSlot slot' a := by
  rintro (h' | h')
  · obtain h | h := h
    · unfold InActivations activationSlot at h h'
      rw [show activationVectorsPerStage = 512 from rfl] at h h'
      omega
    · exact activations_apart hslot' h h'
  · obtain h | h := h
    · exact activations_apart hslot h' h
    · unfold InWeights weightSlot at h h'
      rw [show sidecarVectorsPerStage = 1024 from rfl] at h h'
      omega

lemma activation_in (hi : i < 512) : InActivations slot (activationSlot slot + chunkAddress i) :=
  ⟨Nat.le_add_right _ _, Nat.add_lt_add_left (chunkAddress_lt hi) _⟩

lemma weight_in (hi : i < 1024) : InWeights slot (weightSlot slot + i) :=
  ⟨Nat.le_add_right _ _, Nat.add_lt_add_left hi _⟩

lemma activations_address (h : InActivations slot a) :
    ∃ i < 512, a = activationSlot slot + chunkAddress i := by
  obtain ⟨hle, hlt⟩ := h
  rw [show activationVectorsPerStage = 512 from rfl] at hlt
  refine ⟨chunkAddress (a - activationSlot slot), chunkAddress_lt (by omega), ?_⟩
  rw [chunkAddress_twice]
  omega

lemma weights_address (h : InWeights slot a) : ∃ i < 1024, a = weightSlot slot + i := by
  obtain ⟨hle, hlt⟩ := h
  rw [show sidecarVectorsPerStage = 1024 from rfl] at hlt
  exact ⟨a - weightSlot slot, by omega, by omega⟩

variable {stage : ℕ}

lemma slotData_activation (hi : i < 512) :
    g.slotData task stage slot (activationSlot slot + chunkAddress i) =
      g.activationVector task stage i := by
  rw [slotData, if_pos (activation_in hi), Nat.add_sub_cancel_left, chunkAddress_twice]

lemma slotData_weight (hslot : slot < 4) (hi : i < 1024) :
    g.slotData task stage slot (weightSlot slot + i) = g.weightVector task stage i := by
  rw [slotData, if_neg (activations_apart hslot (weight_in hi)), Nat.add_sub_cancel_left]

lemma slotOwner_activation (hi : i < 512) :
    slotOwner slot (activationSlot slot + chunkAddress i) = i % 256 := by
  rw [slotOwner, if_pos (activation_in hi), Nat.add_sub_cancel_left, chunkAddress_twice, threads]

lemma slotOwner_weight (hslot : slot < 4) (hi : i < 1024) :
    slotOwner slot (weightSlot slot + i) = i % 256 := by
  rw [slotOwner, if_neg (activations_apart hslot (weight_in hi)), Nat.add_sub_cancel_left, threads]

end Slots

section Copies

variable {stage slot thread : ℕ}

def activationCopies (g : Gemm F) (task : Task F) (stage slot thread : ℕ) : List (ℕ × Uint4) :=
  (List.range 2).map fun pass => (activationSlot slot + chunkAddress (thread + pass * threads),
    g.activationVector task stage (thread + pass * threads))

def weightCopies (g : Gemm F) (task : Task F) (stage slot thread : ℕ) : List (ℕ × Uint4) :=
  (List.range 4).map fun pass => (weightSlot slot + (thread + pass * threads),
    g.weightVector task stage (thread + pass * threads))

def copies (g : Gemm F) (task : Task F) (stage slot thread : ℕ) : List (ℕ × Uint4) :=
  g.activationCopies task stage slot thread ++ g.weightCopies task stage slot thread

lemma issueBlock_eq (shared : SharedMemory Uint4) :
    g.issueBlock task stage shared =
      shared.stageAll g.order (g.copies task stage (stage % pipelineStages)) := by
  rw [issueBlock, stageAll]
  refine congrArg (fun f => g.order.foldlM f shared) (funext fun shared => funext fun thread => ?_)
  rw [issuePipelineStage, copies, issueAll_append, issueAll, activationCopies, List.foldlM_map]
  simp only [issueAll, weightCopies, List.foldlM_map]
  exact (Option.bind_assoc _ _ _).symm

lemma mem_copies (hthread : thread < 256) {q : ℕ × Uint4} :
    q ∈ g.copies task stage slot thread ↔
      (∃ i < 512, i % 256 = thread ∧
        q = (activationSlot slot + chunkAddress i, g.activationVector task stage i)) ∨
      ∃ i < 1024, i % 256 = thread ∧ q = (weightSlot slot + i, g.weightVector task stage i) := by
  rw [copies, List.mem_append, activationCopies, weightCopies, List.mem_map, List.mem_map]
  refine or_congr ⟨?_, ?_⟩ ⟨?_, ?_⟩
  · rintro ⟨pass, hpass, rfl⟩
    rw [List.mem_range] at hpass
    exact ⟨thread + pass * threads, by unfold threads; omega, by unfold threads; omega, rfl⟩
  · rintro ⟨i, hi, howner, rfl⟩
    refine ⟨i / 256, List.mem_range.mpr (by omega), ?_⟩
    rw [show thread + i / 256 * threads = i by unfold threads; omega]
  · rintro ⟨pass, hpass, rfl⟩
    rw [List.mem_range] at hpass
    exact ⟨thread + pass * threads, by unfold threads; omega, by unfold threads; omega, rfl⟩
  · rintro ⟨i, hi, howner, rfl⟩
    refine ⟨i / 256, List.mem_range.mpr (by omega), ?_⟩
    rw [show thread + i / 256 * threads = i by unfold threads; omega]

lemma copies_nodup (hslot : slot < 4) (hthread : thread < 256) :
    ((g.copies task stage slot thread).map Prod.fst).Nodup := by
  have hpass {x y : ℕ} (hxy : thread + x * threads = thread + y * threads) : x = y :=
    Nat.eq_of_mul_eq_mul_right (show 0 < threads by decide) (Nat.add_left_cancel hxy)
  rw [copies, List.map_append, activationCopies, weightCopies, List.map_map, List.map_map]
  refine List.nodup_append.mpr ⟨List.nodup_range.map fun x y hxy => ?_,
    List.nodup_range.map fun x y hxy => hpass (Nat.add_left_cancel hxy), fun a ha b hb heq => ?_⟩
  · have hsame := congrArg chunkAddress (Nat.add_left_cancel hxy)
    rw [chunkAddress_twice, chunkAddress_twice] at hsame
    exact hpass hsame
  · obtain ⟨x, hx, rfl⟩ := List.mem_map.mp ha
    obtain ⟨y, hy, rfl⟩ := List.mem_map.mp hb
    rw [List.mem_range] at hx hy
    dsimp only [Function.comp] at heq
    have hin := @activation_in slot (thread + x * threads) (by unfold threads; omega)
    rw [heq] at hin
    exact activations_apart hslot (weight_in (by unfold threads; omega)) hin

lemma copies_cover (h : g.Threads) (task : Task F) (stage : ℕ) (hslot : slot < 4) :
    Covers g.order (g.copies task stage slot) (InSlot slot) (slotOwner slot)
      (g.slotData task stage slot) := by
  refine ⟨fun t ht q hq => ?_, fun a ha => ?_, fun t ht => copies_nodup hslot (h.mem_order.mp ht)⟩
  · obtain ⟨i, hi, howner, rfl⟩ | ⟨i, hi, howner, rfl⟩ := (mem_copies (h.mem_order.mp ht)).mp hq
    · exact ⟨.inl (activation_in hi), (slotOwner_activation hi).trans howner,
        slotData_activation hi⟩
    · exact ⟨.inr (weight_in hi), (slotOwner_weight hslot hi).trans howner,
        slotData_weight hslot hi⟩
  · obtain ha | ha := ha
    · obtain ⟨i, hi, rfl⟩ := activations_address ha
      rw [slotOwner_activation hi, slotData_activation hi]
      have hlt : i % 256 < 256 := Nat.mod_lt i (by decide)
      exact ⟨h.mem_order.mpr hlt, (mem_copies hlt).mpr (.inl ⟨i, hi, rfl, rfl⟩)⟩
    · obtain ⟨i, hi, rfl⟩ := weights_address ha
      rw [slotOwner_weight hslot hi, slotData_weight hslot hi]
      have hlt : i % 256 < 256 := Nat.mod_lt i (by decide)
      exact ⟨h.mem_order.mpr hlt, (mem_copies hlt).mpr (.inr ⟨i, hi, rfl, rfl⟩)⟩

end Copies

section Stages

variable {s : SharedMemory Uint4} {base stage slot committed waited visible : ℕ}

lemma slotOwner_mem (h : g.Threads) (hslot : slot < 4) (a : ℕ) (ha : InSlot slot a) :
    slotOwner slot a ∈ g.order :=
  ((copies_cover h (⟨0, g.partition 0, 0, 0⟩ : Task F) 0 hslot).complete a ha).1

def StageHeld (g : Gemm F) (task : Task F) (base stage : ℕ) (s : SharedMemory Uint4) : Prop :=
  Holds s (InSlot (stage % 4)) (slotOwner (stage % 4)) (base + stage)
    (g.slotData task stage (stage % 4))

-- Between two tasks everything has landed and nobody reads.
structure Idle (g : Gemm F) (base : ℕ) (s : SharedMemory Uint4) : Prop where
  counts : Counts g.order s base base base
  within : Within g.order s (fun _ => True) base
  readers : s.readers = fun _ => []

-- Before a stage three of them are under way, and the slot of the one before is free.
structure Ring (g : Gemm F) (task : Task F) (base stage : ℕ) (s : SharedMemory Uint4) : Prop where
  counts : Counts g.order s (base + min (stage + 3) g.kstageCount) (base + stage) (base + stage)
  held : ∀ j, stage ≤ j → j < stage + 3 → j < g.kstageCount → g.StageHeld task base j s
  free : Within g.order s (InSlot ((stage + 3) % 4)) (base + stage)
  within : Within g.order s (fun _ => True) (base + min (stage + 3) g.kstageCount)

-- Once the threads have waited, the stage may be read.
structure Fed (g : Gemm F) (task : Task F) (base stage : ℕ) (s : SharedMemory Uint4) : Prop where
  counts : Counts g.order s (base + min (stage + 4) g.kstageCount) (base + stage + 1)
    (base + stage + 1)
  held : ∀ j, stage ≤ j → j < stage + 4 → j < g.kstageCount → g.StageHeld task base j s
  within : Within g.order s (fun _ => True) (base + min (stage + 4) g.kstageCount)

lemma issueBlock_holds (h : g.Threads) (task : Task F) (stage : ℕ)
    (hcounts : Counts g.order s committed waited visible)
    (hfree : Within g.order s (InSlot (stage % 4)) visible)
    (hwithin : Within g.order s (fun _ => True) committed) (hreaders : s.readers = fun _ => []) :
    ∃ s', g.issueBlock task stage s = some s' ∧
      Holds s' (InSlot (stage % 4)) (slotOwner (stage % 4)) committed
        (g.slotData task stage (stage % 4)) ∧
      (∀ a, ¬ InSlot (stage % 4) a → s'.cells a = s.cells a) ∧
      Counts g.order s' (committed + 1) waited visible ∧
      Within g.order s' (fun _ => True) (committed + 1) ∧ s'.readers = fun _ => [] := by
  have hslot : stage % 4 < 4 := Nat.mod_lt stage (by decide)
  obtain ⟨s', hrun, hholds, hkept, hcounts', hreaders'⟩ :=
    stageAll_holds h.order_nodup (copies_cover h task stage hslot) hcounts
      fun a ha => hfree.writable hcounts ha (by rw [hreaders]) _
  refine ⟨s', (issueBlock_eq s).trans hrun, hholds, hkept, hcounts', fun a _ c hc => ?_,
    hreaders'.trans hreaders⟩
  by_cases ha : InSlot (stage % 4) a
  · exact hholds.within (slotOwner_mem h hslot) a ha c hc
  · obtain ⟨howner, hgroup⟩ := hwithin a trivial c ((hkept a ha).symm.trans hc)
    exact ⟨howner, hgroup.trans (Nat.lt_succ_self committed)⟩

lemma StageHeld.kept (h : g.StageHeld task base stage s) {s' : SharedMemory Uint4}
    (hkept : ∀ a, ¬ InSlot slot a → s'.cells a = s.cells a) (hslot : slot < 4)
    (hne : stage % 4 ≠ slot) : g.StageHeld task base stage s' :=
  Holds.congr h fun a ha =>
    hkept a (slots_apart (Nat.mod_lt stage (by decide)) hslot hne ha)

lemma Within.mono {region : ℕ → Prop} {bound bound' : ℕ} (h : Within g.order s region bound)
    (hle : bound ≤ bound') : Within g.order s region bound' :=
  fun a ha c hc => ⟨(h a ha c hc).1, (h a ha c hc).2.trans_le hle⟩

lemma Idle.start (h : g.Threads) (hs : g.Idle base s) (task : Task F) (hK : 3 ≤ g.kstageCount) :
    ∃ s₁ s₂ s₃, g.issueBlock task 0 s = some s₁ ∧ g.issueBlock task 1 s₁ = some s₂ ∧
      g.issueBlock task 2 s₂ = some s₃ ∧ g.Ring task base 0 s₃ := by
  have hfree (slot : ℕ) : Within g.order s (InSlot slot) base := fun a _ => hs.within a trivial
  obtain ⟨s₁, hrun₁, hholds₁, hkept₁, hcounts₁, hwithin₁, hreaders₁⟩ :=
    issueBlock_holds h task 0 hs.counts (hfree _) hs.within hs.readers
  have hfree₁ : Within g.order s₁ (InSlot (1 % 4)) base := fun a ha c hc =>
    hfree _ a ha c ((hkept₁ a (slots_apart (by decide) (by decide) (by decide) ha)).symm.trans hc)
  obtain ⟨s₂, hrun₂, hholds₂, hkept₂, hcounts₂, hwithin₂, hreaders₂⟩ :=
    issueBlock_holds h task 1 hcounts₁ hfree₁ hwithin₁ hreaders₁
  have hfree₂ : Within g.order s₂ (InSlot (2 % 4)) base := fun a ha c hc =>
    hfree _ a ha c ((hkept₁ a (slots_apart (by decide) (by decide) (by decide) ha)).symm.trans
      ((hkept₂ a (slots_apart (by decide) (by decide) (by decide) ha)).symm.trans hc))
  obtain ⟨s₃, hrun₃, hholds₃, hkept₃, hcounts₃, hwithin₃, hreaders₃⟩ :=
    issueBlock_holds h task 2 hcounts₂ hfree₂ hwithin₂ hreaders₂
  have hmin : min (0 + 3) g.kstageCount = 3 := min_eq_left hK
  have hheld₀ : g.StageHeld task base 0 s₁ := hholds₁
  have hheld₁ : g.StageHeld task base 1 s₂ := hholds₂
  have hheld₂ : g.StageHeld task base 2 s₃ := hholds₃
  refine ⟨s₁, s₂, s₃, hrun₁, hrun₂, hrun₃, by rw [hmin]; exact hcounts₃, fun j _ hj _ => ?_,
    fun a ha c hc => hfree _ a ha c ?_, by rw [hmin]; exact hwithin₃⟩
  · obtain rfl | rfl | rfl : j = 0 ∨ j = 1 ∨ j = 2 := by omega
    · exact (hheld₀.kept hkept₂ (by decide) (by decide)).kept hkept₃ (by decide) (by decide)
    · exact hheld₁.kept hkept₃ (by decide) (by decide)
    · exact hheld₂
  · rw [← hkept₁ a (slots_apart (by decide) (by decide) (by decide) ha),
      ← hkept₂ a (slots_apart (by decide) (by decide) (by decide) ha),
      ← hkept₃ a (slots_apart (by decide) (by decide) (by decide) ha)]
    exact hc

-- What a stage does before it computes: wait, and copy the stage after the next two.
def feed (g : Gemm F) (task : Task F) (stage : ℕ) (s : SharedMemory Uint4) :
    Option (SharedMemory Uint4) :=
  let pending :=
    if stage + 2 < g.kstageCount then 2 else if stage + 1 < g.kstageCount then 1 else 0
  let shared := (s.waitAll g.order pending).barrier
  if stage + 3 < g.kstageCount then g.issueBlock task (stage + 3) shared else pure shared

lemma Ring.feed (h : g.Threads) (hs : g.Ring task base stage s) (hstage : stage < g.kstageCount) :
    ∃ s', g.feed task stage s = some s' ∧ g.Fed task base stage s' := by
  generalize hpending : (if stage + 2 < g.kstageCount then 2
    else if stage + 1 < g.kstageCount then 1 else 0) = pending
  have hwait : max (base + stage) (base + min (stage + 3) g.kstageCount - pending) =
      base + stage + 1 := by
    split_ifs at hpending <;> omega
  have hcells : (s.waitAll g.order pending).barrier.cells = s.cells := waitAll_cells pending s
  have hcounts := barrier_counts (waitAll_counts h.order_nodup hs.counts pending)
  rw [hwait] at hcounts
  have hfeed : g.feed task stage s = if stage + 3 < g.kstageCount then
      g.issueBlock task (stage + 3) (s.waitAll g.order pending).barrier
      else some (s.waitAll g.order pending).barrier := by
    rw [Gemm.feed, hpending]
    rfl
  have hwithin (region : ℕ → Prop) (bound : ℕ) (hbound : Within g.order s region bound) :
      Within g.order (s.waitAll g.order pending).barrier region bound := fun a ha c hc =>
    hbound a ha c (by rwa [hcells] at hc)
  have hheld (j : ℕ) (hj : stage ≤ j) (hj' : j < stage + 3) (hlast : j < g.kstageCount) :
      g.StageHeld task base j (s.waitAll g.order pending).barrier :=
    Holds.congr (hs.held j hj hj' hlast) fun a _ => congrFun hcells a
  rw [hfeed]
  by_cases hmore : stage + 3 < g.kstageCount
  · obtain ⟨s', hrun, hholds, hkept, hcounts', hwithin', -⟩ :=
      issueBlock_holds h task (stage + 3) hcounts
        (Within.mono (hwithin _ _ hs.free) (Nat.le_succ _)) (hwithin _ _ hs.within) rfl
    have hmin : min (stage + 3) g.kstageCount = stage + 3 := min_eq_left (by omega)
    have hmin' : min (stage + 4) g.kstageCount = stage + 4 := min_eq_left (by omega)
    rw [hmin] at hholds hcounts' hwithin'
    refine ⟨s', by rw [if_pos hmore, hrun], by rw [hmin']; exact hcounts', fun j hj hj' hlast => ?_,
      by rw [hmin']; exact hwithin'⟩
    by_cases hnew : j = stage + 3
    · subst hnew
      exact hholds
    · exact (hheld j hj (by omega) hlast).kept hkept (Nat.mod_lt _ (by decide)) (by omega)
  · have hmin : min (stage + 3) g.kstageCount = min (stage + 4) g.kstageCount := by omega
    refine ⟨_, if_neg hmore, by rw [← hmin]; exact hcounts,
      fun j hj hj' hlast => hheld j hj (by omega) hlast, by rw [← hmin]; exact hwithin _ _ hs.within⟩

-- The slot of a stage is free for the stage four later once its readers have passed a barrier.
lemma Fed.next (h : g.Threads) (hs : g.Fed task base stage s) (hstage : stage < g.kstageCount)
    {s' : SharedMemory Uint4} (hcells : s'.cells = s.cells)
    (hcounts : Counts g.order s' (base + min (stage + 4) g.kstageCount) (base + stage + 1)
      (base + stage + 1)) : g.Ring task base (stage + 1) s' where
  counts := hcounts
  held j hj hj' hlast :=
    Holds.congr (hs.held j (by omega) (by omega) hlast) fun a _ => congrFun hcells a
  free a ha c hc := by
    rw [show (stage + 1 + 3) % 4 = stage % 4 by omega] at ha
    rw [hcells] at hc
    exact (hs.held stage le_rfl (by omega) hstage).within
      (slotOwner_mem h (Nat.mod_lt stage (by decide))) a ha c hc
  within a ha c hc := hs.within a ha c (by rwa [hcells] at hc)

lemma Ring.finish (h : g.Threads) (hs : g.Ring task base g.kstageCount s) :
    g.Idle (base + g.kstageCount) (s.waitAll g.order 0).barrier.barrier := by
  have hmin : min (g.kstageCount + 3) g.kstageCount = g.kstageCount := by omega
  have hcounts := hs.counts
  rw [hmin] at hcounts
  have hwaited := waitAll_counts h.order_nodup hcounts 0
  rw [Nat.sub_zero, max_self] at hwaited
  refine ⟨barrier_counts (barrier_counts hwaited), fun a ha c hc => ?_, rfl⟩
  have hwithin := hs.within
  rw [hmin] at hwithin
  exact hwithin a ha c ((congrFun (waitAll_cells 0 s) a).symm.trans hc)

end Stages

end Qwen3xOrin.Fp8.Gemm
