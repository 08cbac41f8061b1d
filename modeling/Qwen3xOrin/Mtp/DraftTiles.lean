import Qwen3xOrin.Mtp.DraftRing

/-! The products of a tile of the draft projection, fed from a slot that has landed. -/

namespace Qwen3xOrin.Mtp.DraftLaunch

open Library SharedMemory

variable {F : Type} {p : DraftLaunch F} {block tile slot warp : ℕ}

-- What the threads may rely on while they read a slot: it holds a tile, and all have seen it land.
structure Landed (p : DraftLaunch F) (block tile slot : ℕ) (s : SharedMemory UInt16)
    (committed waited visible : ℕ) : Prop where
  holds : Holds s (p.InSlot slot) (p.slotOwner slot) tile (p.slotData block tile slot)
  counts : Counts p.order s committed waited visible
  visible : tile < visible

section Loads

variable {s : SharedMemory UInt16} {committed waited visible : ℕ}

lemma Landed.congr (h : p.Landed block tile slot s committed waited visible)
    {s' : SharedMemory UInt16} (hcells : s'.cells = s.cells)
    (hcounts : Counts p.order s' committed waited visible) :
    p.Landed block tile slot s' committed waited visible where
  holds a ha := by rw [hcells, h.holds a ha]
  counts := hcounts
  visible := h.visible

lemma slotOwner_mem (hp : p.Admitted) (hslot : slot < 2) (hblock : block < p.n / 64)
    (htile : tile < p.k / 128) {a : ℕ} (ha : p.InSlot slot a) : p.slotOwner slot a ∈ p.order :=
  ((copies_cover hp hslot hblock htile).complete a ha).1

lemma Landed.loadWord (h : p.Landed block tile slot s committed waited visible)
    (howner : ∀ a, p.InSlot slot a → p.slotOwner slot a ∈ p.order) {address : ℕ → ℕ}
    (haddress : ∀ lane < 32, ∀ half < 2, p.InSlot slot (address lane + half)) :
    ∃ word s', DraftLaunch.loadWord warp address s = some (word, s') ∧
      (∀ lane < 32, ∀ half < 2, word lane half = p.slotData block tile slot (address lane + half)) ∧
      p.Landed block tile slot s' committed waited visible ∧ s'.cells = s.cells := by
  have hlane (thread : ℕ) (hthread : thread ∈ warpLanes warp) : thread % 32 < 32 :=
    Nat.mod_lt _ (by decide)
  have hthread (lane : ℕ) (hlane : lane < 32) : (warp * 32 + lane) % 32 = lane := by omega
  obtain ⟨low, s₁, hlow, hlowValue, hcells₁, hcounts₁⟩ := @Holds.load UInt16 s p.order _ _ _ _ _ _
    tile _ h.holds h.counts h.visible howner (warpLanes warp) (fun thread => address (thread % 32))
    fun thread ht => haddress _ (hlane thread ht) 0 (by decide)
  have h₁ := h.congr hcells₁ hcounts₁
  obtain ⟨high, s₂, hhigh, hhighValue, hcells₂, hcounts₂⟩ := @Holds.load UInt16 s₁ p.order _ _ _ _ _
    _ tile _ h₁.holds h₁.counts h₁.visible howner (warpLanes warp)
    (fun thread => address (thread % 32) + 1)
    fun thread ht => haddress _ (hlane thread ht) 1 (by decide)
  refine ⟨fun lane half => if half = 0 then low (warp * 32 + lane) else high (warp * 32 + lane), s₂,
    ?_, fun lane hl half hh => ?_, h₁.congr hcells₂ hcounts₂, hcells₂.trans hcells₁⟩
  · rw [DraftLaunch.loadWord, hlow]
    simp only [Option.bind_eq_bind, Option.bind_some, hhigh]
    rfl
  · dsimp only
    obtain rfl | rfl : half = 0 ∨ half = 1 := by omega
    · rw [if_pos rfl, hlowValue _ (warpLane_mem hl), hthread lane hl, Nat.add_zero]
    · rw [if_neg (by decide), hhighValue _ (warpLane_mem hl), hthread lane hl]

-- Words of the weight rows and of the token rows of a slot.
lemma Landed.weightWord (h : p.Landed block tile slot s committed waited visible)
    (howner : ∀ a, p.InSlot slot a → p.slotOwner slot a ∈ p.order) {row col : ℕ → ℕ}
    (hrow : ∀ lane < 32, row lane < 64)
    (hcol : ∀ lane < 32, col lane < 127 ∧ col lane % 8 + 1 < 8) :
    ∃ word s', DraftLaunch.loadWord warp
        (fun lane => weightSlot slot + swizzled (row lane) (col lane)) s = some (word, s') ∧
      (∀ lane < 32, ∀ half < 2, word lane half =
        p.weights ((block * 64 + row lane) * p.k + (tile * 128 + (col lane + half)))) ∧
      p.Landed block tile slot s' committed waited visible ∧ s'.cells = s.cells := by
  have haddress (lane : ℕ) (hl : lane < 32) (half : ℕ) (hh : half < 2) :
      weightSlot slot + swizzled (row lane) (col lane) + half =
        weightSlot slot + swizzled (row lane) (col lane + half) := by
    have hlast := (hcol lane hl).2
    rw [swizzled_add (by omega), Nat.add_assoc]
  have hbound (lane : ℕ) (hl : lane < 32) (half : ℕ) (hh : half < 2) : col lane + half < 128 := by
    have hfirst := (hcol lane hl).1
    omega
  obtain ⟨word, s', hrun, hword, hlanded⟩ := @Landed.loadWord F p block tile slot warp s committed
    waited visible h howner (fun lane => weightSlot slot + swizzled (row lane) (col lane))
    fun lane hl half hh => by
      rw [haddress lane hl half hh]
      exact .inl (weightSlot_in (hrow lane hl) (hbound lane hl half hh))
  refine ⟨word, s', hrun, fun lane hl half hh => ?_, hlanded⟩
  rw [hword lane hl half hh, haddress lane hl half hh,
    slotData_weights (hrow lane hl) (hbound lane hl half hh)]

lemma Landed.inputWord (h : p.Landed block tile slot s committed waited visible) (hslot : slot < 2)
    (howner : ∀ a, p.InSlot slot a → p.slotOwner slot a ∈ p.order) {row col : ℕ → ℕ}
    (hrow : ∀ lane < 32, row lane < p.capacity)
    (hcol : ∀ lane < 32, col lane < 127 ∧ col lane % 8 + 1 < 8) :
    ∃ word s', DraftLaunch.loadWord warp
        (fun lane => p.inputSlot slot + swizzled (row lane) (col lane)) s = some (word, s') ∧
      (∀ lane < 32, ∀ half < 2, word lane half =
        p.tokenRow (row lane) (tile * 128 + (col lane + half))) ∧
      p.Landed block tile slot s' committed waited visible ∧ s'.cells = s.cells := by
  have haddress (lane : ℕ) (hl : lane < 32) (half : ℕ) (hh : half < 2) :
      p.inputSlot slot + swizzled (row lane) (col lane) + half =
        p.inputSlot slot + swizzled (row lane) (col lane + half) := by
    have hlast := (hcol lane hl).2
    rw [swizzled_add (by omega), Nat.add_assoc]
  have hbound (lane : ℕ) (hl : lane < 32) (half : ℕ) (hh : half < 2) : col lane + half < 128 := by
    have hfirst := (hcol lane hl).1
    omega
  obtain ⟨word, s', hrun, hword, hlanded⟩ := @Landed.loadWord F p block tile slot warp s committed
    waited visible h howner (fun lane => p.inputSlot slot + swizzled (row lane) (col lane))
    fun lane hl half hh => by
      rw [haddress lane hl half hh]
      exact .inr (inputSlot_in (hrow lane hl) (hbound lane hl half hh))
  refine ⟨word, s', hrun, fun lane hl half hh => ?_, hlanded⟩
  rw [hword lane hl half hh, haddress lane hl half hh,
    slotData_input hslot (hrow lane hl) (hbound lane hl half hh)]

end Loads

section Products

variable {s : SharedMemory UInt16} {committed waited visible : ℕ}

def weightSlice (p : DraftLaunch F) (block warp slice r c : ℕ) : UInt16 :=
  p.weights ((block * 64 + (warp % 4 * 16 + r)) * p.k + (slice * 16 + c))

def tokenSlice (p : DraftLaunch F) (warp slice c token : ℕ) : UInt16 :=
  p.tokenRow (warp / 4 * 8 + token) (slice * 16 + c)

lemma weightSlice_eq {row col slice r c : ℕ} (hrow : row = warp % 4 * 16 + r)
    (hcol : tile * 128 + col = slice * 16 + c) :
    p.weights ((block * 64 + row) * p.k + (tile * 128 + col)) =
      p.weightSlice block warp slice r c := by
  rw [weightSlice, hrow, hcol]

lemma tokenSlice_eq {col slice c token : ℕ} (hcol : tile * 128 + col = slice * 16 + c) :
    p.tokenRow (warp / 4 * 8 + token) (tile * 128 + col) = p.tokenSlice warp slice c token := by
  rw [tokenSlice, hcol]

-- The accumulators of a warp after a number of slices of sixteen columns.
def accumulated (p : DraftLaunch F) (block warp : ℕ) : ℕ → ℕ → ℕ → F
  | 0 => fun _ _ => p.zero
  | slice + 1 => product p.mma (p.weightSlice block warp slice) (p.tokenSlice warp slice)
      (p.accumulated block warp slice)

lemma draftStep_lanes (h : p.Landed block tile slot s committed waited visible) (hslot : slot < 2)
    (howner : ∀ a, p.InSlot slot a → p.slotOwner slot a ∈ p.order)
    (hwarp : warp / 4 * 8 + 8 ≤ p.capacity) {step : ℕ} (hstep : step < 8) {c x : ℕ → ℕ → F}
    (hc : LanesC c x) :
    ∃ c' s', p.draftStep slot warp c s step = some (c', s') ∧
      LanesC c' (product p.mma (p.weightSlice block warp (tile * 8 + step))
        (p.tokenSlice warp (tile * 8 + step)) x) ∧
      p.Landed block tile slot s' committed waited visible ∧ s'.cells = s.cells := by
  have hq (lane : ℕ) (_ : lane < 32) :
      step * 16 + lane % 4 * 2 < 127 ∧ (step * 16 + lane % 4 * 2) % 8 + 1 < 8 := by omega
  have hq' (lane : ℕ) (_ : lane < 32) : step * 16 + lane % 4 * 2 + 8 < 127 ∧
      (step * 16 + lane % 4 * 2 + 8) % 8 + 1 < 8 := by omega
  have hwr (lane : ℕ) (_ : lane < 32) : warp % 4 * 16 + lane / 4 < 64 := by omega
  have hwr' (lane : ℕ) (_ : lane < 32) : warp % 4 * 16 + lane / 4 + 8 < 64 := by omega
  have hxr (lane : ℕ) (_ : lane < 32) : warp / 4 * 8 + lane / 4 < p.capacity := by omega
  obtain ⟨a0, s₀, hrun0, ha0, h₀, hcells₀⟩ := @Landed.weightWord F p block tile slot warp s
    committed waited visible h howner _ _ hwr hq
  obtain ⟨a1, s₁, hrun1, ha1, h₁, hcells₁⟩ := @Landed.weightWord F p block tile slot warp s₀
    committed waited visible h₀ howner _ _ hwr' hq
  obtain ⟨a2, s₂, hrun2, ha2, h₂, hcells₂⟩ := @Landed.weightWord F p block tile slot warp s₁
    committed waited visible h₁ howner _ _ hwr hq'
  obtain ⟨a3, s₃, hrun3, ha3, h₃, hcells₃⟩ := @Landed.weightWord F p block tile slot warp s₂
    committed waited visible h₂ howner _ _ hwr' hq'
  obtain ⟨b0, s₄, hrun4, hb0, h₄, hcells₄⟩ := @Landed.inputWord F p block tile slot warp s₃
    committed waited visible h₃ hslot howner _ _ hxr hq
  obtain ⟨b1, s₅, hrun5, hb1, h₅, hcells₅⟩ := @Landed.inputWord F p block tile slot warp s₄
    committed waited visible h₄ hslot howner _ _ hxr hq'
  refine ⟨mmaSync p.mma (fourRegisters a0 a1 a2 a3) (twoRegisters b0 b1) c, s₅, ?_,
    lanes_mmaSync (fun lane hl register hregister half hh => ?_)
      (fun lane hl register hregister half hh => ?_) hc, h₅, by
    rw [hcells₅, hcells₄, hcells₃, hcells₂, hcells₁, hcells₀]⟩
  · rw [draftStep]
    simp only [hrun0, hrun1, hrun2, hrun3, hrun4, hrun5, Option.bind_eq_bind, Option.bind_some]
    rfl
  · interval_cases register
    · exact (ha0 lane hl half hh).trans (weightSlice_eq (by omega) (by omega))
    · exact (ha1 lane hl half hh).trans (weightSlice_eq (by omega) (by omega))
    · exact (ha2 lane hl half hh).trans (weightSlice_eq (by omega) (by omega))
    · exact (ha3 lane hl half hh).trans (weightSlice_eq (by omega) (by omega))
  · interval_cases register
    · exact (hb0 lane hl half hh).trans (tokenSlice_eq (by omega))
    · exact (hb1 lane hl half hh).trans (tokenSlice_eq (by omega))

lemma draftSteps_lanes (h : p.Landed block tile slot s committed waited visible)
    (hslot : slot < 2) (howner : ∀ a, p.InSlot slot a → p.slotOwner slot a ∈ p.order)
    (hwarp : warp / 4 * 8 + 8 ≤ p.capacity) {c : ℕ → ℕ → F}
    (hc : LanesC c (p.accumulated block warp (tile * 8))) {steps : ℕ} (hsteps : steps ≤ 8) :
    ∃ c' s', (List.range steps).foldlM (fun (s : (ℕ → ℕ → F) × SharedMemory UInt16) step =>
        p.draftStep slot warp s.1 s.2 step) (c, s) = some (c', s') ∧
      LanesC c' (p.accumulated block warp (tile * 8 + steps)) ∧
      p.Landed block tile slot s' committed waited visible ∧ s'.cells = s.cells := by
  induction steps with
  | zero => exact ⟨c, s, rfl, hc, h, rfl⟩
  | succ steps ih =>
    obtain ⟨c₁, s₁, hrun₁, hc₁, h₁, hcells₁⟩ := ih (by omega)
    obtain ⟨c', s', hrun, hc', h', hcells⟩ :=
      draftStep_lanes h₁ hslot howner hwarp (show steps < 8 by omega) hc₁
    refine ⟨c', s', ?_, hc', h', hcells.trans hcells₁⟩
    rw [List.range_succ, List.foldlM_append, hrun₁, Option.bind_eq_bind, Option.bind_some,
      List.foldlM_cons, hrun]
    rfl

lemma draftWarps_lanes (hslot : slot < 2)
    (howner : ∀ a, p.InSlot slot a → p.slotOwner slot a ∈ p.order) {warps : List ℕ}
    (hnodup : warps.Nodup) (hwarps : ∀ warp ∈ warps, warp / 4 * 8 + 8 ≤ p.capacity)
    {r : Registers F} (h : p.Landed block tile slot r.shared committed waited visible)
    (hc : ∀ warp ∈ warps, LanesC (r.c warp) (p.accumulated block warp (tile * 8))) :
    ∃ r', warps.foldlM (p.draftWarp slot) r = some r' ∧
      (∀ warp ∈ warps, LanesC (r'.c warp) (p.accumulated block warp ((tile + 1) * 8))) ∧
      (∀ warp ∉ warps, r'.c warp = r.c warp) ∧
      p.Landed block tile slot r'.shared committed waited visible ∧
      r'.shared.cells = r.shared.cells := by
  induction warps generalizing r with
  | nil => exact ⟨r, rfl, fun _ hw => absurd hw List.not_mem_nil, fun _ _ => rfl, h, rfl⟩
  | cons warp warps ih =>
    obtain ⟨hfresh, hnodup⟩ := List.nodup_cons.mp hnodup
    obtain ⟨c₁, s₁, hrun₁, hc₁, h₁, hcells₁⟩ := draftSteps_lanes h hslot howner
      (hwarps warp List.mem_cons_self) (hc warp List.mem_cons_self) (le_refl 8)
    have hwarp : p.draftWarp slot r warp = some ⟨s₁, Function.update r.c warp c₁⟩ := by
      rw [draftWarp, hrun₁]
      rfl
    have hother (v : ℕ) (hv : v ≠ warp) :
        (⟨s₁, Function.update r.c warp c₁⟩ : Registers F).c v = r.c v :=
      Function.update_of_ne hv _ _
    obtain ⟨r', hrun, hlanes, hkept, h', hcells⟩ := @ih hnodup
      (fun v hv => hwarps v (List.mem_cons_of_mem warp hv)) ⟨s₁, Function.update r.c warp c₁⟩ h₁
      fun v hv => by
        rw [hother v fun heq => hfresh (heq ▸ hv)]
        exact hc v (List.mem_cons_of_mem warp hv)
    refine ⟨r', ?_, fun v hv => ?_, fun v hv => ?_, h', hcells.trans hcells₁⟩
    · rw [List.foldlM_cons, hwarp]
      exact hrun
    · obtain rfl | hv := List.mem_cons.mp hv
      · rw [hkept v hfresh]
        dsimp only
        rw [Function.update_self, Nat.add_mul]
        exact hc₁
      · exact hlanes v hv
    · obtain ⟨hne, hv⟩ := not_or.mp (mt List.mem_cons.mpr hv)
      rw [hkept v hv]
      exact hother v hne

end Products

section Ring

variable {s : SharedMemory UInt16} {done : ℕ}

lemma slot_lt (tile : ℕ) : tile % 2 < 2 := Nat.mod_lt _ (by decide)

-- The ring before tile `done`: its slot has landed, and the slot of the next tile is under way.
structure RingAt (p : DraftLaunch F) (block done : ℕ) (s : SharedMemory UInt16) : Prop where
  holds : ∀ tile, done ≤ tile → tile < done + 2 → tile < p.k / 128 →
    Holds s (p.InSlot (tile % 2)) (p.slotOwner (tile % 2)) tile
      (p.slotData block tile (tile % 2))
  counts : Counts p.order s (min (done + 2) (p.k / 128)) (min (done + 1) (p.k / 128))
    (min (done + 1) (p.k / 128))
  readers : s.readers = fun _ => []

lemma RingAt.landed (h : p.RingAt block done s) (hdone : done < p.k / 128) :
    p.Landed block done (done % 2) s (min (done + 2) (p.k / 128)) (min (done + 1) (p.k / 128))
      (min (done + 1) (p.k / 128)) where
  holds := h.holds done le_rfl (by omega) hdone
  counts := h.counts
  visible := by omega

lemma order_nodup (hp : p.Admitted) : p.order.Nodup :=
  hp.threads.nodup_iff.mpr List.nodup_range

-- A tile is staged in a slot that holds nothing, or an older tile that nobody reads any more.
lemma stageTile_holds (hp : p.Admitted) (hblock : block < p.n / 64) (htile : tile < p.k / 128)
    {committed waited visible : ℕ} (hcounts : Counts p.order s committed waited visible)
    (hfree : ∀ a, p.InSlot (tile % 2) a → s.writable (p.slotOwner (tile % 2) a) a = true) :
    ∃ s', p.stageBlock block tile (tile % 2) s = some s' ∧
      Holds s' (p.InSlot (tile % 2)) (p.slotOwner (tile % 2)) committed
        (p.slotData block tile (tile % 2)) ∧
      (∀ a, ¬ p.InSlot (tile % 2) a → s'.cells a = s.cells a) ∧
      Counts p.order s' (committed + 1) waited visible ∧ s'.readers = s.readers := by
  rw [stageBlock_eq]
  exact stageAll_holds (order_nodup hp) (copies_cover hp (slot_lt tile) hblock htile) hcounts hfree

lemma prologue_ring (hp : p.Admitted) (hblock : block < p.n / 64) :
    ∃ s₀ s₁, p.stageBlock block 0 0 SharedMemory.empty = some s₀ ∧
      p.stageBlock block 1 1 s₀ = some s₁ ∧
      p.RingAt block 0 (s₁.waitAll p.order 1).barrier := by
  have htiles : 2 ≤ p.k / 128 := by
    have hk := hp.tiles
    omega
  have hempty : Counts p.order (SharedMemory.empty : SharedMemory UInt16) 0 0 0 :=
    ⟨fun _ _ => rfl, fun _ _ => rfl, fun _ _ => rfl⟩
  obtain ⟨s₀, hrun₀, hholds₀, hkept₀, hcounts₀, hreaders₀⟩ := stageTile_holds hp hblock
    (show 0 < p.k / 128 by omega) hempty fun a _ => writable_none rfl rfl
  have hfree (a : ℕ) (ha : p.InSlot (1 % 2) a) : s₀.writable (p.slotOwner (1 % 2) a) a = true := by
    refine writable_none ?_ (by rw [hreaders₀]; rfl)
    rw [hkept₀ a (slots_apart (by decide) (by decide) (by decide) ha)]
    rfl
  obtain ⟨s₁, hrun₁, hholds₁, hkept₁, hcounts₁, hreaders₁⟩ := stageTile_holds hp hblock
    (show 1 < p.k / 128 by omega) hcounts₀ hfree
  have hcells : (s₁.waitAll p.order 1).barrier.cells = s₁.cells := waitAll_cells 1 s₁
  refine ⟨s₀, s₁, hrun₀, hrun₁, fun tile _ hlt _ => ?_, ?_, rfl⟩
  · obtain rfl | rfl : tile = 0 ∨ tile = 1 := by omega
    · refine hholds₀.congr fun a ha => ?_
      rw [hcells, hkept₁ a (slots_apart (by decide) (by decide) (by decide) ha)]
    · exact hholds₁.congr fun a _ => by rw [hcells]
  · have hcounts := barrier_counts (waitAll_counts (order_nodup hp) hcounts₁ 1)
    rwa [show min (0 + 2) (p.k / 128) = 0 + 1 + 1 by omega,
      show min (0 + 1) (p.k / 128) = max 0 (0 + 1 + 1 - 1) by omega]

-- One tile of the main loop: the products, and the tile after the next in the freed slot.
lemma draftTile_ring (hp : p.Admitted) (hblock : block < p.n / 64) (hdone : done < p.k / 128)
    {r : Registers F} (h : p.RingAt block done r.shared)
    (hc : ∀ warp ∈ p.warpOrder, LanesC (r.c warp) (p.accumulated block warp (done * 8))) :
    ∃ r', p.draftTile block r done = some r' ∧ p.RingAt block (done + 1) r'.shared ∧
      ∀ warp ∈ p.warpOrder, LanesC (r'.c warp) (p.accumulated block warp ((done + 1) * 8)) := by
  have hslot := slot_lt done
  have hand : done &&& 1 = done % 2 := Nat.and_two_pow_sub_one_eq_mod done 1
  have hwarps (warp : ℕ) (hwarp : warp ∈ p.warpOrder) : warp / 4 * 8 + 8 ≤ p.capacity := by
    have hlt := List.mem_range.mp (hp.warps.mem_iff.mp hwarp)
    unfold blockDim at hlt
    obtain hcapacity | hcapacity | hcapacity := hp.capacity <;> omega
  obtain ⟨r₁, hrun₁, hlanes, -, hlanded, hcells₁⟩ := draftWarps_lanes hslot
    (fun a ha => slotOwner_mem hp hslot hblock hdone ha)
    (hp.warps.nodup_iff.mpr List.nodup_range) hwarps (h.landed hdone) hc
  have hholds₁ (tile : ℕ) (hle : done ≤ tile) (hlt : tile < done + 2) (htile : tile < p.k / 128) :
      Holds r₁.shared.barrier (p.InSlot (tile % 2)) (p.slotOwner (tile % 2)) tile
        (p.slotData block tile (tile % 2)) :=
    (h.holds tile hle hlt htile).congr fun a _ => congrFun hcells₁ a
  have hcounts₁ := barrier_counts hlanded.counts
  rw [draftTile, hand, hrun₁]
  simp only [Option.bind_eq_bind, Option.bind_some]
  by_cases hmore : done + 2 < p.k / 128
  · have hsame : (done + 2) % 2 = done % 2 := Nat.add_mod_right done 2
    have hfree (a : ℕ) (ha : p.InSlot ((done + 2) % 2) a) :
        r₁.shared.barrier.writable (p.slotOwner ((done + 2) % 2) a) a = true := by
      rw [hsame] at ha
      exact (hholds₁ done le_rfl (by omega) hdone).writable hcounts₁ (by omega) ha
        (slotOwner_mem hp hslot hblock hdone ha) rfl _
    obtain ⟨s', hrun, hholds, hkept, hcounts, hreaders⟩ :=
      stageTile_holds hp hblock hmore hcounts₁ hfree
    rw [hsame] at hrun
    rw [if_pos hmore, hrun]
    refine ⟨_, rfl, ⟨fun tile hle hlt htile => ?_, ?_, rfl⟩, hlanes⟩
    · have hcells : (s'.waitAll p.order 1).barrier.cells = s'.cells := waitAll_cells 1 s'
      obtain rfl | rfl : tile = done + 1 ∨ tile = done + 2 := by omega
      · refine (hholds₁ (done + 1) (by omega) (by omega) htile).congr fun a ha => ?_
        rw [hcells, hkept a (slots_apart (slot_lt _) (slot_lt _) (by omega) ha)]
      · rw [show min (done + 2) (p.k / 128) = done + 2 by omega] at hholds
        exact hholds.congr fun a _ => by rw [hcells]
    · have hnext := barrier_counts (waitAll_counts (order_nodup hp) hcounts 1)
      rwa [show min (done + 2) (p.k / 128) + 1 = min (done + 1 + 2) (p.k / 128) by omega,
        show max (min (done + 1) (p.k / 128)) (min (done + 1 + 2) (p.k / 128) - 1) =
          min (done + 1 + 1) (p.k / 128) by omega] at hnext
  · rw [if_neg hmore]
    refine ⟨_, rfl, ⟨fun tile hle hlt htile => ?_, ?_, rfl⟩, hlanes⟩
    · have hcells : (r₁.shared.barrier.waitAll p.order 0).barrier.cells = r₁.shared.cells :=
        waitAll_cells 0 r₁.shared.barrier
      exact (hholds₁ tile (by omega) (by omega) htile).congr fun a _ => congrFun hcells a
    · have hnext := barrier_counts (waitAll_counts (order_nodup hp) hcounts₁ 0)
      rwa [show min (done + 2) (p.k / 128) = min (done + 1 + 2) (p.k / 128) by omega,
        show max (min (done + 1) (p.k / 128)) (min (done + 1 + 2) (p.k / 128) - 0) =
          min (done + 1 + 1) (p.k / 128) by omega] at hnext

lemma draftTiles_ring (hp : p.Admitted) (hblock : block < p.n / 64)
    {shared : SharedMemory UInt16} (h : p.RingAt block 0 shared) (hdone : done ≤ p.k / 128) :
    ∃ r, (List.range done).foldlM (p.draftTile block) ⟨shared, fun _ _ _ => p.zero⟩ = some r ∧
      p.RingAt block done r.shared ∧
      ∀ warp ∈ p.warpOrder, LanesC (r.c warp) (p.accumulated block warp (done * 8)) := by
  induction done with
  | zero => exact ⟨_, rfl, h, fun warp _ lane _ i _ => by rw [Nat.zero_mul]; rfl⟩
  | succ done ih =>
    obtain ⟨r, hrun, hring, hlanes⟩ := ih (by omega)
    obtain ⟨r', hrun', hring', hlanes'⟩ := draftTile_ring hp hblock (by omega) hring hlanes
    refine ⟨r', ?_, hring', hlanes'⟩
    rw [List.range_succ, List.foldlM_append, hrun, Option.bind_eq_bind, Option.bind_some,
      List.foldlM_cons, hrun']
    rfl

-- A block runs without a race and writes what its accumulators hold after all slices.
lemma draftWeightMajor_writes (hp : p.Admitted) (hblock : block < p.n / 64) :
    ∃ c : ℕ → ℕ → ℕ → F, p.draftWeightMajor block = some (p.order.flatMap (p.results block c)) ∧
      ∀ warp ∈ p.warpOrder, LanesC (c warp) (p.accumulated block warp (p.k / 16)) := by
  obtain ⟨s₀, s₁, hrun₀, hrun₁, hring⟩ := prologue_ring hp hblock
  obtain ⟨r, hrun, -, hlanes⟩ := draftTiles_ring hp hblock hring (le_refl (p.k / 128))
  have hslices : p.k / 128 * 8 = p.k / 16 := by
    have hk := hp.columns
    omega
  rw [hslices] at hlanes
  refine ⟨r.c, ?_, hlanes⟩
  rw [draftWeightMajor, hrun₀]
  simp only [Option.bind_eq_bind, Option.bind_some, hrun₁, hrun]
  rfl

end Ring

end Qwen3xOrin.Mtp.DraftLaunch
