import Qwen3xOrin.Mtp.Live

/-! Several rows verified layer by layer leave in the snapshot slots what the scalar step would have
left after each of them. -/

namespace Qwen3xOrin.Mtp

open Library

variable {S : Storage}

-- The pipeline of one row, as the next state of the sequence sees it.
lemma Live.step_stage (k : Kernels S) (live : Live S) (token layer : ℕ) :
    k.stage layer (activation k.stage live.memory (k.embed token) layer) (live.memory layer) =
      (activation k.stage live.memory (k.embed token) (layer + 1),
        (live.step k token).memory layer) := rfl

namespace Device

open Target

def rowSource (s : Device S) (layer row : ℕ) : Region :=
  if row = 0 then if s.gdnInputs then s.published layer else s.target.gdnView layer
  else .slot row

def slotMemory (s : Device S) (slot layer : ℕ) : LayerMemory S :=
  if isFullAttention layer then .rows (s.target.cachedRows layer (s.entryPosition + slot))
  else .recurrent ((s.slots slot).conv layer) (s.target.gdn (.slot slot) layer)

lemma slotMemory_full (s : Device S) (slot : ℕ) {layer : ℕ} (h : isFullAttention layer) :
    s.slotMemory slot layer = .rows (s.target.cachedRows layer (s.entryPosition + slot)) :=
  if_pos h

lemma slotMemory_linear (s : Device S) (slot : ℕ) {layer : ℕ} (h : ¬ isFullAttention layer) :
    s.slotMemory slot layer =
      .recurrent ((s.slots slot).conv layer) (s.target.gdn (.slot slot) layer) :=
  if_neg h

-- What verification leaves alone.
structure Verifying (s s' : Device S) : Prop where
  rest : s' = { s with target := s'.target, slots := s'.slots }
  target : Framed s.target s'.target
  slots : ∀ j, (s'.slots j).hidden = (s.slots j).hidden ∧ (s'.slots j).logits = (s.slots j).logits

namespace Verifying

variable {s s' s'' : Device S}

lemma refl (s : Device S) : Verifying s s := ⟨rfl, Framed.refl _, fun _ => ⟨rfl, rfl⟩⟩

lemma trans (h : Verifying s s') (h' : Verifying s' s'') : Verifying s s'' where
  rest := by
    rw [h'.rest, h.rest]
  target := h.target.trans h'.target
  slots j := ⟨(h'.slots j).1.trans (h.slots j).1, (h'.slots j).2.trans (h.slots j).2⟩

lemma replace (h : Verifying s s') (target : Target S) (slots : ℕ → Slot S) :
    { s' with target := target, slots := slots } = { s with target := target, slots := slots } := by
  rw [h.rest]

lemma rows (h : Verifying s s') : s'.rows = s.rows := by rw [h.rest]

lemma inputs (h : Verifying s s') : s'.inputs = s.inputs := by rw [h.rest]

lemma entryPosition (h : Verifying s s') : s'.entryPosition = s.entryPosition := by rw [h.rest]

lemma rowSource (h : Verifying s s') (layer row : ℕ) :
    s'.rowSource layer row = s.rowSource layer row := by
  simp only [Device.rowSource, h.target.gdnView]
  rw [h.rest]

end Verifying

section LinearLayer

variable (k : Kernels S) (layer : ℕ) (live : ℕ → Live S) (xs : ℕ → S.Activation) (s : Device S)

-- After `m` rows of one linear layer.
structure LinearRows (m : ℕ) (r : (ℕ → S.Activation) × Device S) : Prop where
  verifying : Verifying s r.2
  after : ∀ row < m, r.1 row = (k.stage layer (xs row) ((live row).memory layer)).1
  before : ∀ row, m ≤ row → r.1 row = xs row
  current : (live m).memory layer =
    .recurrent (r.2.target.conv layer) (r.2.target.gdn (s.rowSource layer m) layer)
  done : ∀ row < m, r.2.slotMemory (row + 1) layer = (live (row + 1)).memory layer
  slots : ∀ j, ∀ l ≠ layer, (r.2.slots j).conv l = (s.slots j).conv l
  conv : ∀ l ≠ layer, r.2.target.conv l = s.target.conv l
  gdn : ∀ region, ∀ l ≠ layer, r.2.target.gdn region l = s.target.gdn region l
  cache : r.2.target.cache = s.target.cache
  overrun : r.2.target.overrun = s.target.overrun
  logSound : LogSound r.2.target
  firstRowRead : ∀ l, FirstRowRead l s.target.gdnLog → FirstRowRead l r.2.target.gdnLog
  read : 0 < m → FirstRowRead layer r.2.target.gdnLog

variable {k layer live xs s}

lemma verifyLinearRow_eq (k : Kernels S) (layer row : ℕ) (xs : ℕ → S.Activation) (s : Device S) :
    verifyLinearRow k layer row (xs, s) =
      (Function.update xs row
          (s.target.linearRow k layer row (s.rowSource layer row) (.slot (row + 1)) (xs row)).1,
        { s with
          target :=
            (s.target.linearRow k layer row (s.rowSource layer row) (.slot (row + 1)) (xs row)).2
          slots := Function.update s.slots (row + 1)
            { s.slots (row + 1) with
              conv := Function.update (s.slots (row + 1)).conv layer
                ((s.target.linearRow k layer row (s.rowSource layer row) (.slot (row + 1))
                  (xs row)).2.conv layer) } }) := rfl

lemma LinearRows.step {m : ℕ} {ys : ℕ → S.Activation} {s' : Device S}
    (hlinear : ¬ isFullAttention layer) (howner : s.rowSource layer 0 = s.target.gdnOwner)
    (hstage : (live (m + 1)).memory layer =
      (k.stage layer (xs m) ((live m).memory layer)).2)
    (h : LinearRows k layer live xs s m (ys, s')) :
    LinearRows k layer live xs s (m + 1) (verifyLinearRow k layer m (ys, s')) := by
  have hsource : s'.rowSource layer m = s.rowSource layer m := h.verifying.rowSource layer m
  have hx : ys m = xs m := h.before m le_rfl
  have hrow := linearRow_stage k layer m (s.rowSource layer m) (.slot (m + 1)) (xs m) s'.target
  rw [verifyLinearRow_eq, hsource, hx]
  have hcurrent : (live m).memory layer =
    .recurrent (s'.target.conv layer) (s'.target.gdn (s.rowSource layer m) layer) := h.current
  rw [← hcurrent] at hrow
  have hafter := (Prod.ext_iff.mp hrow).1
  have hmemory := hstage.trans (Prod.ext_iff.mp hrow).2
  refine {
    verifying := h.verifying.trans ⟨rfl, linearRow_framed _ _ _ _ _ _ _, fun j => ?_⟩
    after := fun row hlt => ?_
    before := fun row hle => ?_
    current := hmemory
    done := fun row hlt => ?_
    slots := fun j l hl => ?_
    conv := fun l hl => ?_
    gdn := fun region l hl => ?_
    cache := h.cache
    overrun := h.overrun
    logSound := ?_
    firstRowRead := fun l hl => linearRow_firstRowRead (h.firstRowRead l hl)
    read := fun _ => ?_ }
  · by_cases hj : j = m + 1
    · subst hj
      simp
    · simp [hj]
  · obtain hlt | rfl := Nat.lt_succ_iff_lt_or_eq.mp hlt
    · dsimp only
      rw [Function.update_of_ne (by omega)]
      exact h.after row hlt
    · dsimp only
      rw [Function.update_self]
      exact hafter.symm
  · dsimp only
    rw [Function.update_of_ne (by omega)]
    exact h.before row (by omega)
  · rw [slotMemory_linear _ _ hlinear]
    dsimp only
    obtain hlt | rfl := Nat.lt_succ_iff_lt_or_eq.mp hlt
    · have hdone := h.done row hlt
      rw [slotMemory_linear _ _ hlinear] at hdone
      rw [Function.update_of_ne (by omega), linearRow_gdn _ _ _ _ _ _ _ (Or.inl (by simp; omega))]
      exact hdone
    · rw [Function.update_self]
      dsimp only
      rw [Function.update_self]
      exact hmemory.symm
  · dsimp only
    by_cases hj : j = m + 1
    · subst hj
      rw [Function.update_self]
      exact (Function.update_of_ne hl _ _).trans (h.slots (m + 1) l hl)
    · rw [Function.update_of_ne hj]
      exact h.slots j l hl
  · exact (linearRow_conv _ _ _ _ _ _ _ hl).trans (h.conv l hl)
  · exact (linearRow_gdn _ _ _ _ _ _ _ (Or.inr hl)).trans (h.gdn region l hl)
  · refine linearRow_logSound h.logSound fun _ => ?_
    by_cases hm : m = 0
    · subst hm
      exact Or.inl ⟨howner.trans h.verifying.target.gdnOwner.symm, rfl⟩
    · exact Or.inr (h.read (Nat.pos_of_ne_zero hm))
  · by_cases hm : m = 0
    · subst hm
      exact linearRow_firstRowRead_self h.logSound (howner.trans h.verifying.target.gdnOwner.symm)
    · exact linearRow_firstRowRead (h.read (Nat.pos_of_ne_zero hm))

lemma verifyLinearRows_spec (hlinear : ¬ isFullAttention layer) (hlog : LogSound s.target)
    (howner : s.rowSource layer 0 = s.target.gdnOwner) {rows : ℕ}
    (hstart : (live 0).memory layer =
      .recurrent (s.target.conv layer) (s.target.gdn s.target.gdnOwner layer))
    (hstage : ∀ row < rows, (live (row + 1)).memory layer =
      (k.stage layer (xs row) ((live row).memory layer)).2) :
    LinearRows k layer live xs s rows (verifyLinearRows k layer (xs, s) rows) := by
  induction rows with
  | zero =>
    exact ⟨Verifying.refl s, by simp, fun _ _ => rfl, by rw [howner]; exact hstart, by simp,
      fun _ _ _ => rfl, fun _ _ => rfl, fun _ _ _ => rfl, rfl, rfl, hlog, fun _ => id, by simp⟩
  | succ rows ih =>
    exact (ih fun row hrow => hstage row (by omega)).step hlinear howner (hstage rows (by omega))

end LinearLayer

section FullLayer

variable {k : Kernels S} {layer : ℕ} {live : ℕ → Live S} {xs : ℕ → S.Activation} {s : Device S}

-- After `m` rows of one full-attention layer are in the cache.
structure Written (k : Kernels S) (layer : ℕ) (xs : ℕ → S.Activation) (s : Device S) (m : ℕ)
    (s' : Device S) : Prop where
  verifying : Verifying s s'
  slots : s'.slots = s.slots
  recurrent : s'.target.conv = s.target.conv ∧ s'.target.gdn = s.target.gdn ∧
    s'.target.gdnLog = s.target.gdnLog
  written : ∀ row < m, s'.target.cache layer (s.entryPosition + row) =
    k.keyValue layer (s.entryPosition + row) (xs row)
  kept : ∀ l i, l ≠ layer ∨ i < s.entryPosition → s'.target.cache l i = s.target.cache l i
  overrun : s.entryPosition + m ≤ s.target.maxSequenceLength →
    s'.target.overrun = s.target.overrun

lemma writeVerifyRows_spec (k : Kernels S) (layer : ℕ) (xs : ℕ → S.Activation) (s : Device S)
    (m : ℕ) : Written k layer xs s m (writeVerifyRows k layer xs s m) := by
  induction m with
  | zero =>
    exact ⟨Verifying.refl s, rfl, ⟨rfl, rfl, rfl⟩, by simp, fun _ _ _ => rfl, fun _ => rfl⟩
  | succ m ih =>
    rw [writeVerifyRows]
    generalize writeVerifyRows k layer xs s m = s' at ih ⊢
    have hentry := ih.verifying.entryPosition
    refine ⟨ih.verifying.trans ⟨rfl, writeRow_framed _ _ _ _, fun _ => ⟨rfl, rfl⟩⟩, ih.slots,
      ih.recurrent, ?_, ?_, ?_⟩
    · intro row hrow
      dsimp only
      rw [hentry]
      obtain hlt | rfl := Nat.lt_succ_iff_lt_or_eq.mp hrow
      · rw [writeRow_cache _ _ _ _ (Or.inr (by omega))]
        exact ih.written row hlt
      · exact writeRow_cache_self _ _ _ _
    · intro l i hl
      dsimp only
      rw [writeRow_cache _ _ _ _ (hl.imp id (by omega))]
      exact ih.kept l i hl
    · intro hroom
      dsimp only
      rw [writeRow_overrun, ih.overrun (by omega)]
      rw [hentry, ih.verifying.target.maxSequenceLength]
      omega

lemma Written.cachedRows {m : ℕ} {s' : Device S} (h : Written k layer xs s m s')
    (hstart : (live 0).memory layer = .rows (s.target.cachedRows layer s.entryPosition))
    (hstage : ∀ row < m, (live (row + 1)).memory layer =
      (k.stage layer (xs row) ((live row).memory layer)).2) {row : ℕ} (hrow : row ≤ m) :
    (live row).memory layer = .rows (s'.target.cachedRows layer (s.entryPosition + row)) := by
  induction row with
  | zero =>
    rw [hstart, Nat.add_zero]
    congr 1
    exact (cachedRows_congr fun i hi => h.kept layer i (Or.inr hi)).symm
  | succ row ih =>
    have hfull := fullRow_stage k layer (xs row) (h.written row (by omega))
    rw [← ih (by omega)] at hfull
    rw [hstage row (by omega), hfull]
    rfl

lemma Written.attend {m : ℕ} {s' : Device S} (h : Written k layer xs s m s')
    (hstart : (live 0).memory layer = .rows (s.target.cachedRows layer s.entryPosition))
    (hstage : ∀ row < m, (live (row + 1)).memory layer =
      (k.stage layer (xs row) ((live row).memory layer)).2) {row : ℕ} (hrow : row < m) :
    k.attend layer (xs row) (s'.target.cachedRows layer (s.entryPosition + row + 1)) =
      (k.stage layer (xs row) ((live row).memory layer)).1 := by
  have hfull := fullRow_stage k layer (xs row) (h.written row hrow)
  rw [← h.cachedRows hstart hstage hrow.le] at hfull
  rw [hfull]

end FullLayer

section Layers

variable (k : Kernels S) (live : ℕ → Live S) (s : Device S)

-- After `n` layers of all rows.
structure Layered (n : ℕ) (r : (ℕ → S.Activation) × Device S) : Prop where
  verifying : Verifying s r.2
  activation : ∀ row < s.rows, r.1 row =
    activation k.stage (live row).memory (k.embed (s.inputs row)) n
  done : ∀ layer < n, ∀ row < s.rows,
    r.2.slotMemory (row + 1) layer = (live (row + 1)).memory layer
  conv : ∀ layer, n ≤ layer → r.2.target.conv layer = s.target.conv layer
  gdn : ∀ region layer, n ≤ layer → r.2.target.gdn region layer = s.target.gdn region layer
  cache : ∀ layer i, n ≤ layer ∨ i < s.entryPosition →
    r.2.target.cache layer i = s.target.cache layer i
  overrun : s.entryPosition + s.rows ≤ s.target.maxSequenceLength →
    r.2.target.overrun = s.target.overrun
  logSound : LogSound r.2.target
  read : 0 < s.rows → ∀ layer < n, ¬ isFullAttention layer →
    FirstRowRead layer r.2.target.gdnLog

variable {k live s}

lemma slotMemory_congr {s s' : Device S} {slot layer : ℕ}
    (hconv : (s'.slots slot).conv layer = (s.slots slot).conv layer)
    (hgdn : s'.target.gdn (.slot slot) layer = s.target.gdn (.slot slot) layer)
    (hcache : s'.target.cache layer = s.target.cache layer)
    (hentry : s'.entryPosition = s.entryPosition) :
    s'.slotMemory slot layer = s.slotMemory slot layer := by
  simp only [slotMemory, cachedRows, hconv, hgdn, hcache, hentry]

lemma Layered.full {n : ℕ} {xs : ℕ → S.Activation} {s' : Device S} (hn : isFullAttention n)
    (hlive : ∀ row < s.rows, live (row + 1) = (live row).step k (s.inputs row))
    (hstart : (live 0).memory n = .rows (s.target.cachedRows n s.entryPosition))
    (h : Layered k live s n (xs, s')) : Layered k live s (n + 1) (verifyLayer k n (xs, s')) := by
  rw [verifyLayer, if_pos hn]
  dsimp only
  have hw := writeVerifyRows_spec k n xs s' s'.rows
  rw [h.verifying.rows] at hw ⊢
  generalize writeVerifyRows k n xs s' s.rows = s'' at hw ⊢
  have hentry : s'.entryPosition = s.entryPosition := h.verifying.entryPosition
  have hentry' := hw.verifying.entryPosition
  have hx : ∀ row < s.rows, xs row =
      Library.activation k.stage (live row).memory (k.embed (s.inputs row)) n := h.activation
  have hstart' : (live 0).memory n = .rows (s'.target.cachedRows n s'.entryPosition) := by
    rw [hstart, hentry]
    congr 1
    exact (cachedRows_congr fun i hi => h.cache n i (Or.inl le_rfl)).symm
  have hstage : ∀ row < s.rows, (live (row + 1)).memory n =
      (k.stage n (xs row) ((live row).memory n)).2 := by
    intro row hrow
    rw [hx row hrow, hlive row hrow, Live.step_stage]
  refine ⟨h.verifying.trans hw.verifying, ?_, ?_, ?_, ?_, ?_, ?_, ?_, ?_⟩
  · intro row hrow
    dsimp only
    rw [hentry', hw.attend hstart' hstage hrow, hx row hrow, Live.step_stage]
  · intro layer hlayer row hrow
    obtain hlt | rfl := Nat.lt_succ_iff_lt_or_eq.mp hlayer
    · have hdone := h.done layer hlt row hrow
      rw [← hdone]
      refine slotMemory_congr (by rw [hw.slots]) (by rw [hw.recurrent.2.1]) ?_ hentry'
      funext i
      exact hw.kept layer i (Or.inl hlt.ne)
    · rw [slotMemory_full _ _ hn, hentry', hw.cachedRows hstart' hstage (by omega)]
  · intro layer hlayer
    rw [hw.recurrent.1]
    exact h.conv layer (by omega)
  · intro region layer hlayer
    rw [hw.recurrent.2.1]
    exact h.gdn region layer (by omega)
  · intro layer i hi
    rw [hw.kept layer i (by omega)]
    exact h.cache layer i (hi.imp (by omega) id)
  · intro hroom
    rw [hw.overrun, h.overrun hroom]
    rw [hentry, h.verifying.target.maxSequenceLength]
    exact hroom
  · refine ⟨?_, ?_⟩
    · rw [hw.recurrent.2.2, hw.verifying.target.gdnOwner]
      exact h.logSound.owner
    · rw [hw.recurrent.2.2]
      exact h.logSound.preserved
  · intro hrows layer hlayer hlinear
    rw [hw.recurrent.2.2]
    obtain hlt | rfl := Nat.lt_succ_iff_lt_or_eq.mp hlayer
    · exact h.read hrows layer hlt hlinear
    · exact absurd hn hlinear

lemma Layered.linear {n : ℕ} {xs : ℕ → S.Activation} {s' : Device S} (hn : ¬ isFullAttention n)
    (hlive : ∀ row < s.rows, live (row + 1) = (live row).step k (s.inputs row))
    (howner : s.rowSource n 0 = s.target.gdnOwner)
    (hstart : (live 0).memory n =
      .recurrent (s.target.conv n) (s.target.gdn s.target.gdnOwner n))
    (h : Layered k live s n (xs, s')) : Layered k live s (n + 1) (verifyLayer k n (xs, s')) := by
  rw [verifyLayer, if_neg hn]
  dsimp only
  rw [h.verifying.rows]
  have hx : ∀ row < s.rows, xs row =
      Library.activation k.stage (live row).memory (k.embed (s.inputs row)) n := h.activation
  have hw : LinearRows k n live xs s' s.rows (verifyLinearRows k n (xs, s') s.rows) := by
    refine verifyLinearRows_spec hn h.logSound ?_ ?_ ?_
    · rw [h.verifying.rowSource, howner]
      exact h.verifying.target.gdnOwner.symm
    · rw [hstart, show s'.target.gdnOwner = s.target.gdnOwner from h.verifying.target.gdnOwner,
        show s'.target.conv n = s.target.conv n from h.conv n le_rfl,
        show s'.target.gdn _ n = s.target.gdn _ n from h.gdn _ n le_rfl]
    · intro row hrow
      rw [hx row hrow, hlive row hrow, Live.step_stage]
  generalize verifyLinearRows k n (xs, s') s.rows = r at hw ⊢
  refine ⟨h.verifying.trans hw.verifying, ?_, ?_, ?_, ?_, ?_, ?_, hw.logSound, ?_⟩
  · intro row hrow
    rw [hw.after row hrow, hx row hrow, Live.step_stage]
  · intro layer hlayer row hrow
    obtain hlt | rfl := Nat.lt_succ_iff_lt_or_eq.mp hlayer
    · rw [← h.done layer hlt row hrow]
      exact slotMemory_congr (hw.slots _ layer hlt.ne) (hw.gdn _ layer hlt.ne) (by rw [hw.cache])
        hw.verifying.entryPosition
    · exact hw.done row hrow
  · intro layer hlayer
    rw [hw.conv layer (by omega)]
    exact h.conv layer (by omega)
  · intro region layer hlayer
    rw [hw.gdn region layer (by omega)]
    exact h.gdn region layer (by omega)
  · intro layer i hi
    rw [hw.cache]
    exact h.cache layer i (hi.imp (by omega) id)
  · intro hroom
    rw [hw.overrun]
    exact h.overrun hroom
  · intro hrows layer hlayer hlinear
    obtain hlt | rfl := Nat.lt_succ_iff_lt_or_eq.mp hlayer
    · exact hw.firstRowRead layer (h.read hrows layer hlt hlinear)
    · exact hw.read hrows

lemma verifyLayers_spec (hlog : LogSound s.target)
    (hlive : ∀ row < s.rows, live (row + 1) = (live row).step k (s.inputs row))
    (howner : ∀ layer < decoderLayerCount, ¬ isFullAttention layer →
      s.rowSource layer 0 = s.target.gdnOwner)
    (hstart : ∀ layer < decoderLayerCount,
      (live 0).memory layer = s.target.memoryAt s.target.gdnOwner s.entryPosition layer)
    {n : ℕ} (hn : n ≤ decoderLayerCount) : Layered k live s n (verifyLayers k s n) := by
  induction n with
  | zero =>
    exact ⟨Verifying.refl s, fun _ _ => rfl, by simp, fun _ _ => rfl, fun _ _ _ => rfl,
      fun _ _ _ => rfl, fun _ => rfl, hlog, by simp⟩
  | succ n ih =>
    have h := ih (by omega)
    have hmemory := hstart n (by omega)
    by_cases hfull : isFullAttention n
    · rw [memoryAt_full _ _ _ hfull] at hmemory
      exact h.full hfull hlive hmemory
    · rw [memoryAt_linear _ _ _ hfull] at hmemory
      exact h.linear hfull hlive (howner n (by omega) hfull) hmemory

end Layers

section Multirow

variable {k : Kernels S} {live : ℕ → Live S} {s : Device S}

lemma saveVerifyRows_spec (k : Kernels S) (xs : ℕ → S.Activation) (slots : ℕ → Slot S) (n : ℕ) :
    (∀ row < n, (saveVerifyRows k xs slots n (row + 1)).hidden = k.finalHidden (xs row) ∧
        (saveVerifyRows k xs slots n (row + 1)).logits = k.head (k.finalHidden (xs row))) ∧
      (∀ j, (saveVerifyRows k xs slots n j).conv = (slots j).conv) ∧
      saveVerifyRows k xs slots n 0 = slots 0 := by
  induction n with
  | zero => exact ⟨by simp, fun _ => rfl, rfl⟩
  | succ n ih =>
    obtain ⟨hrows, hconv, hzero⟩ := ih
    rw [saveVerifyRows]
    refine ⟨fun row hrow => ?_, fun j => ?_, ?_⟩
    · obtain hlt | rfl := Nat.lt_succ_iff_lt_or_eq.mp hrow
      · rw [Function.update_of_ne (by omega)]
        exact hrows row hlt
      · rw [Function.update_self]
        exact ⟨rfl, rfl⟩
    · by_cases hj : j = n + 1
      · subst hj
        rw [Function.update_self]
        exact hconv (n + 1)
      · rw [Function.update_of_ne hj]
        exact hconv j
    · rw [Function.update_of_ne (by omega), hzero]

-- The slot that holds the state after `slot` rows.
structure Holds (s : Device S) (slot : ℕ) (live : Live S) : Prop where
  memory : ∀ layer < decoderLayerCount, s.slotMemory slot layer = live.memory layer
  hidden : (s.slots slot).hidden = live.hidden
  logits : (s.slots slot).logits = live.logits

structure MultirowEffect (live : ℕ → Live S) (s s' : Device S) : Prop where
  rest : s' = { s with target := s'.target, slots := s'.slots }
  target : Framed s.target s'.target
  entryHidden : (s'.slots 0).hidden = (s.slots 0).hidden
  holds : ∀ row < s.rows, s'.Holds (row + 1) (live (row + 1))
  overrun : s.entryPosition + s.rows ≤ s.target.maxSequenceLength →
    s'.target.overrun = s.target.overrun
  logSound : LogSound s'.target
  read : 0 < s.rows → ∀ layer < decoderLayerCount, ¬ isFullAttention layer →
    FirstRowRead layer s'.target.gdnLog

lemma multirowVerified_spec (hlog : LogSound s.target)
    (hlive : ∀ row < s.rows, live (row + 1) = (live row).step k (s.inputs row))
    (howner : ∀ layer < decoderLayerCount, ¬ isFullAttention layer →
      s.rowSource layer 0 = s.target.gdnOwner)
    (hstart : ∀ layer < decoderLayerCount,
      (live 0).memory layer = s.target.memoryAt s.target.gdnOwner s.entryPosition layer) :
    MultirowEffect live s (s.multirowVerified k) := by
  have h : Layered k live s decoderLayerCount (verifyLayers k s decoderLayerCount) :=
    verifyLayers_spec hlog hlive howner hstart le_rfl
  rw [multirowVerified]
  generalize verifyLayers k s decoderLayerCount = r at h ⊢
  obtain ⟨xs, s'⟩ := r
  dsimp only at h ⊢
  obtain ⟨hsaved, hconv, hzero⟩ := saveVerifyRows_spec k xs s'.slots s'.rows
  have hrows := h.verifying.rows
  dsimp only at hrows
  refine ⟨?_, ⟨h.verifying.target.position, h.verifying.target.maxSequenceLength,
      h.verifying.target.poisoned, h.verifying.target.wholeRequestPrefillActive,
      h.verifying.target.gdnOwner, h.verifying.target.gdnView⟩, ?_, fun row hrow => ?_,
    h.overrun, ⟨h.logSound.owner, h.logSound.preserved⟩, h.read⟩
  · exact h.verifying.replace _ _
  · dsimp only
    rw [hzero]
    exact (h.verifying.slots 0).1
  · have houtput : k.finalHidden (xs row) = (live row).output k (s.inputs row) := by
      rw [Live.output, ← h.activation row hrow]
    obtain ⟨hhidden, hlogits⟩ := hsaved row (by omega)
    rw [houtput] at hhidden hlogits
    rw [hlive row hrow]
    refine ⟨fun layer hl => ?_, hhidden, hlogits⟩
    have hdone := h.done layer hl row hrow
    rw [← hlive row hrow, ← hdone]
    simp only [slotMemory, hconv]
    rfl

end Multirow

end Device

end Qwen3xOrin.Mtp
