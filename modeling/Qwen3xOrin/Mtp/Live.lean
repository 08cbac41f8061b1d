import Qwen3xOrin.Library.Workers
import Qwen3xOrin.Mtp.Transaction

/-! What one token does to the request, as a pipeline of layers, and that the runner's scalar
step does exactly this in place. -/

namespace Qwen3xOrin.Mtp

open Library

variable {S : Storage}

inductive LayerMemory (S : Storage)
  | recurrent (conv : S.Conv) (gdn : S.Gdn)
  | rows (rows : List S.Row)

def Kernels.stage (k : Kernels S) (layer : ℕ) (x : S.Activation) :
    LayerMemory S → S.Activation × LayerMemory S
  | .recurrent conv gdn =>
    let c := k.convUpdate layer x conv
    let g := k.gdnUpdate layer x c.2 gdn
    (g.2, .recurrent c.1 g.1)
  | .rows rows =>
    let rows := rows ++ [k.keyValue layer rows.length x]
    (k.attend layer x rows, .rows rows)

structure Live (S : Storage) where
  memory : ℕ → LayerMemory S
  hidden : S.Hidden
  logits : S.Logits

def Live.output (k : Kernels S) (live : Live S) (token : ℕ) : S.Hidden :=
  k.finalHidden (activation k.stage live.memory (k.embed token) decoderLayerCount)

def Live.step (k : Kernels S) (live : Live S) (token : ℕ) : Live S where
  memory := advance k.stage live.memory (k.embed token)
  hidden := live.output k token
  logits := k.head (live.output k token)

def Live.run (k : Kernels S) (live : Live S) (tokens : List ℕ) : Live S :=
  tokens.foldl (Live.step k) live

lemma Live.run_concat (k : Kernels S) (live : Live S) (tokens : List ℕ) (token : ℕ) :
    live.run k (tokens ++ [token]) = (live.run k tokens).step k token := by
  simp [Live.run]

lemma Live.run_append (k : Kernels S) (live : Live S) (tokens more : List ℕ) :
    live.run k (tokens ++ more) = (live.run k tokens).run k more :=
  List.foldl_append

lemma Live.run_take_succ (k : Kernels S) (live : Live S) {tokens : List ℕ} {n : ℕ}
    (hn : n < tokens.length) :
    live.run k (tokens.take (n + 1)) = (live.run k (tokens.take n)).step k (tokens.getD n 0) := by
  rw [List.take_succ_eq_append_getElem hn, Live.run_concat]
  simp [hn]

/-! The recurrent access log: who owns the matrices, and whether the first row of a round has
read a layer since they were last selected. -/

def logOwner : List GdnAccess → Region
  | [] => .arena
  | .select region :: _ => region
  | _ :: log => logOwner log

def FirstRowRead (layer : ℕ) : List GdnAccess → Prop
  | [] => False
  | .select _ :: _ => False
  | .read region layer' row :: log =>
    (region = logOwner log ∧ layer' = layer ∧ row = 0) ∨ FirstRowRead layer log
  | _ :: log => FirstRowRead layer log

-- No live matrix is overwritten before the first row of a round has read it.
def OwnerPreserved : List GdnAccess → Prop
  | [] => True
  | .write region layer :: log =>
    (region = logOwner log → FirstRowRead layer log) ∧ OwnerPreserved log
  | .overwrite region :: log =>
    (region = logOwner log → ∀ layer < decoderLayerCount, ¬ isFullAttention layer →
      FirstRowRead layer log) ∧ OwnerPreserved log
  | _ :: log => OwnerPreserved log

namespace Target

structure LogSound (t : Target S) : Prop where
  owner : logOwner t.gdnLog = t.gdnOwner
  preserved : OwnerPreserved t.gdnLog

structure Wired (t : Target S) : Prop where
  view : ∀ layer, ¬ isFullAttention layer → t.gdnView layer = t.gdnOwner

-- The fields no kernel touches.
structure Framed (t t' : Target S) : Prop where
  position : t'.position = t.position
  maxSequenceLength : t'.maxSequenceLength = t.maxSequenceLength
  poisoned : t'.poisoned = t.poisoned
  wholeRequestPrefillActive : t'.wholeRequestPrefillActive = t.wholeRequestPrefillActive
  gdnOwner : t'.gdnOwner = t.gdnOwner
  gdnView : t'.gdnView = t.gdnView

lemma Framed.refl (t : Target S) : Framed t t := ⟨rfl, rfl, rfl, rfl, rfl, rfl⟩

lemma Framed.trans {t t' t'' : Target S} (h : Framed t t') (h' : Framed t' t'') :
    Framed t t'' where
  position := h'.position.trans h.position
  maxSequenceLength := h'.maxSequenceLength.trans h.maxSequenceLength
  poisoned := h'.poisoned.trans h.poisoned
  wholeRequestPrefillActive := h'.wholeRequestPrefillActive.trans h.wholeRequestPrefillActive
  gdnOwner := h'.gdnOwner.trans h.gdnOwner
  gdnView := h'.gdnView.trans h.gdnView

def memoryAt (t : Target S) (region : Region) (count layer : ℕ) : LayerMemory S :=
  if isFullAttention layer then .rows (t.cachedRows layer count)
  else .recurrent (t.conv layer) (t.gdn region layer)

def memory (t : Target S) (layer : ℕ) : LayerMemory S := t.memoryAt t.gdnOwner t.position layer

def live (t : Target S) : Live S where
  memory := t.memory
  hidden := t.hidden
  logits := t.logits

-- The target holds the state `live` in every layer it has.
structure Shows (t : Target S) (live : Live S) : Prop where
  memory : ∀ layer < decoderLayerCount, t.memory layer = live.memory layer
  hidden : t.hidden = live.hidden
  logits : t.logits = live.logits

lemma cachedRows_succ (t : Target S) (layer count : ℕ) :
    t.cachedRows layer (count + 1) = t.cachedRows layer count ++ [t.cache layer count] := by
  simp [cachedRows, List.range_succ]

@[simp] lemma length_cachedRows (t : Target S) (layer count : ℕ) :
    (t.cachedRows layer count).length = count := by
  simp [cachedRows]

lemma cachedRows_congr {t t' : Target S} {layer count : ℕ}
    (h : ∀ i < count, t'.cache layer i = t.cache layer i) :
    t'.cachedRows layer count = t.cachedRows layer count := by
  apply List.map_congr_left
  intro i hi
  exact h i (List.mem_range.mp hi)

section LinearRow

variable (k : Kernels S) (layer row : ℕ) (source destination : Region) (x : S.Activation)
  (t : Target S)

lemma linearRow_stage :
    k.stage layer x (.recurrent (t.conv layer) (t.gdn source layer)) =
      ((t.linearRow k layer row source destination x).1,
        .recurrent ((t.linearRow k layer row source destination x).2.conv layer)
          ((t.linearRow k layer row source destination x).2.gdn destination layer)) := by
  simp [Kernels.stage, linearRow, writeGdn, writeConv, access]

lemma linearRow_framed : Framed t (t.linearRow k layer row source destination x).2 :=
  ⟨rfl, rfl, rfl, rfl, rfl, rfl⟩

lemma linearRow_conv {layer' : ℕ} (h : layer' ≠ layer) :
    (t.linearRow k layer row source destination x).2.conv layer' = t.conv layer' := by
  simp [linearRow, writeGdn, writeConv, access, h]

lemma linearRow_gdn {region : Region} {layer' : ℕ} (h : region ≠ destination ∨ layer' ≠ layer) :
    (t.linearRow k layer row source destination x).2.gdn region layer' = t.gdn region layer' := by
  by_cases hr : region = destination
  · subst hr
    simp [linearRow, writeGdn, writeConv, access, h.resolve_left (by simp)]
  · simp [linearRow, writeGdn, writeConv, access, hr]

lemma linearRow_cache : (t.linearRow k layer row source destination x).2.cache = t.cache := rfl

lemma linearRow_overrun : (t.linearRow k layer row source destination x).2.overrun = t.overrun :=
  rfl

lemma linearRow_log : (t.linearRow k layer row source destination x).2.gdnLog =
    .write destination layer :: .read source layer row :: t.gdnLog := rfl

variable {k layer row source destination x t}

lemma linearRow_firstRowRead {layer' : ℕ} (h : FirstRowRead layer' t.gdnLog) :
    FirstRowRead layer' (t.linearRow k layer row source destination x).2.gdnLog :=
  Or.inr h

lemma linearRow_firstRowRead_self (ht : LogSound t) (hsource : source = t.gdnOwner) :
    FirstRowRead layer (t.linearRow k layer 0 source destination x).2.gdnLog :=
  Or.inl ⟨hsource.trans ht.owner.symm, rfl, rfl⟩

lemma linearRow_logSound (ht : LogSound t)
    (h : destination = t.gdnOwner → (source = t.gdnOwner ∧ row = 0) ∨
      FirstRowRead layer t.gdnLog) :
    LogSound (t.linearRow k layer row source destination x).2 where
  owner := ht.owner
  preserved := by
    rw [linearRow_log]
    refine ⟨fun hd => ?_, ht.preserved⟩
    obtain ⟨hs, hrow⟩ | hread := h (hd.trans ht.owner)
    · exact Or.inl ⟨hs.trans ht.owner.symm, rfl, hrow⟩
    · exact Or.inr hread

end LinearRow

section WriteRow

variable (t : Target S) (layer index : ℕ) (row : S.Row)

lemma writeRow_framed : Framed t (t.writeRow layer index row) := ⟨rfl, rfl, rfl, rfl, rfl, rfl⟩

lemma writeRow_cache_self : (t.writeRow layer index row).cache layer index = row := by
  simp [writeRow]

lemma writeRow_cache {layer' i : ℕ} (h : layer' ≠ layer ∨ i ≠ index) :
    (t.writeRow layer index row).cache layer' i = t.cache layer' i := by
  by_cases hl : layer' = layer
  · subst hl
    simp [writeRow, h.resolve_left (by simp)]
  · simp [writeRow, hl]

lemma writeRow_overrun (h : index < t.maxSequenceLength) :
    (t.writeRow layer index row).overrun = t.overrun := by
  simp [writeRow, h]

end WriteRow

lemma memoryAt_linear (t : Target S) (region : Region) (count : ℕ) {layer : ℕ}
    (h : ¬ isFullAttention layer) :
    t.memoryAt region count layer = .recurrent (t.conv layer) (t.gdn region layer) :=
  if_neg h

lemma memoryAt_full (t : Target S) (region : Region) (count : ℕ) {layer : ℕ}
    (h : isFullAttention layer) : t.memoryAt region count layer = .rows (t.cachedRows layer count) :=
  if_pos h

-- A row appended to the cache of a full-attention layer.
lemma fullRow_stage (k : Kernels S) (layer : ℕ) (x : S.Activation) {t : Target S} {count : ℕ}
    (h : t.cache layer count = k.keyValue layer count x) :
    k.stage layer x (.rows (t.cachedRows layer count)) =
      (k.attend layer x (t.cachedRows layer (count + 1)),
        .rows (t.cachedRows layer (count + 1))) := by
  simp [Kernels.stage, cachedRows_succ, h]

section ScalarStep

variable (k : Kernels S) (row token : ℕ) (t : Target S)

-- After `n` layers of the scalar step.
structure Stepping (n : ℕ) (r : S.Activation × Target S) : Prop where
  framed : Framed t r.2
  activation : r.1 = activation k.stage t.memory (k.embed token) n
  done : ∀ layer < n, r.2.memoryAt t.gdnOwner (t.position + 1) layer =
    advance k.stage t.memory (k.embed token) layer
  conv : ∀ layer, n ≤ layer → r.2.conv layer = t.conv layer
  gdn : ∀ region layer, region ≠ t.gdnOwner ∨ n ≤ layer →
    r.2.gdn region layer = t.gdn region layer
  cache : ∀ layer i, i ≠ t.position ∨ n ≤ layer → r.2.cache layer i = t.cache layer i
  overrun : t.position < t.maxSequenceLength → r.2.overrun = t.overrun
  logSound : LogSound t → LogSound r.2
  firstRowRead : ∀ layer, FirstRowRead layer t.gdnLog → FirstRowRead layer r.2.gdnLog
  read : LogSound t → row = 0 → ∀ layer < n, ¬ isFullAttention layer →
    FirstRowRead layer r.2.gdnLog

variable {k row token t}

lemma Stepping.full {n : ℕ} {x : S.Activation} {t' : Target S} (h : Stepping k row token t n (x, t'))
    (hn : isFullAttention n) : Stepping k row token t (n + 1) (t'.stepLayer k row n x) := by
  have hposition := h.framed.position
  have hstage := fullRow_stage k n x (writeRow_cache_self t' n t'.position
    (k.keyValue n t'.position x))
  have hcached : (t'.writeRow n t'.position (k.keyValue n t'.position x)).cachedRows n t'.position =
      t.cachedRows n t.position := by
    rw [hposition]
    apply cachedRows_congr
    intro i hi
    rw [writeRow_cache _ _ _ _ (Or.inr hi.ne), h.cache n i (Or.inr le_rfl)]
  have hmemory : t.memory n = .rows (t.cachedRows n t.position) := memoryAt_full t _ _ hn
  have hx : x = Library.activation k.stage t.memory (k.embed token) n := h.activation
  rw [hcached, ← hmemory, hx, stage_activation k.stage, ← hx] at hstage
  rw [stepLayer, if_pos hn]
  refine ⟨h.framed.trans (writeRow_framed _ _ _ _), (Prod.ext_iff.mp hstage).1.symm, ?_,
    fun layer hl => h.conv layer (by omega), fun region layer hl => h.gdn region layer ?_, ?_, ?_,
    fun hlog => ⟨(h.logSound hlog).owner, (h.logSound hlog).preserved⟩, h.firstRowRead, ?_⟩
  · intro layer hl
    obtain hlt | rfl := Nat.lt_succ_iff_lt_or_eq.mp hl
    · rw [← h.done layer hlt, memoryAt, memoryAt]
      congr 2
      apply cachedRows_congr
      intro i hi
      exact writeRow_cache _ _ _ _ (Or.inl hlt.ne)
    · rw [memoryAt_full _ _ _ hn, ← hposition]
      exact (Prod.ext_iff.mp hstage).2.symm
  · exact hl.imp id (by omega)
  · intro layer i hi
    rw [writeRow_cache, h.cache layer i (hi.imp id (by omega))]
    obtain hi | hi := hi
    · exact Or.inr (hposition ▸ hi)
    · exact Or.inl (by omega)
  · intro hroom
    rw [writeRow_overrun, h.overrun hroom]
    rw [hposition, h.framed.maxSequenceLength]
    exact hroom
  · intro hlog hrow layer hl hlinear
    obtain hlt | rfl := Nat.lt_succ_iff_lt_or_eq.mp hl
    · exact h.read hlog hrow layer hlt hlinear
    · exact absurd hn hlinear

lemma Stepping.linear {n : ℕ} {x : S.Activation} {t' : Target S} (hwired : Wired t)
    (hread : row ≠ 0 → FirstRowRead n t.gdnLog) (h : Stepping k row token t n (x, t'))
    (hn : ¬ isFullAttention n) : Stepping k row token t (n + 1) (t'.stepLayer k row n x) := by
  have hview : t'.gdnView n = t.gdnOwner := by rw [h.framed.gdnView, hwired.view n hn]
  have howner : t'.gdnOwner = t.gdnOwner := h.framed.gdnOwner
  have hstage := linearRow_stage k n row t.gdnOwner t.gdnOwner x t'
  have hmemory : t.memory n = .recurrent (t'.conv n) (t'.gdn t.gdnOwner n) := by
    rw [memory, memoryAt_linear _ _ _ hn]
    rw [show t'.conv n = _ from h.conv n le_rfl,
      show t'.gdn t.gdnOwner n = _ from h.gdn _ n (Or.inr le_rfl)]
  have hx : x = Library.activation k.stage t.memory (k.embed token) n := h.activation
  rw [← hmemory, hx, stage_activation k.stage, ← hx] at hstage
  rw [stepLayer, if_neg hn, hview]
  refine ⟨h.framed.trans (linearRow_framed _ _ _ _ _ _ _), (Prod.ext_iff.mp hstage).1.symm, ?_, ?_,
    ?_, fun layer i hi => h.cache layer i (hi.imp id (by omega)), h.overrun, ?_, ?_, ?_⟩
  · intro layer hl
    obtain hlt | rfl := Nat.lt_succ_iff_lt_or_eq.mp hl
    · rw [← h.done layer hlt, memoryAt, memoryAt, linearRow_conv _ _ _ _ _ _ _ hlt.ne,
        linearRow_gdn _ _ _ _ _ _ _ (Or.inr hlt.ne)]
      rfl
    · rw [memoryAt_linear _ _ _ hn]
      exact (Prod.ext_iff.mp hstage).2.symm
  · intro layer hl
    rw [linearRow_conv _ _ _ _ _ _ _ (by omega)]
    exact h.conv layer (by omega)
  · intro region layer hl
    rw [linearRow_gdn _ _ _ _ _ _ _ (hl.imp id (by omega))]
    exact h.gdn region layer (hl.imp id (by omega))
  · intro hlog
    refine linearRow_logSound (h.logSound hlog) fun _ => ?_
    by_cases hrow : row = 0
    · exact Or.inl ⟨howner.symm, hrow⟩
    · exact Or.inr (h.firstRowRead n (hread hrow))
  · intro layer hl
    exact linearRow_firstRowRead (h.firstRowRead layer hl)
  · intro hlog hrow layer hl hlinear
    obtain hlt | rfl := Nat.lt_succ_iff_lt_or_eq.mp hl
    · exact linearRow_firstRowRead (h.read hlog hrow layer hlt hlinear)
    · subst hrow
      exact linearRow_firstRowRead_self (h.logSound hlog) howner.symm

lemma stepLayers_stepping (hwired : Wired t)
    (hread : row ≠ 0 → ∀ layer < decoderLayerCount, ¬ isFullAttention layer →
      FirstRowRead layer t.gdnLog) {n : ℕ} (hn : n ≤ decoderLayerCount) :
    Stepping k row token t n (t.stepLayers k row token n) := by
  induction n with
  | zero =>
    exact ⟨Framed.refl t, rfl, by simp, fun _ _ => rfl, fun _ _ _ => rfl, fun _ _ _ => rfl,
      fun _ => rfl, id, fun _ => id, by simp⟩
  | succ n ih =>
    have h := ih (by omega)
    by_cases hfull : isFullAttention n
    · exact h.full hfull
    · exact h.linear hwired (fun hrow => hread hrow n (by omega) hfull) hfull

-- The whole scalar step, before the runner counts the token.
structure StepEffect (k : Kernels S) (row token : ℕ) (live : Live S) (t t' : Target S) : Prop where
  framed : Framed t t'
  memory : ∀ layer < decoderLayerCount,
    t'.memoryAt t.gdnOwner (t.position + 1) layer = (live.step k token).memory layer
  hidden : t'.hidden = (live.step k token).hidden
  logits : t'.logits = (live.step k token).logits
  gdn : ∀ region ≠ t.gdnOwner, t'.gdn region = t.gdn region
  cache : ∀ layer, ∀ i ≠ t.position, t'.cache layer i = t.cache layer i
  overrun : t.position < t.maxSequenceLength → t'.overrun = t.overrun
  logSound : LogSound t → LogSound t'
  firstRowRead : ∀ layer, FirstRowRead layer t.gdnLog → FirstRowRead layer t'.gdnLog
  read : LogSound t → row = 0 → ∀ layer < decoderLayerCount, ¬ isFullAttention layer →
    FirstRowRead layer t'.gdnLog

lemma stepped_effect {live : Live S} (hwired : Wired t)
    (hread : row ≠ 0 → ∀ layer < decoderLayerCount, ¬ isFullAttention layer →
      FirstRowRead layer t.gdnLog) (hmemory : ∀ layer < decoderLayerCount,
        t.memory layer = live.memory layer) :
    StepEffect k row token live t (t.stepped k row token) := by
  have h : Stepping k row token t _ _ := stepLayers_stepping hwired hread le_rfl
  have hactivation : ∀ n ≤ decoderLayerCount,
      Library.activation k.stage t.memory (k.embed token) n =
        Library.activation k.stage live.memory (k.embed token) n := by
    intro n hn
    apply activation_congr
    intro m hm
    exact hmemory m (hm.trans_le hn)
  unfold stepped
  generalize t.stepLayers k row token decoderLayerCount = r at h ⊢
  obtain ⟨x, t'⟩ := r
  have houtput : k.finalHidden x = live.output k token := by
    rw [show x = _ from h.activation, hactivation _ le_rfl, Live.output]
  refine ⟨⟨h.framed.position, h.framed.maxSequenceLength, h.framed.poisoned,
    h.framed.wholeRequestPrefillActive, h.framed.gdnOwner, h.framed.gdnView⟩, ?_, houtput,
    congrArg k.head houtput, ?_, fun layer i hi => h.cache layer i (Or.inl hi), h.overrun,
    fun hlog => ⟨(h.logSound hlog).owner, (h.logSound hlog).preserved⟩, h.firstRowRead, h.read⟩
  · intro layer hl
    have hdone := h.done layer hl
    rw [advance, hactivation layer hl.le, hmemory layer hl] at hdone
    exact hdone
  · intro region hr
    funext layer
    exact h.gdn region layer (Or.inl hr)

end ScalarStep

end Target

end Qwen3xOrin.Mtp
