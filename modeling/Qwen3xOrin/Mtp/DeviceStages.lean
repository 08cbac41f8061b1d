import Mathlib.Data.List.GetD
import Qwen3xOrin.Mtp.VerifyRows

/-! The stages of a round on the device. `Idle` holds between rounds, `Opened` until the rows are
verified and `Staged` while they are committed. An operation goes from one stage to the next, or
stops because a kernel failed. -/

namespace Qwen3xOrin.Mtp

open Generation Library Target

variable {S : Storage}

structure Kernels.Reliable (k : Kernels S) : Prop where
  succeeds : ∀ site s, k.succeeds site s = true
  argmax : ∀ logits, ¬ (k.argmax logits).unusable
  draftArgmax : ∀ hidden, ¬ (k.draftArgmax hidden).unusable
  confidence : ∀ hidden, ¬ badConfidence (k.draftConfidence hidden)

namespace Live

variable (k : Kernels S) (start : Live S) (history inputs : List ℕ)

def next (tokens : List ℕ) : ℕ := (k.argmax (start.run k tokens).logits).index

def row (n : ℕ) : Live S := start.run k (history ++ inputs.take n)

variable {k start history inputs}

@[simp] lemma row_zero : start.row k history inputs 0 = start.run k history := by
  simp [row]

lemma row_succ {n : ℕ} (hn : n < inputs.length) :
    start.row k history inputs (n + 1) =
      (start.row k history inputs n).step k (inputs.getD n 0) := by
  rw [row, row, run_append, run_append, run_take_succ k _ hn]

end Live

-- The row that a draft cache holds at `i` when the tokens up to `i + 1` are decided.
def Draft.Exact (k : Kernels S) (start : Live S) (tokens : List ℕ) (count : ℕ) (d : Draft S) :
    Prop :=
  ∀ i < count, d.rows i =
    k.draftRow (tokens.getD (i + 1) 0) (start.run k (tokens.take (i + 1))).hidden i

namespace Draft.Exact

variable {k : Kernels S} {start : Live S} {tokens more : List ℕ} {count count' : ℕ} {d d' : Draft S}

lemma mono (h : d.Exact k start tokens count) (hle : count' ≤ count) :
    d.Exact k start tokens count' := fun i hi => h i (by omega)

lemma congr (h : d.Exact k start tokens count) (hrows : ∀ i < count, d'.rows i = d.rows i) :
    d'.Exact k start tokens count := fun i hi => (hrows i hi).trans (h i hi)

lemma append_iff (hlength : count + 1 ≤ tokens.length) :
    d.Exact k start (tokens ++ more) count ↔ d.Exact k start tokens count := by
  refine forall₂_congr fun i hi => ?_
  rw [List.getD_append _ _ _ _ (by omega), List.take_append_of_le_length (by omega)]

lemma succ (h : d.Exact k start tokens count)
    (hrow : d.rows count =
      k.draftRow (tokens.getD (count + 1) 0) (start.run k (tokens.take (count + 1))).hidden count) :
    d.Exact k start tokens (count + 1) := by
  intro i hi
  obtain hlt | rfl := Nat.lt_succ_iff_lt_or_eq.mp hi
  · exact h i hlt
  · exact hrow

end Draft.Exact

-- Where slots are read in place, the committed one becomes the owner.
def Target.selected (indirect : Bool) (slot : ℕ) (t : Target S) : Target S :=
  if indirect then
    { t.access (.select (.slot slot)) with
      gdnOwner := .slot slot
      gdnView := fun layer => if isFullAttention layer then t.gdnView layer else .slot slot }
  else t

structure Target.Ready (limit : ℕ) (t : Target S) : Prop where
  healthy : t.poisoned = false
  prefilled : t.wholeRequestPrefillActive = false
  limit : t.maxSequenceLength = limit
  overrun : t.overrun = false
  log : t.LogSound
  wired : t.Wired
  ownable : t.gdnOwner.ownable = true

structure Draft.Ready (limit : ℕ) (d : Draft S) : Prop where
  healthy : d.poisoned = false
  capacity : limit ≤ d.capacity + 1
  overrun : d.overrun = false

lemma Draft.Ready.writeRow {limit index : ℕ} {d : Draft S} (h : d.Ready limit)
    (hindex : index < d.capacity) (row : S.DraftRow) : (d.writeRow index row).Ready limit where
  healthy := h.healthy
  capacity := h.capacity
  overrun := by
    simp [Draft.writeRow, h.overrun, hindex]

namespace Device

structure Safe (s : Device S) : Prop where
  target : s.target.overrun = false
  draft : s.draft.overrun = false
  preserved : OwnerPreserved s.target.gdnLog

def Stopped (k : Kernels S) (s : Device S) : Prop := s.Safe ∧ ¬ k.Reliable

structure Ready (limit : ℕ) (s : Device S) : Prop where
  target : s.target.Ready limit
  draft : s.draft.Ready limit
  batched : s.gdnInputs = true → s.multirow = true
  arena : s.gdnInputs = false → s.target.gdnOwner = .arena

lemma Ready.safe {limit : ℕ} {s : Device S} (h : Ready limit s) : s.Safe :=
  ⟨h.target.overrun, h.draft.overrun, h.target.log.preserved⟩

section Stages

variable (k : Kernels S) (start : Live S) (limit : ℕ) (history : List ℕ)

structure Idle (s : Device S) : Prop where
  ready : s.Ready limit
  inactive : s.active = false
  nonempty : 0 < history.length
  position : s.target.position = history.length
  inStep : s.draft.position + 1 = history.length
  shows : s.target.Shows (start.run k history)
  exact : s.draft.Exact k start history s.draft.position

structure Opened (rows : ℕ) (s : Device S) : Prop where
  ready : s.Ready limit
  active : s.active = true
  verified : s.verified = false
  uncommitted : s.committed = 0
  noTail : s.preparedTailRows = 0
  rowCount : s.rows = rows
  bounds : 1 ≤ rows ∧ rows ≤ 4
  fits : history.length + rows ≤ limit
  entry : s.entryPosition = history.length
  nonempty : 0 < history.length
  position : s.target.position = history.length
  shows : s.target.Shows (start.run k history)
  entryHidden : (s.slots 0).hidden = (start.run k history).hidden
  exact : s.draft.Exact k start history (history.length - 1)
  seeded : s.seedCacheValid = true → history.length ≤ s.draft.position ∧
    s.draft.rows (history.length - 1) =
      k.draftRow s.cachedSeed (start.run k history).hidden (history.length - 1)
  unseeded : s.seedCacheValid = false → s.draft.position + 1 = history.length

-- The batch of draft rows that was written ahead of its commitment.
structure PreparedTail (inputs : List ℕ) (committed : ℕ) (s : Device S) : Prop where
  rows : s.draft.preparedRows = s.preparedTailRows
  first : s.draft.preparedBegin = history.length
  taken : s.draft.preparedCommitted + 1 = committed
  within : committed ≤ s.preparedTailRows + 1 ∧ s.preparedTailRows + 1 ≤ inputs.length
  maximal : s.preparedTailRows + 1 < inputs.length →
    s.inputs (s.preparedTailRows + 1) ≠ s.predictions s.preparedTailRows
  exact : s.draft.Exact k start (history ++ inputs) (history.length + s.preparedTailRows)

structure Staging (inputs : List ℕ) (committed : ℕ) (s : Device S) : Prop where
  ready : s.Ready limit
  active : s.active = true
  verified : s.verified = true
  committedRows : s.committed = committed
  rowCount : s.rows = inputs.length
  bounds : 1 ≤ inputs.length ∧ inputs.length ≤ 4
  fits : history.length + inputs.length ≤ limit
  entry : s.entryPosition = history.length
  nonempty : 0 < history.length
  loaded : ∀ i < inputs.length, s.inputs i = inputs.getD i 0
  vocabulary : ∀ i < inputs.length, inputs.getD i 0 < referenceVocabularySize
  predictions : ∀ i < inputs.length,
    s.predictions i = start.next k (history ++ inputs.take (i + 1))
  usable : ∀ i < inputs.length, s.predictions i < referenceVocabularySize
  holds : ∀ i < inputs.length, s.Holds (i + 1) (start.row k history inputs (i + 1))
  entryHidden : (s.slots 0).hidden = (start.run k history).hidden
  read : s.gdnInputs = false → ∀ layer < decoderLayerCount, ¬ isFullAttention layer →
    FirstRowRead layer s.target.gdnLog
  position : 0 < committed → s.target.position = history.length + committed
  shows : 0 < committed → s.target.Shows (start.row k history inputs committed)
  exact : s.draft.Exact k start (history ++ inputs) s.draft.position
  seeded : committed = 0 → s.draft.position + 1 =
    history.length + if s.seedCacheValid then 1 else 0
  inStep : 0 < committed → s.draft.position + 1 = history.length + committed ∧
    s.seedCacheValid = false
  unprepared : s.preparedTailRows = 0 → s.draft.preparedRows = 0
  prepared : s.preparedTailRows ≠ 0 → PreparedTail k start history inputs committed s

structure Staged (inputs : List ℕ) (committed : ℕ) (s : Device S) : Prop extends
    Staging k start limit history inputs committed s where
  noTail : committed ≤ 1 → s.preparedTailRows = 0

end Stages

section Rules

variable {k : Kernels S} {pre : Device S → Prop}

-- A check that only a kernel can fail.
lemma checked_spec {c : Device S → Prop} [DecidablePred c] {f : Device S → Device S}
    (hsafe : ∀ s, pre s → (f s).Safe) (hc : k.Reliable → ∀ s, ¬ c s) :
    Triple pre (stopIf () c f : DeviceM S Unit) (fun _ s => pre s ∧ ¬ c s) (Stopped k) :=
  Triple.stopIf fun s hs hfailed => ⟨hsafe s hs, fun hk => hc hk s hfailed⟩

lemma kernel_spec {site : Launch} {f : Device S → Device S} (hsafe : ∀ s, pre s → (f s).Safe) :
    Triple pre (stopIf () (fun s => k.succeeds site s = false) f : DeviceM S Unit)
      (fun _ => pre) (Stopped k) := by
  refine (checked_spec hsafe ?_).conseq (fun _ h => h) (fun _ _ h => h.1) fun _ h => h
  intro hk s
  simp [hk.succeeds]

lemma launch_spec (site : Launch) (hsafe : ∀ s, pre s → s.Safe) :
    Triple pre (launch k site) (fun _ => pre) (Stopped k) := kernel_spec hsafe

end Rules

section Opening

variable {k : Kernels S} {start : Live S} {limit rows : ℕ} {history : List ℕ} {s : Device S}

lemma begin_spec (h : Idle k start limit history s) (hrows : 1 ≤ rows ∧ rows ≤ 4)
    (hfits : history.length + rows ≤ limit) :
    Triple (Exactly s) (begin k rows)
      (fun _ s' => Opened k start limit history rows s' ∧ s'.seedCacheValid = false)
      (Stopped k) := by
  have hlimit := h.ready.target.limit
  have hnonempty := h.nonempty
  have hposition := h.position
  have hstep := h.inStep
  rw [begin]
  refine Triple.bind (Triple.pass ?_) fun _ => Triple.bind (Triple.step rfl) fun _ =>
    Triple.assume fun _ => ?_
  · rintro _ rfl
    simp only [h.inactive, h.ready.target.healthy, h.ready.target.prefilled, Bool.false_eq_true,
      false_or]
    omega
  · refine Triple.bind (launch_spec .snapshot ?_) fun _ => Triple.update ?_
    · rintro _ rfl
      exact ⟨h.ready.target.overrun, h.ready.draft.overrun, h.ready.target.log.preserved⟩
    · rintro _ rfl
      refine ⟨{
        ready := ⟨h.ready.target, ⟨h.ready.draft.healthy, h.ready.draft.capacity,
          h.ready.draft.overrun⟩, h.ready.batched, h.ready.arena⟩
        active := rfl
        verified := rfl
        uncommitted := rfl
        noTail := rfl
        rowCount := rfl
        bounds := hrows
        fits := hfits
        entry := hposition
        nonempty := h.nonempty
        position := hposition
        shows := h.shows
        entryHidden := h.shows.hidden
        exact := h.exact.mono (by omega)
        seeded := by intro hseed; cases hseed
        unseeded := fun _ => hstep }, rfl⟩

end Opening

section Proposing

variable {k : Kernels S} {start : Live S} {limit rows token : ℕ} {history : List ℕ} {s : Device S}
  {hidden : S.Hidden}

def drafted (k : Kernels S) (token : ℕ) (hidden : S.Hidden) (s : Device S) : Device S :=
  { s with draft :=
    { Draft.stepped k token hidden s.draft.discardPrepared with
      position := s.draft.position + 1 } }

lemma drafted_ready (h : s.Ready limit) (hroom : s.draft.position < s.draft.capacity) :
    (s.drafted k token hidden).Ready limit where
  target := h.target
  draft := by
    have hrow := h.draft.writeRow hroom (k.draftRow token hidden s.draft.position)
    exact ⟨hrow.healthy, hrow.capacity, hrow.overrun⟩
  batched := h.batched
  arena := h.arena

lemma drafted_row_self : (s.drafted k token hidden).draft.rows s.draft.position =
    k.draftRow token hidden s.draft.position :=
  Function.update_self _ _ _

lemma drafted_row {i : ℕ} (hi : i ≠ s.draft.position) :
    (s.drafted k token hidden).draft.rows i = s.draft.rows i :=
  Function.update_of_ne hi _ _

lemma draftStep_spec (h : s.Ready limit) (htoken : token < referenceVocabularySize)
    (hroom : s.draft.position < s.draft.capacity) (withConfidence : Bool) :
    Triple (Exactly s) (draftStep k token hidden withConfidence)
      (fun r s' => r.1 < referenceVocabularySize ∧ s' = s.drafted k token hidden) (Stopped k) := by
  have hrow := h.draft.writeRow hroom (k.draftRow token hidden s.draft.position)
  rw [draftStep]
  refine Triple.bind (Triple.pass ?_) fun _ => Triple.bind (Triple.pass ?_) fun _ =>
    Triple.bind (Triple.step rfl) fun _ => Triple.assume fun _ =>
    Triple.bind (kernel_spec ?_) fun _ => Triple.bind (Triple.step rfl) fun _ =>
    Triple.assume fun _ => Triple.bind (checked_spec ?_ ?_) fun _ => Triple.ofExactly ?_
  · rintro _ rfl
    simp [h.draft.healthy]
  · rintro _ rfl
    omega
  · rintro _ rfl
    exact ⟨h.target.overrun, h.draft.overrun, h.target.log.preserved⟩
  · rintro _ rfl
    exact ⟨h.target.overrun, hrow.overrun, h.target.log.preserved⟩
  · rintro hk s (hunusable | ⟨-, hconfidence⟩)
    · exact hk.draftArgmax _ hunusable
    · exact hk.confidence _ hconfidence
  · rintro _ ⟨rfl, husable⟩
    simp only [GreedyArgmax.unusable, not_or, not_le] at husable
    refine Triple.bind (Triple.step rfl) fun _ => Triple.assume ?_
    rintro rfl
    refine Triple.bind (Triple.step rfl) fun _ => Triple.assume ?_
    rintro rfl
    refine Triple.bind (Triple.step rfl) fun _ => Triple.assume fun _ => Triple.ret ?_
    rintro _ rfl
    exact ⟨husable.1.2, rfl⟩

-- After `p` proposals; the first of them wrote the row of the seed.
structure Proposing (k : Kernels S) (start : Live S) (limit : ℕ) (history : List ℕ)
    (rows seed p : ℕ) (s : Device S) : Prop extends Opened k start limit history rows s where
  ahead : s.draft.position + 1 = history.length + p
  valid : s.seedCacheValid = decide (0 < p)
  cached : 0 < p → s.cachedSeed = seed

lemma Opened.proposing {seed : ℕ} (h : Opened k start limit history rows s)
    (hfresh : s.seedCacheValid = false) : Proposing k start limit history rows seed 0 s :=
  { h with
    ahead := h.unseeded hfresh
    valid := hfresh
    cached := by simp }

lemma Proposing.room {seed p : ℕ} (h : Proposing k start limit history rows seed p s)
    (hp : p + 1 < rows) : s.draft.position < s.draft.capacity := by
  have hahead := h.ahead
  have hfits := h.fits
  have hcapacity := h.ready.draft.capacity
  omega

lemma Proposing.next {seed p : ℕ} (h : Proposing k start limit history rows seed (p + 1) s)
    (hp : p + 2 < rows) :
    Proposing k start limit history rows seed (p + 2) (s.drafted k token hidden) := by
  have hahead := h.ahead
  have hnonempty := h.nonempty
  exact { h with
    ready := drafted_ready h.ready (h.room hp)
    exact := h.exact.congr fun i hi => drafted_row (by omega)
    seeded := fun hseed => by
      obtain ⟨hle, hrow⟩ := h.seeded hseed
      refine ⟨hle.trans (Nat.le_succ _), ?_⟩
      exact (drafted_row (by omega)).trans hrow
    unseeded := fun hseed => by
      have hvalid := h.valid
      simp [show s.seedCacheValid = false from hseed] at hvalid
    ahead := by
      change s.draft.position + 1 + 1 = _
      omega
    valid := h.valid
    cached := fun _ => h.cached (Nat.succ_pos p) }

lemma Proposing.first {seed : ℕ} (h : Proposing k start limit history rows seed 0 s)
    (hp : 1 < rows) (hhidden : hidden = (s.slots 0).hidden) :
    Proposing k start limit history rows seed 1 ((s.drafted k seed hidden).seeded seed) := by
  have hahead := h.ahead
  have hnonempty := h.nonempty
  have hposition : history.length - 1 = s.draft.position := by omega
  have hready : (s.drafted k seed hidden).Ready limit := drafted_ready h.ready (h.room hp)
  exact { h with
    ready := ⟨hready.target, hready.draft, hready.batched, hready.arena⟩
    exact := h.exact.congr fun i hi => drafted_row (by omega)
    seeded := fun _ => by
      refine ⟨?_, ?_⟩
      · change history.length ≤ s.draft.position + 1
        omega
      · rw [hposition, hhidden, h.entryHidden]
        exact drafted_row_self
    unseeded := by intro hseed; cases hseed
    ahead := by
      change s.draft.position + 1 + 1 = _
      omega
    valid := rfl
    cached := fun _ => rfl }

lemma proposeToken_spec {seed : ℕ} {draft : List ℕ}
    (h : Proposing k start limit history rows seed draft.length s)
    (hp : draft.length + 1 < rows) (htoken : draft.getLastD seed < referenceVocabularySize)
    (withConfidence : Bool) :
    Triple (Exactly s) (proposeToken k seed draft withConfidence)
      (fun r s' => r.1 < referenceVocabularySize ∧
        Proposing k start limit history rows seed (draft.length + 1) s') (Stopped k) := by
  rw [proposeToken]
  refine Triple.bind (Triple.step rfl) fun _ => Triple.assume ?_
  rintro rfl
  refine Triple.bind (draftStep_spec h.ready htoken (h.room hp) withConfidence) fun step =>
    Triple.ofExactly ?_
  rintro _ ⟨hstep, rfl⟩
  by_cases hfirst : draft.length = 0
  · obtain rfl := List.length_eq_zero_iff.mp hfirst
    rw [if_pos hfirst]
    refine Triple.bind (Triple.step rfl) fun _ => Triple.assume fun _ => Triple.ret ?_
    rintro _ rfl
    exact ⟨hstep, h.first hp rfl⟩
  · obtain ⟨p, hlength⟩ := Nat.exists_eq_succ_of_ne_zero hfirst
    rw [if_neg hfirst]
    refine Triple.ret ?_
    rintro _ rfl
    rw [hlength] at h hp ⊢
    exact ⟨hstep, h.next hp⟩

lemma getLastD_lt {seed bound : ℕ} {draft : List ℕ} (hseed : seed < bound)
    (hdraft : ∀ token ∈ draft, token < bound) : draft.getLastD seed < bound := by
  rcases List.eq_nil_or_concat draft with rfl | ⟨front, last, rfl⟩
  · exact hseed
  · rw [List.concat_eq_append, List.getLastD_concat]
    exact hdraft last (by simp)

lemma forall_mem_concat {bound token : ℕ} {draft : List ℕ}
    (hdraft : ∀ token ∈ draft, token < bound) (htoken : token < bound) :
    ∀ t ∈ draft ++ [token], t < bound := by
  intro t ht
  rcases List.mem_append.mp ht with ht | ht
  · exact hdraft t ht
  · rwa [List.mem_singleton.mp ht]

lemma proposeTokens_spec {seed n : ℕ} {draft : List ℕ} (hseed : seed < referenceVocabularySize)
    (h : Proposing k start limit history rows seed draft.length s)
    (hdraft : ∀ token ∈ draft, token < referenceVocabularySize)
    (hn : draft.length + n + 1 = rows) :
    Triple (Exactly s) (proposeTokens k seed n draft)
      (fun tokens s' => tokens.length = draft.length + n ∧
        (∀ token ∈ tokens, token < referenceVocabularySize) ∧
        Opened k start limit history rows s') (Stopped k) := by
  induction n generalizing s draft with
  | zero =>
    refine Triple.ret ?_
    rintro _ rfl
    exact ⟨rfl, hdraft, h.toOpened⟩
  | succ n ih =>
    refine Triple.bind (proposeToken_spec h (by omega) (getLastD_lt hseed hdraft) false) fun step =>
      Triple.ofExactly fun s' hs' => ?_
    obtain ⟨htoken, h'⟩ := hs'
    have hlength : (draft ++ [step.1]).length = draft.length + 1 := by simp
    rw [← hlength] at h'
    refine (ih h' (forall_mem_concat hdraft htoken) (by omega)).conseq (fun _ h => h) ?_ fun _ h => h
    rintro tokens s'' ⟨htokens, hall, hopened⟩
    exact ⟨by omega, hall, hopened⟩

-- What a round may rely on in a proposal.
structure Offered (k : Kernels S) (start : Live S) (limit : ℕ) (history : List ℕ)
    (maximum stop : ℕ) (proposal : Proposal) (s : Device S) : Prop where
  ok : proposal.ok = true
  good : badProposal stop maximum proposal = false
  length : proposal.count ≤ proposal.draft.length
  vocabulary : ∀ token ∈ proposal.draft, token < referenceVocabularySize
  opened : Opened k start limit history (proposal.count + 1) s

lemma Opened.resized {count : ℕ} (h : Opened k start limit history rows s) (hcount : count < rows) :
    Opened k start limit history (count + 1) { s with rows := count + 1 } := by
  have hbounds := h.bounds
  have hfits := h.fits
  exact { h with
    ready := ⟨h.ready.target, h.ready.draft, h.ready.batched, h.ready.arena⟩
    rowCount := rfl
    bounds := by omega
    fits := by omega }

lemma proposePrefixTokens_spec {seed stop n maximum : ℕ} {draft : List ℕ} {eosFrontier : Bool}
    (hseed : seed < referenceVocabularySize)
    (h : Proposing k start limit history (maximum + 1) seed draft.length s)
    (hdraft : ∀ token ∈ draft, token < referenceVocabularySize)
    (hn : draft.length + n = maximum) (hmaximum : 0 < maximum) :
    Triple (Exactly s) (proposePrefixTokens k seed eosFrontier stop n draft)
      (fun proposal s' => proposal.count ≤ maximum ∧ ∀ stop', (eosFrontier = true → stop' = stop) →
        Offered k start limit history maximum stop' proposal
          { s' with rows := proposal.count + 1 }) (Stopped k) := by
  induction n generalizing s draft with
  | zero =>
    refine Triple.ret ?_
    rintro _ rfl
    refine ⟨by dsimp only; omega, fun stop' _ =>
      ⟨rfl, ?_, le_rfl, hdraft, h.toOpened.resized (by dsimp only; omega)⟩⟩
    simp only [badProposal, decide_eq_false_iff_not]
    simp only [Bool.false_eq_true, false_and, or_false, and_true]
    omega
  | succ n ih =>
    refine Triple.bind (proposeToken_spec h (by omega) (getLastD_lt hseed hdraft) _) fun step =>
      Triple.ofExactly fun s' hs' => ?_
    obtain ⟨htoken, h'⟩ := hs'
    have hextended := forall_mem_concat hdraft htoken
    have hlength : (draft ++ [step.1]).length = draft.length + 1 := by simp
    dsimp only
    refine Triple.ite (fun hstop => ?_) fun _ => Triple.ite (fun _ => ?_) fun _ => ?_
    · refine Triple.ret ?_
      rintro _ rfl
      refine ⟨by dsimp only; omega, fun stop' hstop' =>
        ⟨rfl, ?_, by dsimp only; omega, hextended, h'.toOpened.resized (by dsimp only; omega)⟩⟩
      have hlast : (draft ++ [step.1]).getD draft.length 0 = stop' := by
        rw [hstop' hstop.1, ← hstop.2]
        simp
      simp only [badProposal, decide_eq_false_iff_not, hlast]
      simp only [Bool.true_eq_false, and_false, false_or, true_and, ne_eq, not_true, or_false]
      omega
    · refine Triple.ret ?_
      rintro _ rfl
      refine ⟨by dsimp only; omega, fun stop' _ =>
        ⟨rfl, ?_, le_rfl, hextended, h'.toOpened.resized (by dsimp only; omega)⟩⟩
      simp only [badProposal, decide_eq_false_iff_not]
      simp only [Bool.false_eq_true, false_and, or_false, and_true]
      omega
    · rw [← hlength] at h'
      exact ih h' hextended (by omega)

lemma propose_spec {seed maximum stop : ℕ} (hseed : seed < referenceVocabularySize)
    (hmaximum : 0 < maximum) (h : Opened k start limit history (maximum + 1) s)
    (hfresh : s.seedCacheValid = false) :
    Triple (Exactly s) (propose k seed maximum)
      (fun tokens s' => Offered k start limit history maximum stop
        { ok := true, draft := tokens, count := maximum } s') (Stopped k) := by
  rw [propose]
  refine Triple.bind (Triple.pass ?_) fun _ => ?_
  · rintro _ rfl
    have hunseeded := h.unseeded hfresh
    have hentry := h.entry
    have hrows := h.rowCount
    simp only [h.active, h.verified, Bool.true_eq_false, Bool.false_eq_true, false_or]
    omega
  · refine (proposeTokens_spec hseed (h.proposing hfresh) (by simp) (by simp)).conseq
      (fun _ h => h) ?_ fun _ h => h
    rintro tokens s' ⟨hlength, hall, hopened⟩
    refine ⟨rfl, ?_, by simp [hlength], hall, hopened⟩
    simp only [badProposal, decide_eq_false_iff_not]
    simp only [Bool.false_eq_true, false_and, or_false, and_true]
    omega

lemma proposePrefix_spec {seed maximum stop : ℕ} {eosFrontier : Bool}
    (hseed : seed < referenceVocabularySize) (hmaximum : 0 < maximum)
    (h : Opened k start limit history (maximum + 1) s) (hfresh : s.seedCacheValid = false)
    {stop' : ℕ} (hstop : eosFrontier = true → stop' = stop) :
    Triple (Exactly s) (proposePrefix k seed maximum eosFrontier stop)
      (Offered k start limit history maximum stop') (Stopped k) := by
  rw [proposePrefix]
  refine Triple.bind (Triple.pass ?_) fun _ => ?_
  · rintro _ rfl
    have hunseeded := h.unseeded hfresh
    have hentry := h.entry
    have hrows := h.rowCount
    simp only [h.active, h.verified, Bool.true_eq_false, Bool.false_eq_true, false_or]
    omega
  · refine Triple.bind (proposePrefixTokens_spec hseed (h.proposing hfresh) (by simp) (by simp)
      hmaximum) fun proposal => Triple.bind (Triple.update fun s' hs' => ?_) fun _ =>
      Triple.ret fun _ h => h
    exact hs'.2 stop' hstop

end Proposing

section Snapshots

variable {k : Kernels S} {limit : ℕ} {s : Device S} {live : Live S}

lemma copyGdn_framed (t : Target S) (source destination : Region) :
    Framed t (t.copyGdn source destination) := ⟨rfl, rfl, rfl, rfl, rfl, rfl⟩

lemma copyGdn_self (t : Target S) (source destination : Region) :
    (t.copyGdn source destination).gdn destination = t.gdn source :=
  Function.update_self _ _ _

lemma copyGdn_of_ne (t : Target S) {source destination region : Region} (h : region ≠ destination) :
    (t.copyGdn source destination).gdn region = t.gdn region :=
  Function.update_of_ne h _ _

lemma copyGdn_ready {t : Target S} (h : t.Ready limit) {source destination : Region}
    (hread : destination = t.gdnOwner → ∀ layer < decoderLayerCount, ¬ isFullAttention layer →
      FirstRowRead layer t.gdnLog) : (t.copyGdn source destination).Ready limit where
  healthy := h.healthy
  prefilled := h.prefilled
  limit := h.limit
  overrun := h.overrun
  log := ⟨h.log.owner, fun howner => hread (howner.trans h.log.owner), h.log.preserved⟩
  wired := ⟨h.wired.view⟩
  ownable := h.ownable

lemma copyGdn_shows {t : Target S} (h : t.Shows live) {source destination : Region}
    (hne : destination ≠ t.gdnOwner) : (t.copyGdn source destination).Shows live where
  memory layer hl := by
    rw [← h.memory layer hl, memory, memory, memoryAt, memoryAt]
    rw [show (t.copyGdn source destination).gdnOwner = t.gdnOwner from rfl,
      copyGdn_of_ne t (Ne.symm hne)]
    rfl
  hidden := h.hidden
  logits := h.logits

-- The target of a snapshot, which already lies in the slot or is copied there.
structure Copied (limit slot : ℕ) (live : Live S) (t t' : Target S) : Prop where
  framed : Framed t t'
  self : t'.gdn (.slot slot) = t.gdn t.gdnOwner
  gdn : ∀ region ≠ Region.slot slot, t'.gdn region = t.gdn region
  conv : t'.conv = t.conv
  cache : t'.cache = t.cache
  shows : t'.Shows live
  ready : t'.Ready limit
  firstRowRead : ∀ layer, FirstRowRead layer t.gdnLog → FirstRowRead layer t'.gdnLog

lemma copied_spec {slot : ℕ} {t : Target S} (h : t.Ready limit) (hshows : t.Shows live) :
    Copied limit slot live t
      (if t.gdnOwner = .slot slot then t else t.copyGdn t.gdnOwner (.slot slot)) := by
  by_cases howner : t.gdnOwner = .slot slot
  · rw [if_pos howner]
    exact ⟨Framed.refl t, by rw [howner], fun _ _ => rfl, rfl, rfl, hshows, h, fun _ => id⟩
  · rw [if_neg howner]
    exact ⟨copyGdn_framed t _ _, copyGdn_self t _ _, fun _ hne => copyGdn_of_ne t hne, rfl, rfl,
      copyGdn_shows hshows (Ne.symm howner),
      copyGdn_ready h fun heq => absurd heq.symm howner, fun _ => id⟩

-- A snapshot of the state the request owns.
structure Snapshot (limit slot : ℕ) (live : Live S) (s s' : Device S) : Prop where
  rest : s' = { s with target := s'.target, slots := s'.slots }
  copied : Copied limit slot live s.target s'.target
  holds : s'.Holds slot live
  slots : ∀ j ≠ slot, s'.slots j = s.slots j
  ready : s'.Ready limit

lemma saved_spec {slot : ℕ} (hslot : slot ≠ 0) (h : s.Ready limit) (hshows : s.target.Shows live)
    (hposition : s.target.position = s.entryPosition + slot) :
    Snapshot limit slot live s (s.saved slot) := by
  have hsource : (if s.gdnInputs then s.target.gdnOwner else .arena) = s.target.gdnOwner := by
    cases hmode : s.gdnInputs with
    | true => rfl
    | false => exact (h.arena hmode).symm
  have hcopied : Copied limit slot live s.target _ := copied_spec h.target hshows
  rw [saved, if_neg hslot, hsource]
  dsimp only
  generalize (if s.target.gdnOwner = Region.slot slot then s.target
    else s.target.copyGdn s.target.gdnOwner (.slot slot)) = t at hcopied ⊢
  refine ⟨rfl, hcopied, ⟨fun layer hl => ?_, ?_, ?_⟩, fun j hj => Function.update_of_ne hj _ _,
    ⟨hcopied.ready, h.draft, h.batched, fun hmode => ?_⟩⟩
  · rw [← hshows.memory layer hl, memory]
    by_cases hfull : isFullAttention layer
    · rw [slotMemory_full _ _ hfull, memoryAt_full _ _ _ hfull, hposition]
      simp only [cachedRows, hcopied.cache]
    · rw [slotMemory_linear _ _ hfull, memoryAt_linear _ _ _ hfull]
      dsimp only
      rw [Function.update_self, hcopied.self]
  · simpa using hshows.hidden
  · simpa using hshows.logits
  · exact hcopied.framed.gdnOwner.trans (h.arena hmode)

lemma snapshot_spec {slot : ℕ} (hslot : slot ≠ 0) (h : s.Ready limit)
    (hshows : s.target.Shows live) (hposition : s.target.position = s.entryPosition + slot) :
    Triple (Exactly s) (snapshot k slot) (fun _ => Snapshot limit slot live s) (Stopped k) := by
  rw [snapshot]
  refine Triple.bind (launch_spec .snapshot ?_) fun _ => Triple.update ?_
  · rintro _ rfl
    exact h.safe
  · rintro _ rfl
    exact saved_spec hslot h hshows hposition

end Snapshots

section ScalarRows

variable {k : Kernels S} {start : Live S} {limit row token : ℕ} {history inputs : List ℕ}
  {s : Device S} {live : Live S}

lemma stepLayers_framed (k : Kernels S) (row token : ℕ) (t : Target S) (n : ℕ) :
    Framed t (t.stepLayers k row token n).2 := by
  induction n with
  | zero => exact Framed.refl t
  | succ n ih =>
    simp only [stepLayers, stepLayer]
    split_ifs
    · exact ih.trans (writeRow_framed _ _ _ _)
    · exact ih.trans (linearRow_framed _ _ _ _ _ _ _)

-- One scalar step, the token counted.
structure Committed (k : Kernels S) (limit row token : ℕ) (live : Live S) (t t' : Target S) :
    Prop where
  ready : t'.Ready limit
  position : t'.position = t.position + 1
  owner : t'.gdnOwner = t.gdnOwner
  shows : t'.Shows (live.step k token)
  gdn : ∀ region ≠ t.gdnOwner, t'.gdn region = t.gdn region
  cache : ∀ layer, ∀ i < t.position, t'.cache layer i = t.cache layer i
  firstRowRead : ∀ layer, FirstRowRead layer t.gdnLog → FirstRowRead layer t'.gdnLog
  read : row = 0 → ∀ layer < decoderLayerCount, ¬ isFullAttention layer →
    FirstRowRead layer t'.gdnLog

lemma committed_spec {t : Target S} (h : t.Ready limit) (hshows : t.Shows live)
    (hroom : t.position < limit) (hread : row ≠ 0 → ∀ layer < decoderLayerCount,
      ¬ isFullAttention layer → FirstRowRead layer t.gdnLog) :
    Committed k limit row token live t (t.committedStep k row token) := by
  have heffect : StepEffect k row token live t _ := stepped_effect h.wired hread hshows.memory
  have hlog := heffect.logSound h.log
  have howner := heffect.framed.gdnOwner
  have hlimit : (t.stepped k row token).maxSequenceLength = limit :=
    heffect.framed.maxSequenceLength.trans h.limit
  rw [committedStep]
  refine {
    ready := {
      healthy := heffect.framed.poisoned.trans h.healthy
      prefilled := heffect.framed.wholeRequestPrefillActive.trans h.prefilled
      limit := hlimit
      overrun := (heffect.overrun (by rw [h.limit]; exact hroom)).trans h.overrun
      log := ⟨hlog.owner, hlog.preserved⟩
      wired := ⟨fun layer hl => ?_⟩
      ownable := ?_ }
    position := rfl
    owner := howner
    shows := ⟨fun layer hl => ?_, heffect.hidden, heffect.logits⟩
    gdn := heffect.gdn
    cache := fun layer i hi => heffect.cache layer i hi.ne
    firstRowRead := heffect.firstRowRead
    read := heffect.read h.log }
  · dsimp only
    rw [heffect.framed.gdnView, howner]
    exact h.wired.view layer hl
  · dsimp only
    rw [howner]
    exact h.ownable
  · rw [← heffect.memory layer hl, memory]
    dsimp only
    rw [howner]
    rfl

lemma targetStep_spec (h : s.Ready limit) (htoken : token < referenceVocabularySize)
    (hroom : s.target.position < limit)
    (hcommitted : Committed k limit row token live s.target (s.target.committedStep k row token)) :
    Triple (Exactly s) (targetStep k row token)
      (fun prediction s' => s' = { s with target := s.target.committedStep k row token } ∧
        prediction = (k.argmax (live.step k token).logits).index ∧
        prediction < referenceVocabularySize) (Stopped k) := by
  have hlogits : (s.target.stepped k row token).logits = (live.step k token).logits :=
    hcommitted.shows.logits
  have hstepped := (stepLayers_framed k row token s.target decoderLayerCount).position
  have hlimit := h.target.limit
  rw [targetStep]
  refine Triple.bind (Triple.pass ?_) fun _ => Triple.bind (Triple.pass ?_) fun _ =>
    Triple.bind (Triple.pass ?_) fun _ => Triple.bind (Triple.pass ?_) fun _ =>
    Triple.bind (kernel_spec ?_) fun _ => Triple.bind (Triple.step rfl) fun _ =>
    Triple.assume fun _ => Triple.bind (checked_spec ?_ ?_) fun _ => Triple.ofExactly ?_
  · rintro _ rfl
    simp [h.target.prefilled]
  · rintro _ rfl
    simp [h.target.healthy]
  · exact fun _ _ => by omega
  · rintro _ rfl
    omega
  · rintro _ rfl
    exact ⟨h.target.overrun, h.draft.overrun, h.target.log.preserved⟩
  · rintro _ rfl
    exact ⟨hcommitted.ready.overrun, h.draft.overrun, hcommitted.ready.log.preserved⟩
  · exact fun hk s => hk.argmax _
  · rintro _ ⟨rfl, husable⟩
    simp only [GreedyArgmax.unusable, not_or, not_le] at husable
    refine Triple.bind (Triple.step rfl) fun _ => Triple.assume fun _ => Triple.examine ?_
    rintro _ rfl
    refine ⟨?_, congrArg (fun logits => (k.argmax logits).index) hlogits, husable.2⟩
    rw [committedStep, ← hstepped]
    rfl

-- After `n` rows of the scalar route.
structure ScalarRows (k : Kernels S) (start : Live S) (limit : ℕ) (history inputs : List ℕ)
    (s : Device S) (n : ℕ) (s' : Device S) : Prop where
  rest : s' = { s with target := s'.target, slots := s'.slots, predictions := s'.predictions }
  ready : s'.Ready limit
  position : s'.target.position = history.length + n
  shows : s'.target.Shows (start.row k history inputs n)
  holds : ∀ i < n, s'.Holds (i + 1) (start.row k history inputs (i + 1))
  entryHidden : (s'.slots 0).hidden = (s.slots 0).hidden
  predictions : ∀ i < n, s'.predictions i = start.next k (history ++ inputs.take (i + 1))
  usable : ∀ i < n, s'.predictions i < referenceVocabularySize
  read : 0 < n → ∀ layer < decoderLayerCount, ¬ isFullAttention layer →
    FirstRowRead layer s'.target.gdnLog

lemma Holds.frame {s s' : Device S} {slot : ℕ} (h : s.Holds slot live)
    (hslots : s'.slots slot = s.slots slot)
    (hgdn : s'.target.gdn (.slot slot) = s.target.gdn (.slot slot))
    (hcache : ∀ layer, ∀ i < s.entryPosition + slot,
      s'.target.cache layer i = s.target.cache layer i)
    (hentry : s'.entryPosition = s.entryPosition) : s'.Holds slot live where
  memory layer hl := by
    rw [← h.memory layer hl]
    simp only [slotMemory, hslots, hgdn, hentry, cachedRows_congr (hcache layer)]
  hidden := by rw [hslots, h.hidden]
  logits := by rw [hslots, h.logits]

lemma ScalarRows.step {n : ℕ} {s₀ : Device S} (hentry : s₀.entryPosition = history.length)
    (hinputs : ∀ i < inputs.length, s₀.inputs i = inputs.getD i 0)
    (hvocabulary : ∀ i < inputs.length, inputs.getD i 0 < referenceVocabularySize)
    (hfits : history.length + inputs.length ≤ limit) (hn : n < inputs.length)
    (hsingle : s₀.gdnInputs = true → n = 0)
    (h : ScalarRows k start limit history inputs s₀ n s) :
    Triple (Exactly s) (verifyScalarRow k n)
      (fun _ => ScalarRows k start limit history inputs s₀ (n + 1)) (Stopped k) := by
  have hposition := h.position
  have htoken : s.inputs n = inputs.getD n 0 := by
    rw [h.rest]
    exact hinputs n hn
  have hmode : s.gdnInputs = s₀.gdnInputs := by rw [h.rest]
  have hentry' : s.entryPosition = history.length := by
    rw [h.rest]
    exact hentry
  have hcommitted : Committed k limit n (inputs.getD n 0) _ s.target _ :=
    committed_spec h.ready.target h.shows (by omega) fun hn0 => h.read (Nat.pos_of_ne_zero hn0)
  have hshows := hcommitted.shows
  have hlive : start.row k history inputs (n + 1) = _ := Live.row_succ hn
  rw [← hlive] at hshows
  have hready : Ready limit { s with target := s.target.committedStep k n (inputs.getD n 0) } :=
    ⟨hcommitted.ready, h.ready.draft, h.ready.batched,
      fun hm => hcommitted.owner.trans (h.ready.arena hm)⟩
  rw [verifyScalarRow]
  refine Triple.bind (Triple.step rfl) fun token => Triple.assume fun hread => ?_
  rw [show token = inputs.getD n 0 from hread.trans htoken]
  refine Triple.bind (targetStep_spec h.ready (hvocabulary n hn) (by omega) hcommitted)
    fun prediction => Triple.ofExactly ?_
  rintro _ ⟨rfl, rfl, husable⟩
  refine Triple.bind (snapshot_spec (Nat.succ_ne_zero n) hready hshows ?_) fun _ =>
    Triple.update ?_
  · have hnext := hcommitted.position
    dsimp only
    omega
  · intro s' hs'
    have hrest := hs'.rest
    refine ⟨?_, ⟨hs'.ready.target, hs'.ready.draft, hs'.ready.batched, hs'.ready.arena⟩, ?_,
      hs'.copied.shows, fun i hi => ?_, ?_, fun i hi => ?_, fun i hi => ?_,
      fun _ layer hl hlinear => ?_⟩
    · rw [hrest, h.rest]
    · have hframed := hs'.copied.framed.position
      have hnext := hcommitted.position
      dsimp only at hframed ⊢
      omega
    · obtain hlt | rfl := Nat.lt_succ_iff_lt_or_eq.mp hi
      · have harena : s.target.gdnOwner = .arena := by
          apply h.ready.arena
          rw [hmode]
          by_contra hm
          have hzero := hsingle (Bool.eq_true_of_not_eq_false hm)
          omega
        refine (h.holds i hlt).frame ?_ ?_ ?_ ?_
        · exact hs'.slots (i + 1) (by omega)
        · refine (hs'.copied.gdn (.slot (i + 1)) (by simp; omega)).trans ?_
          exact hcommitted.gdn (.slot (i + 1)) (by simp [harena])
        · intro layer j hj
          dsimp only
          rw [hs'.copied.cache]
          exact hcommitted.cache layer j (by omega)
        · rw [hrest]
      · exact ⟨hs'.holds.memory, hs'.holds.hidden, hs'.holds.logits⟩
    · dsimp only
      rw [hs'.slots 0 (by omega)]
      exact h.entryHidden
    · dsimp only
      obtain hlt | rfl := Nat.lt_succ_iff_lt_or_eq.mp hi
      · rw [Function.update_of_ne (by omega), hrest]
        exact h.predictions i hlt
      · rw [Function.update_self, ← hlive]
        rfl
    · dsimp only
      obtain hlt | rfl := Nat.lt_succ_iff_lt_or_eq.mp hi
      · rw [Function.update_of_ne (by omega), hrest]
        exact h.usable i hlt
      · rwa [Function.update_self]
    · refine hs'.copied.firstRowRead layer ?_
      by_cases hzero : n = 0
      · exact hcommitted.read hzero layer hl hlinear
      · exact hcommitted.firstRowRead layer (h.read (Nat.pos_of_ne_zero hzero) layer hl hlinear)

lemma verifyScalarRows_spec (h : s.Ready limit) (hposition : s.target.position = history.length)
    (hentry : s.entryPosition = history.length) (hshows : s.target.Shows (start.run k history))
    (hinputs : ∀ i < inputs.length, s.inputs i = inputs.getD i 0)
    (hvocabulary : ∀ i < inputs.length, inputs.getD i 0 < referenceVocabularySize)
    (hfits : history.length + inputs.length ≤ limit)
    (hsingle : s.gdnInputs = true → inputs.length = 1) {n : ℕ} (hn : n ≤ inputs.length) :
    Triple (Exactly s) (verifyScalarRows k n)
      (fun _ => ScalarRows k start limit history inputs s n) (Stopped k) := by
  induction n with
  | zero =>
    refine Triple.ret ?_
    rintro _ rfl
    exact ⟨rfl, h, hposition, by simpa using hshows, by simp, rfl, by simp, by simp, by simp⟩
  | succ n ih =>
    refine Triple.bind (ih (by omega)) fun _ => Triple.ofExactly fun s' hs' => ?_
    refine hs'.step hentry hinputs hvocabulary hfits (by omega) fun hmode => ?_
    have hlength := hsingle hmode
    omega

end ScalarRows

section Verify

variable {k : Kernels S} {start : Live S} {limit : ℕ} {history inputs : List ℕ} {s : Device S}

-- The rows are verified, on either route.
structure Verified (k : Kernels S) (start : Live S) (limit : ℕ) (history inputs : List ℕ)
    (s s' : Device S) : Prop where
  rest : s' = { s with
    target := s'.target, slots := s'.slots, predictions := s'.predictions, published := s'.published }
  ready : s'.Ready limit
  holds : ∀ i < inputs.length, s'.Holds (i + 1) (start.row k history inputs (i + 1))
  entryHidden : (s'.slots 0).hidden = (s.slots 0).hidden
  predictions : ∀ i < inputs.length, s'.predictions i = start.next k (history ++ inputs.take (i + 1))
  usable : ∀ i < inputs.length, s'.predictions i < referenceVocabularySize
  read : ∀ layer < decoderLayerCount, ¬ isFullAttention layer →
    FirstRowRead layer s'.target.gdnLog

lemma ScalarRows.verified {s' : Device S} (hlength : 0 < inputs.length)
    (h : ScalarRows k start limit history inputs s inputs.length s') :
    Verified k start limit history inputs s s' where
  rest := by
    have hpublished : s'.published = s.published := by rw [h.rest]
    rw [hpublished]
    exact h.rest
  ready := h.ready
  holds := h.holds
  entryHidden := h.entryHidden
  predictions := h.predictions
  usable := h.usable
  read := h.read hlength

lemma multirow_ready (h : s.Ready limit) (hfits : s.entryPosition + s.rows ≤ limit) {s' : Device S} {live : ℕ → Live S}
    (heffect : MultirowEffect live s s') : s'.Ready limit := by
  have howner := heffect.target.gdnOwner
  have hrest := heffect.rest
  refine ⟨⟨heffect.target.poisoned.trans h.target.healthy,
    heffect.target.wholeRequestPrefillActive.trans h.target.prefilled,
    heffect.target.maxSequenceLength.trans h.target.limit,
    (heffect.overrun (by rw [h.target.limit]; exact hfits)).trans h.target.overrun,
    heffect.logSound, ⟨fun layer hl => ?_⟩, ?_⟩, ?_, ?_, fun hmode => ?_⟩
  · rw [heffect.target.gdnView, howner]
    exact h.target.wired.view layer hl
  · rw [howner]
    exact h.target.ownable
  · rw [hrest]
    exact h.draft
  · rw [hrest]
    exact h.batched
  · rw [howner]
    rw [hrest] at hmode
    exact h.arena hmode

def publishedOwner (s : Device S) : Device S :=
  { s with published := if s.gdnInputs then fun _ => s.target.gdnOwner else s.published }

lemma publishGdnInputs_spec (h : s.Ready limit) :
    Triple (Exactly s) (publishGdnInputs k) (fun _ => Exactly s.publishedOwner) (Stopped k) := by
  rw [publishGdnInputs]
  refine Triple.bind (Triple.pass ?_) fun _ => Triple.bind (checked_spec ?_ ?_) fun _ =>
    Triple.update ?_
  · rintro _ rfl ⟨-, layer, -, hlinear, hne⟩
    exact hne (h.target.wired.view layer hlinear).symm
  · rintro _ rfl
    exact h.safe
  · intro hk s
    simp [hk.succeeds]
  · rintro _ ⟨rfl, -⟩
    rfl

lemma verifyMultirow_spec (h : s.Ready limit) (hactive : s.active = true)
    (hverified : s.verified = false) (hrows : s.rows = inputs.length)
    (hbounds : 1 ≤ inputs.length ∧ inputs.length ≤ 4)
    (hposition : s.target.position = history.length)
    (hentry : s.entryPosition = history.length) (hshows : s.target.Shows (start.run k history))
    (hinputs : ∀ i < inputs.length, s.inputs i = inputs.getD i 0)
    (hvocabulary : ∀ i < inputs.length, inputs.getD i 0 < referenceVocabularySize)
    (hfits : history.length + inputs.length ≤ limit) :
    Triple (Exactly s) (verifyMultirow k)
      (fun _ => Verified k start limit history inputs s) (Stopped k) := by
  have hlimit := h.target.limit
  have hready : s.publishedOwner.Ready limit := ⟨h.target, h.draft, h.batched, h.arena⟩
  have heffect : MultirowEffect (start.row k history inputs) s.publishedOwner
      (s.publishedOwner.multirowVerified k) := by
    refine multirowVerified_spec h.target.log (fun row hrow => ?_) (fun layer hl hlinear => ?_)
      fun layer hl => ?_
    · rw [show s.publishedOwner.rows = inputs.length from hrows] at hrow
      rw [Live.row_succ hrow, show s.publishedOwner.inputs row = _ from hinputs row hrow]
    · simp only [publishedOwner, rowSource, if_true]
      split_ifs
      · rfl
      · exact h.target.wired.view layer hlinear
    · rw [Live.row_zero, ← hshows.memory layer hl, memory]
      rw [show s.publishedOwner.entryPosition = s.target.position from
        hentry.trans hposition.symm]
      rfl
  have hready' := multirow_ready hready (by change s.entryPosition + s.rows ≤ limit; omega) heffect
  rw [verifyMultirow]
  -- The layer loop must stay folded.
  generalize multirowVerified k = verifyRows at heffect hready' ⊢
  generalize hs' : verifyRows s.publishedOwner = s' at heffect hready'
  have hrows' : s'.rows = inputs.length := by
    rw [heffect.rest]
    exact hrows
  have hholds : ∀ i < inputs.length, s'.Holds (i + 1) (start.row k history inputs (i + 1)) :=
    fun i hi => heffect.holds i (hi.trans_eq hrows.symm)
  have hpublished : s'.published = s.publishedOwner.published := by rw [heffect.rest]
  have hreplace : ∀ predictions, { s' with predictions := predictions } = { s with
      target := s'.target, slots := s'.slots, predictions := predictions,
      published := s'.published } := by
    intro predictions
    rw [hpublished]
    conv_lhs => rw [heffect.rest]
    rfl
  refine Triple.bind (Triple.pass ?_) fun _ => Triple.bind (Triple.pass ?_) fun _ =>
    Triple.bind (publishGdnInputs_spec h) fun _ => Triple.bind (launch_spec .verifyRows ?_) fun _ =>
    Triple.bind (Triple.step rfl) fun _ => Triple.assume fun _ =>
    Triple.bind (checked_spec ?_ ?_) fun _ => Triple.update ?_
  · rintro _ rfl
    simp only [hactive, hverified, Bool.true_eq_false, Bool.false_eq_true, false_or]
    omega
  · rintro _ rfl ⟨row, hrow, hlarge⟩
    rw [hrows] at hrow
    rw [hinputs row hrow] at hlarge
    exact absurd (hvocabulary row hrow) (Nat.not_lt.mpr hlarge)
  · rintro _ rfl
    exact hready.safe
  · rintro _ rfl
    rw [hs']
    exact hready'.safe
  · rintro hk s ⟨row, -, hunusable⟩
    exact hk.argmax _ hunusable
  · rintro _ ⟨rfl, husable⟩
    rw [hs'] at husable ⊢
    refine ⟨hreplace _, ⟨hready'.target, hready'.draft, hready'.batched, hready'.arena⟩,
      fun i hi => ⟨(hholds i hi).memory, (hholds i hi).hidden, (hholds i hi).logits⟩,
      heffect.entryHidden, fun i hi => ?_, fun i hi => ?_,
      heffect.read (by change 0 < s.rows; omega)⟩
    · dsimp only
      rw [hrows', if_pos hi, (hholds i hi).logits]
      rfl
    · dsimp only
      rw [hrows', if_pos hi]
      by_contra hlarge
      exact husable ⟨i, by omega, Or.inr (Nat.not_lt.mp hlarge)⟩

def verifiedBy (seed : ℕ) (s : Device S) : Device S :=
  let valid := s.seedCacheValid && decide (s.cachedSeed = seed)
  { s with
    seedCacheValid := valid
    draft := { s.draft.discardPrepared with
      position := s.entryPosition - if valid then 0 else 1 }
    verified := true }

-- The draft keeps the row of the seed only when it was written for this seed.
lemma Opened.exact_seed {seed : ℕ} {rest : List ℕ}
    (h : Opened k start limit history (rest.length + 1) s) :
    (s.verifiedBy seed).draft.Exact k start (history ++ seed :: rest)
      (s.verifiedBy seed).draft.position := by
  have hnonempty := h.nonempty
  have hentry := h.entry
  have hlength : history.length - 1 + 1 = history.length := by omega
  have hexact : s.draft.Exact k start (history ++ seed :: rest) (history.length - 1) :=
    (Draft.Exact.append_iff (by omega)).mpr h.exact
  cases hvalid : s.seedCacheValid && decide (s.cachedSeed = seed) with
  | false =>
    simp only [verifiedBy, hvalid, hentry]
    exact hexact
  | true =>
    rw [Bool.and_eq_true, decide_eq_true_eq] at hvalid
    obtain ⟨hseeded, hcached⟩ := hvalid
    obtain ⟨-, hrow⟩ := h.seeded hseeded
    simp only [verifiedBy, hseeded, hcached, hentry, decide_true, Bool.and_true, if_true,
      Nat.sub_zero]
    have hsucc := hexact.succ (by rw [hrow, hcached, hlength]; simp)
    rw [hlength] at hsucc
    exact hsucc

lemma Opened.rewindable {seed rows : ℕ} (h : Opened k start limit history rows s) :
    (s.verifiedBy seed).draft.position ≤ s.draft.position := by
  have hentry := h.entry
  cases hvalid : s.seedCacheValid with
  | false =>
    have hunseeded := h.unseeded hvalid
    simp only [verifiedBy, hvalid, Bool.false_and, Bool.false_eq_true, if_false]
    omega
  | true =>
    obtain ⟨hseeded, -⟩ := h.seeded hvalid
    refine (Nat.sub_le _ _).trans ?_
    omega

def rewound (position : ℕ) (s : Device S) : Device S :=
  { s with draft := { s.draft.discardPrepared with position := position } }

lemma rewind_spec {position : ℕ} {stopped : Device S → Prop} (hhealthy : s.draft.poisoned = false)
    (hle : position ≤ s.draft.position) :
    Triple (Exactly s) (rewind position) (fun _ => Exactly (s.rewound position)) stopped := by
  rw [rewind]
  refine Triple.bind (Triple.pass ?_) fun _ => Triple.update ?_
  · rintro _ rfl
    simp only [hhealthy, Bool.false_eq_true, false_or]
    omega
  · rintro _ rfl
    rfl

lemma Verified.staged {seed : ℕ} {rest : List ℕ} {s' : Device S}
    (hopened : Opened k start limit history (rest.length + 1) s)
    (hinputs : ∀ i < (seed :: rest).length, s.inputs i = (seed :: rest).getD i 0)
    (hvocabulary : ∀ i < (seed :: rest).length, (seed :: rest).getD i 0 < referenceVocabularySize)
    (h : Verified k start limit history (seed :: rest) s s') :
    Staged k start limit history (seed :: rest) 0 (s'.verifiedBy seed) := by
  have hrest := h.rest
  have hlength : (seed :: rest).length = rest.length + 1 := rfl
  have hnonempty := hopened.nonempty
  have hentry : s'.entryPosition = history.length := by
    rw [hrest]
    exact hopened.entry
  have htail : s'.preparedTailRows = 0 := by
    rw [hrest]
    exact hopened.noTail
  have hdraft : (s'.verifiedBy seed).draft = (s.verifiedBy seed).draft := by
    rw [hrest]
    rfl
  exact {
    ready := ⟨h.ready.target, ⟨h.ready.draft.healthy, h.ready.draft.capacity,
      h.ready.draft.overrun⟩, h.ready.batched, h.ready.arena⟩
    active := by
      change s'.active = true
      rw [hrest]
      exact hopened.active
    verified := rfl
    committedRows := by
      change s'.committed = 0
      rw [hrest]
      exact hopened.uncommitted
    rowCount := by
      change s'.rows = rest.length + 1
      rw [hrest]
      exact hopened.rowCount
    bounds := hopened.bounds
    fits := hopened.fits
    entry := hentry
    nonempty := hnonempty
    loaded := fun i hi => by
      change s'.inputs i = _
      rw [hrest]
      exact hinputs i hi
    vocabulary := hvocabulary
    predictions := h.predictions
    usable := h.usable
    holds := fun i hi => ⟨(h.holds i hi).memory, (h.holds i hi).hidden, (h.holds i hi).logits⟩
    entryHidden := h.entryHidden.trans hopened.entryHidden
    read := fun _ => h.read
    position := by simp
    shows := by simp
    exact := by
      rw [hdraft]
      exact hopened.exact_seed
    seeded := fun _ => by
      have hone := Nat.sub_add_cancel hnonempty
      simp only [verifiedBy, hentry]
      split_ifs
      · rfl
      · exact hone
    inStep := by simp
    unprepared := fun _ => rfl
    prepared := fun hne => absurd htail hne
    noTail := fun _ => htail }

lemma verify_spec {seed count : ℕ} {draft : List ℕ} (hseed : seed < referenceVocabularySize)
    (hdraft : ∀ token ∈ draft, token < referenceVocabularySize) (hcount : count ≤ draft.length)
    (h : Opened k start limit history (count + 1) s) :
    Triple (Exactly s) (verify k seed draft count)
      (fun predictions s' =>
        Staged k start limit history (seed :: draft.take count) 0 s' ∧
          predictions = (List.range (count + 1)).map fun i =>
            start.next k (history ++ (seed :: draft.take count).take (i + 1))) (Stopped k) := by
  have hlength : (seed :: draft.take count).length = count + 1 := by simp [hcount]
  have hposition := h.position
  have hfits := h.fits
  have hbounds := h.bounds
  have hloaded : Opened k start limit history ((draft.take count).length + 1)
      (s.loaded seed draft count) := by
    rw [← List.length_cons (a := seed), hlength]
    exact { h with ready := ⟨h.ready.target, h.ready.draft, h.ready.batched, h.ready.arena⟩ }
  have hinputs : ∀ i < (seed :: draft.take count).length,
      (s.loaded seed draft count).inputs i = (seed :: draft.take count).getD i 0 := by
    intro i hi
    rw [hlength] at hi
    cases i with
    | zero => rfl
    | succ i =>
      have hle : i + 1 ≤ count := Nat.lt_succ_iff.mp hi
      simp only [loaded, Nat.succ_ne_zero, if_false, if_pos hle, Nat.add_sub_cancel,
        List.getD_cons_succ]
      rw [List.getD_eq_getElem?_getD, List.getD_eq_getElem?_getD, List.getElem?_take_of_lt hle]
  have hvocabulary : ∀ i < (seed :: draft.take count).length,
      (seed :: draft.take count).getD i 0 < referenceVocabularySize := by
    intro i hi
    rw [List.getD_eq_getElem _ _ hi]
    rcases List.mem_cons.mp (List.getElem_mem hi) with heq | hmem
    · exact heq.trans_lt hseed
    · exact hdraft _ (List.mem_of_mem_take hmem)
  have hready := hloaded.ready
  have hmultirow : Triple (Exactly (s.loaded seed draft count)) (verifyMultirow k)
      (fun _ => Verified k start limit history (seed :: draft.take count)
        (s.loaded seed draft count)) (Stopped k) :=
    verifyMultirow_spec hready h.active h.verified (h.rowCount.trans hlength.symm)
      (by omega) hposition h.entry h.shows hinputs hvocabulary (by omega)
  have hscalar : ¬ (s.multirow = true ∧ 1 < s.rows) →
      Triple (Exactly (s.loaded seed draft count)) (verifyScalarRows k (count + 1))
        (fun _ => Verified k start limit history (seed :: draft.take count)
          (s.loaded seed draft count)) (Stopped k) := by
    intro hroute
    have hrows := h.rowCount
    rw [← hlength]
    refine (verifyScalarRows_spec hready hposition h.entry h.shows hinputs hvocabulary (by omega)
      (fun hmode => ?_) le_rfl).conseq (fun _ h => h) (fun _ _ h => h.verified (by omega))
      fun _ h => h
    have hbatched : s.multirow = true := h.ready.batched hmode
    have hsingle : ¬ 1 < s.rows := fun hlt => hroute ⟨hbatched, hlt⟩
    omega
  rw [verify]
  refine Triple.bind (Triple.pass ?_) fun _ => Triple.bind (Triple.step rfl) fun _ =>
    Triple.assume fun _ => Triple.bind (Triple.step rfl) fun batched => Triple.assume fun hbatched =>
    Triple.branch (fun _ => hmultirow) (fun hroute => hscalar ?_) fun _ =>
    Triple.ofExactly fun s' hs' => ?_
  · rintro _ rfl
    simp [h.active, h.verified, h.rowCount]
  · intro hmode
    exact hroute (hbatched.trans (decide_eq_true hmode))
  · have hstaged := hs'.staged hloaded hinputs hvocabulary
    have hrewindable : (s'.verifiedBy seed).draft.position ≤ s'.draft.position := by
      rw [hs'.rest]
      exact hloaded.rewindable
    refine Triple.bind (Triple.step rfl) fun _ => Triple.assume fun _ =>
      Triple.bind (Triple.step rfl) fun position => Triple.assume ?_
    rintro rfl
    refine Triple.bind (rewind_spec hs'.ready.draft.healthy hrewindable) fun _ =>
      Triple.bind (Triple.step rfl) fun _ => Triple.assume fun _ => Triple.examine ?_
    rintro _ rfl
    refine ⟨hstaged, List.map_congr_left fun i hi => ?_⟩
    rw [List.mem_range] at hi
    exact hs'.predictions i (by omega)

end Verify

section Preparing

variable {k : Kernels S} {start : Live S} {limit : ℕ} {history inputs : List ℕ} {s : Device S}

lemma validRows_spec (n valid : ℕ) (hfuel : s.rows ≤ valid + n) (hvalid : valid ≤ s.rows) :
    valid ≤ s.validRows n valid ∧ s.validRows n valid ≤ s.rows ∧
      (s.validRows n valid < s.rows →
        s.inputs (s.validRows n valid) ≠ s.predictions (s.validRows n valid - 1)) := by
  induction n generalizing valid with
  | zero => exact ⟨le_rfl, hvalid, fun hlt => by rw [validRows] at hlt; omega⟩
  | succ n ih =>
    rw [validRows]
    split_ifs with hmatch
    · obtain ⟨hle, hrest⟩ := ih (valid + 1) (by omega) (by omega)
      exact ⟨by omega, hrest⟩
    · exact ⟨le_rfl, hvalid, fun hlt heq => hmatch ⟨hlt, heq⟩⟩

-- What a batch of prepared rows leaves in the draft.
structure Prepared (k : Kernels S) (tokens : ℕ → ℕ) (hidden : ℕ → S.Hidden) (first n : ℕ)
    (d d' : Draft S) : Prop where
  rest : d' = { d with rows := d'.rows, overrun := d'.overrun }
  before : ∀ i < first, d'.rows i = d.rows i
  after : ∀ i < n, d'.rows (first + i) = k.draftRow (tokens i) (hidden i) (first + i)
  overrun : first + n ≤ d.capacity → d'.overrun = d.overrun

lemma writePrepared_spec (k : Kernels S) (tokens : ℕ → ℕ) (hidden : ℕ → S.Hidden) (first n : ℕ)
    (d : Draft S) :
    Prepared k tokens hidden first n d (Draft.writePrepared k tokens hidden first n d) := by
  induction n with
  | zero => exact ⟨rfl, fun _ _ => rfl, by simp, fun _ => rfl⟩
  | succ n ih =>
    rw [Draft.writePrepared]
    generalize Draft.writePrepared k tokens hidden first n d = d' at ih ⊢
    have hcapacity : d'.capacity = d.capacity := by rw [ih.rest]
    refine ⟨?_, fun i hi => ?_, fun i hi => ?_, fun hroom => ?_⟩
    · conv_lhs => rw [ih.rest]
      rw [ih.rest]
      rfl
    · exact (Function.update_of_ne (by omega) _ _).trans (ih.before i hi)
    · obtain hlt | rfl := Nat.lt_succ_iff_lt_or_eq.mp hi
      · exact (Function.update_of_ne (by omega) _ _).trans (ih.after i hlt)
      · exact Function.update_self _ _ _
    · simp only [Draft.writeRow, hcapacity, ih.overrun (by omega), Bool.or_eq_left_iff_imp,
        decide_eq_true_eq]
      omega

lemma getD_history (i : ℕ) : (history ++ inputs).getD (history.length + i) 0 = inputs.getD i 0 := by
  rw [List.getD_append_right _ _ _ _ (Nat.le_add_right _ _), Nat.add_sub_cancel_left]

lemma take_history (i : ℕ) :
    (history ++ inputs).take (history.length + i) = history ++ inputs.take i := by
  rw [List.take_length_add_append]

-- The rows of the valid tail, all written before the first of them is committed.
def batched (k : Kernels S) (tail : ℕ) (s : Device S) : Device S :=
  { s with
    draft := Draft.prepared k (fun i => s.inputs (i + 1)) (fun i => (s.slots (i + 1)).hidden) tail
      s.draft
    preparedTailRows := tail }

lemma Staged.batched {tail : ℕ} (h : Staged k start limit history inputs 1 s)
    (hwithin : tail + 1 ≤ inputs.length)
    (hmaximal : tail + 1 < inputs.length → s.inputs (tail + 1) ≠ s.predictions tail) :
    Staging k start limit history inputs 1 (s.batched k tail) := by
  have hfits := h.fits
  have hcapacity := h.ready.draft.capacity
  obtain ⟨hposition, hunseeded⟩ := h.inStep Nat.one_pos
  have hposition : s.draft.position = history.length := by omega
  have hprepared := writePrepared_spec k (fun i => s.inputs (i + 1))
    (fun i => (s.slots (i + 1)).hidden) s.draft.position tail s.draft
  have hexact : (s.batched k tail).draft.Exact k start (history ++ inputs)
      (history.length + tail) := by
    intro i hi
    by_cases hold : i < history.length
    · exact (hprepared.before i (by omega)).trans (h.exact i (by omega))
    · obtain ⟨n, rfl⟩ := Nat.exists_eq_add_of_le (Nat.not_lt.mp hold)
      have hafter : (s.batched k tail).draft.rows (s.draft.position + n) = k.draftRow
          (s.inputs (n + 1)) (s.slots (n + 1)).hidden (s.draft.position + n) :=
        hprepared.after n (by omega)
      rw [hposition, h.loaded (n + 1) (by omega), (h.holds n (by omega)).hidden] at hafter
      rw [Nat.add_assoc, getD_history, take_history]
      exact hafter
  have hkept : (s.batched k tail).draft.position = s.draft.position ∧
      (s.batched k tail).draft.poisoned = s.draft.poisoned ∧
      (s.batched k tail).draft.capacity = s.draft.capacity := by
    simp only [Device.batched, Draft.prepared]
    rw [hprepared.rest]
    exact ⟨rfl, rfl, rfl⟩
  obtain ⟨hposition', hpoisoned, hcapacity'⟩ := hkept
  have hready : (s.batched k tail).draft.Ready limit :=
    ⟨hpoisoned.trans h.ready.draft.healthy, by omega,
      (hprepared.overrun (by omega)).trans h.ready.draft.overrun⟩
  exact { h.toStaging with
    ready := ⟨h.ready.target, hready, h.ready.batched, h.ready.arena⟩
    holds := fun i hi => ⟨(h.holds i hi).memory, (h.holds i hi).hidden, (h.holds i hi).logits⟩
    exact := hexact.mono (by omega)
    seeded := by simp
    inStep := fun _ => ⟨by omega, hunseeded⟩
    unprepared := id
    prepared := fun _ => ⟨rfl, hposition, rfl, ⟨by omega, hwithin⟩, hmaximal, hexact⟩ }

lemma prepareTail_spec (h : Staged k start limit history inputs 1 s) (hlength : 1 < inputs.length) :
    Triple (Exactly s) (prepareTail k)
      (fun _ => Staging k start limit history inputs 1) (Stopped k) := by
  have hrows := h.rowCount
  have hbounds := h.bounds
  have hfits := h.fits
  have hcapacity := h.ready.draft.capacity
  obtain ⟨hposition, hunseeded⟩ := h.inStep Nat.one_pos
  have hposition : s.draft.position = history.length := by omega
  have hunprepared := h.unprepared (h.noTail le_rfl)
  obtain ⟨hle, hwithin, hmaximal⟩ := @validRows_spec S s s.rows 1 (by omega) (by omega)
  rw [prepareTail]
  refine Triple.bind (Triple.step rfl) fun tail => Triple.assume fun htail => ?_
  obtain ⟨valid, hvalid⟩ : ∃ valid, s.validRows s.rows 1 = valid := ⟨_, rfl⟩
  rw [hvalid] at hle hwithin hmaximal
  obtain rfl : valid = tail + 1 := by
    have hpred : tail = valid - 1 := htail.trans (congrArg (· - 1) hvalid)
    omega
  refine Triple.ite (fun hbatch => ?_) fun _ => Triple.ret ?_
  · refine Triple.bind (Triple.step rfl) fun _ => Triple.assume ?_
    rintro rfl
    refine Triple.bind (Triple.step rfl) fun _ => Triple.assume ?_
    rintro rfl
    rw [prepareKvPrefix]
    refine Triple.bind (Triple.bind (Triple.pass ?_) fun _ => Triple.bind (Triple.pass ?_) fun _ =>
      Triple.bind (Triple.pass ?_) fun _ => Triple.bind (kernel_spec ?_) fun _ =>
      Triple.step rfl) fun _ => Triple.assume fun _ => Triple.update ?_
    · rintro _ rfl
      simp [h.ready.draft.healthy]
    · rintro _ rfl
      omega
    · rintro _ rfl ⟨row, hrow, hlarge⟩
      dsimp only at hlarge
      rw [h.loaded (row + 1) (by omega)] at hlarge
      exact absurd (h.vocabulary (row + 1) (by omega)) (Nat.not_lt.mpr hlarge)
    · rintro _ rfl
      exact ⟨h.ready.target.overrun, h.ready.draft.overrun, h.ready.target.log.preserved⟩
    · rintro _ rfl
      exact h.batched (by omega) fun hlt => hmaximal (by omega)
  · rintro _ rfl
    exact h.toStaging

end Preparing

section Committing

variable {k : Kernels S} {start : Live S} {limit c : ℕ} {history inputs : List ℕ} {s : Device S}

-- The draft once row `c` of the round is committed.
structure DraftCommitted (k : Kernels S) (start : Live S) (limit : ℕ) (history inputs : List ℕ)
    (c : ℕ) (s : Device S) (d : Draft S) : Prop where
  ready : d.Ready limit
  position : d.position + 1 = history.length + (c + 1)
  exact : d.Exact k start (history ++ inputs) d.position
  unprepared : s.preparedTailRows = 0 → d.preparedRows = 0
  prepared : s.preparedTailRows ≠ 0 →
    PreparedTail k start history inputs (c + 1) { s with draft := d }

lemma Staging.reused (h : Staging k start limit history inputs 0 s)
    (hseed : s.seedCacheValid = true) (htail : s.preparedTailRows = 0) :
    DraftCommitted k start limit history inputs 0 s s.draft where
  ready := h.ready.draft
  position := by
    rw [h.seeded rfl, hseed]
    rfl
  exact := h.exact
  unprepared := h.unprepared
  prepared := fun hne => absurd htail hne

lemma Staging.prepared_lt (h : Staging k start limit history inputs c s) (hc : c < inputs.length)
    (hcommitted : 0 < c) (hvalid : inputs.getD c 0 = start.next k (history ++ inputs.take c))
    (htail : s.preparedTailRows ≠ 0) : c ≤ s.preparedTailRows := by
  have hprepared := h.prepared htail
  have hwithin := hprepared.within
  by_contra hlt
  obtain rfl : c = s.preparedTailRows + 1 := by omega
  refine hprepared.maximal hc ?_
  rw [h.loaded _ hc, h.predictions _ (by omega), hvalid]

def tailCommitted (rows : ℕ) (d : Draft S) : Draft S :=
  { d with position := d.preparedBegin + rows, preparedCommitted := rows }

lemma Staging.tailCommitted (h : Staging k start limit history inputs c s)
    (hle : c ≤ s.preparedTailRows) (htail : s.preparedTailRows ≠ 0) :
    DraftCommitted k start limit history inputs c s (tailCommitted c s.draft) := by
  have hprepared := h.prepared htail
  have hfirst := hprepared.first
  have hwithin := hprepared.within
  have hexact : (Device.tailCommitted c s.draft).Exact k start (history ++ inputs)
      (history.length + s.preparedTailRows) := hprepared.exact
  exact {
    ready := ⟨h.ready.draft.healthy, h.ready.draft.capacity, h.ready.draft.overrun⟩
    position := by
      change s.draft.preparedBegin + c + 1 = _
      omega
    exact := hexact.mono (by
      change s.draft.preparedBegin + c ≤ _
      omega)
    unprepared := fun hzero => absurd hzero htail
    prepared := fun _ => ⟨hprepared.rows, hfirst, rfl, ⟨by dsimp only; omega, hwithin.2⟩,
      hprepared.maximal, hprepared.exact⟩ }

lemma Staging.appended (h : Staging k start limit history inputs c s) (hc : c < inputs.length)
    (hposition : s.draft.position + 1 = history.length + c) (htail : s.preparedTailRows = 0) :
    DraftCommitted k start limit history inputs c s
      (Draft.appended k (s.inputs c) (s.slots c).hidden s.draft.discardPrepared) := by
  have hfits := h.fits
  have hcapacity := h.ready.draft.capacity
  have hroom : s.draft.position < s.draft.capacity := by omega
  have hwritten := h.ready.draft.writeRow hroom
    (k.draftRow (s.inputs c) (s.slots c).hidden s.draft.position)
  have hhidden : (s.slots c).hidden = (start.row k history inputs c).hidden := by
    cases c with
    | zero => rw [h.entryHidden, Live.row_zero]
    | succ c => exact (h.holds c (by omega)).hidden
  refine ⟨⟨hwritten.healthy, hwritten.capacity, hwritten.overrun⟩, ?_, ?_, fun _ => rfl,
    fun hne => absurd htail hne⟩
  · change s.draft.position + 1 + 1 = _
    omega
  · refine @Draft.Exact.succ S k start _ s.draft.position _ ?_ ?_
    · refine h.exact.congr fun i hi => Function.update_of_ne ?_ _ _
      exact Nat.ne_of_lt hi
    · rw [hposition, getD_history, take_history]
      refine (Function.update_self _ _ _).trans ?_
      rw [h.loaded c hc, hhidden]
      rfl

lemma commitDraftRow_spec (h : Staging k start limit history inputs c s) (hc : c < inputs.length)
    (hfirst : c = 0 → s.preparedTailRows = 0)
    (hvalid : 0 < c → inputs.getD c 0 = start.next k (history ++ inputs.take c)) {t : Target S}
    (ht : t.Ready limit) :
    Triple (Exactly { s with target := t }) (commitDraftRow k (c + 1))
      (fun _ s' => ∃ d, DraftCommitted k start limit history inputs c s d ∧
        s' = { s with target := t, draft := d, seedCacheValid := false }) (Stopped k) := by
  have hentry := h.entry
  have hfits := h.fits
  have hcapacity := h.ready.draft.capacity
  rw [commitDraftRow]
  refine Triple.bind (Triple.step rfl) fun reused => Triple.assume ?_
  rintro rfl
  refine Triple.bind (Triple.step rfl) fun tail => Triple.assume ?_
  rintro rfl
  refine Triple.ite (fun hreused => ?_) fun hreused => ?_
  · obtain ⟨hone, hseed⟩ := of_decide_eq_true hreused
    obtain rfl : c = 0 := by omega
    have hcommitted := h.reused hseed (hfirst rfl)
    have hposition := hcommitted.position
    refine Triple.bind (Triple.pass ?_) fun _ => Triple.update ?_
    · rintro _ rfl
      change ¬ s.draft.position ≠ s.entryPosition
      omega
    · rintro _ rfl
      exact ⟨s.draft, hcommitted, rfl⟩
  · have hunseeded : s.seedCacheValid = false := by
      rcases Nat.eq_zero_or_pos c with rfl | hcommitted
      · simpa using hreused
      · exact (h.inStep hcommitted).2
    have hposition : s.draft.position + 1 = history.length + c := by
      rcases Nat.eq_zero_or_pos c with rfl | hcommitted
      · simpa [hunseeded] using h.seeded rfl
      · exact (h.inStep hcommitted).1
    refine Triple.ite (fun htail => ?_) fun htail => ?_
    · have hcommitted : 0 < c := Nat.pos_of_ne_zero fun hzero => htail (hfirst hzero)
      have hle := h.prepared_lt hc hcommitted (hvalid hcommitted) htail
      have hprepared := h.prepared htail
      rw [commitPreparedKv]
      refine Triple.bind (Triple.pass ?_) fun _ => Triple.update ?_
      · rintro _ rfl
        have hrows := hprepared.rows
        have hbegin := hprepared.first
        have htaken := hprepared.taken
        have hwithin := hprepared.within
        simp only [h.ready.draft.healthy, Bool.false_eq_true, false_or]
        omega
      · rintro _ rfl
        refine ⟨_, h.tailCommitted hle htail, ?_⟩
        rw [← hunseeded]
        rfl
    · rw [not_not] at htail
      have hcommitted := h.appended hc hposition htail
      refine Triple.bind (Triple.step rfl) fun _ => Triple.assume ?_
      rintro rfl
      refine Triple.bind (Triple.step rfl) fun _ => Triple.assume ?_
      rintro rfl
      rw [appendKv]
      refine Triple.bind (Triple.pass ?_) fun _ => Triple.bind (Triple.pass ?_) fun _ =>
        Triple.bind (Triple.step rfl) fun _ => Triple.assume fun _ =>
        Triple.bind (kernel_spec ?_) fun _ => Triple.update ?_
      · rintro _ rfl
        simp [h.ready.draft.healthy]
      · rintro _ rfl
        have htoken := h.vocabulary c hc
        rw [← h.loaded c hc] at htoken
        simp only [Nat.add_sub_cancel]
        omega
      · rintro _ rfl
        exact ⟨ht.overrun, h.ready.draft.overrun, ht.log.preserved⟩
      · rintro _ rfl
        refine ⟨_, hcommitted, ?_⟩
        rw [← hunseeded]
        rfl

-- The target once a slot is copied back, before the runner counts its row.
structure Restored (limit slot : ℕ) (s : Device S) (t : Target S) : Prop where
  ready : t.Ready limit
  framed : Framed s.target t
  cache : t.cache = s.target.cache
  gdn : ∀ j, t.gdn (.slot j) = s.target.gdn (.slot j)
  arena : s.gdnInputs = false → t.gdn .arena = s.target.gdn (.slot slot)
  conv : t.conv = (s.slots slot).conv
  hidden : t.hidden = (s.slots slot).hidden
  logits : t.logits = (s.slots slot).logits
  firstRowRead : ∀ layer, FirstRowRead layer s.target.gdnLog → FirstRowRead layer t.gdnLog

lemma Staging.restored (h : Staging k start limit history inputs c s) (slot : ℕ) :
    Restored limit slot s (s.restored slot).target := by
  have ht := h.ready.target
  cases hmode : s.gdnInputs with
  | true =>
    rw [Device.restored, hmode, if_pos rfl]
    exact ⟨⟨ht.healthy, ht.prefilled, ht.limit, ht.overrun, ⟨ht.log.owner, ht.log.preserved⟩,
      ⟨ht.wired.view⟩, ht.ownable⟩, ⟨rfl, rfl, rfl, rfl, rfl, rfl⟩, rfl, fun _ => rfl,
      fun hfalse => by simp [hmode] at hfalse, rfl, rfl, rfl, fun _ => id⟩
  | false =>
    have hcopied : (s.target.copyGdn (.slot slot) .arena).Ready limit :=
      copyGdn_ready ht fun _ => h.read hmode
    have hslots : ∀ j, (s.target.copyGdn (.slot slot) .arena).gdn (.slot j) =
        s.target.gdn (.slot j) := fun j => copyGdn_of_ne s.target (by simp)
    have harena := copyGdn_self s.target (.slot slot) .arena
    rw [Device.restored, hmode, if_neg Bool.false_ne_true]
    exact ⟨⟨ht.healthy, ht.prefilled, ht.limit, ht.overrun,
      ⟨hcopied.log.owner, hcopied.log.preserved⟩, ⟨ht.wired.view⟩, ht.ownable⟩,
      ⟨rfl, rfl, rfl, rfl, rfl, rfl⟩, rfl, hslots, fun _ => harena, rfl, rfl, rfl, fun _ => id⟩

lemma selectGdnOwner_spec {slot : ℕ} {stopped : Device S → Prop} (hmode : s.gdnInputs = true)
    (hslot : 1 ≤ slot ∧ slot ≤ 4) :
    Triple (Exactly s) (selectGdnOwner (.slot slot))
      (fun _ => Exactly { s with target := s.target.selected s.gdnInputs slot }) stopped := by
  rw [selectGdnOwner]
  refine Triple.bind (Triple.pass ?_) fun _ => Triple.update ?_
  · rintro _ rfl
    simp [hmode, Region.ownable, hslot]
  · rintro _ rfl
    rw [Target.selected, if_pos hmode]
    rfl

-- The target once row `c` of the round is committed.
structure TargetCommitted (k : Kernels S) (start : Live S) (limit : ℕ) (history inputs : List ℕ)
    (c : ℕ) (s : Device S) (t : Target S) : Prop where
  ready : t.Ready limit
  position : t.position = history.length + (c + 1)
  shows : t.Shows (start.row k history inputs (c + 1))
  cache : t.cache = s.target.cache
  gdn : ∀ j, t.gdn (.slot j) = s.target.gdn (.slot j)
  arena : s.gdnInputs = false → t.gdnOwner = .arena
  read : s.gdnInputs = false → ∀ layer < decoderLayerCount, ¬ isFullAttention layer →
    FirstRowRead layer t.gdnLog

lemma Restored.memoryAt {t : Target S} (h : Staging k start limit history inputs c s)
    (hc : c < inputs.length) (ht : Restored limit (c + 1) s t) {region : Region}
    (hregion : t.gdn region = s.target.gdn (.slot (c + 1))) {layer : ℕ}
    (hl : layer < decoderLayerCount) :
    t.memoryAt region (s.entryPosition + (c + 1)) layer =
      (start.row k history inputs (c + 1)).memory layer := by
  rw [← (h.holds c hc).memory layer hl]
  by_cases hfull : isFullAttention layer
  · rw [slotMemory_full _ _ hfull, memoryAt_full _ _ _ hfull, cachedRows, ht.cache]
    rfl
  · rw [slotMemory_linear _ _ hfull, memoryAt_linear _ _ _ hfull, ht.conv, hregion]

lemma Restored.committed {t : Target S} (h : Staging k start limit history inputs c s)
    (hc : c < inputs.length) (ht : Restored limit (c + 1) s t) :
    TargetCommitted k start limit history inputs c s
      { t.selected s.gdnInputs (c + 1) with position := s.entryPosition + (c + 1) } := by
  have hbounds := h.bounds
  have hholds := h.holds c hc
  have hentry := h.entry
  have hready := ht.ready
  rw [Target.selected]
  cases hmode : s.gdnInputs with
  | true =>
    rw [if_pos rfl]
    refine ⟨⟨hready.healthy, hready.prefilled, hready.limit, hready.overrun,
      ⟨rfl, hready.log.preserved⟩, ⟨fun layer hl => if_neg hl⟩, ?_⟩, by dsimp only; omega,
      ⟨fun layer hl => ?_, ht.hidden.trans hholds.hidden, ht.logits.trans hholds.logits⟩, ht.cache,
      ht.gdn, fun hfalse => by simp [hmode] at hfalse, fun hfalse => by simp [hmode] at hfalse⟩
    · simp only [Region.ownable, decide_eq_true_eq]
      omega
    · exact ht.memoryAt h hc (ht.gdn (c + 1)) hl
  | false =>
    rw [if_neg Bool.false_ne_true]
    refine ⟨⟨hready.healthy, hready.prefilled, hready.limit, hready.overrun,
      ⟨hready.log.owner, hready.log.preserved⟩, ⟨hready.wired.view⟩, hready.ownable⟩,
      by dsimp only; omega,
      ⟨fun layer hl => ?_, ht.hidden.trans hholds.hidden, ht.logits.trans hholds.logits⟩, ht.cache,
      ht.gdn, fun _ => ht.framed.gdnOwner.trans (h.ready.arena hmode),
      fun _ layer hl hlinear => ht.firstRowRead layer (h.read hmode layer hl hlinear)⟩
    refine ht.memoryAt h hc ?_ hl
    rw [ht.framed.gdnOwner, h.ready.arena hmode]
    exact ht.arena hmode

lemma Staging.committed {t : Target S} {d : Draft S}
    (h : Staging k start limit history inputs c s)
    (ht : TargetCommitted k start limit history inputs c s t)
    (hd : DraftCommitted k start limit history inputs c s d)
    (hfirst : c = 0 → s.preparedTailRows = 0) :
    Staged k start limit history inputs (c + 1)
      { s with target := t, draft := d, seedCacheValid := false, committed := c + 1 } :=
  { h with
    ready := ⟨ht.ready, hd.ready, h.ready.batched, ht.arena⟩
    committedRows := rfl
    holds := fun i hi => (h.holds i hi).frame rfl (ht.gdn (i + 1)) (by simp [ht.cache]) rfl
    read := ht.read
    position := fun _ => ht.position
    shows := fun _ => ht.shows
    exact := hd.exact
    seeded := by simp
    inStep := fun _ => ⟨hd.position, rfl⟩
    unprepared := hd.unprepared
    prepared := fun hne => by
      have hprepared := hd.prepared hne
      exact ⟨hprepared.rows, hprepared.first, hprepared.taken, hprepared.within,
        hprepared.maximal, hprepared.exact⟩
    noTail := fun hle => hfirst (by omega) }

lemma commitPrefix_spec {pending : ℕ} (h : Staged k start limit history inputs c s)
    (hc : c < inputs.length)
    (hvalid : 0 < c → inputs.getD c 0 = start.next k (history ++ inputs.take c))
    (hpending : pending = start.next k (history ++ inputs.take (c + 1))) :
    Triple (Exactly s) (commitPrefix k (c + 1) pending)
      (fun _ => Staged k start limit history inputs (c + 1)) (Stopped k) := by
  have htail : ∀ hmode : s.multirow = true ∧ c + 1 = 2, Triple (Exactly s) (prepareTail k)
      (fun _ s' => Staging k start limit history inputs c s' ∧ (c = 0 → s'.preparedTailRows = 0))
      (Stopped k) := by
    rintro ⟨-, hrows⟩
    obtain rfl : c = 1 := by omega
    exact (prepareTail_spec h hc).conseq (fun _ h => h) (fun _ _ h => ⟨h, by simp⟩) fun _ h => h
  rw [commitPrefix]
  refine Triple.bind (Triple.pass ?_) fun _ => Triple.bind (Triple.step rfl) fun batched =>
    Triple.assume ?_
  · rintro s rfl
    have hrows := h.rowCount
    have hcommitted := h.committedRows
    have hprediction := h.predictions c hc
    have hmatch : 0 < c → s.inputs c = s.predictions (c - 1) := by
      intro hpos
      rw [h.loaded c hc, h.predictions _ (by omega), hvalid hpos, Nat.sub_add_cancel hpos]
    simp only [h.active, h.verified, Nat.add_sub_cancel, show c + 1 - 2 = c - 1 by omega,
      Bool.true_eq_false, false_or, hprediction, hpending, ne_eq, not_true]
    omega
  rintro rfl
  refine Triple.optional htail ?_ (Triple.bind (launch_spec .commitCopy ?_) fun _ =>
    Triple.ofExactly fun s' hs' => ?_)
  · rintro - _ rfl
    exact ⟨h.toStaging, fun hzero => h.noTail (by omega)⟩
  · exact fun s' hs' => hs'.1.ready.safe
  obtain ⟨hstaging, hfirst⟩ := hs'
  have hbounds := hstaging.bounds
  have hfits := hstaging.fits
  have hentry := hstaging.entry
  have hrestored := hstaging.restored (c + 1)
  have htarget := hrestored.committed hstaging hc
  refine Triple.bind (Triple.step rfl) fun _ => Triple.assume fun _ =>
    Triple.bind (commitDraftRow_spec hstaging hc hfirst hvalid hrestored.ready) fun _ =>
    Triple.ofExactly ?_
  rintro _ ⟨d, hdraft, rfl⟩
  refine Triple.bind (Triple.step rfl) fun _ => Triple.assume ?_
  rintro rfl
  refine Triple.optional (fun hmode => selectGdnOwner_spec hmode (by omega)) (fun hmode => ?_)
    (Triple.bind (Triple.step rfl) fun entry => Triple.assume ?_)
  · rintro _ rfl
    rw [Target.selected, if_neg hmode]
    rfl
  rintro rfl
  rw [setSequenceLength]
  refine Triple.bind (Triple.bind (Triple.pass ?_) fun _ => Triple.step rfl) fun _ =>
    Triple.assume fun _ => Triple.update ?_
  · rintro _ rfl
    have hlimit' : (Target.selected s'.gdnInputs (c + 1)
        (s'.restored (c + 1)).target).maxSequenceLength = limit := htarget.ready.limit
    refine Nat.not_lt.mpr (le_of_le_of_eq ?_ hlimit'.symm)
    change s'.entryPosition + (c + 1) ≤ limit
    omega
  · rintro _ rfl
    exact hstaging.committed htarget hdraft hfirst

end Committing

section Closing

variable {k : Kernels S} {start : Live S} {limit c : ℕ} {history inputs : List ℕ} {s : Device S}

lemma finish_spec (h : Staged k start limit history inputs c s) (hc : 0 < c)
    (hle : c ≤ inputs.length) {stopped : Device S → Prop} :
    Triple (Exactly s) finish (fun _ => Idle k start limit (history ++ inputs.take c)) stopped := by
  have hposition := h.position hc
  have hentry := h.entry
  have hcommitted := h.committedRows
  obtain ⟨hinStep, -⟩ := h.inStep hc
  have hlength : (history ++ inputs.take c).length = history.length + c := by
    simp [hle]
  have hexact := h.exact
  rw [← List.take_append_drop c inputs, ← List.append_assoc,
    Draft.Exact.append_iff (by omega)] at hexact
  rw [finish]
  refine Triple.bind (Triple.pass ?_) fun _ => Triple.update ?_
  · rintro _ rfl
    simp only [h.active, h.verified, Bool.true_eq_false, false_or]
    omega
  · rintro _ rfl
    refine ⟨⟨h.ready.target, ⟨h.ready.draft.healthy, h.ready.draft.capacity,
      h.ready.draft.overrun⟩, h.ready.batched, h.ready.arena⟩, rfl, by omega, ?_, ?_, h.shows hc,
      hexact⟩
    · exact hposition.trans hlength.symm
    · exact hinStep.trans hlength.symm

-- A round that failed: no later round may use either model.
structure Aborted (s : Device S) : Prop where
  safe : s.Safe
  target : s.target.poisoned = true
  draft : s.draft.poisoned = true
  inactive : s.active = false

lemma abort_spec (h : s.Safe) : (abort k s).2.Aborted := ⟨⟨h.target, h.draft, h.preserved⟩, rfl, rfl, rfl⟩

end Closing

end Device

end Qwen3xOrin.Mtp
