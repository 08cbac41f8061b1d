import Mathlib.Tactic

/-! Shared memory of a block of threads that copy into it asynchronously. A thread issues copies,
commits them as a group, and waits until only its last groups are under way; what it waited for the
other threads see after the next barrier. An access that could race fails. -/

namespace Qwen3xOrin.Library

structure Copy (V : Type) where
  owner : ℕ
  group : ℕ
  value : V

-- A location holds the last copy into it; `readers` are those since the last barrier.
structure SharedMemory (V : Type) where
  cells : ℕ → Option (Copy V)
  committed : ℕ → ℕ
  waited : ℕ → ℕ
  visible : ℕ → ℕ
  readers : ℕ → List ℕ

namespace SharedMemory

variable {V : Type}

def empty : SharedMemory V := ⟨fun _ => none, fun _ => 0, fun _ => 0, fun _ => 0, fun _ => []⟩

def landed (s : SharedMemory V) (t : ℕ) (c : Copy V) : Bool :=
  decide (c.group < s.visible c.owner) || (decide (c.owner = t) && decide (c.group < s.waited t))

def readable (s : SharedMemory V) (t a : ℕ) : Bool := (s.cells a).any (s.landed t)

def writable (s : SharedMemory V) (t a : ℕ) : Bool :=
  (s.cells a).all (s.landed t) && (s.readers a).all (· = t)

def issue (t a : ℕ) (v : V) (s : SharedMemory V) : Option (SharedMemory V) :=
  if s.writable t a then
    some { s with cells := Function.update s.cells a (some ⟨t, s.committed t, v⟩) }
  else none

def commit (t : ℕ) (s : SharedMemory V) : SharedMemory V :=
  { s with committed := Function.update s.committed t (s.committed t + 1) }

-- At most `pending` groups of the thread are under way afterwards.
def waitGroup (t pending : ℕ) (s : SharedMemory V) : SharedMemory V :=
  { s with waited := Function.update s.waited t (max (s.waited t) (s.committed t - pending)) }

def barrier (s : SharedMemory V) : SharedMemory V :=
  { s with visible := s.waited, readers := fun _ => [] }

-- The threads of a warp read together, each at its own address.
def load [Inhabited V] (threads : List ℕ) (address : ℕ → ℕ) (s : SharedMemory V) :
    Option ((ℕ → V) × SharedMemory V) :=
  if threads.all fun t => s.readable t (address t) then
    some (fun t => ((s.cells (address t)).map Copy.value).getD default,
      { s with readers := fun a => threads.filter (address · = a) ++ s.readers a })
  else none

def issueAll (t : ℕ) (l : List (ℕ × V)) (s : SharedMemory V) : Option (SharedMemory V) :=
  l.foldlM (fun s p => s.issue t p.1 p.2) s

lemma issueAll_append (t : ℕ) (l l' : List (ℕ × V)) (s : SharedMemory V) :
    s.issueAll t (l ++ l') = (s.issueAll t l).bind fun s => s.issueAll t l' :=
  List.foldlM_append

lemma issueAll_flatMap {α : Type} (t : ℕ) (f : α → List (ℕ × V)) (l : List α)
    (s : SharedMemory V) :
    s.issueAll t (l.flatMap f) = l.foldlM (fun s a => s.issueAll t (f a)) s := by
  induction l generalizing s with
  | nil => rfl
  | cons a l ih =>
    rw [List.flatMap_cons, issueAll_append, List.foldlM_cons]
    exact bind_congr fun s => ih s

section Issue

variable {s s' : SharedMemory V} {t : ℕ} {l : List (ℕ × V)}

-- What a thread's copies leave: their cells are under way and the rest is as it was.
structure Issued (s : SharedMemory V) (t : ℕ) (l : List (ℕ × V)) (s' : SharedMemory V) : Prop where
  copied : ∀ p ∈ l, s'.cells p.1 = some ⟨t, s.committed t, p.2⟩
  kept : ∀ a, (∀ p ∈ l, p.1 ≠ a) → s'.cells a = s.cells a
  committed : s'.committed = s.committed
  waited : s'.waited = s.waited
  visible : s'.visible = s.visible
  readers : s'.readers = s.readers

lemma writable_congr {u a : ℕ} (hcell : s'.cells a = s.cells a) (hwaited : s'.waited = s.waited)
    (hvisible : s'.visible = s.visible) (hreaders : s'.readers = s.readers) :
    s'.writable u a = s.writable u a := by
  have hlanded : s'.landed u = s.landed u := by
    funext c
    rw [landed, landed, hwaited, hvisible]
  rw [writable, writable, hcell, hreaders, hlanded]

lemma issueAll_issued (hnodup : (l.map Prod.fst).Nodup) (hw : ∀ p ∈ l, s.writable t p.1 = true) :
    ∃ s', s.issueAll t l = some s' ∧ Issued s t l s' := by
  induction l generalizing s with
  | nil => exact ⟨s, rfl, fun _ h => absurd h List.not_mem_nil, fun _ _ => rfl, rfl, rfl, rfl, rfl⟩
  | cons p l ih =>
    obtain ⟨hfresh, hnodup⟩ := List.nodup_cons.mp hnodup
    have hne (q : ℕ × V) (hq : q ∈ l) : q.1 ≠ p.1 := fun heq =>
      hfresh (heq ▸ List.mem_map_of_mem hq)
    have hfirst : s.issue t p.1 p.2 = some { s with
        cells := Function.update s.cells p.1 (some ⟨t, s.committed t, p.2⟩) } := by
      rw [issue, if_pos (hw p List.mem_cons_self)]
    obtain ⟨s', hrun, h⟩ := @ih { s with
        cells := Function.update s.cells p.1 (some ⟨t, s.committed t, p.2⟩) } hnodup
      fun q hq => (@writable_congr V s { s with
        cells := Function.update s.cells p.1 (some ⟨t, s.committed t, p.2⟩) } t q.1
          (Function.update_of_ne (hne q hq) _ _) rfl rfl rfl).trans
        (hw q (List.mem_cons_of_mem p hq))
    refine ⟨s', ?_, fun q hq => ?_, fun a ha => ?_, h.committed, h.waited, h.visible, h.readers⟩
    · rw [issueAll, List.foldlM_cons, hfirst]
      exact hrun
    · obtain rfl | hq := List.mem_cons.mp hq
      · rw [h.kept _ hne]
        exact Function.update_self _ _ _
      · exact h.copied q hq
    · rw [h.kept a fun q hq => ha q (List.mem_cons_of_mem p hq)]
      exact Function.update_of_ne (ha p List.mem_cons_self).symm _ _

end Issue

section Block

variable {s s' : SharedMemory V} {threads : List ℕ} {l : ℕ → List (ℕ × V)} {region : ℕ → Prop}
  {owner : ℕ → ℕ} {data : ℕ → V} {committed waited visible group : ℕ}

-- The threads of a block keep step.
structure Counts (threads : List ℕ) (s : SharedMemory V) (committed waited visible : ℕ) : Prop where
  committed : ∀ t ∈ threads, s.committed t = committed
  waited : ∀ t ∈ threads, s.waited t = waited
  visible : ∀ t ∈ threads, s.visible t = visible

-- The copies of the threads cover a region, and each location has one owner.
structure Covers (threads : List ℕ) (l : ℕ → List (ℕ × V)) (region : ℕ → Prop) (owner : ℕ → ℕ)
    (data : ℕ → V) : Prop where
  sound : ∀ t ∈ threads, ∀ p ∈ l t, region p.1 ∧ owner p.1 = t ∧ data p.1 = p.2
  complete : ∀ a, region a → owner a ∈ threads ∧ (a, data a) ∈ l (owner a)
  nodup : ∀ t ∈ threads, ((l t).map Prod.fst).Nodup

def Holds (s : SharedMemory V) (region : ℕ → Prop) (owner : ℕ → ℕ) (group : ℕ) (data : ℕ → V) :
    Prop :=
  ∀ a, region a → s.cells a = some ⟨owner a, group, data a⟩

lemma Holds.congr (h : Holds s region owner group data)
    (hcells : ∀ a, region a → s'.cells a = s.cells a) : Holds s' region owner group data :=
  fun a ha => by rw [hcells a ha, h a ha]

def stageAll (threads : List ℕ) (l : ℕ → List (ℕ × V)) (s : SharedMemory V) :
    Option (SharedMemory V) :=
  threads.foldlM (fun s t => do
    let s ← s.issueAll t (l t)
    pure (s.commit t)) s

structure Staged (threads : List ℕ) (l : ℕ → List (ℕ × V)) (s s' : SharedMemory V) : Prop where
  copied : ∀ t ∈ threads, ∀ p ∈ l t, s'.cells p.1 = some ⟨t, s.committed t, p.2⟩
  kept : ∀ a, (∀ t ∈ threads, ∀ p ∈ l t, p.1 ≠ a) → s'.cells a = s.cells a
  committed : ∀ t ∈ threads, s'.committed t = s.committed t + 1
  others : ∀ t ∉ threads, s'.committed t = s.committed t
  waited : s'.waited = s.waited
  visible : s'.visible = s.visible
  readers : s'.readers = s.readers

lemma stageAll_staged (hthreads : threads.Nodup)
    (hnodup : ∀ t ∈ threads, ((l t).map Prod.fst).Nodup)
    (hapart : ∀ t ∈ threads, ∀ u ∈ threads, t ≠ u → ∀ p ∈ l t, ∀ q ∈ l u, p.1 ≠ q.1)
    (hw : ∀ t ∈ threads, ∀ p ∈ l t, s.writable t p.1 = true) :
    ∃ s', stageAll threads l s = some s' ∧ Staged threads l s s' := by
  induction threads generalizing s with
  | nil =>
    exact ⟨s, rfl, fun _ h => absurd h List.not_mem_nil, fun _ _ => rfl,
      fun _ h => absurd h List.not_mem_nil, fun _ _ => rfl, rfl, rfl, rfl⟩
  | cons t threads ih =>
    obtain ⟨hfresh, hthreads⟩ := List.nodup_cons.mp hthreads
    have htail (u : ℕ) (hu : u ∈ threads) : u ∈ t :: threads := List.mem_cons_of_mem t hu
    have hne (u : ℕ) (hu : u ∈ threads) : u ≠ t := fun heq => hfresh (heq ▸ hu)
    obtain ⟨s₁, hfirst, h₁⟩ := issueAll_issued (hnodup t List.mem_cons_self)
      (hw t List.mem_cons_self)
    have hother (u : ℕ) (hu : u ∈ threads) (p : ℕ × V) (hp : p ∈ l u) :
        s₁.cells p.1 = s.cells p.1 := h₁.kept _ fun q hq =>
      hapart t List.mem_cons_self u (htail u hu) (hne u hu).symm q hq p hp
    obtain ⟨s', hrun, h⟩ := @ih (s₁.commit t) hthreads (fun u hu => hnodup u (htail u hu))
      (fun u hu v hv => hapart u (htail u hu) v (htail v hv))
      fun u hu p hp => (writable_congr (hother u hu p hp) h₁.waited h₁.visible h₁.readers).trans
        (hw u (htail u hu) p hp)
    have hcommit (u : ℕ) (hu : u ≠ t) : (s₁.commit t).committed u = s.committed u := by
      rw [commit, ← h₁.committed]
      exact Function.update_of_ne hu _ _
    refine ⟨s', ?_, fun u hu p hp => ?_, fun a ha => ?_, fun u hu => ?_, fun u hu => ?_,
      h.waited.trans h₁.waited, h.visible.trans h₁.visible, h.readers.trans h₁.readers⟩
    · rw [stageAll, List.foldlM_cons, hfirst]
      exact hrun
    · obtain rfl | hu := List.mem_cons.mp hu
      · rw [h.kept p.1 fun v hv q hq =>
          hapart v (htail v hv) u List.mem_cons_self (hne v hv) q hq p hp]
        exact h₁.copied p hp
      · rw [h.copied u hu p hp, hcommit u (hne u hu)]
    · rw [h.kept a fun u hu => ha u (htail u hu)]
      exact h₁.kept a (ha t List.mem_cons_self)
    · obtain rfl | hu := List.mem_cons.mp hu
      · rw [h.others u hfresh, commit, ← h₁.committed]
        exact Function.update_self _ _ _
      · rw [h.committed u hu, hcommit u (hne u hu)]
    · obtain ⟨hne', hu⟩ := not_or.mp (mt List.mem_cons.mpr hu)
      rw [h.others u hu, hcommit u hne']

-- A stage of a pipeline: every location of the region is copied once.
lemma stageAll_holds (hthreads : threads.Nodup) (hcovers : Covers threads l region owner data)
    (hcounts : Counts threads s committed waited visible)
    (hw : ∀ a, region a → s.writable (owner a) a = true) :
    ∃ s', stageAll threads l s = some s' ∧ Holds s' region owner committed data ∧
      (∀ a, ¬ region a → s'.cells a = s.cells a) ∧
      Counts threads s' (committed + 1) waited visible ∧ s'.readers = s.readers := by
  obtain ⟨s', hrun, h⟩ := @stageAll_staged V s threads l hthreads hcovers.nodup
    (fun t ht u hu hne p hp q hq heq => hne <| by
      rw [← (hcovers.sound t ht p hp).2.1, ← (hcovers.sound u hu q hq).2.1, heq])
    fun t ht p hp => by
      obtain ⟨hregion, hown, -⟩ := hcovers.sound t ht p hp
      rw [← hown]
      exact hw p.1 hregion
  refine ⟨s', hrun, fun a ha => ?_, fun a ha => h.kept a fun t ht p hp heq => ?_,
    ⟨fun t ht => ?_, fun t ht => ?_, fun t ht => ?_⟩, h.readers⟩
  · obtain ⟨hown, hmem⟩ := hcovers.complete a ha
    rw [h.copied _ hown _ hmem, hcounts.committed _ hown]
  · exact ha (heq ▸ (hcovers.sound t ht p hp).1)
  · rw [h.committed t ht, hcounts.committed t ht]
  · rw [h.waited, hcounts.waited t ht]
  · rw [h.visible, hcounts.visible t ht]

def waitAll (threads : List ℕ) (pending : ℕ) (s : SharedMemory V) : SharedMemory V :=
  threads.foldl (fun s t => s.waitGroup t pending) s

lemma waitAll_cells (pending : ℕ) (s : SharedMemory V) :
    (waitAll threads pending s).cells = s.cells := by
  induction threads generalizing s with
  | nil => rfl
  | cons t threads ih => exact ih _

lemma waitAll_fields (pending : ℕ) (s : SharedMemory V) :
    (waitAll threads pending s).committed = s.committed ∧
      (waitAll threads pending s).visible = s.visible ∧
      (waitAll threads pending s).readers = s.readers := by
  induction threads generalizing s with
  | nil => exact ⟨rfl, rfl, rfl⟩
  | cons t threads ih => exact ih _

lemma waitAll_waited (hthreads : threads.Nodup) (pending : ℕ) (s : SharedMemory V) (t : ℕ) :
    (waitAll threads pending s).waited t =
      if t ∈ threads then max (s.waited t) (s.committed t - pending) else s.waited t := by
  induction threads generalizing s with
  | nil => rfl
  | cons u threads ih =>
    obtain ⟨hfresh, hthreads⟩ := List.nodup_cons.mp hthreads
    refine (ih hthreads (s.waitGroup u pending)).trans ?_
    by_cases htu : t = u
    · subst htu
      rw [if_neg hfresh, if_pos List.mem_cons_self]
      exact Function.update_self _ _ _
    · have hsame : (s.waitGroup u pending).waited t = s.waited t := Function.update_of_ne htu _ _
      rw [hsame]
      simp only [List.mem_cons, htu, false_or]
      rfl

lemma waitAll_counts (hthreads : threads.Nodup)
    (hcounts : Counts threads s committed waited visible) (pending : ℕ) :
    Counts threads (waitAll threads pending s) committed (max waited (committed - pending))
      visible := by
  obtain ⟨hcommitted, hvisible, -⟩ := @waitAll_fields V threads pending s
  refine ⟨fun t ht => ?_, fun t ht => ?_, fun t ht => ?_⟩
  · rw [hcommitted, hcounts.committed t ht]
  · rw [waitAll_waited hthreads, if_pos ht, hcounts.waited t ht, hcounts.committed t ht]
  · rw [hvisible, hcounts.visible t ht]

lemma barrier_counts (hcounts : Counts threads s committed waited visible) :
    Counts threads s.barrier committed waited waited :=
  ⟨hcounts.committed, hcounts.waited, hcounts.waited⟩

-- What every thread has waited for, all of them may read, and overwrite while nobody reads it.
lemma Holds.readable (h : Holds s region owner group data)
    (hcounts : Counts threads s committed waited visible) (hgroup : group < visible) {a : ℕ}
    (ha : region a) (howner : owner a ∈ threads) (t : ℕ) : s.readable t a = true := by
  rw [SharedMemory.readable, h a ha, Option.any_some, landed]
  simp [hcounts.visible _ howner, hgroup]

lemma Holds.writable (h : Holds s region owner group data)
    (hcounts : Counts threads s committed waited visible) (hgroup : group < visible) {a : ℕ}
    (ha : region a) (howner : owner a ∈ threads) (hreaders : s.readers a = []) (t : ℕ) :
    s.writable t a = true := by
  rw [SharedMemory.writable, h a ha, hreaders, Option.all_some, landed]
  simp [hcounts.visible _ howner, hgroup]

lemma writable_none {t a : ℕ} (hcell : s.cells a = none) (hreaders : s.readers a = []) :
    s.writable t a = true := by
  rw [writable, hcell, hreaders]
  rfl

-- The copies into a region come from the threads and from groups below a bound.
def Within (threads : List ℕ) (s : SharedMemory V) (region : ℕ → Prop) (bound : ℕ) : Prop :=
  ∀ a, region a → ∀ c, s.cells a = some c → c.owner ∈ threads ∧ c.group < bound

lemma Holds.within (h : Holds s region owner group data)
    (howner : ∀ a, region a → owner a ∈ threads) : Within threads s region (group + 1) :=
  fun a ha c hc => by
    rw [h a ha] at hc
    cases hc
    exact ⟨howner a ha, Nat.lt_succ_self group⟩

lemma Within.writable (h : Within threads s region visible)
    (hcounts : Counts threads s committed waited visible) {a : ℕ} (ha : region a)
    (hreaders : s.readers a = []) (t : ℕ) : s.writable t a = true := by
  cases hc : s.cells a with
  | none => exact writable_none hc hreaders
  | some c =>
    obtain ⟨howner, hgroup⟩ := h a ha c hc
    rw [SharedMemory.writable, hc, hreaders, Option.all_some, landed]
    simp [hcounts.visible _ howner, hgroup]

lemma Holds.load [Inhabited V] (h : Holds s region owner group data)
    (hcounts : Counts threads s committed waited visible) (hgroup : group < visible)
    (howner : ∀ a, region a → owner a ∈ threads) {readers : List ℕ} {address : ℕ → ℕ}
    (haddress : ∀ t ∈ readers, region (address t)) :
    ∃ values s', s.load readers address = some (values, s') ∧
      (∀ t ∈ readers, values t = data (address t)) ∧ s'.cells = s.cells ∧
      Counts threads s' committed waited visible := by
  have hall : readers.all (fun t => s.readable t (address t)) = true :=
    List.all_eq_true.mpr fun t ht =>
      h.readable hcounts hgroup (haddress t ht) (howner _ (haddress t ht)) t
  refine ⟨fun t => ((s.cells (address t)).map Copy.value).getD default,
    { s with readers := fun a => readers.filter (address · = a) ++ s.readers a },
    by rw [SharedMemory.load, if_pos hall], fun t ht => ?_, rfl, hcounts.committed, hcounts.waited,
    hcounts.visible⟩
  dsimp only
  rw [h _ (haddress t ht)]
  rfl

end Block

end SharedMemory

end Qwen3xOrin.Library
