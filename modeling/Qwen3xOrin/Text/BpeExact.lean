import Qwen3xOrin.Text.Bpe

/-! The piece encoder computes the reference procedure. The live nodes are linked in index order,
and every live adjacent pair that has a rule waits in the queue with its current generations. -/

namespace Qwen3xOrin.Text

open Library

section Chain

-- The indices are linked in the given order, after the node `prev`.
def Chain (nodes : List BpeNode) : Option ℕ → List ℕ → Prop
  | _, [] => True
  | prev, i :: s =>
    (bpeNode nodes i).previous = prev ∧ (bpeNode nodes i).next = s.head? ∧ Chain nodes (some i) s

variable {nodes nodes' : List BpeNode}

lemma Chain.congr {ix : List ℕ} {prev : Option ℕ}
    (h : ∀ k ∈ ix, (bpeNode nodes' k).previous = (bpeNode nodes k).previous ∧
      (bpeNode nodes' k).next = (bpeNode nodes k).next) (hc : Chain nodes prev ix) :
    Chain nodes' prev ix := by
  induction ix generalizing prev with
  | nil => trivial
  | cons i s ih =>
    obtain ⟨hprev, hnext, hrest⟩ := hc
    obtain ⟨hp, hn⟩ := h i List.mem_cons_self
    exact ⟨hp.trans hprev, hn.trans hnext, ih (fun k hk => h k (List.mem_cons_of_mem i hk)) hrest⟩

lemma Chain.at {p s : List ℕ} {i : ℕ} {prev : Option ℕ} (h : Chain nodes prev (p ++ i :: s)) :
    (bpeNode nodes i).previous = (p.getLast?.or prev) ∧ (bpeNode nodes i).next = s.head? := by
  induction p generalizing prev with
  | nil => exact ⟨h.1, h.2.1⟩
  | cons k p ih =>
    obtain ⟨hprev, hnext⟩ := ih h.2.2
    refine ⟨hprev.trans ?_, hnext⟩
    cases p with
    | nil => rfl
    | cons m p => simp [List.getLast?_cons]

end Chain

variable {data : EncoderData} {queues : CandidateQueue}

structure BpeInvariant (data : EncoderData) (queues : CandidateQueue) (nodes : List BpeNode)
    (queue : queues.State) (ix : List ℕ) : Prop where
  head : ix.head? = some 0
  sorted : ix.Pairwise (· < ·)
  bound : ∀ i ∈ ix, i < nodes.length
  alive : ∀ i < nodes.length, (bpeNode nodes i).alive = true ↔ i ∈ ix
  chain : Chain nodes none ix
  pending : ∀ p i j s, ix = p ++ i :: j :: s → ∀ rule,
    data.merges (pairKey (bpeNode nodes i).tokenId (bpeNode nodes j).tokenId) = some rule →
    BpeCandidate.mk rule.rank i j (bpeNode nodes i).generation (bpeNode nodes j).generation ∈
      queues.contents queue
  inside : ∀ c ∈ queues.contents queue, c.left < nodes.length ∧ c.right < nodes.length

def tokensAt (nodes : List BpeNode) (ix : List ℕ) : List ℕ :=
  ix.map fun i => (bpeNode nodes i).tokenId

lemma before_of_length_lt {ix p p' s s' : List ℕ} {i i' : ℕ} (hsorted : ix.Pairwise (· < ·))
    (h : ix = p ++ i :: s) (h' : ix = p' ++ i' :: s') (hlt : p'.length < p.length) : i' < i := by
  have hi : ix[p.length]? = some i := by simp [h]
  have hi' : ix[p'.length]? = some i' := by simp [h']
  obtain ⟨hn, hget⟩ := List.getElem?_eq_some_iff.mp hi
  obtain ⟨hn', hget'⟩ := List.getElem?_eq_some_iff.mp hi'
  rw [← hget, ← hget']
  exact List.pairwise_iff_getElem.mp hsorted _ _ hn' hn hlt

section Candidates

variable {nodes : List BpeNode} {queue : queues.State}

lemma addCandidate_keeps {c : BpeCandidate} (hc : c ∈ queues.contents queue) (left : Option ℕ) :
    c ∈ queues.contents (addCandidate data queues nodes queue left) := by
  unfold addCandidate
  split
  · exact hc
  split_ifs
  · exact hc
  split
  · exact hc
  split
  · exact hc
  rw [queues.contents_push]
  exact Multiset.mem_cons_of_mem hc

lemma addCandidate_adds {i j : ℕ} {rule : MergeRule} (halive : (bpeNode nodes i).alive = true)
    (hnext : (bpeNode nodes i).next = some j)
    (hrule : data.merges (pairKey (bpeNode nodes i).tokenId (bpeNode nodes j).tokenId) =
      some rule) :
    BpeCandidate.mk rule.rank i j (bpeNode nodes i).generation (bpeNode nodes j).generation ∈
      queues.contents (addCandidate data queues nodes queue (some i)) := by
  simp only [addCandidate, halive, hnext, hrule, Bool.true_eq_false, if_false]
  rw [queues.contents_push]
  exact Multiset.mem_cons_self _ _

lemma addCandidate_card (left : Option ℕ) :
    (queues.contents (addCandidate data queues nodes queue left)).card ≤
      (queues.contents queue).card + 1 := by
  unfold addCandidate
  split
  · omega
  split_ifs
  · omega
  split
  · omega
  split
  · omega
  rw [queues.contents_push, Multiset.card_cons]

lemma addCandidate_inside {left : Option ℕ}
    (h : ∀ c ∈ queues.contents queue, c.left < nodes.length ∧ c.right < nodes.length)
    (hleft : ∀ i, left = some i → i < nodes.length)
    (hnext : ∀ i j, left = some i → (bpeNode nodes i).next = some j → j < nodes.length) :
    ∀ c ∈ queues.contents (addCandidate data queues nodes queue left),
      c.left < nodes.length ∧ c.right < nodes.length := by
  unfold addCandidate
  split
  · exact h
  rename_i i
  split_ifs
  · exact h
  split
  · exact h
  rename_i j hj
  split
  · exact h
  intro c hc
  rw [queues.contents_push] at hc
  obtain rfl | hc := Multiset.mem_cons.mp hc
  · exact ⟨hleft i rfl, hnext i j rfl hj⟩
  · exact h c hc

end Candidates

namespace BpeInvariant

variable {nodes : List BpeNode} {queue : queues.State} {ix : List ℕ}

lemma nodup (h : BpeInvariant data queues nodes queue ix) : ix.Nodup :=
  h.sorted.imp fun hlt => Nat.ne_of_lt hlt

lemma next_mem (h : BpeInvariant data queues nodes queue ix) {i j : ℕ} (hi : i ∈ ix)
    (hj : (bpeNode nodes i).next = some j) : ∃ p s, ix = p ++ i :: j :: s := by
  obtain ⟨p, s, hsplit⟩ := List.append_of_mem hi
  obtain ⟨-, hnext⟩ := Chain.at (hsplit ▸ h.chain)
  rw [hj] at hnext
  cases s with
  | nil => cases hnext
  | cons k s =>
    obtain rfl := Option.some.inj hnext
    exact ⟨p, s, hsplit⟩

-- A candidate that is dropped is none of those that must wait.
lemma drop (h : BpeInvariant data queues nodes queue ix) {queue' : queues.State}
    {c : BpeCandidate} (hpop : queues.pop queue = some (c, queue'))
    (hstale : ∀ p i j s rule, ix = p ++ i :: j :: s →
      data.merges (pairKey (bpeNode nodes i).tokenId (bpeNode nodes j).tokenId) = some rule →
      c ≠ ⟨rule.rank, i, j, (bpeNode nodes i).generation, (bpeNode nodes j).generation⟩) :
    BpeInvariant data queues nodes queue' ix := by
  have hcontents := queues.contents_pop _ _ _ hpop
  refine { h with pending := ?_, inside := ?_ }
  · intro p i j s hsplit rule hrule
    have hmem := h.pending p i j s hsplit rule hrule
    rw [hcontents] at hmem
    exact (Multiset.mem_cons.mp hmem).resolve_left
      (fun heq => hstale p i j s rule hsplit hrule heq.symm)
  · intro d hd
    exact h.inside d (hcontents ▸ Multiset.mem_cons_of_mem hd)

-- The popped pair is the leftmost one of lowest rank.
lemma lowest (h : BpeInvariant data queues nodes queue ix) {queue' : queues.State}
    {c : BpeCandidate} (hpop : queues.pop queue = some (c, queue')) {p s : List ℕ}
    (hsplit : ix = p ++ c.left :: c.right :: s) {rule : MergeRule}
    (hrule : data.merges (pairKey (bpeNode nodes c.left).tokenId
      (bpeNode nodes c.right).tokenId) = some rule) (hrank : rule.rank = c.rank) :
    mergeLowest (bpeRule data) (tokensAt nodes ix) =
      some (tokensAt nodes p ++ rule.resultId :: tokensAt nodes s) := by
  have hcontents := queues.contents_pop _ _ _ hpop
  refine mergeLowest_eq (r := rule.rank) (a := (bpeNode nodes c.left).tokenId)
    (b := (bpeNode nodes c.right).tokenId) ?_ ?_ ?_
  · rw [hsplit, tokensAt, List.map_append]
    rfl
  · rw [bpeRule, hrule]
    rfl
  · intro p' a' b' s' r' d hl' hrule'
    obtain ⟨q, rest, hq, rfl, hrest⟩ := List.map_eq_append_iff.mp hl'
    obtain ⟨i, others, rfl, rfl, hothers⟩ := List.map_eq_cons_iff.mp hrest
    obtain ⟨j, t, rfl, rfl, rfl⟩ := List.map_eq_cons_iff.mp hothers
    rw [bpeRule, Option.map_eq_some_iff] at hrule'
    obtain ⟨other, hother, heq⟩ := hrule'
    have hrank' : other.rank = r' := congrArg Prod.fst heq
    have hmem := h.pending q i j t hq other hother
    have hfirst : candidateLater c
        ⟨other.rank, i, j, (bpeNode nodes i).generation, (bpeNode nodes j).generation⟩ = false := by
      rw [hcontents] at hmem
      obtain hself | hmem := Multiset.mem_cons.mp hmem
      · rw [← hself]
        simp [candidateLater]
      · exact queues.first _ _ _ hpop _ hmem
    simp only [candidateLater] at hfirst
    split_ifs at hfirst with hne
    · have hge := of_decide_eq_false hfirst
      omega
    · have hge := of_decide_eq_false hfirst
      refine .inr ⟨by omega, ?_⟩
      rw [tokensAt, List.length_map, List.length_map]
      by_contra hlt
      have := before_of_length_lt h.sorted hsplit hq (by omega)
      omega

end BpeInvariant

-- Where a merge changes the nodes.
structure Merged (nodes nodes' : List BpeNode) (p : List ℕ) (i j : ℕ) (s : List ℕ)
    (result : ℕ) : Prop where
  length : nodes'.length = nodes.length
  before : ∀ k ∈ p, bpeNode nodes' k = bpeNode nodes k
  after : ∀ k ∈ s, (bpeNode nodes' k).tokenId = (bpeNode nodes k).tokenId ∧
    (bpeNode nodes' k).generation = (bpeNode nodes k).generation ∧
    (bpeNode nodes' k).next = (bpeNode nodes k).next
  first : ∀ k, s.head? = some k → (bpeNode nodes' k).previous = some i
  later : ∀ k ∈ s.tail, (bpeNode nodes' k).previous = (bpeNode nodes k).previous
  token : (bpeNode nodes' i).tokenId = result
  previous : (bpeNode nodes' i).previous = (bpeNode nodes i).previous
  next : (bpeNode nodes' i).next = s.head?
  alive : ∀ k, (bpeNode nodes' k).alive =
    if k = j then false else (bpeNode nodes k).alive

lemma Merged.chain {nodes nodes' : List BpeNode} {p s : List ℕ} {i j result : ℕ}
    (h : Merged nodes nodes' p i j s result) {prev : Option ℕ}
    (hc : Chain nodes prev (p ++ i :: j :: s)) : Chain nodes' prev (p ++ i :: s) := by
  obtain ⟨length, before, after, first, later, token, previous, next, alive⟩ := h
  induction p generalizing prev with
  | nil =>
    obtain ⟨hprev, -, -, -, hrest⟩ := hc
    refine ⟨previous.trans hprev, next, ?_⟩
    cases s with
    | nil => trivial
    | cons k s =>
      obtain ⟨-, hnext, hrest⟩ := hrest
      refine ⟨first k rfl, ((after k List.mem_cons_self).2.2).trans hnext, hrest.congr ?_⟩
      intro m hm
      exact ⟨later m hm, (after m (List.mem_cons_of_mem k hm)).2.2⟩
  | cons k p ih =>
    obtain ⟨hprev, hnext, hrest⟩ := hc
    rw [← before k List.mem_cons_self] at hprev hnext
    refine ⟨hprev, hnext.trans ?_, ih hrest fun m hm => before m (List.mem_cons_of_mem k hm)⟩
    cases p <;> rfl

namespace BpeInvariant

variable {nodes : List BpeNode} {queue : queues.State} {ix : List ℕ}

lemma merged (h : BpeInvariant data queues nodes queue ix) {p s : List ℕ} {i j : ℕ}
    (hsplit : ix = p ++ i :: j :: s) (rule : MergeRule) :
    Merged nodes (mergeNodes nodes i j rule) p i j s rule.resultId := by
  have hnodup := h.nodup
  rw [hsplit, List.nodup_append, List.nodup_cons, List.nodup_cons] at hnodup
  obtain ⟨-, ⟨hi, hj, hs⟩, hapart⟩ := hnodup
  rw [List.mem_cons, not_or] at hi
  have hbefore : ∀ k ∈ p, k ≠ i ∧ k ≠ j ∧ k ∉ s := by
    intro k hk
    refine ⟨hapart k hk i (by simp), hapart k hk j (by simp), fun hks => ?_⟩
    exact hapart k hk k (by simp [hks]) rfl
  have hnext : (bpeNode nodes j).next = s.head? :=
    (Chain.at (p := p ++ [i]) (by simpa [hsplit] using h.chain)).2
  have hhead : ∀ k, s.head? = some k → k ∈ s := fun k hk => List.mem_of_head? hk
  have hbound : ∀ k ∈ i :: j :: s, k < nodes.length := fun k hk =>
    h.bound k (hsplit ▸ List.mem_append_right p hk)
  have hnode := bpeNode_mergeNodes (hbound i (by simp)) (hbound j (by simp)) hi.1 rule
    (fun k hk => by
      have hks := hhead k (hnext ▸ hk)
      refine ⟨hbound k (by simp [hks]), ?_, ?_⟩
      · rintro rfl
        exact hi.2 hks
      · rintro rfl
        exact hj hks)
  rw [hnext] at hnode
  refine
    { length := mergeNodes_length _ _ _ _
      before := ?_
      after := ?_
      first := ?_
      later := ?_
      token := by rw [hnode, if_pos rfl]
      previous := by rw [hnode, if_pos rfl]
      next := by rw [hnode, if_pos rfl]
      alive := ?_ }
  · intro k hk
    obtain ⟨hki, hkj, hks⟩ := hbefore k hk
    rw [hnode, if_neg hki, if_neg hkj, if_neg fun hh => hks (hhead k hh)]
  · intro k hk
    have hki : k ≠ i := fun he => hi.2 (he ▸ hk)
    have hkj : k ≠ j := fun he => hj (he ▸ hk)
    rw [hnode, if_neg hki, if_neg hkj]
    split_ifs <;> exact ⟨rfl, rfl, rfl⟩
  · intro k hk
    have hks := hhead k hk
    have hki : k ≠ i := fun he => hi.2 (he ▸ hks)
    have hkj : k ≠ j := fun he => hj (he ▸ hks)
    rw [hnode, if_neg hki, if_neg hkj, if_pos hk]
  · intro k hk
    have hks := List.mem_of_mem_tail hk
    have hki : k ≠ i := fun he => hi.2 (he ▸ hks)
    have hkj : k ≠ j := fun he => hj (he ▸ hks)
    rw [hnode, if_neg hki, if_neg hkj, if_neg]
    intro hh
    cases s with
    | nil => cases hh
    | cons m s =>
      obtain rfl := Option.some.inj hh
      exact (List.nodup_cons.mp hs).1 hk
  · intro k
    rw [hnode]
    by_cases hki : k = i
    · subst hki
      rw [if_pos rfl, if_neg hi.1]
    · rw [if_neg hki]
      by_cases hkj : k = j
      · rw [if_pos hkj, if_pos hkj]
      · rw [if_neg hkj, if_neg hkj]
        split_ifs <;> rfl

-- Adjacent live nodes after a merge, neither of them the merged one, were adjacent before it.
lemma adjacent_before {p s p' s' : List ℕ} {i j a b : ℕ}
    (h : p ++ i :: s = p' ++ a :: b :: s') (ha : a ≠ i) (hb : b ≠ i) :
    ∃ q t, p ++ i :: j :: s = q ++ a :: b :: t ∧ (a ∈ p ∧ b ∈ p ∨ a ∈ s ∧ b ∈ s) := by
  obtain ⟨m, rfl, hm⟩ | ⟨m, rfl, hm⟩ := List.append_eq_append_iff.mp h
  · cases m with
    | nil =>
      rw [List.nil_append, List.cons.injEq] at hm
      exact absurd hm.1.symm ha
    | cons k m =>
      rw [List.cons_append, List.cons.injEq] at hm
      obtain ⟨rfl, rfl⟩ := hm
      exact ⟨p ++ i :: j :: m, s', by simp, .inr ⟨by simp, by simp⟩⟩
  · match m, hm with
    | [], hm =>
      rw [List.nil_append, List.cons.injEq] at hm
      exact absurd hm.1 ha
    | [k], hm =>
      simp only [List.cons_append, List.nil_append, List.cons.injEq] at hm
      exact absurd hm.2.1 hb
    | k :: n :: m, hm =>
      simp only [List.cons_append, List.cons.injEq] at hm
      obtain ⟨rfl, rfl, rfl⟩ := hm
      exact ⟨p', m ++ i :: j :: s, by simp, .inl ⟨by simp, by simp⟩⟩

lemma merge (h : BpeInvariant data queues nodes queue ix) {queue' : queues.State}
    {c : BpeCandidate} (hpop : queues.pop queue = some (c, queue')) {p s : List ℕ}
    (hsplit : ix = p ++ c.left :: c.right :: s) (rule : MergeRule) :
    BpeInvariant data queues (mergeNodes nodes c.left c.right rule)
      (addCandidate data queues (mergeNodes nodes c.left c.right rule)
        (addCandidate data queues (mergeNodes nodes c.left c.right rule) queue'
          (bpeNode (mergeNodes nodes c.left c.right rule) c.left).previous) (some c.left))
      (p ++ c.left :: s) := by
  have hm := h.merged hsplit rule
  have hcontents := queues.contents_pop _ _ _ hpop
  set nodes' := mergeNodes nodes c.left c.right rule with hnodes'
  have hchain : Chain nodes' none (p ++ c.left :: s) := hm.chain (hsplit ▸ h.chain)
  have hsub : ∀ k ∈ p ++ c.left :: s, k ∈ ix := by
    intro k hk
    rw [hsplit]
    simp only [List.mem_append, List.mem_cons] at hk ⊢
    tauto
  have hnodup := h.nodup
  rw [hsplit, List.nodup_append, List.nodup_cons, List.nodup_cons] at hnodup
  obtain ⟨-, ⟨hi, hj, -⟩, hapart⟩ := hnodup
  have hright : c.right ∉ p ++ c.left :: s := by
    rw [List.mem_append, List.mem_cons]
    rintro (hk | hk | hk)
    · exact hapart _ hk c.right (by simp) rfl
    · exact hi (by simp [hk])
    · exact hj hk
  have halive : ∀ k < nodes.length, (bpeNode nodes' k).alive = true ↔ k ∈ p ++ c.left :: s := by
    intro k hk
    rw [hm.alive]
    by_cases hkr : k = c.right
    · subst hkr
      simp only [if_true, Bool.false_eq_true, false_iff]
      exact hright
    · rw [if_neg hkr, h.alive k hk, hsplit]
      simp only [List.mem_append, List.mem_cons, hkr, false_or]
  have hbound : ∀ k ∈ p ++ c.left :: s, k < nodes'.length := fun k hk =>
    hm.length ▸ h.bound k (hsub k hk)
  have hprev : (bpeNode nodes' c.left).previous = p.getLast? := by
    rw [hchain.at.1, Option.or_none]
  have hmemPrev : ∀ k, p.getLast? = some k → k ∈ p := fun k hk => List.mem_of_getLast? hk
  have hnextBound : ∀ k ∈ p ++ c.left :: s, ∀ m, (bpeNode nodes' k).next = some m →
      m < nodes'.length := by
    intro k hk m hkm
    obtain ⟨q, t, hqt⟩ := List.append_of_mem hk
    have hnext := (Chain.at (hqt ▸ hchain)).2
    rw [hkm] at hnext
    exact hbound m (hqt ▸ by simp [List.mem_of_head? hnext.symm])
  refine
    { head := ?_
      sorted := ?_
      bound := hbound
      alive := fun k hk => halive k (hm.length ▸ hk)
      chain := hchain
      pending := ?_
      inside := ?_ }
  · have hhead := h.head
    rw [hsplit] at hhead
    cases p <;> exact hhead
  · refine h.sorted.sublist ?_
    rw [hsplit]
    exact ((List.sublist_cons_self c.right s).cons_cons c.left).append_left p
  · intro p' a b s' hab other hother
    have hadjacent := (Chain.at (hab ▸ hchain)).2
    by_cases ha : a = c.left
    · subst ha
      exact addCandidate_adds ((halive _ (hm.length ▸ hbound _ (by simp))).mpr (by simp)) hadjacent
        hother
    refine addCandidate_keeps ?_ _
    by_cases hb : b = c.left
    · subst hb
      have hlast : (bpeNode nodes' c.left).previous = some a := by
        have hat := (Chain.at (p := p' ++ [a]) (s := s') (i := c.left)
          (by simpa [hab] using hchain)).1
        simpa using hat
      rw [hlast]
      have hmem : a ∈ p ++ c.left :: s := hab ▸ by simp
      exact addCandidate_adds ((halive _ (hm.length ▸ hbound _ hmem)).mpr hmem) hadjacent hother
    · refine addCandidate_keeps ?_ _
      obtain ⟨q, t, hqt, hside⟩ := adjacent_before (j := c.right) hab ha hb
      have hsame : ∀ k, k ∈ p ∨ k ∈ s → (bpeNode nodes' k).tokenId = (bpeNode nodes k).tokenId ∧
          (bpeNode nodes' k).generation = (bpeNode nodes k).generation := by
        rintro k (hk | hk)
        · rw [hm.before k hk]
          exact ⟨rfl, rfl⟩
        · exact ⟨(hm.after k hk).1, (hm.after k hk).2.1⟩
      obtain ⟨hta, hga⟩ := hsame a (by tauto)
      obtain ⟨htb, hgb⟩ := hsame b (by tauto)
      rw [hta, htb] at hother
      have hmem := h.pending q a b t (hsplit.trans hqt) other hother
      rw [hcontents] at hmem
      rw [hga, hgb]
      refine (Multiset.mem_cons.mp hmem).resolve_left fun heq => ha ?_
      exact congrArg BpeCandidate.left heq
  · refine addCandidate_inside (addCandidate_inside ?_ ?_ ?_) ?_ ?_
    · intro d hd
      rw [hm.length]
      exact h.inside d (hcontents ▸ Multiset.mem_cons_of_mem hd)
    · intro k hk
      exact hbound k (List.mem_append_left _ (hmemPrev k (hprev ▸ hk)))
    · intro k m hk hkm
      exact hnextBound k (List.mem_append_left _ (hmemPrev k (hprev ▸ hk))) m hkm
    · intro k hk
      obtain rfl := Option.some.inj hk
      exact hbound _ (by simp)
    · intro k m hk hkm
      obtain rfl := Option.some.inj hk
      exact hnextBound _ (by simp) m hkm

end BpeInvariant

lemma Merged.tokens {nodes nodes' : List BpeNode} {p s : List ℕ} {i j result : ℕ}
    (h : Merged nodes nodes' p i j s result) :
    tokensAt nodes' (p ++ i :: s) = tokensAt nodes p ++ result :: tokensAt nodes s := by
  rw [tokensAt, List.map_append, List.map_cons, h.token]
  have hp : p.map (fun k => (bpeNode nodes' k).tokenId) = tokensAt nodes p :=
    List.map_congr_left fun k hk => by rw [h.before k hk]
  have hs : s.map (fun k => (bpeNode nodes' k).tokenId) = tokensAt nodes s :=
    List.map_congr_left fun k hk => (h.after k hk).1
  rw [hp, hs]

section Run

variable {nodes nodes' : List BpeNode} {queue queue' : queues.State} {ix : List ℕ}

-- One pop drops a candidate, or it makes the merge of the reference procedure.
lemma bpeStep_spec (h : BpeInvariant data queues nodes queue ix)
    (hstep : bpeStep data queues nodes queue = some (nodes', queue')) :
    (nodes' = nodes ∧ BpeInvariant data queues nodes queue' ix ∧
      (queues.contents queue').card + 1 = (queues.contents queue).card) ∨
    ∃ ix', BpeInvariant data queues nodes' queue' ix' ∧ ix'.length + 1 = ix.length ∧
      nodes'.length = nodes.length ∧
      mergeLowest (bpeRule data) (tokensAt nodes ix) = some (tokensAt nodes' ix') ∧
      (queues.contents queue').card ≤ (queues.contents queue).card + 1 := by
  cases hpop : queues.pop queue with
  | none =>
    simp only [bpeStep, hpop] at hstep
    cases hstep
  | some entry =>
    obtain ⟨c, rest⟩ := entry
    have hcontents := queues.contents_pop _ _ _ hpop
    have hcard : (queues.contents rest).card + 1 = (queues.contents queue).card := by
      rw [hcontents, Multiset.card_cons]
    obtain ⟨hleft, hright⟩ := h.inside c (hcontents ▸ Multiset.mem_cons_self _ _)
    simp only [bpeStep, hpop] at hstep
    split_ifs at hstep with hstale
    · obtain ⟨rfl, rfl⟩ := Prod.mk.inj (Option.some.inj hstep)
      refine .inl ⟨rfl, h.drop hpop ?_, hcard⟩
      rintro p i j s rule hsplit - rfl
      have hi : i ∈ ix := hsplit ▸ by simp
      have hj : j ∈ ix := hsplit ▸ by simp
      have hnext := (Chain.at (hsplit ▸ h.chain)).2
      simp [(h.alive i hleft).mpr hi, (h.alive j hright).mpr hj, hnext] at hstale
    · push Not at hstale
      obtain ⟨halive, -, hnext, -, -⟩ := hstale
      have hmem : c.left ∈ ix := (h.alive _ hleft).mp (by simpa using halive)
      obtain ⟨p, s, hsplit⟩ := h.next_mem hmem hnext
      have hdrop : ∀ rule, data.merges (pairKey (bpeNode nodes c.left).tokenId
          (bpeNode nodes c.right).tokenId) = some rule → rule.rank ≠ c.rank →
          BpeInvariant data queues nodes rest ix := by
        intro rule hrule hrank
        refine h.drop hpop ?_
        rintro p i j s other - hother rfl
        rw [hrule] at hother
        exact hrank (congrArg MergeRule.rank (Option.some.inj hother))
      cases hrule : data.merges (pairKey (bpeNode nodes c.left).tokenId
          (bpeNode nodes c.right).tokenId) with
      | none =>
        simp only [hrule] at hstep
        obtain ⟨rfl, rfl⟩ := Prod.mk.inj (Option.some.inj hstep)
        refine .inl ⟨rfl, h.drop hpop ?_, hcard⟩
        rintro p i j s other - hother rfl
        rw [hrule] at hother
        cases hother
      | some rule =>
        simp only [hrule] at hstep
        split_ifs at hstep with hrank
        · obtain ⟨rfl, rfl⟩ := Prod.mk.inj (Option.some.inj hstep)
          exact .inl ⟨rfl, hdrop rule hrule hrank, hcard⟩
        · obtain ⟨rfl, rfl⟩ := Prod.mk.inj (Option.some.inj hstep)
          have hmerged := h.merged hsplit rule
          refine .inr ⟨p ++ c.left :: s, h.merge hpop hsplit rule, ?_, hmerged.length, ?_, ?_⟩
          · rw [hsplit]
            simp only [List.length_append, List.length_cons]
            omega
          · rw [hmerged.tokens]
            exact h.lowest hpop hsplit hrule (not_ne_iff.mp hrank)
          · refine (addCandidate_card _).trans ?_
            refine (Nat.add_le_add_right (addCandidate_card _) 1).trans ?_
            omega

lemma bpeStep_none (h : BpeInvariant data queues nodes queue ix)
    (hstep : bpeStep data queues nodes queue = none) :
    mergeLowest (bpeRule data) (tokensAt nodes ix) = none := by
  have hpop : queues.pop queue = none := by
    unfold bpeStep at hstep
    split at hstep
    · assumption
    · dsimp only at hstep
      split_ifs at hstep
      split at hstep
      · cases hstep
      · split_ifs at hstep
  have hempty := queues.contents_none _ hpop
  refine mergeLowest_none ?_
  intro p a b s hl
  obtain ⟨q, rest, hq, rfl, hrest⟩ := List.map_eq_append_iff.mp hl
  obtain ⟨i, others, rfl, rfl, hothers⟩ := List.map_eq_cons_iff.mp hrest
  obtain ⟨j, t, rfl, rfl, rfl⟩ := List.map_eq_cons_iff.mp hothers
  rw [bpeRule, Option.map_eq_none_iff]
  by_contra hsome
  obtain ⟨rule, hrule⟩ := Option.ne_none_iff_exists'.mp hsome
  have hmem := h.pending q i j t hq rule hrule
  rw [hempty] at hmem
  exact Multiset.notMem_zero _ hmem

-- A dropped candidate shortens the queue; a merge removes a node and adds two candidates at most.
lemma bpeLoop_spec {fuel : ℕ} (h : BpeInvariant data queues nodes queue ix)
    (hfuel : (queues.contents queue).card + 2 * ix.length ≤ fuel) {n : ℕ} (hn : ix.length ≤ n) :
    ∃ last ix', bpeLoop data queues fuel nodes queue = some last ∧ Chain last none ix' ∧
      ix'.head? = some 0 ∧ ix'.length ≤ ix.length ∧
      mergeAll (bpeRule data) n (tokensAt nodes ix) = tokensAt last ix' := by
  induction fuel generalizing nodes queue ix n with
  | zero =>
    have hhead := h.head
    have hnil : ix = [] := List.length_eq_zero_iff.mp (by omega)
    rw [hnil] at hhead
    cases hhead
  | succ fuel ih =>
    rw [bpeLoop]
    cases hstep : bpeStep data queues nodes queue with
    | none =>
      exact ⟨nodes, ix, rfl, h.chain, h.head, le_rfl, mergeAll_done (bpeStep_none h hstep) n⟩
    | some next =>
      obtain ⟨nodes', queue'⟩ := next
      obtain ⟨rfl, h', hcard⟩ | ⟨ix', h', hlength, -, hmerge, hcard⟩ := bpeStep_spec h hstep
      · exact ih h' (by omega) hn
      · obtain ⟨m, rfl⟩ : ∃ m, n = m + 1 := ⟨n - 1, by omega⟩
        obtain ⟨last, ix'', hlast, hchain, hhead, hle, htokens⟩ :=
          ih h' (n := m) (by omega) (by omega)
        exact ⟨last, ix'', hlast, hchain, hhead, by omega, by rw [mergeAll_step hmerge, htokens]⟩

end Run

lemma emitTokens_chain {nodes : List BpeNode} {ix : List ℕ} {prev : Option ℕ}
    (h : Chain nodes prev ix) {fuel : ℕ} (hfuel : ix.length ≤ fuel) (output : List ℕ) :
    emitTokens data nodes fuel ix.head? output =
      some (if ix ≠ [] ∧ data.limits.maxTokens < output.length + ix.length then
        setError .tooManyTokens "encoded output exceeds max_tokens"
        else .ok (output ++ tokensAt nodes ix)) := by
  induction ix generalizing prev fuel output with
  | nil =>
    rw [if_neg (by simp)]
    cases fuel <;> simp [emitTokens, tokensAt]
  | cons i ix ih =>
    obtain ⟨fuel, rfl⟩ : ∃ m, fuel = m + 1 := ⟨fuel - 1, by simp at hfuel; omega⟩
    simp only [List.length_cons] at hfuel ⊢
    rw [List.head?_cons, emitTokens, pushToken]
    by_cases hfull : data.limits.maxTokens ≤ output.length
    · rw [if_pos hfull, if_pos ⟨List.cons_ne_nil _ _, by omega⟩]
      rfl
    · rw [if_neg hfull, h.2.1]
      dsimp only
      rw [ih h.2.2 (by omega)]
      congr 1
      simp only [List.length_append, List.length_singleton]
      by_cases hfits : data.limits.maxTokens < output.length + (ix.length + 1)
      · have hne : ix ≠ [] := by
          rintro rfl
          simp only [List.length_nil] at hfits
          omega
        rw [if_pos ⟨hne, by omega⟩, if_pos ⟨List.cons_ne_nil _ _, hfits⟩]
      · rw [if_neg (by omega), if_neg (by omega)]
        simp [tokensAt]

section Initial

variable (data) (piece : Bytes)

lemma bpeNodes_length : (bpeNodes data piece).length = piece.length := by simp [bpeNodes]

lemma bpeNode_bpeNodes {i : ℕ} (hi : i < piece.length) :
    bpeNode (bpeNodes data piece) i =
      { tokenId := data.byteTokenIds (piece.getD i 0)
        previous := if i = 0 then none else some (i - 1)
        next := if i + 1 < piece.length then some (i + 1) else none } := by
  simp [bpeNode, bpeNodes, List.getD_eq_getElem?_getD, hi]

lemma chain_bpeNodes {start count : ℕ} (h : start + count = piece.length) :
    Chain (bpeNodes data piece) (if start = 0 then none else some (start - 1))
      (List.range' start count) := by
  induction count generalizing start with
  | zero => trivial
  | succ count ih =>
    have hnode := bpeNode_bpeNodes data piece (i := start) (by omega)
    have hrest := @ih (start + 1) (by omega)
    rw [List.range'_succ]
    refine ⟨by rw [hnode], ?_, by simpa using hrest⟩
    rw [hnode]
    cases count with
    | zero => simp [← h]
    | succ count => simp [List.range'_succ, show start + 1 < piece.length by omega]

lemma initialCandidates_spec (queues : CandidateQueue) (nodes : List BpeNode) (n : ℕ)
    (hnext : ∀ i < n, ∀ j, (bpeNode nodes i).next = some j → j < nodes.length)
    (hn : n ≤ nodes.length) :
    let queue := (List.range n).foldl
      (fun queue index => addCandidate data queues nodes queue (some index)) queues.empty
    (queues.contents queue).card ≤ n ∧
      (∀ c ∈ queues.contents queue, c.left < nodes.length ∧ c.right < nodes.length) ∧
      ∀ i < n, ∀ j rule, (bpeNode nodes i).alive = true → (bpeNode nodes i).next = some j →
        data.merges (pairKey (bpeNode nodes i).tokenId (bpeNode nodes j).tokenId) = some rule →
        BpeCandidate.mk rule.rank i j (bpeNode nodes i).generation (bpeNode nodes j).generation ∈
          queues.contents queue := by
  induction n with
  | zero =>
    refine ⟨?_, ?_, fun i hi => absurd hi (Nat.not_lt_zero i)⟩
    · simp [queues.contents_empty]
    · simp [queues.contents_empty]
  | succ n ih =>
    obtain ⟨hcard, hinside, hpending⟩ := ih (fun i hi => hnext i (by omega)) (by omega)
    intro queue
    simp only [queue, List.range_succ, List.foldl_append, List.foldl_cons, List.foldl_nil]
    refine ⟨(addCandidate_card _).trans (by omega), addCandidate_inside hinside ?_ ?_, ?_⟩
    · intro i hi
      obtain rfl := Option.some.inj hi
      omega
    · intro i j hi hj
      obtain rfl := Option.some.inj hi
      exact hnext _ (by omega) j hj
    · intro i hi j rule halive hj hrule
      obtain hlt | rfl := Nat.lt_succ_iff_lt_or_eq.mp hi
      · exact addCandidate_keeps (hpending i hlt j rule halive hj hrule) _
      · exact addCandidate_adds halive hj hrule

lemma initial_invariant (queues : CandidateQueue) (hpiece : piece ≠ []) :
    BpeInvariant data queues (bpeNodes data piece)
        (initialCandidates data queues (bpeNodes data piece)) (List.range piece.length) ∧
      (queues.contents (initialCandidates data queues (bpeNodes data piece))).card ≤
        piece.length := by
  have hlength := bpeNodes_length data piece
  have hpos := List.length_pos_iff.mpr hpiece
  have hnode := fun i hi => bpeNode_bpeNodes data piece (i := i) hi
  have hchain : Chain (bpeNodes data piece) none (List.range piece.length) := by
    have hchain := @chain_bpeNodes data piece 0 piece.length (by omega)
    rwa [if_pos rfl, ← List.range_eq_range'] at hchain
  obtain ⟨hcard, hinside, hpending⟩ := initialCandidates_spec data queues (bpeNodes data piece)
    ((bpeNodes data piece).length - 1) (by
      intro i hi j hj
      rw [hnode i (by omega)] at hj
      dsimp only at hj
      split_ifs at hj with hlt
      obtain rfl := Option.some.inj hj
      omega) (by omega)
  refine ⟨?_, hcard.trans (by omega)⟩
  refine
    { head := ?_
      sorted := List.pairwise_lt_range
      bound := fun i hi => hlength ▸ List.mem_range.mp hi
      alive := ?_
      chain := hchain
      pending := ?_
      inside := hinside }
  · obtain ⟨n, hn⟩ : ∃ n, piece.length = n + 1 := ⟨piece.length - 1, by omega⟩
    rw [hn]
    simp [List.range_succ_eq_map]
  · intro i hi
    rw [hnode i (by omega), List.mem_range]
    exact ⟨fun _ => by omega, fun _ => rfl⟩
  · intro p i j s hsplit rule hrule
    have hi : i < piece.length := List.mem_range.mp (hsplit ▸ by simp)
    have hj : j < piece.length := List.mem_range.mp (hsplit ▸ by simp)
    have hnext := (Chain.at (hsplit ▸ hchain)).2
    have hsucc : i + 1 < piece.length := by
      by_contra hge
      rw [hnode i hi] at hnext
      simp [hge] at hnext
    exact hpending i (by omega) j rule (by rw [hnode i hi]) hnext hrule

end Initial

lemma encodeBpePiece_spec (data : EncoderData) (queues : CandidateQueue) (piece : Bytes)
    (output : List ℕ) {fuel : ℕ} (hfuel : 3 * piece.length ≤ fuel) :
    encodeBpePiece data queues fuel piece output =
      some (if piece ≠ [] ∧
          data.limits.maxTokens < output.length + (referenceBpe data piece).length then
        setError .tooManyTokens "encoded output exceeds max_tokens"
        else .ok (output ++ referenceBpe data piece)) := by
  unfold encodeBpePiece
  by_cases hpiece : piece = []
  · subst hpiece
    rw [if_pos rfl]
    simp [referenceBpe, referenceMerge, mergeAll]
  rw [if_neg hpiece]
  obtain ⟨hinv, hcard⟩ := initial_invariant data piece queues hpiece
  have htokens : tokensAt (bpeNodes data piece) (List.range piece.length) =
      piece.map data.byteTokenIds := by
    refine List.ext_getElem (by simp [tokensAt]) ?_
    intro i hi hi'
    have hlt : i < piece.length := by simpa using hi'
    simp [tokensAt, bpeNode_bpeNodes data piece hlt, hlt]
  obtain ⟨last, ix, hloop, hchain, hhead, hle, hall⟩ := @bpeLoop_spec _ _ _ _ _ fuel hinv
    (by rw [List.length_range]; omega) piece.length (by rw [List.length_range])
  have hreference : referenceBpe data piece = tokensAt last ix := by
    rw [referenceBpe, referenceMerge, List.length_map, ← htokens, hall]
  have hne : ix ≠ [] := by
    rintro rfl
    cases hhead
  rw [List.length_range] at hle
  dsimp only
  rw [hloop]
  dsimp only
  rw [← hhead, emitTokens_chain hchain (by omega), hreference, tokensAt, List.length_map]
  simp only [hne, hpiece, ne_eq, not_false_eq_true, true_and]

theorem encodeBpePiece_eq_reference (data : EncoderData) (queues : CandidateQueue) (piece : Bytes)
    (output : List ℕ) (fuel : ℕ) (hfuel : 3 * piece.length ≤ fuel)
    (hfits : output.length + (referenceBpe data piece).length ≤ data.limits.maxTokens) :
    encodeBpePiece data queues fuel piece output =
        some (.ok (output ++ referenceBpe data piece)) ∧
      mergeLowest (bpeRule data) (referenceBpe data piece) = none := by
  refine ⟨?_, mergeLowest_referenceMerge _⟩
  rw [encodeBpePiece_spec data queues piece output hfuel, if_neg]
  omega

def listQueue : CandidateQueue :=
  .ofList candidateLater
    (by
      intro a b c hab hbc
      simp only [candidateLater] at hab hbc ⊢
      split_ifs at hab hbc ⊢ <;> simp only [decide_eq_false_iff_not] at hab hbc ⊢ <;> omega)
    (by
      intro a b hab
      simp only [candidateLater] at hab ⊢
      split_ifs at hab ⊢ <;> simp only [decide_eq_true_eq, decide_eq_false_iff_not] at hab ⊢ <;>
        omega)

def sampleMerges : EncoderData :=
  { byteTokenIds := fun byte => byte.toNat
    merges := fun key =>
      if key = pairKey 97 98 then some ⟨0, 256⟩
      else if key = pairKey 256 99 then some ⟨1, 257⟩ else none }

theorem sample_piece_encoded :
    encodeBpePiece sampleMerges listQueue 15 [97, 98, 99, 97, 98] [7] =
        some (.ok ([7] ++ [257, 256])) ∧
      mergeLowest (bpeRule sampleMerges) [257, 256] = none := by
  have href : referenceBpe sampleMerges [97, 98, 99, 97, 98] = [257, 256] := by decide
  have h := encodeBpePiece_eq_reference sampleMerges listQueue [97, 98, 99, 97, 98] [7] 15
    (by decide) (by rw [href]; decide)
  rwa [href] at h

end Qwen3xOrin.Text
