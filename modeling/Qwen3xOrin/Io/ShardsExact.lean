import Qwen3xOrin.Io.Shards

/-! When the check of an index passes, and what that says of where its tensors are. -/

namespace Qwen3xOrin.Io.Safetensors

open Library

section Tensors

variable {options : ShardValidationOptions} {index : Index} {shard : String}
  {state reached : ValidationState} {tensors : List String}

lemma lookup_eq_some (index : Index) {tensor : String} :
    index.weightMap.lookup tensor = some shard ↔ (tensor, shard) ∈ index.weightMap := by
  have hgeneral (l : List (String × String)) (h : (l.map Prod.fst).Pairwise (· < ·)) :
      l.lookup tensor = some shard ↔ (tensor, shard) ∈ l := by
    induction l with
    | nil => simp
    | cons mapping l ih =>
      obtain ⟨key, value⟩ := mapping
      rw [List.map_cons, List.pairwise_cons] at h
      by_cases hkey : tensor = key
      · subst hkey
        have habsent : (tensor, shard) ∉ l := fun hmem =>
          lt_irrefl _ (h.1 tensor (List.mem_map.mpr ⟨_, hmem, rfl⟩))
        simp [habsent, eq_comm]
      · rw [List.lookup_cons, beq_eq_false_iff_ne.mpr hkey]
        simp [ih h.2, hkey]
  exact hgeneral index.weightMap index.ordered

-- The state after all the tensors of a shard.
def ValidationState.withTensors (state : ValidationState) (tensors : List String) :
    ValidationState where
  summary := { state.summary with
    validatedTensors := state.summary.validatedTensors + tensors.length }
  seenTensors := tensors.reverse ++ state.seenTensors

lemma validateTensor_ok {tensor : String} :
    validateTensor options index shard state tensor = .ok reached ↔
      (tensor, shard) ∈ index.weightMap ∧ tensor ∉ state.seenTensors ∧
        state.summary.validatedTensors < options.maxTensors ∧
        reached = state.withTensors [tensor] := by
  unfold validateTensor
  rw [← lookup_eq_some index]
  cases hlookup : index.weightMap.lookup tensor with
  | none => simp [failureWith]
  | some expected =>
    dsimp only
    split_ifs with hshard hseen hlimit
    · simp [failureWith, hshard]
    · simp [failureWith, hseen]
    · simp only [failure, reduceCtorEq, false_iff]
      omega
    · rw [not_not] at hshard
      simp only [Except.ok.injEq, hshard, hseen, true_and, not_false_iff,
        Nat.lt_of_not_le hlimit]
      exact eq_comm

lemma withTensors_cons (tensor : String) :
    (state.withTensors [tensor]).withTensors tensors = state.withTensors (tensor :: tensors) := by
  have hcount : state.summary.validatedTensors + 1 + tensors.length =
      state.summary.validatedTensors + (tensors.length + 1) := by omega
  simp [ValidationState.withTensors, hcount]

lemma validateTensors_ok (hlimit : state.summary.validatedTensors ≤ options.maxTensors) :
    tensors.foldlM (validateTensor options index shard) state = .ok reached ↔
      (∀ tensor ∈ tensors, (tensor, shard) ∈ index.weightMap ∧ tensor ∉ state.seenTensors) ∧
        tensors.Nodup ∧
        state.summary.validatedTensors + tensors.length ≤ options.maxTensors ∧
        reached = state.withTensors tensors := by
  induction tensors generalizing state with
  | nil => simp [hlimit, ValidationState.withTensors, eq_comm, pure, Except.pure]
  | cons tensor tensors ih =>
    rw [List.foldlM_cons, bind_ok]
    constructor
    · rintro ⟨next, hnext, hrest⟩
      obtain ⟨hmapped, hunseen, hcount, rfl⟩ := validateTensor_ok.1 hnext
      obtain ⟨htensors, hnodup, htotal, rfl⟩ := (@ih (state.withTensors [tensor]) hcount).mp hrest
      refine ⟨List.forall_mem_cons.mpr ⟨⟨hmapped, hunseen⟩, fun other hother => ?_⟩,
        List.nodup_cons.mpr ⟨fun hmem => ?_, hnodup⟩, ?_, withTensors_cons tensor⟩
      · exact ⟨(htensors other hother).1, fun hseen =>
          (htensors other hother).2 (List.mem_cons_of_mem _ hseen)⟩
      · exact (htensors tensor hmem).2 List.mem_cons_self
      · simp only [ValidationState.withTensors, List.length_singleton] at htotal
        rw [List.length_cons]
        omega
    · rintro ⟨htensors, hnodup, htotal, rfl⟩
      obtain ⟨hmapped, hunseen⟩ := htensors tensor List.mem_cons_self
      obtain ⟨hfresh, hnodup⟩ := List.nodup_cons.mp hnodup
      rw [List.length_cons] at htotal
      have hcount : state.summary.validatedTensors < options.maxTensors := by omega
      refine ⟨_, validateTensor_ok.2 ⟨hmapped, hunseen, hcount, rfl⟩, (@ih
        (state.withTensors [tensor]) hcount).mpr ⟨fun other hother => ?_, hnodup, ?_, (withTensors_cons tensor).symm⟩⟩
      · obtain ⟨hother', hunseen'⟩ := htensors other (List.mem_cons_of_mem _ hother)
        refine ⟨hother', fun hseen => ?_⟩
        obtain rfl | hseen := List.mem_cons.mp hseen
        · exact hfresh hother
        · exact hunseen' hseen
      · simp only [ValidationState.withTensors, List.length_singleton]
        omega

end Tensors

section Shards

variable {options : ShardValidationOptions} {index : Index} {shard : String}
  {state reached : ValidationState} {shards : List String}

section Headers

variable (files : String → Except Error Header)

def tensorsOf (shard : String) : List String :=
  match files shard with
  | .ok header => header.tensors
  | .error _ => []

def payloadOf (shard : String) : ℕ :=
  match files shard with
  | .ok header => header.dataSize
  | .error _ => 0

def Owns (index : Index) (shard : String) : Prop :=
  (∃ header, files shard = .ok header) ∧
    ∀ tensor ∈ tensorsOf files shard, (tensor, shard) ∈ index.weightMap

def ValidationState.withShards (state : ValidationState) (shards : List String) :
    ValidationState where
  summary :=
    { validatedShards := state.summary.validatedShards + shards.length
      validatedTensors :=
        state.summary.validatedTensors + (shards.flatMap (tensorsOf files)).length
      payloadBytes := state.summary.payloadBytes + (shards.map (payloadOf files)).sum }
  seenTensors := (shards.flatMap (tensorsOf files)).reverse ++ state.seenTensors

end Headers

variable {files : String → Except Error Header}

lemma tensorsOf_nodup (shard : String) : (tensorsOf files shard).Nodup := by
  unfold tensorsOf
  cases files shard with
  | ok header => exact header.ordered.imp ne_of_lt
  | error error => exact List.nodup_nil

lemma withShards_cons :
    (state.withShards files [shard]).withShards files shards =
      state.withShards files (shard :: shards) := by
  have hshards : state.summary.validatedShards + 1 + shards.length =
      state.summary.validatedShards + (shards.length + 1) := by omega
  simp [ValidationState.withShards, hshards, Nat.add_assoc]

-- What a state must still allow for: its counts are within the limits.
structure Counted (options : ShardValidationOptions) (state : ValidationState) : Prop where
  shards : state.summary.validatedShards ≤ options.maxShards
  tensors : state.summary.validatedTensors ≤ options.maxTensors
  payload : state.summary.payloadBytes ≤ uint64Max

lemma validateShard_ok (hcounted : Counted options state)
    (hunseen : ∀ tensor ∈ state.seenTensors, (tensor, shard) ∉ index.weightMap) :
    validateShard options index files state shard = .ok reached ↔
      Owns files index shard ∧ state.summary.validatedShards < options.maxShards ∧
        Counted options reached ∧ reached = state.withShards files [shard] := by
  unfold validateShard
  cases hfile : files shard with
  | error error =>
    simp [Owns, hfile, bind, Except.bind]
  | ok header =>
    have htensors : tensorsOf files shard = header.tensors := by simp [tensorsOf, hfile]
    have hpayload : payloadOf files shard = header.dataSize := by simp [payloadOf, hfile]
    have howns : Owns files index shard ↔
        ∀ tensor ∈ header.tensors, (tensor, shard) ∈ index.weightMap := by
      simp [Owns, hfile, htensors]
    rw [ok_bind, howns]
    by_cases hlimit : options.maxShards ≤ state.summary.validatedShards
    · rw [if_pos hlimit]
      simp only [failure, reduceCtorEq, false_iff]
      omega
    rw [if_neg hlimit]
    cases hsum : checkedAdd state.summary.payloadBytes header.dataSize with
    | none =>
      simp only [failure, reduceCtorEq, false_iff]
      rintro ⟨-, -, hreached, rfl⟩
      have hfits := hreached.payload
      simp only [ValidationState.withShards, List.map_singleton, List.sum_singleton,
        hpayload] at hfits
      rw [(checkedAdd_eq_some hcounted.payload).mpr ⟨rfl, hfits⟩] at hsum
      cases hsum
    | some payloadBytes =>
      obtain ⟨rfl, hfits⟩ := (checkedAdd_eq_some hcounted.payload).mp hsum
      dsimp only
      rw [validateTensors_ok (by exact hcounted.tensors)]
      have hnodup : header.tensors.Nodup := htensors ▸ tensorsOf_nodup shard
      have hstate : ValidationState.withTensors
          { state with summary := { state.summary with
              validatedShards := state.summary.validatedShards + 1
              payloadBytes := state.summary.payloadBytes + header.dataSize } } header.tensors =
          state.withShards files [shard] := by
        simp [ValidationState.withTensors, ValidationState.withShards, htensors, hpayload]
      rw [hstate]
      constructor
      · rintro ⟨hmapped, -, htotal, rfl⟩
        refine ⟨fun tensor htensor => (hmapped tensor htensor).1, Nat.lt_of_not_le hlimit, ?_, rfl⟩
        refine ⟨?_, ?_, ?_⟩
        · simp only [ValidationState.withShards, List.length_singleton]
          omega
        · simpa [ValidationState.withShards, htensors] using htotal
        · simpa [ValidationState.withShards, hpayload] using hfits
      · rintro ⟨hmapped, -, hreached, rfl⟩
        refine ⟨fun tensor htensor => ⟨hmapped tensor htensor, fun hseen =>
          hunseen tensor hseen (hmapped tensor htensor)⟩, hnodup, ?_, rfl⟩
        simpa [ValidationState.withShards, htensors] using hreached.tensors

lemma mapped_unique {tensor shard' : String} (h : (tensor, shard) ∈ index.weightMap)
    (h' : (tensor, shard') ∈ index.weightMap) : shard = shard' :=
  Option.some.inj (((lookup_eq_some index).mpr h).symm.trans ((lookup_eq_some index).mpr h'))

lemma unseen_next (hshard : shard ∉ shards) (howns : Owns files index shard)
    (hunseen : ∀ tensor ∈ state.seenTensors, ∀ other ∈ shard :: shards,
      (tensor, other) ∉ index.weightMap) :
    ∀ tensor ∈ (state.withShards files [shard]).seenTensors, ∀ other ∈ shards,
      (tensor, other) ∉ index.weightMap := by
  intro tensor htensor other hother hmapped
  simp only [ValidationState.withShards, List.flatMap_singleton, List.mem_append,
    List.mem_reverse] at htensor
  obtain htensor | hseen := htensor
  · exact hshard (mapped_unique (howns.2 tensor htensor) hmapped ▸ hother)
  · exact hunseen tensor hseen other (List.mem_cons_of_mem _ hother) hmapped

lemma Counted.before (h : Counted options (state.withShards files (shard :: shards))) :
    state.summary.validatedShards < options.maxShards ∧
      Counted options (state.withShards files [shard]) := by
  obtain ⟨hshards, htensors, hpayload⟩ := h
  simp only [ValidationState.withShards, List.length_cons, List.flatMap_cons, List.length_append,
    List.map_cons, List.sum_cons] at hshards htensors hpayload
  refine ⟨by omega, ?_, ?_, ?_⟩
  · simp only [ValidationState.withShards, List.length_singleton]
    omega
  · simp only [ValidationState.withShards, List.flatMap_singleton]
    omega
  · simp only [ValidationState.withShards, List.map_singleton, List.sum_singleton]
    omega

lemma validateShards_ok (hcounted : Counted options state) (hnodup : shards.Nodup)
    (hunseen : ∀ tensor ∈ state.seenTensors, ∀ shard ∈ shards,
      (tensor, shard) ∉ index.weightMap) :
    shards.foldlM (validateShard options index files) state = .ok reached ↔
      (∀ shard ∈ shards, Owns files index shard) ∧ Counted options reached ∧
        reached = state.withShards files shards := by
  induction shards generalizing state with
  | nil =>
    have hnil : state.withShards files [] = state := by simp [ValidationState.withShards]
    rw [hnil]
    simp only [List.foldlM_nil, pure, Except.pure, Except.ok.injEq, List.not_mem_nil,
      false_implies, implies_true, true_and]
    exact ⟨fun h => ⟨h ▸ hcounted, h.symm⟩, fun h => h.2.symm⟩
  | cons shard shards ih =>
    obtain ⟨hshard, hrest⟩ := List.nodup_cons.mp hnodup
    have hunseenHere : ∀ tensor ∈ state.seenTensors, (tensor, shard) ∉ index.weightMap :=
      fun tensor htensor => hunseen tensor htensor shard List.mem_cons_self
    rw [List.foldlM_cons, bind_ok]
    constructor
    · rintro ⟨next, hnext, hshards⟩
      obtain ⟨howns, -, hnextCounted, rfl⟩ := (validateShard_ok hcounted hunseenHere).mp hnext
      obtain ⟨hall, hreached, rfl⟩ := (ih hnextCounted hrest
        (unseen_next hshard howns hunseen)).mp hshards
      exact ⟨List.forall_mem_cons.mpr ⟨howns, hall⟩, hreached, withShards_cons⟩
    · rintro ⟨hall, hreached, rfl⟩
      obtain ⟨howns, hall⟩ := List.forall_mem_cons.mp hall
      obtain ⟨hlimit, hnextCounted⟩ := hreached.before
      refine ⟨_, (validateShard_ok hcounted hunseenHere).mpr ⟨howns, hlimit, hnextCounted, rfl⟩,
        (ih hnextCounted hrest (unseen_next hshard howns hunseen)).mpr
          ⟨hall, ?_, withShards_cons.symm⟩⟩
      exact hreached

end Shards

section Index

variable {options : ShardValidationOptions} {index : Index} {referenced : List String}

lemma not_safe_empty : isSafeRelativeShardPath "" = false := by decide

lemma referenceShard_ok {mapping : String × String} {reached : List String} :
    referenceShard options referenced mapping = .ok reached ↔
      (mapping.1 ≠ "" ∧ isSafeRelativeShardPath mapping.2 = true) ∧
        reached = OrderedSet.insert mapping.2 referenced ∧
        reached.length ≤ options.maxShards := by
  unfold referenceShard
  dsimp only
  split_ifs with hempty hunsafe hlimit
  · simp only [failure, reduceCtorEq, false_iff]
    rintro ⟨⟨hname, hsafe⟩, -⟩
    obtain hempty | hempty := hempty
    · exact hname hempty
    · rw [hempty, not_safe_empty] at hsafe
      cases hsafe
  · simp [failure, hunsafe]
  · simp only [failure, reduceCtorEq, false_iff]
    rintro ⟨-, rfl, hcount⟩
    omega
  · rw [not_or] at hempty
    rw [Bool.not_eq_false] at hunsafe
    simp only [Except.ok.injEq, hempty.1, hunsafe, ne_eq, not_false_iff, true_and]
    constructor
    · rintro rfl
      exact ⟨rfl, Nat.le_of_not_lt hlimit⟩
    · exact fun h => h.1.symm

lemma referenceShards_ok {mappings : List (String × String)} {reached : List String}
    (hlimit : referenced.length ≤ options.maxShards) :
    mappings.foldlM (referenceShard options) referenced = .ok reached ↔
      (∀ mapping ∈ mappings, mapping.1 ≠ "" ∧ isSafeRelativeShardPath mapping.2 = true) ∧
        reached = OrderedSet.insertAll (mappings.map Prod.snd) referenced ∧
        reached.length ≤ options.maxShards := by
  induction mappings generalizing referenced with
  | nil =>
    simp only [List.foldlM_nil, pure, Except.pure, Except.ok.injEq, List.not_mem_nil,
      false_implies, implies_true, true_and]
    exact ⟨fun h => ⟨h.symm, h ▸ hlimit⟩, fun h => h.1.symm⟩
  | cons mapping mappings ih =>
    rw [List.foldlM_cons, bind_ok]
    constructor
    · rintro ⟨next, hnext, hrest⟩
      obtain ⟨hmapping, rfl, hcount⟩ := referenceShard_ok.1 hnext
      obtain ⟨hmappings, hreached, hcount⟩ := (ih hcount).mp hrest
      exact ⟨List.forall_mem_cons.mpr ⟨hmapping, hmappings⟩, hreached, hcount⟩
    · rintro ⟨hall, rfl, hcount⟩
      obtain ⟨hmapping, hmappings⟩ := List.forall_mem_cons.mp hall
      have hnext : (OrderedSet.insert mapping.2 referenced).length ≤ options.maxShards :=
        (OrderedSet.length_le_insertAll (mappings.map Prod.snd) _).trans hcount
      exact ⟨_, referenceShard_ok.2 ⟨hmapping, rfl, hnext⟩,
        (ih hnext).mpr ⟨hmappings, rfl, hcount⟩⟩

lemma compareShards_ok {stored : List String} (hlength : stored.length = referenced.length) :
    compareShards referenced stored = .ok () ↔ stored = referenced := by
  induction referenced generalizing stored with
  | nil => simp [compareShards, List.length_eq_zero_iff.mp hlength]
  | cons shard referenced ih =>
    cases stored with
    | nil => cases hlength
    | cons first stored =>
      rw [compareShards]
      split_ifs with hne
      · simp [failureWith, hne]
      · rw [not_not] at hne
        rw [ih (Nat.succ.inj hlength), hne, List.cons.injEq, eq_self_iff_true, true_and]

lemma requireSeen_ok {seenTensors : List String} {mapping : String × String} :
    requireSeen seenTensors mapping = .ok ⟨⟩ ↔ mapping.1 ∈ seenTensors := by
  unfold requireSeen
  split_ifs with h <;> simp [failureWith, h]

end Index

section Validated

variable (options : ShardValidationOptions) (index : Index)
  (files : String → Except Error Header)

-- What the options and their limits ask of an index by itself.
structure Admissible : Prop where
  limits : options.maxShards ≠ 0 ∧ options.maxTensors ≠ 0 ∧ options.headerOptions.maxTensors ≠ 0
  mapped : index.weightMap ≠ []
  named : ∀ mapping ∈ index.weightMap, mapping.1 ≠ ""
  tensors : index.weightMap.length ≤ options.maxTensors
  shards : index.shards.length ≤ options.maxShards

-- The index and the headers of its shards say the same.
structure ShardsMatch : Prop where
  safe : ∀ mapping ∈ index.weightMap, isSafeRelativeShardPath mapping.2 = true
  listed : index.shards.Pairwise (· < ·) ∧
    ∀ shard, shard ∈ index.shards ↔ ∃ tensor, (tensor, shard) ∈ index.weightMap
  parsed : ∀ shard ∈ index.shards, ∃ header, files shard = .ok header
  owned : ∀ shard ∈ index.shards, ∀ tensor,
    tensor ∈ tensorsOf files shard ↔ (tensor, shard) ∈ index.weightMap
  payload : (index.shards.map (payloadOf files)).sum ≤ uint64Max ∧
    index.totalSize = some (index.shards.map (payloadOf files)).sum

def matchedSummary : ShardValidationSummary where
  validatedShards := index.shards.length
  validatedTensors := index.weightMap.length
  payloadBytes := (index.shards.map (payloadOf files)).sum

variable {options index files}

lemma listed_iff : index.shards = OrderedSet.insertAll (index.weightMap.map Prod.snd) [] ↔
    index.shards.Pairwise (· < ·) ∧
      ∀ shard, shard ∈ index.shards ↔ ∃ tensor, (tensor, shard) ∈ index.weightMap := by
  have hmem (shard : String) : shard ∈ index.weightMap.map Prod.snd ↔
      ∃ tensor, (tensor, shard) ∈ index.weightMap := by
    simp
  rw [OrderedSet.eq_insertAll_iff]
  simp only [hmem]

-- Each tensor of the index stands in one header, once.
lemma ShardsMatch.tensors_perm (h : ShardsMatch index files) :
    (index.shards.flatMap (tensorsOf files)).Perm (index.weightMap.map Prod.fst) := by
  refine (List.perm_ext_iff_of_nodup ?_ (index.ordered.imp ne_of_lt)).mpr fun tensor => ?_
  · refine List.nodup_flatMap.mpr ⟨fun shard _ => tensorsOf_nodup shard, ?_⟩
    refine h.listed.1.imp_of_mem fun hshard hother hlt => ?_
    intro tensor htensor htensor'
    exact absurd (mapped_unique ((h.owned _ hshard tensor).mp htensor)
      ((h.owned _ hother tensor).mp htensor')) (ne_of_lt hlt)
  · rw [List.mem_flatMap, List.mem_map]
    constructor
    · rintro ⟨shard, hshard, htensor⟩
      exact ⟨(tensor, shard), (h.owned shard hshard tensor).mp htensor, rfl⟩
    · rintro ⟨⟨tensor, shard⟩, hmapped, rfl⟩
      have hshard := (h.listed.2 shard).mpr ⟨tensor, hmapped⟩
      exact ⟨shard, hshard, (h.owned shard hshard tensor).mpr hmapped⟩

lemma Counted.start (options : ShardValidationOptions) : Counted options {} :=
  ⟨Nat.zero_le _, Nat.zero_le _, Nat.zero_le _⟩

-- The two ways the loop over the shards and the checks after it are read.
lemma ShardsMatch.validated (hadmissible : Admissible options index)
    (h : ShardsMatch index files) :
    index.shards.foldlM (validateShard options index files) {} =
      .ok (ValidationState.withShards files {} index.shards) := by
  refine (validateShards_ok (Counted.start options) (h.listed.1.imp ne_of_lt)
    (fun tensor htensor => absurd htensor List.not_mem_nil)).mpr ⟨fun shard hshard =>
      ⟨h.parsed shard hshard, fun tensor => (h.owned shard hshard tensor).mp⟩, ⟨?_, ?_, ?_⟩, rfl⟩
  · exact (Nat.zero_add _).trans_le hadmissible.shards
  · simp only [ValidationState.withShards, h.tensors_perm.length_eq, List.length_map]
    exact (Nat.zero_add _).trans_le hadmissible.tensors
  · exact (Nat.zero_add _).trans_le h.payload.1

lemma seen_iff {tensor : String} :
    tensor ∈ (ValidationState.withShards files {} index.shards).seenTensors ↔
      ∃ shard ∈ index.shards, tensor ∈ tensorsOf files shard := by
  simp [ValidationState.withShards]

lemma shardsMatch_of_validated {state : ValidationState}
    (hlisted : index.shards = OrderedSet.insertAll (index.weightMap.map Prod.snd) [])
    (hsafe : ∀ mapping ∈ index.weightMap, isSafeRelativeShardPath mapping.2 = true)
    (hstate : index.shards.foldlM (validateShard options index files) {} = .ok state)
    (hseen : ∀ mapping ∈ index.weightMap, mapping.1 ∈ state.seenTensors)
    (htotal : index.totalSize = some state.summary.payloadBytes) :
    ShardsMatch index files := by
  have hshards := listed_iff.1 hlisted
  obtain ⟨howns, hcounted, rfl⟩ := (validateShards_ok (Counted.start options)
    (hshards.1.imp ne_of_lt) (fun tensor htensor => absurd htensor List.not_mem_nil)).mp hstate
  have hpayload : (ValidationState.withShards files {} index.shards).summary.payloadBytes =
      (index.shards.map (payloadOf files)).sum := Nat.zero_add _
  have hfits := hcounted.payload
  rw [hpayload] at htotal hfits
  refine ⟨hsafe, hshards, fun shard hshard => (howns shard hshard).1,
    fun shard hshard tensor => ⟨(howns shard hshard).2 tensor, fun hmapped => ?_⟩, hfits, htotal⟩
  obtain ⟨other, hother, htensor⟩ := seen_iff.1 (hseen _ hmapped)
  exact mapped_unique ((howns other hother).2 tensor htensor) hmapped ▸ htensor

end Validated

section Exact

variable {options : ShardValidationOptions} {index : Index} {checkpoint : Checkpoint}

def shardFiles (checkpoint : Checkpoint) (options : ShardValidationOptions) (shard : String) :
    Except Error Header :=
  openShard checkpoint shard (headerOptions options)

lemma validate_of_match (hadmissible : Admissible options index)
    (h : ShardsMatch index (shardFiles checkpoint options)) :
    validateIndexShards options index checkpoint =
      .ok (matchedSummary index (shardFiles checkpoint options)) := by
  obtain ⟨hlimits, hmapped, hnamed, htensors, hshards⟩ := hadmissible
  have hlisted := listed_iff.2 h.listed
  have hreferenced : index.weightMap.foldlM (referenceShard options) [] = .ok index.shards :=
    (referenceShards_ok (Nat.zero_le _)).mpr
      ⟨fun mapping hmapping => ⟨hnamed mapping hmapping, h.safe mapping hmapping⟩, hlisted,
        hshards⟩
  have hstate := h.validated ⟨hlimits, hmapped, hnamed, htensors, hshards⟩
  have hseen : checkAll (requireSeen (ValidationState.withShards
      (shardFiles checkpoint options) {} index.shards).seenTensors) index.weightMap =
      .ok ⟨⟩ := by
    refine checkAll_ok.mpr fun mapping hmapping => requireSeen_ok.2 (seen_iff.2 ?_)
    have hshard := (h.listed.2 mapping.2).mpr ⟨mapping.1, hmapping⟩
    exact ⟨mapping.2, hshard, (h.owned _ hshard _).mpr hmapping⟩
  have hcount : (ValidationState.withShards (shardFiles checkpoint options) {}
      index.shards).summary.validatedTensors = index.weightMap.length := by
    simp only [ValidationState.withShards, h.tensors_perm.length_eq, List.length_map]
    exact Nat.zero_add _
  have hpayload : (ValidationState.withShards (shardFiles checkpoint options) {}
      index.shards).summary.payloadBytes =
      (index.shards.map (payloadOf (shardFiles checkpoint options))).sum := Nat.zero_add _
  have hsummary : (ValidationState.withShards (shardFiles checkpoint options) {}
      index.shards).summary = matchedSummary index (shardFiles checkpoint options) := by
    rw [matchedSummary, ← hcount, ← hpayload, ← Nat.zero_add index.shards.length]
    rfl
  rw [validateIndexShards, if_neg (by tauto), if_neg hmapped,
    if_neg (Nat.not_lt.mpr htensors), hreferenced, ok_bind, if_neg (not_not.mpr rfl),
    (compareShards_ok rfl).mpr rfl, ok_bind, h.payload.2]
  dsimp only
  have hfiles : (fun shard => openShard checkpoint shard (headerOptions options)) =
      shardFiles checkpoint options := rfl
  rw [hfiles, hstate, ok_bind, hseen, ok_bind, if_neg (not_not.mpr hcount),
    if_neg (not_not.mpr hpayload), hsummary]

lemma match_of_validate {summary : ShardValidationSummary}
    (h : validateIndexShards options index checkpoint = .ok summary) :
    Admissible options index ∧ ShardsMatch index (shardFiles checkpoint options) := by
  unfold validateIndexShards failure failureWith at h
  split_ifs at h with hlimits hmapped htensors
  obtain ⟨referenced, hreferenced, h⟩ := bind_ok.mp h
  obtain ⟨hentries, hset, hcount⟩ := (referenceShards_ok (Nat.zero_le _)).mp hreferenced
  split_ifs at h with hlength
  obtain ⟨⟨⟩, hcompare, h⟩ := bind_ok.mp h
  have hlisted := (compareShards_ok (not_not.mp hlength)).mp hcompare
  cases htotal : index.totalSize with
  | none =>
    rw [htotal] at h
    cases h
  | some totalSize =>
    rw [htotal] at h
    obtain ⟨state, hstate, h⟩ := bind_ok.mp h
    obtain ⟨⟨⟩, hseen, h⟩ := bind_ok.mp h
    split_ifs at h with hvalidated hpayload
    rw [← hlisted] at hstate hset hcount
    refine ⟨⟨by tauto, hmapped, fun mapping hmapping => (hentries mapping hmapping).1,
      Nat.le_of_not_lt htensors, hcount⟩, ?_⟩
    refine @shardsMatch_of_validated options index _ state hset
      (fun mapping hmapping => (hentries mapping hmapping).2) hstate
      (fun mapping hmapping => requireSeen_ok.1 (checkAll_ok.mp hseen mapping hmapping)) ?_
    rw [htotal, not_not.mp hpayload]

-- Every tensor of the index has one location, and no shard holds another tensor.
structure Located (index : Index) (files : String → Except Error Header) : Prop where
  located : ∀ mapping ∈ index.weightMap,
    ∃! shard, shard ∈ index.shards ∧ mapping.1 ∈ tensorsOf files shard
  indexed : ∀ shard ∈ index.shards, ∀ tensor ∈ tensorsOf files shard,
    ∃ mapping ∈ index.weightMap, mapping.1 = tensor

lemma ShardsMatch.located {files : String → Except Error Header} (h : ShardsMatch index files) :
    Located index files := by
  refine ⟨fun mapping hmapping => ⟨mapping.2, ?_, ?_⟩, fun shard hshard tensor htensor =>
    ⟨(tensor, shard), (h.owned shard hshard tensor).mp htensor, rfl⟩⟩
  · have hshard := (h.listed.2 mapping.2).mpr ⟨mapping.1, hmapping⟩
    exact ⟨hshard, (h.owned _ hshard _).mpr hmapping⟩
  · rintro shard ⟨hshard, htensor⟩
    exact mapped_unique ((h.owned shard hshard _).mp htensor) hmapping

theorem validate_index_shards_exact (options : ShardValidationOptions) (index : Index)
    (checkpoint : Checkpoint) :
    (∀ summary, validateIndexShards options index checkpoint = .ok summary ↔
        Admissible options index ∧ ShardsMatch index (shardFiles checkpoint options) ∧
          summary = matchedSummary index (shardFiles checkpoint options)) ∧
      ((∃ summary, validateIndexShards options index checkpoint = .ok summary) →
        Located index (shardFiles checkpoint options)) := by
  refine ⟨fun summary => ⟨fun h => ?_, fun ⟨hadmissible, hmatch, hsummary⟩ => ?_⟩,
    fun ⟨summary, h⟩ => (match_of_validate h).2.located⟩
  · obtain ⟨hadmissible, hmatch⟩ := match_of_validate h
    rw [validate_of_match hadmissible hmatch] at h
    exact ⟨hadmissible, hmatch, (Except.ok.inj h).symm⟩
  · rw [hsummary, validate_of_match hadmissible hmatch]

def twoShards : Index where
  weightMap := [("embed", "a.safetensors"), ("norm", "b.safetensors")]
  ordered := by decide
  shards := ["a.safetensors", "b.safetensors"]
  totalSize := some 8

def twoShardsCheckpoint : Checkpoint where
  directory := "model"
  status := fun _ => .regular
  header := fun _ path =>
    .ok (if path = "model/a.safetensors" then ⟨4, ["embed"], by decide⟩
      else ⟨4, ["norm"], by decide⟩)

lemma twoShards_match :
    ShardsMatch twoShards (shardFiles twoShardsCheckpoint { maxShards := 1 }) where
  safe := by decide +kernel
  listed := ⟨by decide, by simp [twoShards, exists_or]⟩
  parsed := by
    have hparsed : ∀ shard ∈ twoShards.shards,
        (shardFiles twoShardsCheckpoint { maxShards := 1 } shard).isOk = true := by
      decide +kernel
    exact fun shard hshard => exists_ok (hparsed shard hshard)
  owned := by
    have hfirst : tensorsOf (shardFiles twoShardsCheckpoint { maxShards := 1 }) "a.safetensors" =
        ["embed"] := by decide +kernel
    have hsecond : tensorsOf (shardFiles twoShardsCheckpoint { maxShards := 1 }) "b.safetensors" =
        ["norm"] := by decide +kernel
    simp [twoShards, hfirst, hsecond]
  payload := by decide +kernel

theorem too_many_shards_refused :
    ShardsMatch twoShards (shardFiles twoShardsCheckpoint { maxShards := 1 }) ∧
      validateIndexShards { maxShards := 1 } twoShards twoShardsCheckpoint =
        .error { code := .tooManyShards, context := "b.safetensors" } :=
  ⟨twoShards_match, by decide⟩

end Exact

end Qwen3xOrin.Io.Safetensors
