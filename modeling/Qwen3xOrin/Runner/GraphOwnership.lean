import Qwen3xOrin.Runner.DecodeGraphs

/-! Who holds which graph, owner and executable. The slots in use are a multiset; a graph or an
executable that no slot holds yet is the loose one of a capture under way. -/

namespace Qwen3xOrin.Runner

open Library

structure GraphsHeld (held : Multiset DecodeGraphP1Slot) (loose : Option ℕ)
    (graphs : Handles CapturedGraph) : Prop where
  sound : graphs.Sound
  live_iff : ∀ graph, (graphs.live graph).isSome ↔
    (∃ slot ∈ held, slot.graph = graph) ∨ loose = some graph
  nodup : (held.map DecodeGraphP1Slot.graph).Nodup
  apart : ∀ graph, loose = some graph → ∀ slot ∈ held, slot.graph ≠ graph

structure OwnersHeld (held : Multiset DecodeGraphP1Slot)
    (owners : Handles DecodeGraphExecutableOwner) : Prop where
  sound : owners.Sound
  live_iff : ∀ owner, (owners.live owner).isSome ↔ ∃ slot ∈ held, slot.exec = owner
  references : ∀ owner record, owners.live owner = some record →
    record.references = held.countP fun slot => slot.exec = owner

structure ExecutablesHeld (owners : Handles DecodeGraphExecutableOwner) (loose : Option ℕ)
    (executables : Handles GraphContent) : Prop where
  sound : executables.Sound
  live_iff : ∀ executable, (executables.live executable).isSome ↔
    (∃ owner record, owners.live owner = some record ∧ record.executable = executable) ∨
      loose = some executable
  injective : ∀ owner owner' record record', owners.live owner = some record →
    owners.live owner' = some record' → record.executable = record'.executable → owner = owner'
  apart : ∀ executable, loose = some executable → ∀ owner record,
    owners.live owner = some record → record.executable ≠ executable

-- What a replay of the slot needs: its complete graph, or an executable of its own.
structure SlotPlan (store : GraphStore) (slot : DecodeGraphP1Slot)
    (record : DecodeGraphExecutableOwner) (captured : CapturedGraph) : Prop where
  owner : store.owners.live slot.exec = some record
  graph : store.graphs.live slot.graph = some captured
  source : captured.content.source = slot.graph
  position : captured.content.position = slot.stats.position
  complete : record.shared = true → captured.complete = true
  alone : record.shared = false → ∃ content,
    store.executables.live record.executable = some content ∧ content.source = slot.graph ∧
      content.position = slot.stats.position

structure Held (held : Multiset DecodeGraphP1Slot) (graph executable : Option ℕ)
    (store : GraphStore) : Prop where
  graphs : GraphsHeld held graph store.graphs
  owners : OwnersHeld held store.owners
  executables : ExecutablesHeld store.owners executable store.executables
  single : ∀ owner record, store.owners.live owner = some record → record.shared = false →
    record.references = 1
  plan : ∀ slot ∈ held, ∃ record captured, SlotPlan store slot record captured

section Primitives

variable {held : Multiset DecodeGraphP1Slot} {graph executable : Option ℕ} {store : GraphStore}

lemma held_empty : Held 0 none none {} where
  graphs := ⟨Handles.sound_empty, by simp, by simp, by simp⟩
  owners := ⟨Handles.sound_empty, by simp, by simp⟩
  executables := ⟨Handles.sound_empty, by simp, by simp, by simp⟩
  single := by simp
  plan := by simp

lemma GraphsHeld.create {graphs : Handles CapturedGraph} (h : GraphsHeld held none graphs)
    (captured : CapturedGraph) : GraphsHeld held (some graphs.fresh) (graphs.create captured) where
  sound := h.sound.create captured
  live_iff g := by
    by_cases hg : g = graphs.fresh
    · simp [hg]
    · rw [Handles.create_live_of_ne captured hg, h.live_iff g]
      simp [Ne.symm hg]
  nodup := h.nodup
  apart g hg slot hslot heq := by
    obtain rfl := Option.some.inj hg
    have hlive := (h.live_iff slot.graph).mpr (.inl ⟨slot, hslot, rfl⟩)
    rw [heq, h.sound.ahead _ le_rfl] at hlive
    cases hlive

lemma GraphsHeld.release {graphs : Handles CapturedGraph} {g : ℕ}
    (h : GraphsHeld held (some g) graphs) : GraphsHeld held none (graphs.release g) where
  sound := h.sound.release ((h.live_iff g).mpr (.inr rfl))
  live_iff other := by
    by_cases hother : other = g
    · rw [hother, Handles.release_live_self]
      simpa using h.apart g rfl
    · rw [Handles.release_live_of_ne hother, h.live_iff other]
      simp [Ne.symm hother]
  nodup := h.nodup
  apart _ hg := by cases hg

lemma GraphsHeld.modify {graphs : Handles CapturedGraph} (h : GraphsHeld held graph graphs) {g : ℕ}
    (hg : (graphs.live g).isSome) (f : CapturedGraph → CapturedGraph) :
    GraphsHeld held graph (graphs.modify g f) where
  sound := h.sound.modify hg f
  live_iff other := by rw [Handles.modify_isSome, h.live_iff other]
  nodup := h.nodup
  apart := h.apart

lemma ExecutablesHeld.create {owners : Handles DecodeGraphExecutableOwner}
    {executables : Handles GraphContent} (h : ExecutablesHeld owners none executables)
    (content : GraphContent) :
    ExecutablesHeld owners (some executables.fresh) (executables.create content) where
  sound := h.sound.create content
  live_iff e := by
    by_cases he : e = executables.fresh
    · simp [he]
    · rw [Handles.create_live_of_ne content he, h.live_iff e]
      simp [Ne.symm he]
  injective := h.injective
  apart e he owner record hrecord heq := by
    obtain rfl := Option.some.inj he
    have hlive := (h.live_iff record.executable).mpr (.inl ⟨owner, record, hrecord, rfl⟩)
    rw [heq, h.sound.ahead _ le_rfl] at hlive
    cases hlive

lemma ExecutablesHeld.release {owners : Handles DecodeGraphExecutableOwner}
    {executables : Handles GraphContent} {e : ℕ} (h : ExecutablesHeld owners (some e) executables) :
    ExecutablesHeld owners none (executables.release e) where
  sound := h.sound.release ((h.live_iff e).mpr (.inr rfl))
  live_iff other := by
    by_cases hother : other = e
    · rw [hother, Handles.release_live_self]
      simpa using h.apart e rfl
    · rw [Handles.release_live_of_ne hother, h.live_iff other]
      simp [Ne.symm hother]
  injective := h.injective
  apart _ he := by cases he

lemma ExecutablesHeld.modify {owners : Handles DecodeGraphExecutableOwner}
    {executables : Handles GraphContent} (h : ExecutablesHeld owners executable executables)
    {e : ℕ} (he : (executables.live e).isSome) (f : GraphContent → GraphContent) :
    ExecutablesHeld owners executable (executables.modify e f) where
  sound := h.sound.modify he f
  live_iff other := by rw [Handles.modify_isSome, h.live_iff other]
  injective := h.injective
  apart := h.apart

lemma SlotPlan.transport {store' : GraphStore} {slot : DecodeGraphP1Slot}
    {record : DecodeGraphExecutableOwner} {captured : CapturedGraph}
    (h : SlotPlan store slot record captured)
    (howner : store'.owners.live slot.exec = store.owners.live slot.exec)
    (hgraph : store'.graphs.live slot.graph = store.graphs.live slot.graph)
    (hexecutable : record.shared = false → store'.executables.live record.executable =
      store.executables.live record.executable) : SlotPlan store' slot record captured where
  owner := howner.trans h.owner
  graph := hgraph.trans h.graph
  source := h.source
  position := h.position
  complete := h.complete
  alone hshared := by
    rw [hexecutable hshared]
    exact h.alone hshared

lemma Held.createGraph (h : Held held none executable store) (captured : CapturedGraph) :
    Held held (some store.graphs.fresh) executable
      { store with graphs := store.graphs.create captured } where
  graphs := h.graphs.create captured
  owners := h.owners
  executables := h.executables
  single := h.single
  plan slot hslot := by
    obtain ⟨record, plan, hplan⟩ := h.plan slot hslot
    have hne : slot.graph ≠ store.graphs.fresh := (h.graphs.create captured).apart _ rfl slot hslot
    exact ⟨record, plan, hplan.transport rfl (Handles.create_live_of_ne captured hne) fun _ => rfl⟩

lemma Held.destroyGraph {g : ℕ} (h : Held held (some g) executable store) :
    Held held none executable (store.destroyGraph g) where
  graphs := h.graphs.release
  owners := h.owners
  executables := h.executables
  single := h.single
  plan slot hslot := by
    obtain ⟨record, plan, hplan⟩ := h.plan slot hslot
    have hne : slot.graph ≠ g := h.graphs.apart g rfl slot hslot
    exact ⟨record, plan, hplan.transport rfl (Handles.release_live_of_ne hne) fun _ => rfl⟩

lemma Held.modifyGraph {g : ℕ} (h : Held held (some g) executable store)
    (f : CapturedGraph → CapturedGraph) :
    Held held (some g) executable { store with graphs := store.graphs.modify g f } where
  graphs := h.graphs.modify ((h.graphs.live_iff g).mpr (.inr rfl)) f
  owners := h.owners
  executables := h.executables
  single := h.single
  plan slot hslot := by
    obtain ⟨record, plan, hplan⟩ := h.plan slot hslot
    have hne : slot.graph ≠ g := h.graphs.apart g rfl slot hslot
    exact ⟨record, plan, hplan.transport rfl (Handles.modify_live_of_ne f hne) fun _ => rfl⟩

lemma Held.createExecutable (h : Held held graph none store) (content : GraphContent) :
    Held held graph (some store.executables.fresh)
      { store with executables := store.executables.create content } where
  graphs := h.graphs
  owners := h.owners
  executables := h.executables.create content
  single := h.single
  plan slot hslot := by
    obtain ⟨record, plan, hplan⟩ := h.plan slot hslot
    have hne : record.executable ≠ store.executables.fresh :=
      (h.executables.create content).apart _ rfl _ _ hplan.owner
    exact ⟨record, plan, hplan.transport rfl rfl fun _ =>
      Handles.create_live_of_ne content hne⟩

lemma Held.destroyExecutable {e : ℕ} (h : Held held graph (some e) store) :
    Held held graph none (store.destroyExecutable e) where
  graphs := h.graphs
  owners := h.owners
  executables := h.executables.release
  single := h.single
  plan slot hslot := by
    obtain ⟨record, plan, hplan⟩ := h.plan slot hslot
    have hne : record.executable ≠ e := h.executables.apart e rfl _ _ hplan.owner
    exact ⟨record, plan, hplan.transport rfl rfl fun _ => Handles.release_live_of_ne hne⟩

lemma Held.discard {g : ℕ} (h : Held held (some g) executable store) :
    Held held none none (store.discard g executable) := by
  cases executable with
  | none => exact h.destroyGraph
  | some e => exact h.destroyExecutable.destroyGraph

-- No slot of its own executable is on a shared owner.
lemma Held.setExecutable {owner : ℕ} {record : DecodeGraphExecutableOwner}
    (h : Held held graph executable store) (howner : store.owners.live owner = some record)
    (hshared : record.shared = true) (content : GraphContent) :
    Held held graph executable (store.setExecutable record.executable content) where
  graphs := h.graphs
  owners := h.owners
  executables := h.executables.modify
    ((h.executables.live_iff _).mpr (.inl ⟨owner, record, howner, rfl⟩)) _
  single := h.single
  plan slot hslot := by
    obtain ⟨record', plan, hplan⟩ := h.plan slot hslot
    refine ⟨record', plan, hplan.transport rfl rfl fun hshared' => ?_⟩
    refine Handles.modify_live_of_ne _ fun heq => ?_
    have hsame := h.executables.injective _ _ _ _ hplan.owner howner heq
    have hrecord : record' = record := by
      rw [← Option.some_inj, ← hplan.owner, hsame, howner]
    rw [hrecord, hshared] at hshared'
    cases hshared'

lemma Held.useExecutable {e : ℕ} (h : Held held graph executable store)
    (he : (store.executables.live e).isSome) :
    Held held graph executable (store.useExecutable e) where
  graphs := h.graphs
  owners := h.owners
  executables := h.executables.modify he id
  single := h.single
  plan slot hslot := by
    obtain ⟨record, plan, hplan⟩ := h.plan slot hslot
    exact ⟨record, plan, hplan.transport rfl rfl fun _ => by
      simp only [GraphStore.useExecutable, Handles.modify_id_live]⟩

lemma Held.useOwner {owner : ℕ} (h : Held held graph executable store)
    (howner : (store.owners.live owner).isSome) :
    Held held graph executable { store with owners := store.owners.modify owner id } where
  graphs := h.graphs
  owners :=
    { sound := h.owners.sound.modify howner id
      live_iff := by simpa using h.owners.live_iff
      references := by simpa using h.owners.references }
  executables :=
    { sound := h.executables.sound
      live_iff := by simpa using h.executables.live_iff
      injective := by simpa using h.executables.injective
      apart := by simpa using h.executables.apart }
  single := by simpa using h.single
  plan slot hslot := by
    obtain ⟨record, plan, hplan⟩ := h.plan slot hslot
    exact ⟨record, plan, hplan.transport (by simp) rfl fun _ => rfl⟩

end Primitives

section Slots

variable {held : Multiset DecodeGraphP1Slot} {executable : Option ℕ} {slot : DecodeGraphP1Slot}

lemma GraphsHeld.adopt {graphs : Handles CapturedGraph}
    (h : GraphsHeld held (some slot.graph) graphs) : GraphsHeld (slot ::ₘ held) none graphs where
  sound := h.sound
  live_iff g := by
    rw [h.live_iff g]
    simp [or_comm]
  nodup := by
    rw [Multiset.map_cons, Multiset.nodup_cons]
    refine ⟨fun hmem => ?_, h.nodup⟩
    obtain ⟨other, hother, heq⟩ := Multiset.mem_map.mp hmem
    exact h.apart _ rfl other hother heq
  apart _ hg := by cases hg

lemma GraphsHeld.drop {graphs : Handles CapturedGraph} (h : GraphsHeld (slot ::ₘ held) none graphs) :
    GraphsHeld held (some slot.graph) graphs where
  sound := h.sound
  live_iff g := by
    rw [h.live_iff g]
    simp [or_comm]
  nodup := by
    have hnodup := h.nodup
    rw [Multiset.map_cons, Multiset.nodup_cons] at hnodup
    exact hnodup.2
  apart g hg other hother heq := by
    obtain rfl := Option.some.inj hg
    have hnodup := h.nodup
    rw [Multiset.map_cons, Multiset.nodup_cons] at hnodup
    exact hnodup.1 (Multiset.mem_map.mpr ⟨other, hother, heq⟩)

lemma OwnersHeld.create {owners : Handles DecodeGraphExecutableOwner}
    (h : OwnersHeld held owners) {record : DecodeGraphExecutableOwner}
    (hrecord : record.references = 1) (hslot : slot.exec = owners.fresh) :
    OwnersHeld (slot ::ₘ held) (owners.create record) where
  sound := h.sound.create record
  live_iff owner := by
    by_cases howner : owner = owners.fresh
    · simp [howner, hslot]
    · rw [Handles.create_live_of_ne record howner, h.live_iff owner]
      simp [hslot, Ne.symm howner]
  references owner other hother := by
    by_cases howner : owner = owners.fresh
    · rw [howner, Handles.create_live_self] at hother
      obtain rfl := Option.some.inj hother
      have hnone : held.countP (fun s => s.exec = owner) = 0 := by
        rw [Multiset.countP_eq_zero]
        intro s hs heq
        have hlive := (h.live_iff s.exec).mpr ⟨s, hs, rfl⟩
        rw [heq, howner, h.sound.ahead _ le_rfl] at hlive
        cases hlive
      rw [Multiset.countP_cons, hnone, if_pos (hslot.trans howner.symm), hrecord]
    · rw [Handles.create_live_of_ne record howner] at hother
      rw [Multiset.countP_cons, if_neg (fun heq => howner (heq.symm.trans hslot)), add_zero]
      exact h.references owner other hother

lemma OwnersHeld.retain {owners : Handles DecodeGraphExecutableOwner} (h : OwnersHeld held owners)
    (hlive : (owners.live slot.exec).isSome) :
    OwnersHeld (slot ::ₘ held) (owners.modify slot.exec fun record =>
      { record with references := record.references + 1 }) where
  sound := h.sound.modify hlive _
  live_iff owner := by
    rw [Handles.modify_isSome, h.live_iff owner]
    constructor
    · rintro ⟨s, hs, heq⟩
      exact ⟨s, Multiset.mem_cons_of_mem hs, heq⟩
    · rintro ⟨s, hs, rfl⟩
      obtain rfl | hs := Multiset.mem_cons.mp hs
      · exact (h.live_iff _).mp hlive
      · exact ⟨s, hs, rfl⟩
  references owner other hother := by
    rw [Multiset.countP_cons]
    by_cases howner : owner = slot.exec
    · rw [howner, Handles.modify_live_self, Option.map_eq_some_iff] at hother
      obtain ⟨record, hrecord, rfl⟩ := hother
      rw [if_pos howner.symm, howner, h.references _ _ hrecord]
    · rw [Handles.modify_live_of_ne _ howner] at hother
      rw [if_neg (Ne.symm howner), add_zero]
      exact h.references owner other hother

lemma OwnersHeld.references_pos {owners : Handles DecodeGraphExecutableOwner}
    (h : OwnersHeld held owners) {owner : ℕ} {record : DecodeGraphExecutableOwner}
    (hrecord : owners.live owner = some record) : 0 < record.references := by
  obtain ⟨s, hs, heq⟩ := (h.live_iff owner).mp (by rw [hrecord]; rfl)
  rw [h.references owner record hrecord]
  exact Multiset.countP_pos.mpr ⟨s, hs, heq⟩

-- The references that are left after one slot of the owner is gone.
lemma OwnersHeld.drop {owners : Handles DecodeGraphExecutableOwner}
    (h : OwnersHeld (slot ::ₘ held) owners) {record : DecodeGraphExecutableOwner}
    (hrecord : owners.live slot.exec = some record) (hleft : record.references - 1 ≠ 0) :
    OwnersHeld held (owners.modify slot.exec fun record =>
      { record with references := record.references - 1 }) where
  sound := h.sound.modify (by rw [hrecord]; rfl) _
  live_iff owner := by
    rw [Handles.modify_isSome, h.live_iff owner]
    constructor
    · rintro ⟨s, hs, rfl⟩
      obtain rfl | hs := Multiset.mem_cons.mp hs
      · have hcount := h.references _ _ hrecord
        rw [Multiset.countP_cons, if_pos rfl] at hcount
        exact Multiset.countP_pos.mp (show 0 < held.countP (fun t => t.exec = s.exec) by omega)
      · exact ⟨s, hs, rfl⟩
    · rintro ⟨s, hs, heq⟩
      exact ⟨s, Multiset.mem_cons_of_mem hs, heq⟩
  references owner other hother := by
    by_cases howner : owner = slot.exec
    · rw [howner, Handles.modify_live_self, Option.map_eq_some_iff] at hother
      obtain ⟨record', hrecord', rfl⟩ := hother
      have hcount := h.references _ _ hrecord'
      rw [Multiset.countP_cons, if_pos rfl] at hcount
      rw [howner]
      simp only
      omega
    · rw [Handles.modify_live_of_ne _ howner] at hother
      have hcount := h.references owner other hother
      rwa [Multiset.countP_cons, if_neg (Ne.symm howner), add_zero] at hcount

lemma OwnersHeld.release {owners : Handles DecodeGraphExecutableOwner}
    (h : OwnersHeld (slot ::ₘ held) owners) {record : DecodeGraphExecutableOwner}
    (hrecord : owners.live slot.exec = some record) (hlast : record.references - 1 = 0) :
    (∀ s ∈ held, s.exec ≠ slot.exec) ∧ OwnersHeld held (owners.release slot.exec) := by
  have hcount := h.references _ _ hrecord
  rw [Multiset.countP_cons, if_pos rfl] at hcount
  have hnone : ∀ s ∈ held, s.exec ≠ slot.exec := by
    refine Multiset.countP_eq_zero.mp ?_
    omega
  refine ⟨hnone, ⟨h.sound.release (by rw [hrecord]; rfl), fun owner => ?_, fun owner other hother => ?_⟩⟩
  · by_cases howner : owner = slot.exec
    · rw [howner, Handles.release_live_self]
      simpa using hnone
    · rw [Handles.release_live_of_ne howner, h.live_iff owner]
      simp [Ne.symm howner]
  · by_cases howner : owner = slot.exec
    · rw [howner, Handles.release_live_self] at hother
      cases hother
    · rw [Handles.release_live_of_ne howner] at hother
      have href := h.references owner other hother
      rwa [Multiset.countP_cons, if_neg (Ne.symm howner), add_zero] at href

variable {owners owners' : Handles DecodeGraphExecutableOwner} {executables : Handles GraphContent}

lemma ExecutablesHeld.relabel (h : ExecutablesHeld owners executable executables)
    (hsame : ∀ owner, (owners'.live owner).map DecodeGraphExecutableOwner.executable =
      (owners.live owner).map DecodeGraphExecutableOwner.executable) :
    ExecutablesHeld owners' executable executables := by
  have hold : ∀ owner record', owners'.live owner = some record' → ∃ record,
      owners.live owner = some record ∧ record.executable = record'.executable := by
    intro owner record' hrecord'
    have heq := hsame owner
    rw [hrecord', Option.map_some] at heq
    exact Option.map_eq_some_iff.mp heq.symm
  refine ⟨h.sound, fun e => ?_, ?_, ?_⟩
  · rw [h.live_iff e]
    refine or_congr_left ⟨?_, ?_⟩
    · rintro ⟨owner, record, hrecord, rfl⟩
      have heq := hsame owner
      rw [hrecord, Option.map_some] at heq
      obtain ⟨record', hrecord', hexec⟩ := Option.map_eq_some_iff.mp heq
      exact ⟨owner, record', hrecord', hexec⟩
    · rintro ⟨owner, record', hrecord', rfl⟩
      obtain ⟨record, hrecord, hexec⟩ := hold owner record' hrecord'
      exact ⟨owner, record, hrecord, hexec⟩
  · intro owner other record' other' hrecord' hother' heq
    obtain ⟨record, hrecord, hexec⟩ := hold owner record' hrecord'
    obtain ⟨record₂, hrecord₂, hexec₂⟩ := hold other other' hother'
    exact h.injective owner other record record₂ hrecord hrecord₂ (by rw [hexec, hexec₂, heq])
  · intro e he owner record' hrecord'
    obtain ⟨record, hrecord, hexec⟩ := hold owner record' hrecord'
    rw [← hexec]
    exact h.apart e he owner record hrecord

lemma ExecutablesHeld.adopt {record : DecodeGraphExecutableOwner} (hsound : owners.Sound)
    (h : ExecutablesHeld owners (some record.executable) executables) :
    ExecutablesHeld (owners.create record) none executables := by
  have hcases : ∀ owner other, (owners.create record).live owner = some other →
      (owner = owners.fresh ∧ other = record) ∨ owners.live owner = some other := by
    intro owner other hother
    by_cases howner : owner = owners.fresh
    · rw [howner, Handles.create_live_self] at hother
      exact .inl ⟨howner, (Option.some.inj hother).symm⟩
    · rw [Handles.create_live_of_ne record howner] at hother
      exact .inr hother
  refine ⟨h.sound, fun e => ?_, ?_, fun e he => by cases he⟩
  · rw [h.live_iff e]
    constructor
    · rintro (⟨owner, other, hother, rfl⟩ | he)
      · have hne : owner ≠ owners.fresh := Nat.ne_of_lt (hsound.lt_fresh hother)
        exact .inl ⟨owner, other, by rw [Handles.create_live_of_ne record hne, hother], rfl⟩
      · exact .inl ⟨owners.fresh, record, Handles.create_live_self record, Option.some.inj he⟩
    · rintro (⟨owner, other, hother, rfl⟩ | he)
      · obtain ⟨-, rfl⟩ | hother := hcases owner other hother
        · exact .inr rfl
        · exact .inl ⟨owner, other, hother, rfl⟩
      · cases he
  · intro owner owner' other other' hother hother' heq
    obtain ⟨rfl, rfl⟩ | hlive := hcases owner other hother
    · obtain ⟨rfl, -⟩ | hlive' := hcases owner' other' hother'
      · rfl
      · exact (h.apart _ rfl owner' other' hlive' heq.symm).elim
    · obtain ⟨rfl, rfl⟩ | hlive' := hcases owner' other' hother'
      · exact (h.apart _ rfl owner other hlive heq).elim
      · exact h.injective owner owner' other other' hlive hlive' heq

lemma ExecutablesHeld.drop {owner : ℕ} {record : DecodeGraphExecutableOwner}
    (h : ExecutablesHeld owners none executables) (hrecord : owners.live owner = some record) :
    ExecutablesHeld (owners.release owner) (some record.executable) executables := by
  have hold : ∀ other record', (owners.release owner).live other = some record' →
      other ≠ owner ∧ owners.live other = some record' := by
    intro other record' hrecord'
    by_cases hother : other = owner
    · rw [hother, Handles.release_live_self] at hrecord'
      cases hrecord'
    · rw [Handles.release_live_of_ne hother] at hrecord'
      exact ⟨hother, hrecord'⟩
  refine ⟨h.sound, fun e => ?_, ?_, ?_⟩
  · rw [h.live_iff e]
    constructor
    · rintro (⟨other, record', hrecord', rfl⟩ | he)
      · by_cases hother : other = owner
        · rw [hother, hrecord] at hrecord'
          obtain rfl := Option.some.inj hrecord'
          exact .inr rfl
        · exact .inl ⟨other, record', by rw [Handles.release_live_of_ne hother, hrecord'], rfl⟩
      · cases he
    · rintro (⟨other, record', hrecord', rfl⟩ | he)
      · exact .inl ⟨other, record', (hold other record' hrecord').2, rfl⟩
      · exact .inl ⟨owner, record, hrecord, Option.some.inj he⟩
  · intro other other' record₁ record₂ h₁ h₂ heq
    exact h.injective other other' record₁ record₂ (hold _ _ h₁).2 (hold _ _ h₂).2 heq
  · intro e he other record' hrecord' heq
    obtain rfl := Option.some.inj he
    obtain ⟨hne, hlive⟩ := hold other record' hrecord'
    exact hne (h.injective other owner record' record hlive hrecord heq)

end Slots

section Adoption

variable {held : Multiset DecodeGraphP1Slot} {store : GraphStore} {slot : DecodeGraphP1Slot}

-- The plan of a slot reads nothing of its owner but the executable and whether it is shared.
lemma SlotPlan.rebind {store' : GraphStore} {record record' : DecodeGraphExecutableOwner}
    {captured : CapturedGraph} (h : SlotPlan store slot record captured)
    (howner : store'.owners.live slot.exec = some record')
    (hshared : record'.shared = record.shared)
    (hsame : record'.executable = record.executable)
    (hgraph : store'.graphs.live slot.graph = store.graphs.live slot.graph)
    (hexecutable : store'.executables.live record.executable =
      store.executables.live record.executable) : SlotPlan store' slot record' captured where
  owner := howner
  graph := hgraph.trans h.graph
  source := h.source
  position := h.position
  complete hrecord := h.complete (hshared ▸ hrecord)
  alone hrecord := by
    rw [hsame, hexecutable]
    exact h.alone (hshared ▸ hrecord)

-- A captured graph with an executable of its own becomes a slot.
lemma Held.adopt {record : DecodeGraphExecutableOwner} {captured : CapturedGraph}
    (h : Held held (some slot.graph) (some record.executable) store)
    (hreferences : record.references = 1) (hexec : slot.exec = store.owners.fresh)
    (hgraph : store.graphs.live slot.graph = some captured)
    (hsource : captured.content.source = slot.graph)
    (hposition : captured.content.position = slot.stats.position)
    (hcomplete : record.shared = true → captured.complete = true)
    (halone : ∃ content, store.executables.live record.executable = some content ∧
      content.source = slot.graph ∧ content.position = slot.stats.position) :
    Held (slot ::ₘ held) none none { store with owners := store.owners.create record } where
  graphs := h.graphs.adopt
  owners := h.owners.create hreferences hexec
  executables := h.executables.adopt h.owners.sound
  single owner other hother hshared := by
    by_cases howner : owner = store.owners.fresh
    · rw [howner] at hother
      simp only [Handles.create_live_self, Option.some.injEq] at hother
      rw [← hother, hreferences]
    · simp only [Handles.create_live_of_ne record howner] at hother
      exact h.single owner other hother hshared
  plan other hother := by
    obtain rfl | hother := Multiset.mem_cons.mp hother
    · refine ⟨record, captured, ⟨?_, hgraph, hsource, hposition, hcomplete, fun _ => halone⟩⟩
      rw [hexec]
      exact Handles.create_live_self record
    · obtain ⟨record', captured', hplan⟩ := h.plan other hother
      have hne : other.exec ≠ store.owners.fresh :=
        Nat.ne_of_lt (h.owners.sound.lt_fresh hplan.owner)
      exact ⟨record', captured', hplan.transport (Handles.create_live_of_ne record hne) rfl
        fun _ => rfl⟩

-- A captured graph joins the slots of a shared owner.
lemma Held.retain {record : DecodeGraphExecutableOwner} {captured : CapturedGraph}
    (h : Held held (some slot.graph) none store)
    (howner : store.owners.live slot.exec = some record) (hshared : record.shared = true)
    (hgraph : store.graphs.live slot.graph = some captured)
    (hsource : captured.content.source = slot.graph)
    (hposition : captured.content.position = slot.stats.position)
    (hcomplete : captured.complete = true) :
    Held (slot ::ₘ held) none none
      { store with
        owners := store.owners.modify slot.exec fun record =>
          { record with references := record.references + 1 } } := by
  have hlive : (store.owners.live slot.exec).isSome := by rw [howner]; rfl
  refine ⟨h.graphs.adopt, h.owners.retain hlive, ?_, ?_, ?_⟩
  · refine h.executables.relabel fun owner => ?_
    by_cases heq : owner = slot.exec
    · rw [heq, Handles.modify_live_self, Option.map_map]
      rfl
    · rw [Handles.modify_live_of_ne _ heq]
  · intro owner other hother hunshared
    by_cases heq : owner = slot.exec
    · simp only [heq, Handles.modify_live_self, howner, Option.map_some,
        Option.some.injEq] at hother
      rw [← hother] at hunshared
      rw [show record.shared = false from hunshared] at hshared
      cases hshared
    · simp only [Handles.modify_live_of_ne _ heq] at hother
      exact h.single owner other hother hunshared
  · intro other hother
    have hmodified : (store.owners.modify slot.exec fun record =>
        { record with references := record.references + 1 }).live slot.exec =
        some { record with references := record.references + 1 } := by
      rw [Handles.modify_live_self, howner]
      rfl
    obtain rfl | hother := Multiset.mem_cons.mp hother
    · exact ⟨_, captured, ⟨hmodified, hgraph, hsource, hposition, fun _ => hcomplete,
        fun hunshared => by rw [show record.shared = false from hunshared] at hshared; cases hshared⟩⟩
    · obtain ⟨record', captured', hplan⟩ := h.plan other hother
      by_cases heq : other.exec = slot.exec
      · obtain rfl : record' = record := by
          rw [← Option.some_inj, ← hplan.owner, heq, howner]
        refine ⟨{ record' with references := record'.references + 1 }, captured',
          hplan.rebind ?_ rfl rfl rfl rfl⟩
        rw [heq]
        exact hmodified
      · exact ⟨record', captured', hplan.transport (Handles.modify_live_of_ne _ heq) rfl
          fun _ => rfl⟩

lemma Held.dropOwner (h : Held (slot ::ₘ held) none none store) :
    Held held (some slot.graph) none (dropOwner slot.exec store) := by
  obtain ⟨record, captured, hplan⟩ := h.plan slot (Multiset.mem_cons_self slot held)
  have hmodified : (store.owners.modify slot.exec fun record =>
      { record with references := record.references - 1 }).live slot.exec =
      some { record with references := record.references - 1 } := by
    rw [Handles.modify_live_self, hplan.owner]
    rfl
  unfold Runner.dropOwner
  simp only [hmodified]
  split_ifs with hlast
  · obtain ⟨hothers, howners⟩ := h.owners.release hplan.owner hlast
    rw [Handles.modify_release]
    refine ⟨h.graphs.drop, howners, (h.executables.drop hplan.owner).release, ?_, ?_⟩
    · intro owner other hother hunshared
      by_cases heq : owner = slot.exec
      · simp [heq] at hother
      · simp only [Handles.release_live_of_ne heq] at hother
        exact h.single owner other hother hunshared
    · intro other hother
      obtain ⟨record', captured', hother'⟩ := h.plan other (Multiset.mem_cons_of_mem hother)
      refine ⟨record', captured', hother'.transport
        (Handles.release_live_of_ne (hothers other hother)) rfl fun _ => ?_⟩
      refine Handles.release_live_of_ne fun heq => ?_
      exact hothers other hother
        (h.executables.injective _ _ _ _ hother'.owner hplan.owner heq)
  · refine ⟨h.graphs.drop, h.owners.drop hplan.owner hlast, ?_, ?_, ?_⟩
    · refine h.executables.relabel fun owner => ?_
      by_cases heq : owner = slot.exec
      · rw [heq, Handles.modify_live_self, Option.map_map]
        rfl
      · rw [Handles.modify_live_of_ne _ heq]
    · intro owner other hother hunshared
      by_cases heq : owner = slot.exec
      · simp only [heq, hmodified, Option.some.injEq] at hother
        have hone := h.single _ _ hplan.owner (by rw [← hother] at hunshared; exact hunshared)
        omega
      · simp only [Handles.modify_live_of_ne _ heq] at hother
        exact h.single owner other hother hunshared
    · intro other hother
      obtain ⟨record', captured', hother'⟩ := h.plan other (Multiset.mem_cons_of_mem hother)
      by_cases heq : other.exec = slot.exec
      · obtain rfl : record' = record := by
          rw [← Option.some_inj, ← hother'.owner, heq, hplan.owner]
        refine ⟨{ record' with references := record'.references - 1 }, captured',
          hother'.rebind ?_ rfl rfl rfl rfl⟩
        rw [heq]
        exact hmodified
      · exact ⟨record', captured', hother'.transport (Handles.modify_live_of_ne _ heq) rfl
          fun _ => rfl⟩

lemma Held.destroySlot (h : Held (slot ::ₘ held) none none store) :
    Held held none none (destroyDecodeGraphP1Slot slot store) :=
  h.dropOwner.destroyGraph

lemma Held.destroySlots {slots : List DecodeGraphP1Slot} (h : Held (↑slots + held) none none store) :
    Held held none none (destroySlots slots store) := by
  induction slots generalizing store with
  | nil => simpa [Runner.destroySlots] using h
  | cons slot slots ih =>
    have h : Held (slot ::ₘ (↑slots + held)) none none store := by
      rwa [← Multiset.cons_coe, Multiset.cons_add] at h
    exact ih h.destroySlot

lemma dropOwner_launched (owner : ℕ) (store : GraphStore) :
    (Runner.dropOwner owner store).launched = store.launched := by
  unfold Runner.dropOwner
  dsimp only
  split
  · split_ifs <;> rfl
  · rfl

lemma destroySlots_launched (slots : List DecodeGraphP1Slot) (store : GraphStore) :
    (Runner.destroySlots slots store).launched = store.launched := by
  induction slots generalizing store with
  | nil => rfl
  | cons slot slots ih => exact (ih _).trans (dropOwner_launched slot.exec store)

end Adoption

end Qwen3xOrin.Runner
