import Qwen3xOrin.Runner.GraphOwnership

/-! What a capture and a replay do to the graph store. A capture that stops has destroyed what it
made; a replay that succeeds launches the graph of its own slot. -/

namespace Qwen3xOrin.Runner

open Library

-- The store between two calls: every object belongs to a slot.
structure Resting (held : Multiset DecodeGraphP1Slot) (log : List GraphContent)
    (store : GraphStore) : Prop where
  held : Held held none none store
  log : store.launched = log

def OwnerShared (owner : Option ℕ) (store : GraphStore) : Prop :=
  ∀ o, owner = some o → ∃ record, store.owners.live o = some record ∧ record.shared = true

-- The store while a graph is captured that no slot holds yet.
structure Capturing (held : Multiset DecodeGraphP1Slot) (log : List GraphContent)
    (owner : Option ℕ) (position : ℕ) (complete : Bool) (executable : Option ℕ) (graph : ℕ)
    (store : GraphStore) : Prop where
  held : Held held (some graph) executable store
  log : store.launched = log
  owner : OwnerShared owner store
  captured : ∃ captured, store.graphs.live graph = some captured ∧
    captured.content.source = graph ∧ captured.content.position = position ∧
    (complete = true → captured.complete = true)
  installed : ∀ e, executable = some e → ∃ content, store.executables.live e = some content ∧
    content.source = graph ∧ content.position = position

section Capture

variable {held : Multiset DecodeGraphP1Slot} {log : List GraphContent} {owner : Option ℕ}
  {position graph : ℕ} {complete : Bool} {executable : Option ℕ} {store : GraphStore}
  (answers : CaptureAnswers)

lemma Capturing.discard (h : Capturing held log owner position complete executable graph store) :
    Resting held log (store.discard graph executable) := by
  refine ⟨h.held.discard, ?_⟩
  rw [← h.log]
  cases executable <;> rfl

lemma Capturing.content (h : Capturing held log owner position complete executable graph store) :
    (store.graphContent graph).source = graph ∧
      (store.graphContent graph).position = position := by
  obtain ⟨captured, hlive, hsource, hposition, -⟩ := h.captured
  unfold GraphStore.graphContent
  rw [hlive]
  exact ⟨hsource, hposition⟩

lemma endCapture_spec (token : ℕ) :
    Triple (fun store => Resting held log store ∧ OwnerShared owner store)
      (endCapture answers position token)
      (fun graph => Capturing held log owner position true none graph) (Resting held log) := by
  rintro store ⟨hrest, howner⟩
  have hcreated : Capturing held log owner position true none store.graphs.fresh
      { store with
        graphs := store.graphs.create
          ⟨⟨store.graphs.fresh, position, token * referenceHiddenSize⟩, true⟩ } :=
    ⟨hrest.held.createGraph _, hrest.log, howner,
      ⟨_, Handles.create_live_self _, rfl, rfl, fun _ => rfl⟩, fun _ he => by cases he⟩
  have hdestroyed := hcreated.discard
  unfold endCapture
  rw [outcome_mk]
  dsimp only
  cases answers.enqueue with
  | some status =>
    dsimp only
    split_ifs
    · exact hdestroyed
    · exact hrest
  | none =>
    dsimp only
    split_ifs
    · exact hdestroyed
    · exact hrest
    · exact hcreated

lemma inspect_spec :
    Triple (Capturing held log owner position complete none graph) (inspect answers graph)
      (fun _ => Capturing held log owner position complete none graph) (Resting held log) := by
  unfold inspect
  cases inspectCapture answers with
  | none => exact Triple.ret fun _ h => h
  | some status => exact fun store h => h.discard

lemma ownerExecutable_spec {o : ℕ} :
    Triple (Capturing held log (some o) position complete none graph) (ownerExecutable o)
      (fun e store => Capturing held log (some o) position complete none graph store ∧
        ∃ record, store.owners.live o = some record ∧ record.shared = true ∧
          record.executable = e) (Resting held log) := by
  intro store h
  obtain ⟨record, hlive, hshared⟩ := h.owner o rfl
  unfold ownerExecutable
  rw [outcome_mk]
  refine ⟨⟨h.held.useOwner (by rw [hlive]; rfl), h.log, ?_, h.captured, h.installed⟩,
    record, ?_, hshared, ?_⟩
  · intro o' ho'
    obtain ⟨record', hlive', hshared'⟩ := h.owner o' ho'
    exact ⟨record', by simpa using hlive', hshared'⟩
  · simpa using hlive
  · rw [hlive]
    rfl

-- Only a complete graph brings a shared executable up to date.
lemma updateShared_spec {o e : ℕ} :
    Triple (fun store => Capturing held log (some o) position complete none graph store ∧
        ∃ record, store.owners.live o = some record ∧ record.shared = true ∧
          record.executable = e) (updateShared answers graph e)
      (fun _ store => Capturing held log (some o) position complete none graph store ∧
        ∃ record, store.owners.live o = some record ∧ record.shared = true ∧
          record.executable = e) (Resting held log) := by
  rintro store ⟨h, record, hlive, hshared, rfl⟩
  have hset (content : GraphContent) : Capturing held log (some o) position complete none graph
      (store.setExecutable record.executable content) :=
    ⟨h.held.setExecutable hlive hshared content, h.log, h.owner, h.captured,
      fun _ he => by cases he⟩
  unfold updateShared
  rw [outcome_mk]
  dsimp only
  split_ifs
  · exact (hset _).discard
  · exact ⟨hset _, record, hlive, hshared, rfl⟩

lemma upload_shared_spec {o e : ℕ} :
    Triple (fun store => Capturing held log (some o) position complete none graph store ∧
        ∃ record, store.owners.live o = some record ∧ record.shared = true ∧
          record.executable = e) (upload answers graph e none)
      (fun _ => Capturing held log (some o) position complete none graph) (Resting held log) := by
  rintro store ⟨h, record, hlive, hshared, rfl⟩
  have hlive' : (store.executables.live record.executable).isSome :=
    (h.held.executables.live_iff _).mpr (.inl ⟨o, record, hlive, rfl⟩)
  have hused : Capturing held log (some o) position complete none graph
      (store.useExecutable record.executable) :=
    ⟨h.held.useExecutable hlive', h.log, h.owner, h.captured, fun _ he => by cases he⟩
  unfold upload
  rw [outcome_mk]
  dsimp only
  split_ifs
  · exact hused.discard
  · exact hused

lemma instantiate_spec :
    Triple (Capturing held log owner position complete none graph) (instantiate answers graph)
      (fun e => Capturing held log owner position complete (some e) graph)
      (Resting held log) := by
  intro store h
  have hcreated : Capturing held log owner position complete (some store.executables.fresh) graph
      { store with
        executables := store.executables.create (store.graphContent graph) } := by
    refine ⟨h.held.createExecutable _, h.log, h.owner, h.captured, ?_⟩
    rintro e he
    obtain rfl := Option.some.inj he
    exact ⟨_, Handles.create_live_self _, h.content⟩
  unfold instantiate
  rw [outcome_mk]
  dsimp only
  split_ifs
  · exact hcreated.discard
  · exact h.discard
  · exact hcreated

lemma upload_own_spec {e : ℕ} :
    Triple (Capturing held log owner position complete (some e) graph)
      (upload answers graph e (some e))
      (fun _ => Capturing held log owner position complete (some e) graph)
      (Resting held log) := by
  intro store h
  have hlive : (store.executables.live e).isSome :=
    (h.held.executables.live_iff _).mpr (.inr rfl)
  have hused : Capturing held log owner position complete (some e) graph
      (store.useExecutable e) := by
    refine ⟨h.held.useExecutable hlive, h.log, h.owner, h.captured, fun e' he' => ?_⟩
    simpa only [GraphStore.useExecutable, Handles.modify_id_live] using h.installed e' he'
  unfold upload
  rw [outcome_mk]
  dsimp only
  split_ifs
  · exact hused.discard
  · exact hused

lemma keepEmbeddingTemplate_spec {e : ℕ} :
    Triple (Capturing held log owner position complete (some e) graph)
      (keepEmbeddingTemplate answers graph (some e))
      (fun _ => Capturing held log owner position false (some e) graph) (Resting held log) := by
  intro store h
  obtain ⟨captured, hlive, hsource, hposition, -⟩ := h.captured
  have hcut : Capturing held log owner position false (some e) graph
      { store with graphs := store.graphs.modify graph ({ · with complete := false }) } := by
    refine ⟨h.held.modifyGraph _, h.log, h.owner, ⟨{ captured with complete := false }, ?_,
      hsource, hposition, fun hfalse => by cases hfalse⟩, h.installed⟩
    simp only [Handles.modify_live_self, hlive, Option.map_some]
  unfold keepEmbeddingTemplate
  rw [outcome_mk]
  dsimp only
  cases retainedTemplate answers with
  | none => exact hcut
  | some status => exact hcut.discard

-- What a finished capture leaves: its slot is held, and a slot of a range is on a shared owner.
structure CapturedSlot (held : Multiset DecodeGraphP1Slot) (log : List GraphContent)
    (owner : Option ℕ) (position : ℕ) (staged : Bool) (slot : DecodeGraphP1Slot)
    (store : GraphStore) : Prop where
  resting : Resting (slot ::ₘ held) log store
  position : slot.stats.position = position
  owner : ∀ o, owner = some o → slot.exec = o
  shared : staged = true → OwnerShared (some slot.exec) store

lemma newOwner_spec {e : ℕ} {staged : Bool} (stats : ReferenceDecodeGraphP1Stats)
    (hstats : stats.position = position) (hcomplete : staged = true → complete = true) :
    Triple (Capturing held log none position complete (some e) graph)
      (newOwner answers graph e staged)
      (fun o => CapturedSlot held log none position staged ⟨graph, o, stats⟩) (Resting held log) := by
  intro store h
  obtain ⟨captured, hlive, hsource, hposition, hwhole⟩ := h.captured
  obtain ⟨content, hcontent, hcontentSource, hcontentPosition⟩ := h.installed e rfl
  unfold newOwner
  rw [outcome_mk]
  split_ifs
  · exact h.discard
  · have hadopt := @Held.adopt held store ⟨graph, store.owners.fresh, stats⟩
      { executable := e, shared := staged } captured h.held rfl rfl hlive hsource
      (hposition.trans hstats.symm) (fun hshared => hwhole (hcomplete hshared))
      ⟨content, hcontent, hcontentSource, hcontentPosition.trans hstats.symm⟩
    refine ⟨⟨hadopt, h.log⟩, hstats, fun o ho => (by cases ho), ?_⟩
    rintro hstaged o ho
    obtain rfl := Option.some.inj ho
    exact ⟨_, Handles.create_live_self _, hstaged⟩

lemma retainOwner_spec {o : ℕ} (stats : ReferenceDecodeGraphP1Stats)
    (hstats : stats.position = position) :
    Triple (Capturing held log (some o) position true none graph) (retainOwner o)
      (fun _ => CapturedSlot held log (some o) position true ⟨graph, o, stats⟩) (Resting held log) := by
  refine Triple.update fun store h => ?_
  obtain ⟨captured, hlive, hsource, hposition, hwhole⟩ := h.captured
  obtain ⟨record, howner, hshared⟩ := h.owner o rfl
  have hretain := @Held.retain held store ⟨graph, o, stats⟩ record captured h.held howner hshared
    hlive hsource (hposition.trans hstats.symm) (hwhole rfl)
  refine ⟨⟨hretain, h.log⟩, hstats, fun o' ho' => Option.some.inj ho', ?_⟩
  rintro - o' ho'
  obtain rfl := Option.some.inj ho'
  refine ⟨{ record with references := record.references + 1 }, ?_, hshared⟩
  simp only [Handles.modify_live_self, howner, Option.map_some]

lemma captureSlot_spec (token : ℕ) {staged : Bool} (howner : owner.isSome → staged = true) :
    Triple (fun store => Resting held log store ∧ OwnerShared owner store)
      (captureSlot answers position token staged owner)
      (CapturedSlot held log owner position staged) (Resting held log) := by
  unfold captureSlot
  refine Triple.bind (endCapture_spec answers token) fun graph => ?_
  refine Triple.bind (inspect_spec answers) fun _ => ?_
  cases owner with
  | some o =>
    obtain rfl := howner rfl
    refine Triple.bind ownerExecutable_spec fun e => ?_
    refine Triple.bind (updateShared_spec answers) fun _ => ?_
    refine Triple.bind (upload_shared_spec answers) fun _ => ?_
    refine Triple.bind (retainOwner_spec ⟨position, token, answers.nodeCount⟩ rfl) fun _ => ?_
    exact Triple.ret fun _ h => h
  | none =>
    refine Triple.bind (instantiate_spec answers) fun e => ?_
    refine Triple.bind (upload_own_spec answers) fun _ => ?_
    cases staged with
    | true =>
      refine Triple.bind (newOwner_spec answers ⟨position, token, answers.nodeCount⟩ rfl
        fun _ => rfl) fun _ => ?_
      exact Triple.ret fun _ h => h
    | false =>
      refine Triple.bind (keepEmbeddingTemplate_spec answers) fun _ => ?_
      refine Triple.bind (newOwner_spec answers ⟨position, token, answers.nodeCount⟩ rfl
        fun hstaged => by cases hstaged) fun _ => ?_
      exact Triple.ret fun _ h => h

end Capture

section Replay

variable {held : Multiset DecodeGraphP1Slot} {log : List GraphContent} {store : GraphStore}
  {slot : DecodeGraphP1Slot} {record : DecodeGraphExecutableOwner} {captured : CapturedGraph}

def replayedContent (slot : DecodeGraphP1Slot) (token : ℕ) : GraphContent :=
  ⟨slot.graph, slot.stats.position, token * referenceHiddenSize⟩

lemma setEmbedding_eq {content : GraphContent} {token : ℕ} (hsource : content.source = slot.graph)
    (hposition : content.position = slot.stats.position) :
    setEmbedding (token * referenceHiddenSize) content = replayedContent slot token := by
  unfold setEmbedding replayedContent
  rw [← hsource, ← hposition]

-- A new embedding row changes nothing that a slot's plan reads.
lemma Held.embedGraph (h : Held held none none store) (hslot : slot ∈ held) (offset : ℕ) :
    Held held none none
      { store with
        graphs := store.graphs.modify slot.graph fun captured =>
          { captured with content := setEmbedding offset captured.content } } where
  graphs := h.graphs.modify ((h.graphs.live_iff _).mpr (.inl ⟨slot, hslot, rfl⟩)) _
  owners := h.owners
  executables := h.executables
  single := h.single
  plan other hother := by
    obtain ⟨record, captured, hplan⟩ := h.plan other hother
    by_cases heq : other.graph = slot.graph
    · refine ⟨record, { captured with content := setEmbedding offset captured.content },
        hplan.owner, ?_, hplan.source, hplan.position, hplan.complete, hplan.alone⟩
      simp only [heq, Handles.modify_live_self]
      rw [← heq, hplan.graph]
      rfl
    · exact ⟨record, captured, hplan.transport rfl (Handles.modify_live_of_ne _ heq) fun _ => rfl⟩

lemma Held.embedExecutable (h : Held held none none store)
    (hplan : SlotPlan store slot record captured) (offset : ℕ) :
    Held held none none
      { store with
        executables := store.executables.modify record.executable (setEmbedding offset) } where
  graphs := h.graphs
  owners := h.owners
  executables := h.executables.modify
    ((h.executables.live_iff _).mpr (.inl ⟨_, record, hplan.owner, rfl⟩)) _
  single := h.single
  plan other hother := by
    obtain ⟨record', captured', hother'⟩ := h.plan other hother
    refine ⟨record', captured', hother'.owner, hother'.graph, hother'.source, hother'.position,
      hother'.complete, fun hshared => ?_⟩
    obtain ⟨content, hcontent, hsource, hposition⟩ := hother'.alone hshared
    by_cases heq : record'.executable = record.executable
    · refine ⟨setEmbedding offset content, ?_, hsource, hposition⟩
      simp only [heq, Handles.modify_live_self]
      rw [← heq, hcontent]
      rfl
    · refine ⟨content, ?_, hsource, hposition⟩
      simp only [Handles.modify_live_of_ne _ heq]
      exact hcontent

lemma launch_spec {content : GraphContent} {o : ℕ} (h : Resting held log store)
    (howner : store.owners.live o = some record)
    (hcontent : store.executables.live record.executable = some content) :
    Resting held (log ++ [content]) (launch record.executable store) := by
  refine ⟨?_, ?_⟩
  · have hused := h.held.useExecutable
      ((h.held.executables.live_iff _).mpr (.inl ⟨_, record, howner, rfl⟩))
    refine ⟨hused.graphs, hused.owners, hused.executables, hused.single, fun slot hslot => ?_⟩
    obtain ⟨record', captured, hplan⟩ := hused.plan slot hslot
    exact ⟨record', captured, hplan.transport rfl rfl fun _ => rfl⟩
  · unfold launch
    rw [hcontent, h.log]
    rfl

-- What is ready to be launched once the embedding row is set.
lemma prepareReplay_spec (answers : ReplayAnswers) (token : ℕ) (h : Resting held log store)
    (hslot : slot ∈ held) (hplan : SlotPlan store slot record captured) :
    Resting held log
        (prepareReplay answers slot record (token * referenceHiddenSize) store).2 ∧
      (prepareReplay answers slot record (token * referenceHiddenSize) store).2.owners =
        store.owners ∧
      ((prepareReplay answers slot record (token * referenceHiddenSize) store).1 = 0 →
        (prepareReplay answers slot record (token * referenceHiddenSize) store).2.executables.live
          record.executable = some (replayedContent slot token)) := by
  unfold prepareReplay
  cases hshared : record.shared with
  | true =>
    rw [if_pos rfl]
    by_cases hparams : answers.setParams = 0
    · rw [if_neg (not_not.mpr hparams)]
      have hembedded := h.held.embedGraph hslot (token * referenceHiddenSize)
      have hlive : (store.executables.live record.executable).isSome :=
        (h.held.executables.live_iff _).mpr (.inl ⟨_, record, hplan.owner, rfl⟩)
      refine ⟨⟨hembedded.setExecutable hplan.owner hshared _, h.log⟩, rfl, fun hstatus => ?_⟩
      obtain ⟨before, hbefore⟩ := Option.isSome_iff_exists.mp hlive
      dsimp only at hstatus
      simp only [if_pos hstatus, GraphStore.setExecutable, GraphStore.graphContent,
        Handles.modify_live_self, hplan.graph, hbefore, Option.map_some]
      rw [setEmbedding_eq hplan.source hplan.position]
    · rw [if_pos hparams]
      exact ⟨h, rfl, fun hzero => (hparams hzero).elim⟩
  | false =>
    rw [if_neg (by simp)]
    obtain ⟨content, hcontent, hsource, hposition⟩ := hplan.alone hshared
    by_cases hparams : answers.setParams = 0
    · rw [if_neg (not_not.mpr hparams)]
      refine ⟨⟨h.held.embedExecutable hplan _, h.log⟩, rfl, fun _ => ?_⟩
      simp only [Handles.modify_live_self, hcontent, Option.map_some]
      rw [setEmbedding_eq hsource hposition]
    · rw [if_pos hparams]
      exact ⟨h, rfl, fun hzero => (hparams hzero).elim⟩

lemma replaySlot_spec (answers : ReplayAnswers) (token : ℕ) (hslot : slot ∈ held) :
    Triple (Resting held log) (replaySlot answers slot token)
      (fun _ => Resting held (log ++ [replayedContent slot token])) (Resting held log) := by
  intro store h
  obtain ⟨record, captured, hplan⟩ := h.held.plan slot hslot
  have hused : Resting held log { store with owners := store.owners.modify slot.exec id } :=
    ⟨h.held.useOwner (by rw [hplan.owner]; rfl), h.log⟩
  have hplan' : SlotPlan { store with owners := store.owners.modify slot.exec id } slot record
      captured := hplan.transport (by simp) rfl fun _ => rfl
  obtain ⟨hready, howners, hcontent⟩ := prepareReplay_spec answers token hused hslot hplan'
  unfold replaySlot
  rw [outcome_mk]
  simp only [hplan.owner, Option.getD_some]
  revert hready howners hcontent
  generalize prepareReplay answers slot record (token * referenceHiddenSize)
    { store with owners := store.owners.modify slot.exec id } = prepared
  obtain ⟨status, prepared⟩ := prepared
  intro hready howners hcontent
  by_cases hstatus : status = 0
  · dsimp only
    rw [if_pos hstatus]
    by_cases hlaunch : answers.launch = 0
    · rw [if_neg (not_not.mpr hlaunch)]
      refine launch_spec hready (o := slot.exec) ?_ (hcontent hstatus)
      rw [howners]
      exact hplan'.owner
    · rw [if_pos hlaunch]
      exact hready
  · dsimp only
    rw [if_neg hstatus, if_pos hstatus]
    exact hready

end Replay

end Qwen3xOrin.Runner
