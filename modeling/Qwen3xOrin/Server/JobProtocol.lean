import Qwen3xOrin.Server.InferenceJob

/-! What holds of a job in every interleaving of the worker, the connection and the flags. -/

namespace Qwen3xOrin.Server

open Generation

section Push

variable {config : JobConfig} {stopping : Bool} {event : Bytes} {job job' : InferenceJob}

lemma pushEvent_accepted (h : job.pushEvent config stopping event = some (true, job')) :
    job' = job.accept event ∧ job.events.length < config.eventCapacity ∧
      job.eventStreamClosed = false := by
  unfold InferenceJob.pushEvent at h
  split_ifs at h with hfull hrefused
  · cases h
  · cases h
    simp only [not_or, Bool.not_eq_true] at hrefused
    obtain ⟨hcancelled, hstopping, hclosed⟩ := hrefused
    refine ⟨rfl, ?_, hclosed⟩
    by_contra hlength
    exact hfull ⟨hcancelled, hstopping, Nat.le_of_not_lt hlength⟩

lemma pushEvent_refused (h : job.pushEvent config stopping event = some (false, job'))
    (hopen : job.eventStreamClosed = false) :
    job' = job ∧ (job.cancelled = true ∨ stopping = true) := by
  unfold InferenceJob.pushEvent at h
  split_ifs at h with hfull hrefused
  · cases h
    rw [hopen] at hrefused
    exact ⟨rfl, by simpa using hrefused⟩
  · cases h

end Push

-- All that a step of the worker does to the job.
inductive JobEffect (config : JobConfig) :
    InferenceJob → InferenceJob → Option Bytes → Prop
  | same {job} : JobEffect config job job none
  | cancel {job} : JobEffect config job job.cancel none
  | accept {job} (event : Bytes) : job.events.length < config.eventCapacity →
    job.eventStreamClosed = false → JobEffect config job (job.accept event) (some event)
  | close {job} : JobEffect config job job.closeEvents none
  | early {job} (status : ℕ) (body : Bytes) : job.streamStart = .pending →
    JobEffect config job (job.earlyError status body) none
  | startEarly {job} (status : ℕ) : job.streamStart = .pending →
    JobEffect config job (job.startEarlyError status) none
  | respond {job} (status : ℕ) (body : Bytes) : config.stream = false →
    JobEffect config job (job.setResponse status body) none

lemma WorkerStep.effect {config : JobConfig} {stopping : Bool} {job job' : InferenceJob}
    {pc pc' : WorkerPc} {event : Option Bytes}
    (h : WorkerStep config stopping job pc job' pc' event)
    (hopen : job.eventStreamClosed = false) : JobEffect config job job' event := by
  cases h with
  | pushed hpush | usagePushed hpush | donePushed hpush | errorPushed hpush =>
    obtain ⟨rfl, hroom, hclosed⟩ := pushEvent_accepted hpush
    exact .accept _ hroom hclosed
  | pushRefused hpush | usageRefused hpush =>
    obtain ⟨rfl, -⟩ := pushEvent_refused hpush hopen
    exact .cancel
  | doneRefused hpush | errorRefused hpush =>
    obtain ⟨rfl, -⟩ := pushEvent_refused hpush hopen
    exact .same
  | respond body _ _ _ hstream => exact .respond _ _ hstream
  | publishResponse hstream => exact .respond _ _ hstream
  | publishEarly _ hpending => exact .early _ _ hpending
  | publishEarlyThrows _ hpending => exact .startEarly _ hpending
  | close => exact .close
  | bailOut => exact .cancel
  | _ => exact .same

lemma WorkerStep.source {config : JobConfig} {stopping : Bool} {job job' : InferenceJob}
    {pc pc' : WorkerPc} {event : Option Bytes}
    (h : WorkerStep config stopping job pc job' pc' event) : pc ≠ .done := by
  cases h with
  | throws hpc =>
    rintro rfl
    cases hpc
  | _ => exact WorkerPc.noConfusion

-- What the worker may rely on at each place of its loop.
def WorkerFacts (config : JobConfig) (system : JobSystem) : WorkerPc → Prop
  | .refused protocolFailure =>
    protocolFailure = true ∨ system.job.cancelled = true ∨ system.stopping = true
  | .generated result protocolFailure => result = .ok .cancelled →
    protocolFailure = true ∨ system.job.cancelled = true ∨ system.stopping = true
  | .pushing _ | .pushingUsage _ | .pushingDone | .published _ _ | .pushingError _ _ =>
    config.stream = true
  | .responded => config.stream = false ∧ system.job.responseReady = true
  | .closing => config.stream = false ∨ system.accepted = [] →
    system.job.cancelled = true ∨ system.stopping = true
  | .done =>
    (config.stream = true → system.job.eventStreamClosed = true ∧
      (system.accepted = [] →
        system.job.streamStart = .earlyError ∧ system.job.responseReady = true ∨
          system.job.cancelled = true ∨ system.stopping = true)) ∧
    (config.stream = false → system.job.responseReady = true ∨ system.job.cancelled = true ∨
      system.stopping = true)
  | _ => True

def ConnectionFacts (config : JobConfig) (system : JobSystem) : ConnectionPc → Prop
  | .starting | .waitingStart => config.stream = true ∧ system.earlySent = none
  | .headers | .streaming | .waitingEvents | .sending _ =>
    config.stream = true ∧ system.earlySent = none ∧ system.job.streamStart = .success
  | .ending =>
    config.stream = true ∧ system.earlySent = none ∧ system.job.streamStart = .success ∧
      system.job.eventStreamClosed = true ∧ system.job.events = []
  | .finished => system.earlySent = none ∧ (config.stream = true →
    system.job.streamStart = .success ∧ system.job.eventStreamClosed = true ∧
      system.job.events = [])
  | .earlyReply status body =>
    config.stream = true ∧ system.earlySent = none ∧ system.job.responseReady = true ∧
      status = system.job.responseStatus ∧ body = system.job.responseBody
  | .finishedEarly =>
    config.stream = true ∧ system.job.responseReady = true ∧
      system.earlySent = some (system.job.responseStatus, system.job.responseBody)
  | .awaiting | .waitingResponse | .replying => config.stream = false ∧ system.earlySent = none
  | .gaveUp _ => system.earlySent = none

structure JobInvariant (config : JobConfig) (system : JobSystem) : Prop where
  capacity : system.job.events.length ≤ config.eventCapacity
  order : system.accepted = system.delivered ++ (system.connection.held ++ system.job.events)
  pending : system.job.streamStart = .pending → system.accepted = []
  success : system.job.streamStart = .success → system.accepted ≠ []
  ready : config.stream = true → system.job.responseReady = true →
    system.job.eventStreamClosed = true ∧ system.job.streamStart = .earlyError ∧
      system.accepted = []
  opened : system.worker ≠ .done → system.job.eventStreamClosed = false
  worker : WorkerFacts config system system.worker
  connection : ConnectionFacts config system system.connection

lemma jobInvariant_initial (config : JobConfig) :
    JobInvariant config (initialJobSystem config) where
  capacity := Nat.zero_le _
  order := by
    unfold initialJobSystem
    cases config.stream <;> rfl
  pending _ := rfl
  success h := by cases h
  ready _ h := by cases h
  opened _ := rfl
  worker := trivial
  connection := by
    unfold initialJobSystem
    cases hstream : config.stream
    · exact ⟨hstream, rfl⟩
    · exact ⟨hstream, rfl⟩

lemma workerFacts_thrown {config : JobConfig} {system : JobSystem} {retried : Bool} :
    WorkerFacts config system (.thrown retried) := by
  cases retried <;> trivial

section Worker

variable {config : JobConfig} {system : JobSystem} {job' : InferenceJob} {pc' : WorkerPc}
  {event : Option Bytes}

lemma JobInvariant.worker_facts (h : JobInvariant config system)
    (hstep : WorkerStep config system.stopping system.job system.worker job' pc' event) :
    WorkerFacts config { system with
      job := job', worker := pc', accepted := system.accepted ++ event.toList } pc' := by
  have hopen := h.opened hstep.source
  have hworker := h.worker
  generalize hpc : system.worker = pc at hstep hworker
  cases hstep with
  | observeInterrupted hflags => exact Or.inr hflags
  | observeStream _ _ _ hstream | usage _ _ _ _ hstream | noUsage _ _ _ hstream
  | publishLate hstream => exact hstream
  | observeThrows | pushThrows => exact Or.inl rfl
  | pushRefused => exact Or.inr (Or.inl rfl)
  | ended result hresult => exact fun heq => absurd heq hresult
  | endedRefused => exact fun _ => hworker
  | cancelledEnd hflags => exact fun _ => hflags
  | generationCancelled hcancelled hstopping =>
    have hflags := hworker rfl
    rw [hcancelled, hstopping] at hflags
    simp at hflags
  | respond _ _ _ _ hstream => exact ⟨hstream, rfl⟩
  | finish =>
    refine ⟨fun hstream => ?_, fun _ => Or.inl hworker.2⟩
    rw [hworker.1] at hstream
    cases hstream
  | usagePushed | lateError => exact hworker
  | usageRefused | bailOut => exact fun _ => Or.inl rfl
  | donePushed | errorPushed =>
    rintro (hstream | haccepted)
    · rw [show config.stream = true from hworker] at hstream
      cases hstream
    · simp at haccepted
  | doneRefused hpush | errorRefused hpush =>
    obtain ⟨rfl, hflags⟩ := pushEvent_refused hpush hopen
    exact fun _ => hflags
  | close =>
    rw [Option.toList_none, List.append_nil]
    exact ⟨fun _ => ⟨rfl, fun haccepted => Or.inr (hworker (Or.inr haccepted))⟩,
      fun hstream => Or.inr (hworker (Or.inl hstream))⟩
  | publishEarly hstream =>
    refine ⟨fun _ => ⟨rfl, fun _ => Or.inl ⟨rfl, rfl⟩⟩, fun hsilent => ?_⟩
    rw [hstream] at hsilent
    cases hsilent
  | publishResponse hsilent =>
    refine ⟨fun hstream => ?_, fun _ => Or.inl rfl⟩
    rw [hsilent] at hstream
    cases hstream
  | dropError hcancelled => exact fun _ => Or.inl hcancelled
  | publishThrows | publishEarlyThrows | errorThrows => exact workerFacts_thrown
  | _ => trivial

lemma JobEffect.success {job job' : InferenceJob} {event : Option Bytes}
    (heffect : JobEffect config job job' event) (hsuccess : job.streamStart = .success) :
    job'.streamStart = .success := by
  cases heffect with
  | accept =>
    rw [InferenceJob.accept, hsuccess]
    rfl
  | early _ _ hpending | startEarly _ hpending =>
    rw [hsuccess] at hpending
    cases hpending
  | _ => exact hsuccess

-- While the worker runs the stream is open, so the connection is nowhere behind its end.
lemma JobInvariant.connection_effect (h : JobInvariant config system)
    (hopen : system.job.eventStreamClosed = false)
    (heffect : JobEffect config system.job job' event) {pc : WorkerPc} :
    ConnectionFacts config { system with
      job := job', worker := pc, accepted := system.accepted ++ event.toList }
      system.connection := by
  have hconnection := h.connection
  have hunready : config.stream = true → system.job.responseReady = true → False := by
    intro hstream hready
    have hclosed := (h.ready hstream hready).1
    rw [hopen] at hclosed
    cases hclosed
  cases hpc : system.connection with
  | headers | streaming | waitingEvents | sending =>
    rw [hpc] at hconnection
    obtain ⟨hstream, hearly, hsuccess⟩ := hconnection
    exact ⟨hstream, hearly, heffect.success hsuccess⟩
  | ending =>
    rw [hpc] at hconnection
    obtain ⟨-, -, -, hclosed, -⟩ := hconnection
    rw [hopen] at hclosed
    cases hclosed
  | finished =>
    rw [hpc] at hconnection
    refine ⟨hconnection.1, fun hstream => ?_⟩
    have hclosed := (hconnection.2 hstream).2.1
    rw [hopen] at hclosed
    cases hclosed
  | earlyReply =>
    rw [hpc] at hconnection
    exact (hunready hconnection.1 hconnection.2.2.1).elim
  | finishedEarly =>
    rw [hpc] at hconnection
    exact (hunready hconnection.1 hconnection.2.1).elim
  | _ =>
    rw [hpc] at hconnection
    exact hconnection

lemma WorkerStep.opened {stopping : Bool} {job job' : InferenceJob} {pc pc' : WorkerPc}
    {event : Option Bytes} (h : WorkerStep config stopping job pc job' pc' event)
    (hopen : job.eventStreamClosed = false) (hpc : pc' ≠ .done) :
    job'.eventStreamClosed = false := by
  cases h with
  | pushed hpush | usagePushed hpush | donePushed hpush | errorPushed hpush =>
    rw [(pushEvent_accepted hpush).1]
    exact hopen
  | pushRefused hpush | usageRefused hpush | doneRefused hpush | errorRefused hpush =>
    rw [(pushEvent_refused hpush hopen).1]
    exact hopen
  | close | publishEarly => exact absurd rfl hpc
  | _ => exact hopen

lemma JobInvariant.worker_step (h : JobInvariant config system)
    (hstep : WorkerStep config system.stopping system.job system.worker job' pc' event) :
    JobInvariant config { system with
      job := job', worker := pc', accepted := system.accepted ++ event.toList } := by
  have hopen := h.opened hstep.source
  have heffect := hstep.effect hopen
  refine ⟨?_, ?_, ?_, ?_, ?_, ?_, h.worker_facts hstep, h.connection_effect hopen heffect⟩
  · cases heffect with
    | accept event hroom =>
      rw [InferenceJob.accept, List.length_append]
      exact hroom
    | _ => exact h.capacity
  · cases heffect with
    | accept event =>
      rw [h.order, InferenceJob.accept]
      simp
    | _ => exact (List.append_nil _).trans h.order
  · intro hpending
    cases heffect with
    | accept event =>
      simp only [InferenceJob.accept] at hpending
      split_ifs at hpending
      contradiction
    | early | startEarly => cases hpending
    | _ => simpa using h.pending hpending
  · intro hsuccess
    cases heffect with
    | accept event => simp
    | early | startEarly => cases hsuccess
    | _ => simpa using h.success hsuccess
  · intro hstream hready
    cases heffect with
    | early status body hpending => exact ⟨rfl, rfl, by simpa using h.pending hpending⟩
    | respond _ _ hsilent =>
      rw [hstream] at hsilent
      cases hsilent
    | _ =>
      have hclosed := (h.ready hstream hready).1
      rw [hopen] at hclosed
      cases hclosed
  · exact hstep.opened hopen

end Worker

section Connection

variable {config : JobConfig} {system : JobSystem} {job' : InferenceJob} {pc' : ConnectionPc}
  {event : Option Bytes} {early : Option (ℕ × Bytes)}

-- The connection only sets the flag and takes events.
lemma ConnectionStep.effect {stopping : Bool} {job : InferenceJob} {pc : ConnectionPc}
    (h : ConnectionStep stopping job pc job' pc' event early) :
    job' = job ∧ pc.held = event.toList ++ pc'.held ∨
      job' = job.cancel ∧ event = none ∧ pc.held = pc'.held ∨
      ∃ taken rest, job.events = taken :: rest ∧ job' = { job with events := rest } ∧
        pc = .streaming ∧ pc' = .sending taken ∧ event = none := by
  cases h with
  | startAbandoned | headersFailed | earlyFailed | eventsAbandoned | sendFailed | endFailed
  | responseAbandoned => exact Or.inr (Or.inl ⟨rfl, rfl, rfl⟩)
  | take hevents => exact Or.inr (Or.inr ⟨_, _, hevents, rfl, rfl, rfl, rfl⟩)
  | _ => exact Or.inl ⟨rfl, rfl⟩

lemma WorkerFacts.mono {system system' : JobSystem} {pc : WorkerPc}
    (h : WorkerFacts config system pc)
    (hcancelled : system.job.cancelled = true → system'.job.cancelled = true)
    (hstopping : system.stopping = true → system'.stopping = true)
    (hready : system'.job.responseReady = system.job.responseReady)
    (hclosed : system'.job.eventStreamClosed = system.job.eventStreamClosed)
    (hstart : system'.job.streamStart = system.job.streamStart)
    (haccepted : system'.accepted = system.accepted) : WorkerFacts config system' pc := by
  have hflags : system.job.cancelled = true ∨ system.stopping = true →
      system'.job.cancelled = true ∨ system'.stopping = true := Or.imp hcancelled hstopping
  cases pc with
  | refused => exact h.imp_right hflags
  | generated => exact fun heq => (h heq).imp_right hflags
  | responded => exact ⟨h.1, hready.trans h.2⟩
  | closing =>
    intro hquiet
    rw [haccepted] at hquiet
    exact hflags (h hquiet)
  | done =>
    refine ⟨fun hstream => ⟨hclosed.trans (h.1 hstream).1, fun hquiet => ?_⟩, fun hstream => ?_⟩
    · rw [haccepted] at hquiet
      rw [hstart, hready]
      exact ((h.1 hstream).2 hquiet).imp_right hflags
    · rw [hready]
      exact (h.2 hstream).imp_right hflags
  | _ => exact h

lemma JobInvariant.connection_facts (h : JobInvariant config system)
    (hstep : ConnectionStep system.stopping system.job system.connection job' pc' event early) :
    ConnectionFacts config { system with
      job := job'
      connection := pc'
      delivered := system.delivered ++ event.toList
      earlySent := early.or system.earlySent } pc' := by
  have hconnection := h.connection
  generalize hpc : system.connection = pc at hstep hconnection
  cases hstep with
  | startSse hsuccess => exact ⟨hconnection.1, hconnection.2, hsuccess⟩
  | startEarly _ hready => exact ⟨hconnection.1, hconnection.2, hready, rfl, rfl⟩
  | earlySent =>
    obtain ⟨hstream, -, hready, rfl, rfl⟩ := hconnection
    exact ⟨hstream, hready, rfl⟩
  | drained hevents hclosed =>
    exact ⟨hconnection.1, hconnection.2.1, hconnection.2.2, hclosed, hevents⟩
  | endSent => exact ⟨hconnection.2.1, fun _ => hconnection.2.2⟩
  | replied =>
    refine ⟨hconnection.2, fun hstream => ?_⟩
    rw [hconnection.1] at hstream
    cases hstream
  | startAbandoned | startEarlyUnready | startClosed | responseAbandoned | replyFailed =>
    exact hconnection.2
  | headersFailed | earlyFailed | eventsAbandoned | sendFailed | endFailed =>
    exact hconnection.2.1
  | _ => exact hconnection

lemma JobInvariant.connection_step (h : JobInvariant config system)
    (hstep : ConnectionStep system.stopping system.job system.connection job' pc' event early) :
    JobInvariant config { system with
      job := job'
      connection := pc'
      delivered := system.delivered ++ event.toList
      earlySent := early.or system.earlySent } := by
  have hfacts := h.connection_facts hstep
  obtain ⟨rfl, hheld⟩ | ⟨rfl, rfl, hheld⟩ | ⟨taken, rest, hevents, rfl, hpc, rfl, rfl⟩ :=
    hstep.effect
  · refine ⟨h.capacity, ?_, h.pending, h.success, h.ready, h.opened,
      h.worker.mono id id rfl rfl rfl rfl, hfacts⟩
    rw [h.order, hheld]
    simp
  · refine ⟨h.capacity, ?_, h.pending, h.success, h.ready, h.opened,
      h.worker.mono (fun _ => rfl) id rfl rfl rfl rfl, hfacts⟩
    rw [h.order, hheld]
    simp [InferenceJob.cancel]
  · have hcapacity := h.capacity
    have horder := h.order
    rw [hevents] at hcapacity
    rw [hevents, hpc] at horder
    exact ⟨Nat.le_of_succ_le hcapacity, by simpa [ConnectionPc.held] using horder, h.pending,
      h.success, h.ready, h.opened, h.worker.mono id id rfl rfl rfl rfl, hfacts⟩

end Connection

lemma JobInvariant.step {config : JobConfig} {system system' : JobSystem}
    (h : JobInvariant config system) (hstep : JobStep config system system') :
    JobInvariant config system' := by
  cases hstep with
  | worker hstep => exact h.worker_step hstep
  | connection hstep => exact h.connection_step hstep
  | cancel =>
    refine ⟨h.capacity, h.order, h.pending, h.success, h.ready, h.opened,
      h.worker.mono (fun _ => rfl) id rfl rfl rfl rfl, ?_⟩
    have hconnection := h.connection
    cases hpc : system.connection <;>
    · rw [hpc] at hconnection
      exact hconnection
  | stop =>
    refine ⟨h.capacity, h.order, h.pending, h.success, h.ready, h.opened,
      h.worker.mono id (fun _ => rfl) rfl rfl rfl rfl, ?_⟩
    have hconnection := h.connection
    cases hpc : system.connection <;>
    · rw [hpc] at hconnection
      exact hconnection

lemma jobInvariant {config : JobConfig} {system : JobSystem} (h : ReachableJob config system) :
    JobInvariant config system := by
  induction h with
  | refl => exact jobInvariant_initial config
  | tail _ hstep ih => exact ih.step hstep

section Steps

variable {config : JobConfig} {system system' : JobSystem}

lemma JobStep.closed_accepted (hstep : JobStep config system system')
    (hclosed : system.job.eventStreamClosed = true) : system'.accepted = system.accepted := by
  cases hstep with
  | worker hstep =>
    generalize system.worker = pc at hstep
    cases hstep with
    | pushed hpush | usagePushed hpush | donePushed hpush | errorPushed hpush =>
      have hopen := (pushEvent_accepted hpush).2.2
      rw [hclosed] at hopen
      cases hopen
    | _ => exact List.append_nil _
  | _ => rfl

lemma JobStep.start_once (h : JobInvariant config system) (hstep : JobStep config system system')
    (hstarted : system.job.streamStart ≠ .pending) :
    system'.job.streamStart = system.job.streamStart := by
  cases hstep with
  | worker hstep =>
    cases hstep.effect (h.opened hstep.source) with
    | accept => exact if_neg hstarted
    | early _ _ hpending | startEarly _ hpending => exact absurd hpending hstarted
    | _ => rfl
  | connection hstep =>
    obtain ⟨rfl, -⟩ | ⟨rfl, -⟩ | ⟨_, _, -, rfl, -⟩ := hstep.effect <;> rfl
  | _ => rfl

end Steps

-- The connection that sent a whole response.
def JobSystem.Answered (system : JobSystem) : Prop :=
  system.connection = .finished ∨ system.connection = .finishedEarly

lemma JobInvariant.answered {config : JobConfig} {system : JobSystem}
    (h : JobInvariant config system) (hstream : config.stream = true)
    (hanswered : system.Answered) : system.earlySent.isSome = true ↔ system.accepted = [] := by
  have hconnection := h.connection
  rcases hanswered with hpc | hpc
  · rw [hpc] at hconnection
    have haccepted := h.success (hconnection.2 hstream).1
    rw [hconnection.1]
    simp [haccepted]
  · rw [hpc] at hconnection
    have haccepted := (h.ready hstream hconnection.2.1).2.2
    rw [hconnection.2.2]
    simp [haccepted]

lemma JobInvariant.delivered {config : JobConfig} {system : JobSystem}
    (h : JobInvariant config system) (hstream : config.stream = true)
    (hpc : system.connection = .finished) : system.delivered = system.accepted := by
  have hconnection := h.connection
  have horder := h.order
  rw [hpc] at hconnection horder
  rw [horder, (hconnection.2 hstream).2.2]
  simp [ConnectionPc.held]

theorem job_protocol (config : JobConfig) (system : JobSystem)
    (hreachable : ReachableJob config system) :
    system.delivered ++ (system.connection.held ++ system.job.events) = system.accepted ∧
    (config.stream = true → system.connection = .finished →
      system.delivered = system.accepted) ∧
    (∀ system', JobStep config system system' → system.job.eventStreamClosed = true →
      system'.accepted = system.accepted) ∧
    system.job.events.length ≤ config.eventCapacity ∧
    (∀ system', JobStep config system system' → system.job.streamStart ≠ .pending →
      system'.job.streamStart = system.job.streamStart) ∧
    (system.earlySent.isSome = true → system.accepted = []) ∧
    (config.stream = true → system.Answered →
      (system.earlySent.isSome = true ↔ system.accepted = [])) ∧
    (system.worker = .done →
      (config.stream = true → system.job.eventStreamClosed = true ∧
        (system.accepted = [] →
          system.job.streamStart = .earlyError ∧ system.job.responseReady = true ∨
            system.job.cancelled = true ∨ system.stopping = true)) ∧
      (config.stream = false → system.job.responseReady = true ∨
        system.job.cancelled = true ∨ system.stopping = true)) := by
  have h := jobInvariant hreachable
  refine ⟨h.order.symm, h.delivered, fun _ hstep => hstep.closed_accepted, h.capacity,
    fun _ hstep => hstep.start_once h, ?_, h.answered, ?_⟩
  · intro hsent
    have hconnection := h.connection
    cases hpc : system.connection with
    | finishedEarly =>
      rw [hpc] at hconnection
      exact (h.ready hconnection.1 hconnection.2.1).2.2
    | _ =>
      rw [hpc] at hconnection
      simp_all [ConnectionFacts]
  · intro hdone
    have hworker := h.worker
    rw [hdone] at hworker
    exact hworker

def streamConfig : JobConfig := ⟨true, false, 16⟩

def deliveredSystem (event : Bytes) : JobSystem where
  job := { streamStart := .success }
  worker := .generating
  connection := .streaming
  accepted := [event]
  delivered := [event]

-- A token is pushed, taken and sent.
lemma reachable_delivered (event : Bytes) :
    ReachableJob streamConfig (deliveredSystem event) := by
  refine .head (.worker .pop) ?_
  refine .head (.worker .healthy) ?_
  refine .head (.worker (.generate rfl rfl)) ?_
  refine .head (.worker .observe) ?_
  refine .head (.worker (.observeStream event rfl rfl rfl)) ?_
  refine .head (.worker (.pushed rfl)) ?_
  refine .head (.connection (.startSse rfl)) ?_
  refine .head (.connection .headersSent) ?_
  refine .head (.connection (.take rfl)) ?_
  refine .head (.connection .sent) ?_
  exact .refl

theorem job_protocol_delivered :
    ReachableJob streamConfig (deliveredSystem doneEvent) ∧
      (deliveredSystem doneEvent).delivered ++ [] = (deliveredSystem doneEvent).accepted :=
  ⟨reachable_delivered doneEvent,
    (job_protocol streamConfig _ (reachable_delivered doneEvent)).1⟩

def unansweredSystem : JobSystem where
  job :=
    { cancelled := true
      eventStreamClosed := true
      streamStart := .earlyError
      responseReady := true
      responseStatus := 503
      responseBody := serializeOpenAiError serverStopping }
  worker := .done
  connection := .gaveUp []

-- The client leaves before the first event: the error is published and nobody sends it.
theorem job_protocol_unanswered :
    ReachableJob streamConfig unansweredSystem ∧ unansweredSystem.worker = .done ∧
      unansweredSystem.connection = .gaveUp [] ∧
      ¬ (unansweredSystem.earlySent.isSome = true ↔ unansweredSystem.accepted = []) := by
  refine ⟨?_, rfl, rfl, by decide⟩
  refine .head (.worker .pop) ?_
  refine .head (.connection (.waitStart rfl rfl)) ?_
  refine .head (.connection .startAbandoned) ?_
  refine .head (.worker .healthy) ?_
  refine .head (.worker (.interrupted (Or.inl rfl))) ?_
  refine .head (.worker (.publishEarly rfl rfl)) ?_
  exact .refl

end Qwen3xOrin.Server
