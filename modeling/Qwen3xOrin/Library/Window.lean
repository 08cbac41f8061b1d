import Mathlib.Tactic

/-! A window of slots over a stream of submissions. A submission takes the next slot around the
ring, and the oldest submission in flight is the next one to retire. -/

namespace Qwen3xOrin.Library

variable {α : Type}

inductive WindowEvent (α : Type)
  | record (slot : ℕ) (a : α)
  | retire (slot : ℕ) (a : α)
  deriving DecidableEq, Repr

def WindowEvent.recorded : WindowEvent α → Option α
  | .record _ a => some a
  | .retire _ _ => none

def WindowEvent.retired : WindowEvent α → Option α
  | .record _ _ => none
  | .retire _ a => some a

def recorded (log : List (WindowEvent α)) : List α := log.filterMap WindowEvent.recorded

def retired (log : List (WindowEvent α)) : List α := log.filterMap WindowEvent.retired

@[simp] lemma recorded_append (log more : List (WindowEvent α)) :
    recorded (log ++ more) = recorded log ++ recorded more := List.filterMap_append

@[simp] lemma retired_append (log more : List (WindowEvent α)) :
    retired (log ++ more) = retired log ++ retired more := List.filterMap_append

@[simp] lemma recorded_record (slot : ℕ) (a : α) (log : List (WindowEvent α)) :
    recorded (.record slot a :: log) = a :: recorded log := rfl

@[simp] lemma recorded_retire (slot : ℕ) (a : α) (log : List (WindowEvent α)) :
    recorded (.retire slot a :: log) = recorded log := rfl

@[simp] lemma retired_record (slot : ℕ) (a : α) (log : List (WindowEvent α)) :
    retired (.record slot a :: log) = retired log := rfl

@[simp] lemma retired_retire (slot : ℕ) (a : α) (log : List (WindowEvent α)) :
    retired (.retire slot a :: log) = a :: retired log := rfl

@[simp] lemma recorded_nil : recorded ([] : List (WindowEvent α)) = [] := rfl

@[simp] lemma retired_nil : retired ([] : List (WindowEvent α)) = [] := rfl

-- The logs of the window, with the submissions that are in flight at their end.
inductive Windowed (slots : ℕ) : List (WindowEvent α) → List α → Prop
  | nil : Windowed slots [] []
  | record {log : List (WindowEvent α)} {pending : List α} (a : α) :
      Windowed slots log pending → pending.length < slots →
      Windowed slots (log ++ [.record ((recorded log).length % slots) a]) (pending ++ [a])
  | retire {log : List (WindowEvent α)} {pending : List α} {a : α} :
      Windowed slots log (a :: pending) →
      Windowed slots (log ++ [.retire ((retired log).length % slots) a]) pending

-- What a log says of the slots at each of its moments.
structure BoundedWindow (slots : ℕ) (log : List (WindowEvent α)) : Prop where
  inFlight : ∀ front, front <+: log → (recorded front).length ≤ (retired front).length + slots
  ordered : ∀ front, front <+: log → retired front <+: recorded front
  released : ∀ front middle back slot a b,
    log = front ++ .record slot a :: (middle ++ .record slot b :: back) →
      .retire slot a ∈ middle

namespace Windowed

variable {slots : ℕ} {log : List (WindowEvent α)} {pending : List α}

lemma recorded_eq (h : Windowed slots log pending) : recorded log = retired log ++ pending := by
  induction h with
  | nil => rfl
  | record a _ _ ih => simp [ih]
  | retire _ ih => simp [ih]

lemma pending_le (h : Windowed slots log pending) : pending.length ≤ slots := by
  induction h with
  | nil => exact Nat.zero_le _
  | record a _ hlt _ =>
    rw [List.length_append, List.length_singleton]
    exact hlt
  | retire _ ih =>
    rw [List.length_cons] at ih
    omega

lemma before {event : WindowEvent α} (h : Windowed slots (log ++ [event]) pending) :
    ∃ pending', Windowed slots log pending' := by
  generalize hlog : log ++ [event] = whole at h
  cases h with
  | nil => simp at hlog
  | record a h _ =>
    obtain ⟨rfl, -⟩ := List.append_inj' hlog rfl
    exact ⟨_, h⟩
  | retire h =>
    obtain ⟨rfl, -⟩ := List.append_inj' hlog rfl
    exact ⟨_, h⟩

lemma front {front back : List (WindowEvent α)} (h : Windowed slots (front ++ back) pending) :
    ∃ pending', Windowed slots front pending' := by
  induction back using List.reverseRecOn generalizing pending with
  | nil => exact ⟨pending, by simpa using h⟩
  | append_singleton back event ih =>
    rw [← List.append_assoc] at h
    obtain ⟨pending', h'⟩ := h.before
    exact ih h'

lemma recorded_last {slot : ℕ} {a : α} (h : Windowed slots (log ++ [.record slot a]) pending) :
    slot = (recorded log).length % slots ∧
      ∃ pending', Windowed slots log pending' ∧ pending'.length < slots := by
  generalize hlog : log ++ [WindowEvent.record slot a] = whole at h
  cases h with
  | nil => simp at hlog
  | record a h hlt =>
    obtain ⟨rfl, hevent⟩ := List.append_inj' hlog rfl
    simp only [List.cons.injEq, WindowEvent.record.injEq, and_true] at hevent
    exact ⟨hevent.1, _, h, hlt⟩
  | retire h =>
    obtain ⟨rfl, hevent⟩ := List.append_inj' hlog rfl
    simp at hevent

lemma retired_last {slot : ℕ} {a : α} (h : Windowed slots (log ++ [.retire slot a]) pending) :
    slot = (retired log).length % slots := by
  generalize hlog : log ++ [WindowEvent.retire slot a] = whole at h
  cases h with
  | nil => simp at hlog
  | record a h hlt =>
    obtain ⟨rfl, hevent⟩ := List.append_inj' hlog rfl
    simp at hevent
  | retire h =>
    obtain ⟨rfl, hevent⟩ := List.append_inj' hlog rfl
    simp only [List.cons.injEq, WindowEvent.retire.injEq, and_true] at hevent
    exact hevent.1

-- The `n`-th retirement is of the `n`-th submission and frees the slot that one took.
lemma retire_mem {front middle : List (WindowEvent α)} {n : ℕ} {a : α}
    (h : Windowed slots (front ++ middle) pending) (hfront : (retired front).length ≤ n)
    (hn : n < (retired (front ++ middle)).length)
    (ha : (recorded (front ++ middle))[n]? = some a) : .retire (n % slots) a ∈ middle := by
  induction middle using List.reverseRecOn generalizing pending with
  | nil =>
    rw [List.append_nil] at hn
    omega
  | append_singleton middle event ih =>
    rw [← List.append_assoc] at h hn ha
    obtain ⟨pending', h'⟩ := h.before
    by_cases hearlier : n < (retired (front ++ middle)).length
    · refine List.mem_append_left _ (ih h' hearlier ?_)
      have hle : (retired (front ++ middle)).length ≤ (recorded (front ++ middle)).length := by
        rw [h'.recorded_eq, List.length_append]
        omega
      rw [← ha, recorded_append (front ++ middle), List.getElem?_append_left (by omega)]
    · cases event with
      | record slot b => simp at hn hearlier; omega
      | retire slot b =>
        have hlast : n = (retired (front ++ middle)).length := by
          simp at hn hearlier ⊢
          omega
        have hslot := h.retired_last
        have hb : b = a := by
          rw [h.recorded_eq, retired_append, List.append_assoc,
            List.getElem?_append_right (by omega), hlast, Nat.sub_self] at ha
          simpa using ha
        rw [hlast, ← hslot, hb]
        simp

lemma bounded (h : Windowed slots log pending) : BoundedWindow slots log where
  inFlight front hfront := by
    obtain ⟨back, rfl⟩ := hfront
    obtain ⟨pending', h'⟩ := h.front
    rw [h'.recorded_eq, List.length_append]
    exact Nat.add_le_add_left h'.pending_le _
  ordered front hfront := by
    obtain ⟨back, rfl⟩ := hfront
    obtain ⟨pending', h'⟩ := h.front
    rw [h'.recorded_eq]
    exact List.prefix_append _ _
  released front middle back slot a b hlog := by
    have hlater : Windowed slots
        ((front ++ .record slot a :: middle) ++ [.record slot b] ++ back) pending := by
      rw [hlog] at h
      simpa using h
    obtain ⟨_, hlater⟩ := hlater.front
    obtain ⟨hslot', pending', h', hlt⟩ := hlater.recorded_last
    have hearlier : Windowed slots (front ++ [.record slot a] ++ middle) pending' := by
      simpa using h'
    obtain ⟨_, hearlier⟩ := hearlier.front
    obtain ⟨hslot, pending'', h'', -⟩ := hearlier.recorded_last
    have hcount : (retired front).length ≤ (recorded front).length := by
      rw [h''.recorded_eq, List.length_append]
      omega
    have htotal := congrArg List.length h'.recorded_eq
    simp only [recorded_append, recorded_record, retired_append, retired_record,
      List.length_append, List.length_cons] at htotal hslot'
    -- The two submissions are a whole turn of the ring apart.
    have hturn : slots ≤ (recorded middle).length + 1 := by
      by_contra hless
      have hmod : ((recorded front).length + ((recorded middle).length + 1)) % slots =
          (recorded front).length % slots := by rw [← hslot', hslot]
      rw [← Nat.ModEq, Nat.ModEq.comm, Nat.modEq_iff_dvd' (by omega), Nat.add_sub_cancel_left]
        at hmod
      have := Nat.le_of_dvd (by omega) hmod
      omega
    rw [hslot]
    have hshape : front ++ WindowEvent.record slot a :: middle =
        front ++ [.record slot a] ++ middle := by simp
    rw [hshape] at h'
    refine h'.retire_mem ?_ ?_ ?_
    · simpa using hcount
    · simp only [retired_append, retired_record, retired_nil, List.append_nil, List.length_append]
      omega
    · simp

end Windowed

end Qwen3xOrin.Library
