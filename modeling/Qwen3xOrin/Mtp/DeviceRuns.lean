import Qwen3xOrin.Mtp.DeviceStages
import Qwen3xOrin.Mtp.Guarded

/-! A generation on the device. The target transaction is a guarded backend whatever its kernels do,
so that a client sees the greedy generation of the scalar step or a part of it, and a device on
which a kernel failed is poisoned. -/

namespace Qwen3xOrin.Mtp

open Generation Library FloatingPoint

variable {S : Storage} {κ F α : Type}

namespace Device

section Answers

variable {s : Device S} {stopped : Device S → Prop}

lemma accepted_settled {m : DeviceM S Unit} {post : Device S → Prop}
    (h : Triple (Exactly s) m (fun _ => post) stopped) :
    Settled (accepted m s).1 (accepted m s).2 post stopped := by
  have hh := h s rfl
  unfold accepted answer
  revert hh
  rcases outcome m s with ⟨_ | _, s'⟩
  · exact fun hh => .inr ⟨rfl, hh⟩
  · exact fun hh => .inl ⟨rfl, hh⟩

lemma listed_settled {m : DeviceM S (List ℕ)} {post : List ℕ → Device S → Prop}
    (h : Triple (Exactly s) m post stopped) :
    Settled (listed m s).1.1 (listed m s).2 (post (listed m s).1.2) stopped := by
  have hh := h s rfl
  unfold listed answer
  revert hh
  rcases outcome m s with ⟨_ | _, s'⟩
  · exact fun hh => .inr ⟨rfl, hh⟩
  · exact fun hh => .inl ⟨rfl, hh⟩

lemma offered_settled {m : DeviceM S Proposal} {maximum : ℕ} {post : Proposal → Device S → Prop}
    (h : Triple (Exactly s) m post stopped) :
    post (offered maximum m s).1 (offered maximum m s).2 ∨
      ((offered maximum m s).1.ok = false ∧ stopped (offered maximum m s).2) := by
  have hh := h s rfl
  unfold offered answer
  revert hh
  rcases outcome m s with ⟨_ | _, s'⟩
  · exact fun hh => .inr ⟨rfl, hh⟩
  · exact fun hh => .inl hh

end Answers

section Backend

variable {k : Kernels S} {start : Live S} {limit : ℕ} {history inputs : List ℕ} {s : Device S}

lemma offer_settled {round : RoundOptions} {maximum : ℕ}
    (hseed : round.seedToken < referenceVocabularySize) (hmaximum : 0 < maximum)
    (h : Opened k start limit history (maximum + 1) s) (hfresh : s.seedCacheValid = false) :
    let r := offer round (targetTransaction k) maximum s
    Offered k start limit history maximum round.stopToken r.1 r.2 ∨
      (r.1.ok = false ∧ Stopped k r.2) := by
  unfold offer
  split_ifs with heos hconfidence
  · exact offered_settled (proposePrefix_spec hseed hmaximum h hfresh fun _ => rfl)
  · exact offered_settled (proposePrefix_spec hseed hmaximum h hfresh (by simp))
  · have hpropose : Triple (Exactly s) (propose k round.seedToken maximum)
        (fun tokens => Offered k start limit history maximum round.stopToken
          { ok := true, draft := tokens, count := maximum }) (Stopped k) :=
      propose_spec hseed hmaximum h hfresh
    have hpropose := hpropose s rfl
    simp only [targetTransaction, listed, answer]
    revert hpropose
    rcases outcome (propose k round.seedToken maximum) s with ⟨_ | tokens, s'⟩
    · exact fun hstopped => .inr ⟨rfl, hstopped⟩
    · exact fun hoffered => .inl hoffered

lemma Staged.usable_next {c : ℕ} (h : Staged k start limit history inputs c s) {i : ℕ}
    (hi : i < inputs.length) :
    start.next k (history ++ inputs.take (i + 1)) < referenceVocabularySize := by
  rw [← h.predictions i hi]
  exact h.usable i hi

def guarded (k : Kernels S) (start : Live S) {service : Service (Device S) κ F}
    (hbackend : service.backend = targetTransaction k)
    (hposition : ∀ s, service.currentPosition s = s.target.position) :
    Guarded service (start.next k) where
  Idle := Idle k start service.maxSequenceLength
  Begun history rows s :=
    Opened k start service.maxSequenceLength history rows s ∧ s.seedCacheValid = false
  Opened := Opened k start service.maxSequenceLength
  Staged := Staged k start service.maxSequenceLength
  Stopped := Stopped k
  Aborted s := Aborted s ∧ ¬ k.Reliable
  idle_position h := (hposition _).trans h.position
  staged_position h hc := (hposition _).trans (h.position hc)
  usable h _ hi := h.usable_next hi
  begun_opened h := h.1
  begin_settled h hrows hfits := by
    rw [hbackend]
    exact accepted_settled (begin_spec h hrows hfits)
  propose_settled round hseed hmaximum h := by
    rw [hbackend]
    rcases offer_settled hseed hmaximum h.1 h.2 with hoffered | ⟨hrefused, hstopped⟩
    · exact .inl ⟨hoffered.ok, hoffered.good, hoffered.length, hoffered.vocabulary,
        hoffered.opened⟩
    · exact .inr ⟨hrefused, hstopped⟩
  verify_settled hseed hdraft hcount h := by
    rw [hbackend]
    rcases listed_settled (verify_spec hseed hdraft hcount h) with
      ⟨hgranted, hstaged, hpredictions⟩ | ⟨hrefused, hstopped⟩
    · refine .inl ⟨hgranted, fun i hi => ?_, hstaged⟩
      have hrow := Nat.lt_succ_iff.mpr hi
      simp [targetTransaction, hpredictions, hrow, List.take_take, Nat.min_eq_left hi]
    · exact .inr ⟨hrefused, hstopped⟩
  commit_settled h hc hvalid := by
    rw [hbackend]
    exact accepted_settled (commitPrefix_spec h hc hvalid rfl)
  finish_settled h hc hle := by
    rw [hbackend]
    exact accepted_settled (finish_spec h hc hle)
  abort_stopped h := by
    rw [hbackend]
    exact ⟨abort_spec h.1, h.2⟩

end Backend

end Device

end Qwen3xOrin.Mtp
