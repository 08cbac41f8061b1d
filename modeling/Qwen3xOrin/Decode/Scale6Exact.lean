import Qwen3xOrin.Decode.Scale6

/-! The six-bit scale codec is exact: what is packed is what both decoders read back. -/

namespace Qwen3xOrin.Decode

open Library.BitFields

section Base

variable {scales : List Byte}

def Fits (scaleBase : ℕ) (scales : List Byte) : Prop :=
  ∀ scale ∈ scales, scaleBase ≤ scale.toNat ∧ scale.toNat ≤ scaleBase + 63

lemma foldl_min_le (scales : List Byte) (start : ℕ) :
    scales.foldl (fun minimum scale => min minimum scale.toNat) start ≤ start ∧
      ∀ scale ∈ scales,
        scales.foldl (fun minimum scale => min minimum scale.toNat) start ≤ scale.toNat := by
  induction scales generalizing start with
  | nil => simp
  | cons scale scales ih =>
    obtain ⟨hstart, hscales⟩ := ih (min start scale.toNat)
    rw [List.foldl_cons]
    refine ⟨hstart.trans (min_le_left _ _), fun other hother => ?_⟩
    obtain rfl | hother := List.mem_cons.mp hother
    · exact hstart.trans (min_le_right _ _)
    · exact hscales other hother

lemma le_foldl_min (scales : List Byte) {start bound : ℕ} (hstart : bound ≤ start)
    (h : ∀ scale ∈ scales, bound ≤ scale.toNat) :
    bound ≤ scales.foldl (fun minimum scale => min minimum scale.toNat) start := by
  induction scales generalizing start with
  | nil => exact hstart
  | cons scale scales ih =>
    exact ih (le_min hstart (h scale List.mem_cons_self))
      fun other hother => h other (List.mem_cons_of_mem _ hother)

lemma le_foldl_max (scales : List Byte) (start : ℕ) :
    start ≤ scales.foldl (fun maximum scale => max maximum scale.toNat) start ∧
      ∀ scale ∈ scales,
        scale.toNat ≤ scales.foldl (fun maximum scale => max maximum scale.toNat) start := by
  induction scales generalizing start with
  | nil => simp
  | cons scale scales ih =>
    obtain ⟨hstart, hscales⟩ := ih (max start scale.toNat)
    rw [List.foldl_cons]
    refine ⟨(le_max_left _ _).trans hstart, fun other hother => ?_⟩
    obtain rfl | hother := List.mem_cons.mp hother
    · exact (le_max_right _ _).trans hstart
    · exact hscales other hother

lemma foldl_max_le (scales : List Byte) {start bound : ℕ} (hstart : start ≤ bound)
    (h : ∀ scale ∈ scales, scale.toNat ≤ bound) :
    scales.foldl (fun maximum scale => max maximum scale.toNat) start ≤ bound := by
  induction scales generalizing start with
  | nil => exact hstart
  | cons scale scales ih =>
    exact ih (max_le hstart (h scale List.mem_cons_self))
      fun other hother => h other (List.mem_cons_of_mem _ hother)

def derivedBase (scales : List Byte) : ℕ :=
  min (scales.foldl (fun minimum scale => min minimum scale.toNat) 255)
    nvFp4DownScale6MaximumBase

lemma derivedBase_le : derivedBase scales ≤ nvFp4DownScale6MaximumBase := min_le_right _ _

lemma derivedBase_fits {base : ℕ} (hbase : base ≤ nvFp4DownScale6MaximumBase)
    (h : Fits base scales) : Fits (derivedBase scales) scales := by
  have hle : base ≤ derivedBase scales := by
    refine le_min (le_foldl_min scales ?_ fun scale hscale => (h scale hscale).1) hbase
    exact hbase.trans (by decide)
  intro scale hscale
  refine ⟨(min_le_left _ _).trans ((foldl_min_le scales 255).2 scale hscale), ?_⟩
  have hscale := (h scale hscale).2
  omega

lemma derive_eq (hlength : scales.length = nvFp4DownCanonicalScaleBytesPerLayer)
    (scaleBase : ℕ) :
    (deriveNvfp4DownScale6Base scales scaleBase).2 = derivedBase scales ∧
      ((deriveNvfp4DownScale6Base scales scaleBase).1 = true ↔
        Fits (derivedBase scales) scales) := by
  have hbase : derivedBase scales ≤ 192 := derivedBase_le
  have hmaximum : scales.foldl (fun maximum scale => max maximum scale.toNat) 0 ≤ 255 :=
    foldl_max_le scales (by decide) fun scale _ => Nat.le_of_lt_succ scale.isLt
  have hlower : ∀ scale ∈ scales, derivedBase scales ≤ scale.toNat := fun scale hscale =>
    (min_le_left _ _).trans ((foldl_min_le scales 255).2 scale hscale)
  have hupper := (le_foldl_max scales 0).2
  obtain ⟨scale, hscale⟩ : ∃ scale, scale ∈ scales :=
    List.exists_mem_of_length_pos (hlength ▸ by decide)
  have hscaleLower := hlower scale hscale
  have hscaleUpper := hupper scale hscale
  unfold deriveNvfp4DownScale6Base
  rw [if_neg (not_not.mpr hlength)]
  refine ⟨rfl, ?_⟩
  change decide (minus _ (derivedBase scales) ≤ 63) = true ↔ _
  rw [decide_eq_true_eq, minus]
  constructor
  · intro hfits other hother
    have hother' := hupper other hother
    have hlowerOther := hlower other hother
    omega
  · intro hfits
    have hall := foldl_max_le scales (Nat.zero_le _) fun other hother => (hfits other hother).2
    omega

end Base

section Positions

namespace CodePosition

structure Valid (p : CodePosition) : Prop where
  rowQuad : p.rowQuad < 1280
  tile : p.tile < 34
  lanePair : p.lanePair < 16
  phase : p.phase < 2
  row : p.row < 4

def ordinal (p : CodePosition) : ℕ := 128 * (34 * p.rowQuad + p.tile) + p.code

def position (p : CodePosition) : ℕ := 6 * p.ordinal

variable {p q : CodePosition}

lemma position_eq : p.position = 8 * p.tileByte + p.firstBit := by
  have htiles : tilesPerRowQuad = 34 := rfl
  simp only [position, ordinal, tileByte, firstBit, nvFp4DownScale6BytesPerTile, htiles]
  ring

lemma position_byte : p.tileByte + p.firstBit / 8 = p.position / 8 := by
  rw [position_eq]
  omega

lemma position_shift : p.firstBit % 8 = p.position % 8 := by
  rw [position_eq]
  omega

lemma Valid.ordinal_lt (h : p.Valid) : p.ordinal < 5570560 := by
  obtain ⟨h1, h2, h3, h4, h5⟩ := h
  simp only [ordinal, code]
  omega

lemma Valid.canonicalIndex_lt (h : p.Valid) :
    p.canonicalIndex < nvFp4DownCanonicalScaleBytesPerLayer := by
  obtain ⟨h1, h2, h3, h4, h5⟩ := h
  have hcolumns : scaleColumns = 1088 := rfl
  have hbytes : nvFp4DownCanonicalScaleBytesPerLayer = 5570560 := rfl
  simp only [canonicalIndex, canonicalColumn, hcolumns, hbytes]
  omega

lemma ordinal_injective (hp : p.Valid) (hq : q.Valid) (h : p.ordinal = q.ordinal) : p = q := by
  obtain ⟨rowQuad, tile, lanePair, phase, row⟩ := p
  obtain ⟨rowQuad', tile', lanePair', phase', row'⟩ := q
  obtain ⟨h1, h2, h3, h4, h5⟩ := hp
  obtain ⟨h1', h2', h3', h4', h5'⟩ := hq
  simp only [ordinal, code] at *
  simp only [CodePosition.mk.injEq]
  omega

-- The position with a given ordinal.
def ofOrdinal (ordinal : ℕ) : CodePosition where
  rowQuad := ordinal / 128 / 34
  tile := ordinal / 128 % 34
  lanePair := ordinal % 128 / 8
  phase := ordinal % 8 / 4
  row := ordinal % 4

lemma valid_ofOrdinal {n : ℕ} (h : n < 5570560) : (CodePosition.ofOrdinal n).Valid :=
  ⟨by simp only [CodePosition.ofOrdinal]; omega, by simp only [CodePosition.ofOrdinal]; omega,
    by simp only [CodePosition.ofOrdinal]; omega, by simp only [CodePosition.ofOrdinal]; omega,
    by simp only [CodePosition.ofOrdinal]; omega⟩

lemma ordinal_ofOrdinal (n : ℕ) : (CodePosition.ofOrdinal n).ordinal = n := by
  simp only [CodePosition.ofOrdinal, ordinal, code]
  omega

end CodePosition

lemma mem_codePositions {p : CodePosition} : p ∈ codePositions ↔ p.Valid := by
  have hquads : rowQuads = 1280 := rfl
  have htiles : tilesPerRowQuad = 34 := rfl
  simp only [codePositions, hquads, htiles, List.mem_flatMap, List.mem_map, List.mem_range]
  constructor
  · rintro ⟨rowQuad, h1, tile, h2, lanePair, h3, phase, h4, row, h5, rfl⟩
    exact ⟨h1, h2, h3, h4, h5⟩
  · rintro ⟨h1, h2, h3, h4, h5⟩
    exact ⟨p.rowQuad, h1, p.tile, h2, p.lanePair, h3, p.phase, h4, p.row, h5, rfl⟩

end Positions

section Packing

variable {scales packed : List Byte} {scaleBase : ℕ} {p : CodePosition}

def delta (scales : List Byte) (scaleBase : ℕ) (p : CodePosition) : BitVec 32 :=
  BitVec.ofNat 32 (scaleAt scales p - scaleBase)

lemma scaleAt_fits (hlength : scales.length = nvFp4DownCanonicalScaleBytesPerLayer)
    (hfits : Fits scaleBase scales) (hp : p.Valid) :
    scaleBase ≤ scaleAt scales p ∧ scaleAt scales p ≤ scaleBase + 63 := by
  have hindex : p.canonicalIndex < scales.length := hlength ▸ hp.canonicalIndex_lt
  have hmember : scales.getD p.canonicalIndex 0 ∈ scales := by
    rw [List.getD_eq_getElem?_getD, List.getElem?_eq_getElem hindex, Option.getD_some]
    exact List.getElem_mem hindex
  exact hfits _ hmember

lemma delta_le (hlength : scales.length = nvFp4DownCanonicalScaleBytesPerLayer)
    (hfits : Fits scaleBase scales) (hp : p.Valid) : delta scales scaleBase p ≤ 63#32 := by
  obtain ⟨-, hupper⟩ := scaleAt_fits hlength hfits hp
  rw [BitVec.le_def, delta, BitVec.toNat_ofNat, BitVec.toNat_ofNat]
  omega

lemma packCode_eq (hlength : scales.length = nvFp4DownCanonicalScaleBytesPerLayer)
    (hfits : Fits scaleBase scales) (hp : p.Valid) :
    packCode scales scaleBase packed p =
      some (orField packed p.position (delta scales scaleBase p)) := by
  obtain ⟨hlower, hupper⟩ := scaleAt_fits hlength hfits hp
  unfold packCode orField
  dsimp only
  rw [if_neg (by omega), CodePosition.position_byte, CodePosition.position_shift]
  rfl

-- What the packed deltas of some positions put at one bit.
def packedBit (scales : List Byte) (scaleBase n : ℕ) (p : CodePosition) : Bool :=
  decide (p.position ≤ n) && (delta scales scaleBase p).getLsbD (n - p.position)

lemma foldlM_packCode (hlength : scales.length = nvFp4DownCanonicalScaleBytesPerLayer)
    (hfits : Fits scaleBase scales) {positions : List CodePosition}
    (hvalid : ∀ p ∈ positions, p.Valid)
    (hsize : packed.length = nvFp4DownScale6SidecarBytesPerProjection) :
    ∃ result, positions.foldlM (packCode scales scaleBase) packed = some result ∧
      result.length = packed.length ∧
      ∀ n, bit result n = (bit packed n || positions.any (packedBit scales scaleBase n)) := by
  induction positions generalizing packed with
  | nil => exact ⟨packed, rfl, rfl, by simp⟩
  | cons p positions ih =>
    have hp := hvalid p List.mem_cons_self
    have hroom : p.position + 6 ≤ 8 * packed.length := by
      have hlt := hp.ordinal_lt
      rw [hsize, nvFp4DownScale6SidecarBytesPerProjection, CodePosition.position]
      omega
    obtain ⟨result, hresult, hlen, hbits⟩ := @ih
      (orField packed p.position (delta scales scaleBase p))
      (fun q hq => hvalid q (List.mem_cons_of_mem _ hq)) (by rw [orField_length, hsize])
    refine ⟨result, ?_, by rw [hlen, orField_length], fun n => ?_⟩
    · rw [List.foldlM_cons, packCode_eq hlength hfits hp]
      exact hresult
    · rw [hbits, bit_orField (delta_le hlength hfits hp) hroom, List.any_cons, Bool.or_assoc]
      rfl

structure Encodes (scales : List Byte) (scaleBase : ℕ) (packed : List Byte) : Prop where
  length : packed.length = nvFp4DownScale6SidecarBytesPerProjection
  fields : ∀ p : CodePosition, p.Valid → readField packed p.position = delta scales scaleBase p

lemma any_packedBit (hlength : scales.length = nvFp4DownCanonicalScaleBytesPerLayer)
    (hfits : Fits scaleBase scales) (hp : p.Valid) {j : ℕ} (hj : j < 6) :
    codePositions.any (packedBit scales scaleBase (p.position + j)) =
      (delta scales scaleBase p).getLsbD j := by
  rw [Bool.eq_iff_iff, List.any_eq_true]
  constructor
  · rintro ⟨q, hq, hbit⟩
    have hvalid := mem_codePositions.1 hq
    rw [packedBit, Bool.and_eq_true, decide_eq_true_eq] at hbit
    obtain ⟨hle, hbit⟩ := hbit
    have hnear : p.position + j - q.position < 6 := by
      by_contra hfar
      rw [getLsbD_six (delta_le hlength hfits hvalid) (Nat.le_of_not_lt hfar)] at hbit
      cases hbit
    have hsame : q = p := by
      refine CodePosition.ordinal_injective hvalid hp ?_
      simp only [CodePosition.position] at hle hnear
      omega
    rw [hsame, Nat.add_sub_cancel_left] at hbit
    exact hbit
  · intro hbit
    refine ⟨p, mem_codePositions.2 hp, ?_⟩
    rw [packedBit, Nat.add_sub_cancel_left, hbit, decide_eq_true (Nat.le_add_right _ _)]
    rfl

lemma pack_encodes (hlength : scales.length = nvFp4DownCanonicalScaleBytesPerLayer)
    (hbase : scaleBase ≤ nvFp4DownScale6MaximumBase) (hfits : Fits scaleBase scales)
    (hsize : packed.length = nvFp4DownScale6SidecarBytesPerProjection) :
    ∃ result, packNvfp4DownScale6Sidecar scales scaleBase packed = some result ∧
      Encodes scales scaleBase result := by
  obtain ⟨result, hresult, hlen, hbits⟩ := @foldlM_packCode scales
    (List.replicate packed.length 0) scaleBase hlength hfits codePositions
    (fun p hp => mem_codePositions.1 hp) (by rw [List.length_replicate, hsize])
  refine ⟨result, ?_, by rw [hlen, List.length_replicate, hsize], fun p hp => ?_⟩
  · rw [packNvfp4DownScale6Sidecar,
      if_neg (not_or.mpr ⟨not_not.mpr hlength, not_or.mpr
        ⟨not_not.mpr hsize, Nat.not_lt.mpr hbase⟩⟩)]
    exact hresult
  · refine BitVec.eq_of_getLsbD_eq fun j _ => ?_
    rw [getLsbD_readField]
    by_cases hj : j < 6
    · rw [hbits, bit_replicate_zero, Bool.false_or, any_packedBit hlength hfits hp hj,
        decide_eq_true hj, Bool.true_and]
    · rw [getLsbD_six (delta_le hlength hfits hp) (Nat.le_of_not_lt hj), decide_eq_false hj,
        Bool.false_and]

lemma reconstructs_iff (hlength : scales.length = nvFp4DownCanonicalScaleBytesPerLayer)
    (hfits : Fits scaleBase scales) (hp : p.Valid) :
    reconstructs scales scaleBase packed p = true ↔
      readField packed p.position = delta scales scaleBase p := by
  obtain ⟨hlower, hupper⟩ := scaleAt_fits hlength hfits hp
  have hsum : BitVec.ofNat 32 scaleBase + delta scales scaleBase p =
      BitVec.ofNat 32 (scaleAt scales p) := by
    rw [delta, ← BitVec.ofNat_add, Nat.add_sub_cancel' hlower]
  have hread : reconstructs scales scaleBase packed p =
      (BitVec.ofNat 32 scaleBase + readField packed p.position ==
        BitVec.ofNat 32 (scaleAt scales p)) := by
    unfold reconstructs readField
    rw [CodePosition.position_byte, CodePosition.position_shift]
  rw [hread, beq_iff_eq, ← hsum]
  exact BitVec.add_right_inj _

lemma verify_iff (hlength : scales.length = nvFp4DownCanonicalScaleBytesPerLayer)
    (hbase : scaleBase ≤ nvFp4DownScale6MaximumBase) (hfits : Fits scaleBase scales) :
    verifyNvfp4DownScale6Sidecar scales scaleBase packed = true ↔
      Encodes scales scaleBase packed := by
  rw [verifyNvfp4DownScale6Sidecar]
  by_cases hsize : packed.length = nvFp4DownScale6SidecarBytesPerProjection
  · rw [if_neg (not_or.mpr ⟨not_not.mpr hlength, not_or.mpr
      ⟨not_not.mpr hsize, Nat.not_lt.mpr hbase⟩⟩), List.all_eq_true]
    constructor
    · exact fun h => ⟨hsize, fun p hp => (reconstructs_iff hlength hfits hp).mp
        (h p (mem_codePositions.2 hp))⟩
    · exact fun h p hp => (reconstructs_iff hlength hfits (mem_codePositions.1 hp)).mpr
        (h.fields p (mem_codePositions.1 hp))
  · rw [if_pos (Or.inr (Or.inl hsize))]
    exact ⟨fun h => (Bool.false_ne_true h).elim, fun h => absurd h.length hsize⟩

-- The fields leave no bit of the sidecar free.
lemma encodes_bit (h : Encodes scales scaleBase packed) {n : ℕ}
    (hn : n < 8 * nvFp4DownScale6SidecarBytesPerProjection) :
    bit packed n = (delta scales scaleBase (CodePosition.ofOrdinal (n / 6))).getLsbD (n % 6) := by
  rw [nvFp4DownScale6SidecarBytesPerProjection] at hn
  have hvalid : (CodePosition.ofOrdinal (n / 6)).Valid :=
    CodePosition.valid_ofOrdinal (by omega)
  have hposition : (CodePosition.ofOrdinal (n / 6)).position + n % 6 = n := by
    rw [CodePosition.position, CodePosition.ordinal_ofOrdinal]
    omega
  rw [← h.fields _ hvalid, getLsbD_readField, hposition,
    decide_eq_true (Nat.mod_lt _ (by decide)), Bool.true_and]

lemma encodes_unique {packed' : List Byte} (h : Encodes scales scaleBase packed)
    (h' : Encodes scales scaleBase packed') : packed = packed' := by
  refine bytes_ext (h.length.trans h'.length.symm) fun n hn => ?_
  rw [h.length] at hn
  rw [encodes_bit h hn, encodes_bit h' hn]

end Packing

section Lanes

variable {packed : List Byte} {tileIndex lane : ℕ}

def laneBit (tileIndex lane : ℕ) : ℕ := 768 * tileIndex + 24 * lane

lemma shuffle_of_lt {values : ℕ → BitVec 32} {source : ℕ} (h : source < 32) :
    shuffle values source = values source := by
  rw [shuffle, Nat.mod_eq_of_lt h]

lemma getLsbD_residentWord {word j : ℕ} (hword : word < 24) (hj : j < 32) :
    (residentWord packed tileIndex word).getLsbD j =
      bit packed (768 * tileIndex + 32 * word + j) := by
  have hposition : 8 * (tileIndex * 24 * 4 + 4 * word) + j =
      768 * tileIndex + 32 * word + j := by ring
  rw [residentWord, nvFp4Scale6WordsPerRowQuadTile, if_pos hword, getLsbD_loadWord hj, hposition]

-- The 24 bits of a lane, from the one or two words that hold them.
def laneDeltas (packed : List Byte) (tileIndex lane : ℕ) : BitVec 32 :=
  let resident := residentWord packed tileIndex
  let word := 24 * lane / 32
  let shift := 24 * lane % 32
  let deltas := shuffle resident word >>> shift
  (if 8 < shift then deltas ||| shuffle resident (word + 1) <<< (32 - shift) else deltas) &&&
    0xffffff#32

lemma lane_words (hlane : lane < 32) :
    24 * lane / 32 < 24 ∧ (8 < 24 * lane % 32 → 24 * lane / 32 + 1 < 24) := by
  omega

lemma getLsbD_laneDeltas (hlane : lane < 32) {j : ℕ} (hj : j < 24) :
    (laneDeltas packed tileIndex lane).getLsbD j = bit packed (laneBit tileIndex lane + j) := by
  obtain ⟨hword, hnext⟩ := lane_words hlane
  have hmask : (0xffffff#32).getLsbD j = true := by
    have hbits : (0xffffff#32).getLsbD j = (decide (j < 32) && decide (j < 24)) := getLsbD_mask 24
    rw [hbits, decide_eq_true hj, decide_eq_true (by omega : j < 32)]
    rfl
  have hlow (hfit : 24 * lane % 32 + j < 32) :
      (shuffle (residentWord packed tileIndex) (24 * lane / 32) >>> (24 * lane % 32)).getLsbD j =
        bit packed (laneBit tileIndex lane + j) := by
    have hposition : 768 * tileIndex + 32 * (24 * lane / 32) + (24 * lane % 32 + j) =
        laneBit tileIndex lane + j := by
      rw [laneBit]
      omega
    rw [BitVec.getLsbD_ushiftRight, shuffle_of_lt (by omega),
      getLsbD_residentWord hword hfit, hposition]
  unfold laneDeltas
  dsimp only
  rw [BitVec.getLsbD_and, hmask, Bool.and_true]
  by_cases hcross : 8 < 24 * lane % 32
  · rw [if_pos hcross, BitVec.getLsbD_or, BitVec.getLsbD_shiftLeft]
    by_cases hfit : 24 * lane % 32 + j < 32
    · rw [hlow hfit, decide_eq_true (by omega : j < 32 - 24 * lane % 32)]
      simp
    · have hposition : 768 * tileIndex + 32 * (24 * lane / 32 + 1) +
          (j - (32 - 24 * lane % 32)) = laneBit tileIndex lane + j := by
        rw [laneBit]
        omega
      rw [BitVec.getLsbD_ushiftRight, BitVec.getLsbD_of_ge _ _ (Nat.le_of_not_lt hfit),
        shuffle_of_lt (by omega), getLsbD_residentWord (hnext hcross) (by omega), hposition,
        decide_eq_true (by omega : j < 32), decide_eq_false (by omega : ¬j < 32 - 24 * lane % 32)]
      rfl
  · rw [if_neg hcross, hlow (by omega)]

lemma laneDeltas_field (hlane : lane < 32) {row : ℕ} (hrow : row < 4) :
    laneDeltas packed tileIndex lane >>> (6 * row) &&& 63#32 =
      readField packed (laneBit tileIndex lane + 6 * row) := by
  refine BitVec.eq_of_getLsbD_eq fun j hj => ?_
  have hmask : (63#32).getLsbD j = (decide (j < 32) && decide (j < 6)) := getLsbD_mask 6
  rw [BitVec.getLsbD_and, hmask, BitVec.getLsbD_ushiftRight, getLsbD_readField]
  by_cases hsix : j < 6
  · rw [getLsbD_laneDeltas hlane (by omega : 6 * row + j < 24), Nat.add_assoc]
    simp [hj, hsix]
  · simp [hsix]

end Lanes

section Decoders

lemma toNat_or_shiftLeft {low high : BitVec 32} {k : ℕ} (hlow : low.toNat < 2 ^ k)
    (hfits : high.toNat * 2 ^ k < 2 ^ 32) :
    (low ||| high <<< k).toNat = low.toNat + high.toNat * 2 ^ k := by
  rw [BitVec.toNat_or, BitVec.toNat_shiftLeft, Nat.shiftLeft_eq, Nat.mod_eq_of_lt hfits,
    Nat.or_comm, ← Nat.shiftLeft_eq, ← Nat.shiftLeft_add_eq_or_of_lt hlow, Nat.add_comm]

lemma toNat_append_byte {width : ℕ} (high : BitVec width) (low : Byte) :
    (high ++ low).toNat = high.toNat * 256 + low.toNat := by
  rw [BitVec.toNat_append, ← Nat.shiftLeft_add_eq_or_of_lt low.isLt, Nat.shiftLeft_eq]

-- Four deltas of at most 63 and a base of at most 192 stay inside their bytes.
lemma toNat_spread {d0 d1 d2 d3 base : BitVec 32} (h0 : d0 ≤ 63#32) (h1 : d1 ≤ 63#32)
    (h2 : d2 ≤ 63#32) (h3 : d3 ≤ 63#32) (hbase : base ≤ 192#32) :
    ((d0 ||| d1 <<< 8 ||| d2 <<< 16 ||| d3 <<< 24) + base * 0x01010101#32).toNat =
      (base.toNat + d0.toNat) + (base.toNat + d1.toNat) * 256 + (base.toNat + d2.toNat) * 65536 +
        (base.toNat + d3.toNat) * 16777216 := by
  have h0 : d0.toNat ≤ 63 := BitVec.le_def.mp h0
  have h1 : d1.toNat ≤ 63 := BitVec.le_def.mp h1
  have h2 : d2.toNat ≤ 63 := BitVec.le_def.mp h2
  have h3 : d3.toNat ≤ 63 := BitVec.le_def.mp h3
  have hbase : base.toNat ≤ 192 := BitVec.le_def.mp hbase
  have hone : (d0 ||| d1 <<< 8).toNat = d0.toNat + d1.toNat * 2 ^ 8 :=
    toNat_or_shiftLeft (by omega) (by omega)
  have htwo : (d0 ||| d1 <<< 8 ||| d2 <<< 16).toNat =
      d0.toNat + d1.toNat * 2 ^ 8 + d2.toNat * 2 ^ 16 := by
    rw [toNat_or_shiftLeft (by omega) (by omega), hone]
  rw [BitVec.toNat_add, BitVec.toNat_mul, toNat_or_shiftLeft (by omega) (by omega), htwo]
  have hspread : (0x01010101#32).toNat = 16843009 := rfl
  rw [hspread]
  omega

variable {scales packed : List Byte} {scaleBase rowQuad tile lane : ℕ}

def lanePosition (rowQuad tile lane row : ℕ) : CodePosition where
  rowQuad := rowQuad
  tile := tile
  lanePair := lane / 2
  phase := lane % 2
  row := row

-- The four canonical scale bytes of a lane: one of each row of the quad.
def canonicalCodes (scales : List Byte) (rowQuad tile lane : ℕ) : BitVec 32 :=
  let code (row : ℕ) : Byte := scales.getD (lanePosition rowQuad tile lane row).canonicalIndex 0
  code 3 ++ code 2 ++ code 1 ++ code 0

def spreadDeltas (deltas base : BitVec 32) : BitVec 32 :=
  ((deltas &&& 63#32) ||| (deltas >>> 6 &&& 63#32) <<< 8 ||| (deltas >>> 12 &&& 63#32) <<< 16 |||
    (deltas >>> 18 &&& 63#32) <<< 24) + base * 0x01010101#32

lemma spreadDeltas_canonical (hlength : scales.length = nvFp4DownCanonicalScaleBytesPerLayer)
    (hbase : scaleBase ≤ nvFp4DownScale6MaximumBase) (hfits : Fits scaleBase scales)
    (h : Encodes scales scaleBase packed) (hquad : rowQuad < 1280) (htile : tile < 34)
    (hlane : lane < 32) :
    spreadDeltas (laneDeltas packed (34 * rowQuad + tile) lane) (BitVec.ofNat 32 scaleBase) =
      canonicalCodes scales rowQuad tile lane := by
  have hvalid (row : ℕ) (hrow : row < 4) : (lanePosition rowQuad tile lane row).Valid :=
    ⟨hquad, htile, by simp only [lanePosition]; omega, Nat.mod_lt _ (by decide), hrow⟩
  have hfield (row : ℕ) (hrow : row < 4) :
      laneDeltas packed (34 * rowQuad + tile) lane >>> (6 * row) &&& 63#32 =
        delta scales scaleBase (lanePosition rowQuad tile lane row) := by
    have hposition : laneBit (34 * rowQuad + tile) lane + 6 * row =
        (lanePosition rowQuad tile lane row).position := by
      simp only [laneBit, lanePosition, CodePosition.position, CodePosition.ordinal,
        CodePosition.code]
      omega
    rw [laneDeltas_field hlane hrow, hposition, h.fields _ (hvalid row hrow)]
  have hsmall (row : ℕ) (hrow : row < 4) := delta_le hlength hfits (hvalid row hrow)
  have hscale (row : ℕ) (hrow : row < 4) :
      (BitVec.ofNat 32 scaleBase).toNat +
        (delta scales scaleBase (lanePosition rowQuad tile lane row)).toNat =
      (scales.getD (lanePosition rowQuad tile lane row).canonicalIndex 0).toNat := by
    obtain ⟨hlower, hupper⟩ := scaleAt_fits hlength hfits (hvalid row hrow)
    have hbase : scaleBase ≤ 192 := hbase
    rw [delta, BitVec.toNat_ofNat, BitVec.toNat_ofNat]
    change _ = scaleAt scales _
    omega
  have hzero : laneDeltas packed (34 * rowQuad + tile) lane &&& 63#32 =
      delta scales scaleBase (lanePosition rowQuad tile lane 0) := by
    rw [← hfield 0 (by decide)]
    rfl
  refine BitVec.eq_of_toNat_eq ?_
  rw [spreadDeltas, hzero, hfield 1 (by decide), hfield 2 (by decide), hfield 3 (by decide),
    toNat_spread (hsmall 0 (by decide)) (hsmall 1 (by decide)) (hsmall 2 (by decide))
      (hsmall 3 (by decide)) ?_, hscale 0 (by decide), hscale 1 (by decide), hscale 2 (by decide),
    hscale 3 (by decide), canonicalCodes, toNat_append_byte, toNat_append_byte, toNat_append_byte]
  · ring
  · rw [BitVec.le_def, BitVec.toNat_ofNat, BitVec.toNat_ofNat]
    have hbase : scaleBase ≤ 192 := hbase
    omega

lemma firstBit_eq (lane : ℕ) : rawScaleCodesFirstBit lane = 24 * lane := by
  have hphase : lane &&& 1 = lane % 2 := Nat.and_two_pow_sub_one_eq_mod lane 1
  rw [rawScaleCodesFirstBit, Nat.shiftRight_eq_div_pow, hphase, nvFp4Scale6CodesPerLanePair,
    nvFp4Scale6BitsPerCode]
  omega

lemma word_eq (lane : ℕ) : rawScaleCodesFirstBit lane >>> 5 = 24 * lane / 32 := by
  rw [firstBit_eq, Nat.shiftRight_eq_div_pow]

lemma shift_eq (lane : ℕ) : rawScaleCodesFirstBit lane &&& 31 = 24 * lane % 32 := by
  rw [firstBit_eq]
  exact Nat.and_two_pow_sub_one_eq_mod (24 * lane) 5

lemma rawScaleCodes_eq (base : BitVec 32) {row0 packedColumn : ℕ} (hrow : row0 < 5120)
    (hcolumn : packedColumn < 8704) (lane : ℕ) :
    nvfp4Scale6RawScaleCodesForLane packed base row0 packedColumn 8704 lane =
      spreadDeltas (laneDeltas packed (34 * (row0 / 4) + packedColumn / 256) lane) base := by
  have htile : (row0 / 4 * (8704 / (nvFp4Scale6ColumnsPerTile / nvFp4ValuesPerByte)) +
      packedColumn / (nvFp4Scale6ColumnsPerTile / nvFp4ValuesPerByte)) % 2 ^ 32 =
      34 * (row0 / 4) + packedColumn / 256 := by
    rw [nvFp4Scale6ColumnsPerTile, nvFp4ValuesPerByte]
    omega
  unfold nvfp4Scale6RawScaleCodesForLane
  dsimp only
  rw [htile, word_eq, shift_eq]
  rfl

lemma scale6Codes_eq (base : BitVec 32) {row : ℕ} (hrow : row < 5120) (htile : tile < 34)
    (lane : ℕ) :
    scale6Codes packed base row tile 17408 lane =
      spreadDeltas (laneDeltas packed (34 * (row / 4) + tile) lane) base := by
  have hindex : (row / 4 * (17408 / 512) + tile) % 2 ^ 32 = 34 * (row / 4) + tile := by omega
  have hwords : (34 * (row / 4) + tile) * 24 % 2 ^ 32 = (34 * (row / 4) + tile) * 24 := by omega
  have hbit : (lane / 2 * 8 + (lane &&& 1) * 4) * 6 = 24 * lane := by
    have hphase : lane &&& 1 = lane % 2 := Nat.and_two_pow_sub_one_eq_mod lane 1
    rw [hphase]
    omega
  have hshift : 24 * lane &&& 31 = 24 * lane % 32 := Nat.and_two_pow_sub_one_eq_mod _ 5
  unfold scale6Codes
  dsimp only
  rw [hindex, hwords, hbit, hshift]
  rfl

-- What holds of a packed sidecar and of the two decoders that read it.
structure Scale6Exact (scales : List Byte) (scaleBase : ℕ) (packed : List Byte) : Prop where
  size : packed.length = nvFp4DownScale6SidecarBytesPerProjection
  verified : ∀ other, verifyNvfp4DownScale6Sidecar scales scaleBase other = true ↔ other = packed
  decoded : ∀ row0 < nvFp4DownScale6Rows, ∀ packedColumn < nvFp4DownScale6Columns / 2,
    ∀ lane < 32, nvfp4Scale6RawScaleCodesForLane packed (BitVec.ofNat 32 scaleBase) row0
      packedColumn (nvFp4DownScale6Columns / 2) lane =
        canonicalCodes scales (row0 / 4) (packedColumn / 256) lane
  verifyDecoded : ∀ row < nvFp4DownScale6Rows, ∀ tile < tilesPerRowQuad, ∀ lane < 32,
    scale6Codes packed (BitVec.ofNat 32 scaleBase) row tile nvFp4DownScale6Columns lane =
      canonicalCodes scales (row / 4) tile lane
  words : ∀ lane < 32, rawScaleCodesFirstBit lane >>> 5 < nvFp4Scale6WordsPerRowQuadTile ∧
    (8 < rawScaleCodesFirstBit lane &&& 31 →
      rawScaleCodesFirstBit lane >>> 5 + 1 < nvFp4Scale6WordsPerRowQuadTile)

theorem scale6_codec_exact (scales : List Byte)
    (hlength : scales.length = nvFp4DownCanonicalScaleBytesPerLayer) (initial : ℕ) :
    ((deriveNvfp4DownScale6Base scales initial).1 = true ↔
        ∃ base ≤ nvFp4DownScale6MaximumBase, Fits base scales) ∧
      ((deriveNvfp4DownScale6Base scales initial).1 = true →
        ∀ buffer : List Byte, buffer.length = nvFp4DownScale6SidecarBytesPerProjection →
          ∃ packed, packNvfp4DownScale6Sidecar scales
              (deriveNvfp4DownScale6Base scales initial).2 buffer = some packed ∧
            Scale6Exact scales (deriveNvfp4DownScale6Base scales initial).2 packed) := by
  obtain ⟨hbase, hderived⟩ := derive_eq hlength initial
  have hle : derivedBase scales ≤ nvFp4DownScale6MaximumBase := derivedBase_le
  refine ⟨⟨fun h => ⟨_, hle, hderived.mp h⟩, fun ⟨base, hbound, hfits⟩ =>
    hderived.mpr (derivedBase_fits hbound hfits)⟩, fun h buffer hbuffer => ?_⟩
  have hfits := hderived.mp h
  rw [hbase]
  obtain ⟨packed, hpacked, hencodes⟩ := pack_encodes hlength hle hfits hbuffer
  refine ⟨packed, hpacked, hencodes.length, fun other => ?_, ?_, ?_, ?_⟩
  · rw [verify_iff hlength hle hfits]
    exact ⟨fun hother => encodes_unique hother hencodes, fun hother => hother ▸ hencodes⟩
  · intro row0 hrow packedColumn hcolumn lane hlane
    have hrow : row0 < 5120 := hrow
    have hcolumn : packedColumn < 8704 := hcolumn
    exact (rawScaleCodes_eq _ hrow hcolumn lane).trans (spreadDeltas_canonical hlength hle hfits
      hencodes (by omega) (by omega) hlane)
  · intro row hrow tile htile lane hlane
    have hrow : row < 5120 := hrow
    exact (scale6Codes_eq _ hrow htile lane).trans (spreadDeltas_canonical hlength hle hfits
      hencodes (by omega) htile hlane)
  · intro lane hlane
    rw [word_eq, shift_eq]
    exact lane_words hlane

def constantScales : List Byte := List.replicate nvFp4DownCanonicalScaleBytesPerLayer 0x38#8

theorem scale6_codec_exact_constant :
    (deriveNvfp4DownScale6Base constantScales 0).1 = true ∧
      ∃ packed, packNvfp4DownScale6Sidecar constantScales
          (deriveNvfp4DownScale6Base constantScales 0).2
          (List.replicate nvFp4DownScale6SidecarBytesPerProjection 0) = some packed ∧
        Scale6Exact constantScales (deriveNvfp4DownScale6Base constantScales 0).2 packed := by
  obtain ⟨hderived, hpacked⟩ := scale6_codec_exact constantScales List.length_replicate 0
  have hfits : Fits 56 constantScales := by
    intro scale hscale
    rw [List.eq_of_mem_replicate hscale]
    decide
  have hbase := hderived.mpr ⟨56, by decide, hfits⟩
  exact ⟨hbase, hpacked hbase _ List.length_replicate⟩

end Decoders

end Qwen3xOrin.Decode
