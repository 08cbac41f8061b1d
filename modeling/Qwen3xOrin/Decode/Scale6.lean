import Qwen3xOrin.Library.BitFields

/-! The six-bit feed of the Down block scales: one base for each projection and the deltas of the
scale codes, packed in the order in which the lanes of a warp consume them. -/

namespace Qwen3xOrin.Decode

open Library.BitFields

def nvFp4DownScale6Rows : ℕ := 5120
def nvFp4DownScale6Columns : ℕ := 17408
def nvFp4DownScale6GroupSize : ℕ := 16
def nvFp4DownScale6ColumnsPerTile : ℕ := 512
def nvFp4DownScale6RowsPerQuad : ℕ := 4
def nvFp4DownScale6BytesPerTile : ℕ := 96
def nvFp4DownScale6MaximumBase : ℕ := 192
def nvFp4DownScale6SidecarBytesPerProjection : ℕ := 4177920

def scaleColumns : ℕ := nvFp4DownScale6Columns / nvFp4DownScale6GroupSize
def rowQuads : ℕ := nvFp4DownScale6Rows / nvFp4DownScale6RowsPerQuad
def tilesPerRowQuad : ℕ := nvFp4DownScale6Columns / nvFp4DownScale6ColumnsPerTile

def nvFp4DownCanonicalScaleBytesPerLayer : ℕ := nvFp4DownScale6Rows * scaleColumns

section Host

-- `unsigned int` subtraction.
def minus (left right : ℕ) : ℕ := (left + 2 ^ 32 - right) % 2 ^ 32

-- The base is written whenever the tensor has the right size, also when it does not fit.
def deriveNvfp4DownScale6Base (canonicalScales : List Byte) (scaleBase : ℕ) : Bool × ℕ :=
  if canonicalScales.length ≠ nvFp4DownCanonicalScaleBytesPerLayer then (false, scaleBase)
  else
    let minimum := canonicalScales.foldl (fun minimum scale => min minimum scale.toNat) 255
    let maximum := canonicalScales.foldl (fun maximum scale => max maximum scale.toNat) 0
    let base := min minimum nvFp4DownScale6MaximumBase
    (decide (minus maximum base ≤ 63), base)

-- The indices of one pass through the loops that pack and verify.
structure CodePosition where
  rowQuad : ℕ
  tile : ℕ
  lanePair : ℕ
  phase : ℕ
  row : ℕ

namespace CodePosition

variable (p : CodePosition)

def code : ℕ := 8 * p.lanePair + 4 * p.phase + p.row

def tileByte : ℕ := (p.rowQuad * tilesPerRowQuad + p.tile) * nvFp4DownScale6BytesPerTile

def firstBit : ℕ := p.code * 6

def canonicalColumn : ℕ := 32 * p.tile + p.lanePair + 16 * p.phase

def canonicalIndex : ℕ := (4 * p.rowQuad + p.row) * scaleColumns + p.canonicalColumn

end CodePosition

def codePositions : List CodePosition :=
  (List.range rowQuads).flatMap fun rowQuad =>
    (List.range tilesPerRowQuad).flatMap fun tile =>
      (List.range 16).flatMap fun lanePair =>
        (List.range 2).flatMap fun phase =>
          (List.range 4).map fun row => ⟨rowQuad, tile, lanePair, phase, row⟩

variable (canonicalScales : List Byte) (scaleBase : ℕ)

def scaleAt (p : CodePosition) : ℕ := (canonicalScales.getD p.canonicalIndex 0).toNat

def packCode (packed : List Byte) (p : CodePosition) : Option (List Byte) :=
  let scale := scaleAt canonicalScales p
  if scale < scaleBase ∨ 63 < scale - scaleBase then none
  else
    let delta := BitVec.ofNat 32 (scale - scaleBase)
    let byte := p.tileByte + p.firstBit / 8
    let shift := p.firstBit % 8
    let payload := delta <<< shift
    let packed := orAt packed byte (payload.setWidth 8)
    some (if 2 < shift then orAt packed (byte + 1) ((payload >>> 8).setWidth 8) else packed)

def packNvfp4DownScale6Sidecar (packed : List Byte) : Option (List Byte) :=
  if canonicalScales.length ≠ nvFp4DownCanonicalScaleBytesPerLayer ∨
      packed.length ≠ nvFp4DownScale6SidecarBytesPerProjection ∨
      nvFp4DownScale6MaximumBase < scaleBase then none
  else
    codePositions.foldlM (packCode canonicalScales scaleBase)
      (List.replicate packed.length 0)

def reconstructs (packed : List Byte) (p : CodePosition) : Bool :=
  let byte := p.tileByte + p.firstBit / 8
  let shift := p.firstBit % 8
  let window := (packed.getD byte 0).setWidth 32
  let window := if 2 < shift then window ||| (packed.getD (byte + 1) 0).setWidth 32 <<< 8 else window
  BitVec.ofNat 32 scaleBase + (window >>> shift &&& 63#32) ==
    BitVec.ofNat 32 (scaleAt canonicalScales p)

def verifyNvfp4DownScale6Sidecar (packed : List Byte) : Bool :=
  if canonicalScales.length ≠ nvFp4DownCanonicalScaleBytesPerLayer ∨
      packed.length ≠ nvFp4DownScale6SidecarBytesPerProjection ∨
      nvFp4DownScale6MaximumBase < scaleBase then false
  else codePositions.all (reconstructs canonicalScales scaleBase packed)

end Host

section Device

def nvFp4Scale6BitsPerCode : ℕ := 6
def nvFp4Scale6CodesPerLanePair : ℕ := 8
def nvFp4Scale6WordsPerRowQuadTile : ℕ := 24
def nvFp4Scale6ColumnsPerTile : ℕ := 512
def nvFp4ValuesPerByte : ℕ := 2

-- `__shfl_sync` over the full warp.
def shuffle (values : ℕ → BitVec 32) (source : ℕ) : BitVec 32 := values (source % 32)

def residentWord (scale6Sidecar : List Byte) (tileIndex lane : ℕ) : BitVec 32 :=
  if lane < nvFp4Scale6WordsPerRowQuadTile then
    loadWord scale6Sidecar (tileIndex * nvFp4Scale6WordsPerRowQuadTile * 4 + 4 * lane)
  else 0

def rawScaleCodesFirstBit (lane : ℕ) : ℕ :=
  ((lane >>> 1) * nvFp4Scale6CodesPerLanePair + (lane &&& 1) * 4) * nvFp4Scale6BitsPerCode

def nvfp4Scale6RawScaleCodesForLane (scale6Sidecar : List Byte) (scaleBase : BitVec 32)
    (row0 packedColumn packedColumns lane : ℕ) : BitVec 32 :=
  let packedColumnsPerScale6Tile := nvFp4Scale6ColumnsPerTile / nvFp4ValuesPerByte
  let tilesPerRowQuad := packedColumns / packedColumnsPerScale6Tile
  let tileInRow := packedColumn / packedColumnsPerScale6Tile
  let tileIndex := (row0 / 4 * tilesPerRowQuad + tileInRow) % 2 ^ 32
  let resident := residentWord scale6Sidecar tileIndex
  let firstBit := rawScaleCodesFirstBit lane
  let firstWord := firstBit >>> 5
  let shift := firstBit &&& 31
  let lowWord := shuffle resident firstWord
  let highWord := shuffle resident (firstWord + 1)
  let packedDeltas := lowWord >>> shift
  let packedDeltas := if 8 < shift then packedDeltas ||| highWord <<< (32 - shift) else packedDeltas
  let packedDeltas := packedDeltas &&& 0x00ffffff#32
  let deltaBytes := (packedDeltas &&& 0x3f#32) |||
    ((packedDeltas >>> 6 &&& 0x3f#32) <<< 8) |||
    ((packedDeltas >>> 12 &&& 0x3f#32) <<< 16) |||
    ((packedDeltas >>> 18 &&& 0x3f#32) <<< 24)
  deltaBytes + scaleBase * 0x01010101#32

def scale6Codes (scales : List Byte) (scaleBase : BitVec 32) (row tile k lane : ℕ) : BitVec 32 :=
  let tileIndex := (row / 4 * (k / 512) + tile) % 2 ^ 32
  let resident : ℕ → BitVec 32 := fun lane =>
    if lane < 24 then loadWord scales (tileIndex * 24 % 2 ^ 32 * 4 + 4 * lane) else 0
  let bit := (lane / 2 * 8 + (lane &&& 1) * 4) * 6
  let shift := bit &&& 31
  let lo := shuffle resident (bit / 32)
  let hi := shuffle resident (bit / 32 + 1)
  let deltas := lo >>> shift
  let deltas := if 8 < shift then deltas ||| hi <<< (32 - shift) else deltas
  let deltas := deltas &&& 0xffffff#32
  ((deltas &&& 63#32) ||| ((deltas >>> 6 &&& 63#32) <<< 8) |||
    ((deltas >>> 12 &&& 63#32) <<< 16) ||| ((deltas >>> 18 &&& 63#32) <<< 24)) +
      scaleBase * 0x01010101#32

end Device

end Qwen3xOrin.Decode
