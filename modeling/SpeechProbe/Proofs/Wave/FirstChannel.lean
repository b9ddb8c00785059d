import SpeechProbe.Proofs.Except
import SpeechProbe.Proofs.Number.Binary
import SpeechProbe.Proofs.Sample.Partition
import SpeechProbe.Wave.Recording

/-!
# The first channel of a recording

From the bytes of a file to the chunks that are served, a sample passes through three hands.  The
reader takes the words of the data one after the other (`Wave.takeSamples_eq`), and a word is a
float as it is, or an integer that is divided by full scale, which 24 digits hold exactly
(`Wave.integerSample_spec`).  Of the interleaved samples every one at a multiple of the number of
channels is kept (`getElem?_everyNth`).  And a cursor serves what it was given.

`Wave.Holds` says which files have frames to read.  It is put together from what the reader checks
(`Recording.holds_of_ofBytes`), and whatever else is in such a file, its recording is that of the
first words of its frames (`Recording.ofBytes_of_holds`).
-/

namespace SpeechProbe

namespace Wave

/-! ## Words -/

theorem takeBytes_eq (n : Nat) (bytes : List UInt8) : takeBytes n bytes =
    if n ≤ bytes.length then .ok (bytes.take n, bytes.drop n) else .error .tooShort := by
  induction n generalizing bytes with
  | zero => simp [takeBytes]
  | succ n ih =>
    cases bytes with
    | nil => simp [takeBytes]
    | cons b bytes =>
      simp only [takeBytes, ih, List.length_cons, Nat.add_le_add_iff_right]
      split_ifs <;> rfl

theorem takeNumber_eq (n : Nat) (bytes : List UInt8) : takeNumber n bytes =
    if n ≤ bytes.length then .ok (littleEndian (bytes.take n), bytes.drop n)
    else .error .tooShort := by
  rw [takeNumber, takeBytes_eq]
  split_ifs <;> rfl

theorem littleEndian_lt (bytes : List UInt8) : littleEndian bytes < 256 ^ bytes.length := by
  induction bytes with
  | nil => simp [littleEndian]
  | cons b bytes ih =>
    have hb := b.toNat_lt
    simp only [littleEndian, List.length_cons, Nat.pow_succ]
    omega

/-- The bytes of the `i`-th word of data, where a word has `width` bytes. -/
def wordBytes (width : Nat) (data : List UInt8) (i : Nat) : List UInt8 :=
  (data.drop (width * i)).take width

/-- The number that the `i`-th word is. -/
def word (width : Nat) (data : List UInt8) (i : Nat) : Nat :=
  littleEndian (wordBytes width data i)

theorem length_wordBytes {width count i : Nat} {data : List UInt8} (hi : i < count)
    (hdata : width * count ≤ data.length) : (wordBytes width data i).length = width := by
  have hle : width * (i + 1) ≤ width * count := Nat.mul_le_mul_left _ hi
  rw [Nat.mul_succ] at hle
  rw [wordBytes, List.length_take, List.length_drop]
  omega

theorem word_drop (width : Nat) (data : List UInt8) (i : Nat) :
    word width (data.drop width) i = word width data (i + 1) := by
  rw [word, word, wordBytes, wordBytes, List.drop_drop, Nat.mul_succ, Nat.add_comm]

/-- The words of the data are read one after the other, as long as there are enough bytes. -/
theorem takeSamples_eq (width count : Nat) (sample : Nat → Sample) (data : List UInt8) :
    takeSamples width sample count data =
      if width * count ≤ data.length then
        .ok ((List.range count).map fun i => sample (word width data i))
      else .error .tooShort := by
  induction count generalizing data with
  | zero => simp [takeSamples]
  | succ count ih =>
    have hrest : width * (count + 1) ≤ data.length ↔
        width ≤ data.length ∧ width * count ≤ data.length - width := by
      rw [Nat.mul_succ]
      omega
    simp only [takeSamples, takeNumber_eq, hrest]
    by_cases hfirst : width ≤ data.length
    · simp only [hfirst, if_true, true_and, bind, Except.bind, ih, List.length_drop, word_drop]
      split_ifs
      · rw [List.range_succ_eq_map, List.map_cons, List.map_map]
        rfl
      · rfl
    · simp only [hfirst, if_false, false_and]
      rfl

/-- Samples in containers of their own width are read if there are enough bytes, and none at all
from any containers. -/
theorem samples_eq_ok {format : Format} {width count : Nat} {sample : Nat → Sample}
    {data : List UInt8} {read : List Sample} :
    samples format width count sample data = .ok read ↔
      (0 < count → format.sampleBytes = width ∧ width * count ≤ data.length) ∧
        read = (List.range count).map fun i => sample (word width data i) := by
  rcases Nat.eq_zero_or_pos count with rfl | hpos
  · simp [samples, eq_comm]
  · simp only [samples, takeSamples_eq, hpos, Nat.ne_of_gt hpos, if_false, true_imp_iff]
    split_ifs with hwide hnarrow hdata
    · simp [Nat.ne_of_gt hwide]
    · simp [Nat.ne_of_lt hnarrow]
    · simp [Nat.le_antisymm (Nat.not_lt.mp hwide) (Nat.not_lt.mp hnarrow), hdata, eq_comm]
    · simp [hdata]

/-! ## The sample of a word -/

theorem signed16_bounds {w : Nat} (h : w < 65536) :
    -32768 ≤ signed16 w ∧ signed16 w < 32768 := by
  rw [signed16]
  split_ifs <;> omega

/-- Divided by full scale, an integer of 16 bits has no more than 16 digits, and is kept. -/
theorem integerSample_spec {w : Nat} (h : w < 65536) :
    (integerSample w).isFinite = true ∧ (integerSample w).toRat = (signed16 w : Rat) / 32768 := by
  have hbounds := signed16_bounds h
  have hnat : (signed16 w).natAbs ≤ 32768 := by omega
  have hscaled : |(signed16 w : Rat) / 32768| = (signed16 w).natAbs * (2 : Rat) ^ (-15 : Int) := by
    rw [abs_div, Nat.cast_natAbs, Int.cast_abs, div_eq_mul_inv]
    norm_num
  refine Single.toRat_ofRat (hnat.trans_lt (by decide)) (by decide) hscaled ?_
  have hle : ((signed16 w).natAbs : Rat) ≤ 32768 := by exact_mod_cast hnat
  rw [hscaled]
  calc ((signed16 w).natAbs : Rat) * (2 : Rat) ^ (-15 : Int)
      ≤ 32768 * (2 : Rat) ^ (-15 : Int) := by gcongr
    _ < (2 : Rat) ^ (128 : Int) := by norm_num

theorem integerSample_mem {w : Nat} (h : w < 65536) :
    -1 ≤ (integerSample w).toRat ∧ (integerSample w).toRat < 1 := by
  obtain ⟨hlow, hhigh⟩ := signed16_bounds h
  have hlow' : (-32768 : Rat) ≤ signed16 w := by exact_mod_cast hlow
  have hhigh' : (signed16 w : Rat) < 32768 := by exact_mod_cast hhigh
  rw [(integerSample_spec h).2, le_div_iff₀ (by norm_num), div_lt_iff₀ (by norm_num)]
  constructor <;> linarith

/-- A float has the bytes of its word. -/
theorem ofSample_floatSample {bytes : List UInt8} (h : bytes.length = 4) :
    Payload.ofSample (floatSample (littleEndian bytes)) = bytes := by
  have hlt : littleEndian bytes < UInt32.size := by
    refine (littleEndian_lt bytes).trans_eq ?_
    rw [h]
    rfl
  rcases bytes with _ | ⟨b₀, _ | ⟨b₁, _ | ⟨b₂, _ | ⟨b₃, _ | ⟨b₄, bytes⟩⟩⟩⟩⟩
  case cons.cons.cons.cons.nil =>
    have hbits : UInt32.ofNat (littleEndian [b₀, b₁, b₂, b₃]) =
        (Payload.toSample b₀ b₁ b₂ b₃).bits := by
      rw [← UInt32.toNat_inj, UInt32.toNat_ofNat_of_lt' hlt, Payload.toNat_toSample]
      simp only [littleEndian]
      ring
    rw [floatSample, hbits]
    exact Payload.ofSample_toSample b₀ b₁ b₂ b₃
  all_goals simp at h

/-- The sample that a word of a file is. -/
def Format.sample (format : Format) (w : Nat) : Sample :=
  match format.encoding with
  | .integer => integerSample w
  | .float => floatSample w

/-! ## Files with frames to read -/

/-- The samples are in one of the encodings that are read. -/
def Format.IsKnown (format : Format) : Prop :=
  (format.encoding = .integer ∧ format.bits = 16) ∨ (format.encoding = .float ∧ format.bits = 32)

/-- A file of so many whole frames of integers of 16 bits or floats of 32 bits.  If there are
any, a sample has no more bytes than its bits need, and the bytes of all samples are there. -/
structure Holds (bytes : List UInt8) (format : Format) (frames : Nat) (data : List UInt8) :
    Prop where
  opened : open? bytes = .ok (format, frames * format.channels, data)
  known : format.IsKnown
  whole : 0 < frames → format.sampleBytes = format.bits / 8 ∧
    format.bits / 8 * (frames * format.channels) ≤ data.length

/-- A sample is what some bytes of a file are: a float of the same bytes, or the fraction of full
scale that the integer is, exactly. -/
structure Format.Means (format : Format) (bytes : List UInt8) (sample : Sample) : Prop where
  float : format.encoding = .float → Payload.ofSample sample = bytes
  integer : format.encoding = .integer → sample.isFinite = true ∧
    sample.toRat = (signed16 (littleEndian bytes) : Rat) / 32768 ∧
    -1 ≤ sample.toRat ∧ sample.toRat < 1

/-- Different integers are different samples. -/
theorem Format.Means.signed16_eq {format : Format} {bytes bytes' : List UInt8} {sample : Sample}
    (h : format.Means bytes sample) (h' : format.Means bytes' sample)
    (hencoding : format.encoding = .integer) :
    signed16 (littleEndian bytes) = signed16 (littleEndian bytes') := by
  obtain ⟨-, hvalue, -⟩ := h.integer hencoding
  obtain ⟨-, hvalue', -⟩ := h'.integer hencoding
  rw [hvalue, div_left_inj' (by norm_num)] at hvalue'
  exact_mod_cast hvalue'

theorem Format.IsKnown.means {format : Format} (h : format.IsKnown) {bytes : List UInt8}
    (hlength : bytes.length = format.bits / 8) :
    format.Means bytes (format.sample (littleEndian bytes)) := by
  rcases h with ⟨hencoding, hbits⟩ | ⟨hencoding, hbits⟩
  · rw [hbits] at hlength
    have hlt := littleEndian_lt bytes
    rw [hlength] at hlt
    simp only [sample, hencoding]
    refine ⟨by simp [hencoding], fun _ => ?_⟩
    exact ⟨(integerSample_spec hlt).1, (integerSample_spec hlt).2, integerSample_mem hlt⟩
  · rw [hbits] at hlength
    simp only [sample, hencoding]
    exact ⟨fun _ => ofSample_floatSample hlength, by simp [hencoding]⟩

section Opening

/-! A file has the channels of its last format chunk, and none is accepted without channels. -/

variable {size : Nat} {fields : FormatFields} {bytes rest data : List UInt8} {format : Format}

theorem channels_of_takePlain (h : takePlain size fields bytes = .ok (format, rest)) :
    format.channels = fields.channels := by
  unfold takePlain at h
  split at h
  · cases h
    rfl
  · split at h
    · obtain ⟨_, -, h⟩ := Except.bind_eq_ok.mp h
      dsimp only at h
      split at h
      · obtain ⟨_, -, h⟩ := Except.bind_eq_ok.mp h
        cases h
        rfl
      · cases h
    · cases h

theorem channels_of_takeFloat (h : takeFloat size fields bytes = .ok (format, rest)) :
    format.channels = fields.channels := by
  -- Either size of the chunk comes to the same look at the bits.
  have hend : ∀ bytes, (if fields.bits = 32 then
      Except.ok (fields.toFormat 32 .float, bytes) else .error WaveError.illFormed) =
        .ok (format, rest) →
      format.channels = fields.channels := by
    intro bytes h
    split at h
    · cases h
      rfl
    · cases h
  unfold takeFloat at h
  dsimp only at h
  split at h
  · exact hend _ h
  · split at h
    · obtain ⟨_, -, h⟩ := Except.bind_eq_ok.mp h
      split at h
      · exact hend _ h
      · cases h
    · cases h

theorem channels_of_takeExtensible (h : takeExtensible size fields bytes = .ok (format, rest)) :
    format.channels = fields.channels := by
  unfold takeExtensible at h
  split at h
  · cases h
  · obtain ⟨_, -, h⟩ := Except.bind_eq_ok.mp h
    dsimp only at h
    split at h
    · obtain ⟨_, -, h⟩ := Except.bind_eq_ok.mp h
      obtain ⟨_, -, h⟩ := Except.bind_eq_ok.mp h
      obtain ⟨_, -, h⟩ := Except.bind_eq_ok.mp h
      split at h
      · cases h
        rfl
      · split at h
        · cases h
          rfl
        · cases h
    · cases h

theorem channels_of_takeFormat (h : takeFormat size bytes = .ok (format, rest)) :
    1 ≤ format.channels := by
  unfold takeFormat at h
  split at h
  · cases h
  · obtain ⟨⟨fields, bytes⟩, -, h⟩ := Except.bind_eq_ok.mp h
    dsimp only at h
    split at h
    · rename_i hconsistent
      have hchannels : 1 ≤ fields.channels := by
        simp only [FormatFields.consistent, Bool.and_eq_true, bne_iff_ne] at hconsistent
        omega
      have heq : format.channels = fields.channels := by
        split at h
        · exact channels_of_takePlain h
        · exact channels_of_takeFloat h
        · exact channels_of_takeExtensible h
        · cases h
      rwa [heq]
    · cases h

/-- A format that is found has channels, as every format chunk does that is accepted. -/
theorem channels_of_findData {fuel size : Nat} {format? : Option Format}
    (hformat : ∀ format ∈ format?, 1 ≤ format.channels)
    (h : findData fuel format? bytes = .ok (format, size, data)) : 1 ≤ format.channels := by
  induction fuel generalizing format? bytes with
  | zero => cases h
  | succ fuel ih =>
    obtain ⟨⟨name, bytes⟩, -, h⟩ := Except.bind_eq_ok.mp h
    obtain ⟨⟨length, bytes⟩, -, h⟩ := Except.bind_eq_ok.mp h
    dsimp only at h
    split at h
    · obtain ⟨⟨found, bytes⟩, hfound, h⟩ := Except.bind_eq_ok.mp h
      refine ih ?_ h
      rintro _ ⟨⟩
      exact channels_of_takeFormat hfound
    · split at h
      · exact ih hformat h
      · split at h
        · split at h
          · cases h
            exact hformat _ rfl
          · cases h
        · obtain ⟨⟨_, bytes⟩, -, h⟩ := Except.bind_eq_ok.mp h
          exact ih hformat h

/-- What is opened has whole frames of one channel at least. -/
theorem open?_eq_ok {count : Nat} (h : open? bytes = .ok (format, count, data)) :
    1 ≤ format.channels ∧ format.channels ∣ count := by
  obtain ⟨⟨riff, rest⟩, -, h⟩ := Except.bind_eq_ok.mp h
  dsimp only at h
  split at h
  · cases h
  · obtain ⟨⟨_, rest⟩, -, h⟩ := Except.bind_eq_ok.mp h
    obtain ⟨⟨wave, rest⟩, -, h⟩ := Except.bind_eq_ok.mp h
    dsimp only at h
    split at h
    · cases h
    · obtain ⟨⟨found, size, rest⟩, hfound, h⟩ := Except.bind_eq_ok.mp h
      dsimp only at h
      split at h
      · cases h
      · rename_i hwhole
        cases h
        rw [not_or, not_not, not_not] at hwhole
        exact ⟨channels_of_findData (by simp) hfound, Nat.dvd_of_mod_eq_zero hwhole.2⟩

end Opening

end Wave

/-! ## One of the channels -/

theorem getElem?_everyNth {α : Type} {stride : Nat} (hstride : 0 < stride) (skip i : Nat)
    (xs : List α) : (everyNth stride skip xs)[i]? = xs[skip + stride * i]? := by
  fun_induction everyNth stride skip xs generalizing i with
  | case1 => simp
  | case2 x xs ih =>
    cases i with
    | zero => simp
    | succ i =>
      have hindex : 0 + stride * (i + 1) = stride - 1 + stride * i + 1 := by
        rw [Nat.mul_succ]
        omega
      rw [List.getElem?_cons_succ, ih, hindex, List.getElem?_cons_succ]
  | case3 skip x xs ih => rw [ih, Nat.succ_add, List.getElem?_cons_succ]

/-- Of whole frames the first sample each is kept. -/
theorem firstChannel_map_range {channels : Nat} (hchannels : 1 ≤ channels) (frames : Nat)
    (f : Nat → Sample) : firstChannel channels ((List.range (frames * channels)).map f) =
      (List.range frames).map fun i => f (channels * i) := by
  rcases Nat.eq_or_lt_of_le hchannels with rfl | hmany
  · simp [firstChannel]
  · rw [firstChannel, if_neg (Nat.not_le.mpr hmany)]
    apply List.ext_getElem?
    intro i
    have hlt : channels * i < frames * channels ↔ i < frames := by
      rw [Nat.mul_comm]
      exact Nat.mul_lt_mul_right hchannels
    rw [getElem?_everyNth hchannels, Nat.zero_add, List.getElem?_map, List.getElem?_map]
    by_cases hi : i < frames
    · rw [List.getElem?_range hi, List.getElem?_range (hlt.mpr hi)]
      rfl
    · rw [List.getElem?_eq_none (by simpa using mt hlt.mp hi),
        List.getElem?_eq_none (by simpa using hi)]
      rfl

namespace Recording

variable {bytes data : List UInt8} {format : Wave.Format} {frames count : Nat}

/-- What is read of a file is of the encodings that are known. -/
theorem interleaved_eq_ok {read : List Sample} : interleaved format count data = .ok read ↔
    format.IsKnown ∧
      (Wave.samples format (format.bits / 8) count format.sample data) = .ok read := by
  unfold interleaved
  split
  · rename_i hencoding hbits
    have hsample : format.sample = Wave.integerSample := by
      funext w
      rw [Wave.Format.sample, hencoding]
    rw [Except.mapError_eq_ok, hsample, hbits]
    simp [Wave.Format.IsKnown, hencoding, hbits]
  · rename_i hencoding hbits
    have hsample : format.sample = Wave.floatSample := by
      funext w
      rw [Wave.Format.sample, hencoding]
    rw [Except.mapError_eq_ok, hsample, hbits]
    simp [Wave.Format.IsKnown, hencoding, hbits]
  · rename_i hinteger hfloat
    simp only [reduceCtorEq, Wave.Format.IsKnown, false_iff, not_and]
    rintro (⟨hencoding, hbits⟩ | ⟨hencoding, hbits⟩)
    · exact (hinteger hencoding hbits).elim
    · exact (hfloat hencoding hbits).elim

/-- The recording of the words that frames begin with. -/
def ofFrames (format : Wave.Format) (frames : Nat) (data : List UInt8) : Recording where
  rate := format.rate
  channels := format.channels
  bits := format.bits
  samples := (List.range frames).map fun i =>
    format.sample (Wave.word (format.bits / 8) data (format.channels * i))

/-- A file that has frames is read, whatever rate is expected. -/
theorem ofBytes_of_holds (h : Wave.Holds bytes format frames data) (expected : UInt32) :
    ofBytes bytes expected =
      (if format.rate = expected then [] else [rateNote expected format.rate],
        .ok (ofFrames format frames data)) := by
  obtain ⟨hchannels, -⟩ := Wave.open?_eq_ok h.opened
  have hread : interleaved format (frames * format.channels) data =
      .ok ((List.range (frames * format.channels)).map fun i =>
        format.sample (Wave.word (format.bits / 8) data i)) := by
    refine interleaved_eq_ok.mpr ⟨h.known, Wave.samples_eq_ok.mpr ⟨fun hpos => ?_, rfl⟩⟩
    exact h.whole (Nat.pos_of_mul_pos_right hpos)
  simp only [ofBytes, h.opened, hread]
  -- The two recordings differ in how their samples are written only.
  exact congrArg (fun samples => (_, Except.ok (Recording.mk _ _ _ samples)))
    (firstChannel_map_range hchannels frames _)

/-- Whatever rate is expected, a file that is read has frames. -/
theorem holds_of_ofBytes {expected : UInt32} {recording : Recording}
    (h : (ofBytes bytes expected).2 = .ok recording) :
    ∃ format frames data, Wave.Holds bytes format frames data := by
  unfold ofBytes at h
  split at h
  · cases h
  · rename_i format count data hopen
    obtain ⟨read, hread, -⟩ := Except.bind_eq_ok.mp h
    obtain ⟨hknown, hsamples⟩ := interleaved_eq_ok.mp hread
    obtain ⟨hchannels, frames, rfl⟩ := Wave.open?_eq_ok hopen
    have hwhole := (Wave.samples_eq_ok.mp hsamples).1
    rw [Nat.mul_comm] at hopen hwhole
    exact ⟨format, frames, data, hopen, hknown, fun hpos => hwhole (Nat.mul_pos hpos hchannels)⟩

/-- The samples of a recording are what the first words of the frames are. -/
theorem means_of_holds (h : Wave.Holds bytes format frames data) {i : Nat} (hi : i < frames) :
    ∃ sample, (ofFrames format frames data).samples[i]? = some sample ∧
      format.Means (Wave.wordBytes (format.bits / 8) data (format.channels * i)) sample := by
  obtain ⟨hchannels, -⟩ := Wave.open?_eq_ok h.opened
  have hword : format.channels * i < frames * format.channels := by
    rw [Nat.mul_comm]
    exact Nat.mul_lt_mul_of_pos_right hi hchannels
  have hlength := Wave.length_wordBytes hword (h.whole (Nat.zero_lt_of_lt hi)).2
  refine ⟨_, ?_, h.known.means hlength⟩
  simp only [ofFrames, List.getElem?_map, List.getElem?_range hi, Option.map_some]
  rfl

/-- The chunks that are served of a recording are all of its samples and nothing else.

A file is read exactly if it is made of whole frames of 16-bit integers or 32-bit floats whose
bytes are all there, and the rate that is expected makes no difference but for the warning.
There is one sample for each frame, and it is what the first bytes of the frame are: a float
keeps its bytes, and an integer becomes its exact fraction of full scale, at least minus one and
below one, and different ones for different integers.

Requests for one sample or more that keep the position in range are answered with chunks of the
file's own rate.  Once there is nothing to be given, which is so after more requests than frames
at the latest, the chunks that were given are the samples, one after the other. -/
theorem recording_served (bytes : List UInt8) :
    (∀ expected, (∃ recording, (ofBytes bytes expected).2 = .ok recording) ↔
      ∃ format frames data, Wave.Holds bytes format frames data) ∧
    ∀ format frames data, Wave.Holds bytes format frames data →
      1 ≤ format.channels ∧
      ∃ recording,
        (∀ expected, ofBytes bytes expected =
          (if format.rate = expected then [] else [rateNote expected format.rate],
            .ok recording)) ∧
        recording.samples.length = frames ∧
        (∀ i < frames, ∃ sample, recording.samples[i]? = some sample ∧
          format.Means (Wave.wordBytes (format.bits / 8) data (format.channels * i)) sample) ∧
        (format.encoding = .integer → ∀ i < frames, ∀ j < frames,
          recording.samples[i]? = recording.samples[j]? →
          Wave.signed16 (Wave.word (format.bits / 8) data (format.channels * i)) =
            Wave.signed16 (Wave.word (format.bits / 8) data (format.channels * j))) ∧
        ∀ requests, (∀ n ∈ requests, 0 < n) →
          (∀ earlier n later, requests = earlier ++ n :: later →
            min frames earlier.sum + n < UInt64.size) →
          ∃ answers after, recording.cursor.serve requests = .ok (answers, after) ∧
            (∀ chunk, some chunk ∈ answers → chunk.rate = format.rate) ∧
            (none ∈ answers → Cursor.given answers = recording.samples) ∧
            (frames < requests.length → none ∈ answers) := by
  refine ⟨fun expected => ⟨fun ⟨_, h⟩ => holds_of_ofBytes h, fun ⟨_, _, _, h⟩ =>
    ⟨_, congrArg Prod.snd (ofBytes_of_holds h expected)⟩⟩, fun format frames data h => ?_⟩
  have hlength : (ofFrames format frames data).samples.length = frames := by
    rw [ofFrames, List.length_map, List.length_range]
  refine ⟨(Wave.open?_eq_ok h.opened).1, _, ofBytes_of_holds h, hlength,
    fun i => means_of_holds h, fun hinteger i hi j hj heq => ?_, fun requests hpos hrooms => ?_⟩
  · obtain ⟨sample, hsample, hmeans⟩ := means_of_holds h hi
    obtain ⟨sample', hsample', hmeans'⟩ := means_of_holds h hj
    rw [hsample, hsample', Option.some.injEq] at heq
    exact hmeans.signed16_eq (heq ▸ hmeans') hinteger
  · -- The cursor begins at the first sample, so that the position is what was asked for before.
    have hremaining : (ofFrames format frames data).cursor.remaining = frames := hlength
    have hanswered : ∀ earlier n later, requests = earlier ++ n :: later →
        (ofFrames format frames data).cursor.served +
          min (ofFrames format frames data).cursor.remaining earlier.sum + n < UInt64.size := by
      intro earlier n later hsplit
      rw [hremaining, show (ofFrames format frames data).cursor.served = 0 from rfl, Nat.zero_add]
      exact hrooms earlier n later hsplit
    obtain ⟨answers, after, hserve⟩ := Cursor.serve_of_lt hanswered
    have hserves := Cursor.Serves.of_serve hserve
    refine ⟨answers, after, hserve, fun chunk hchunk => (hserves.chunks chunk hchunk).2,
      fun hnone => ?_, fun hmany => ?_⟩
    · have hend : after.remaining = 0 :=
        List.length_eq_zero_iff.mpr (Cursor.rest_eq_nil_of_none_mem hpos hserve hnone)
      rw [hserves.given_eq_take, hend]
      exact List.take_length
    · by_contra hnone
      have hfew := Cursor.length_le_of_none_notMem hserve hnone
      omega

/-- Two frames of two channels: 100 and -32768 on the first of them, and -7 on the other. -/
def stereo : List UInt8 :=
  [ 0x52, 0x49, 0x46, 0x46, 44, 0, 0, 0, 0x57, 0x41, 0x56, 0x45
  , 0x66, 0x6d, 0x74, 0x20, 16, 0, 0, 0
  , 1, 0, 2, 0, 0x80, 0x3e, 0, 0, 0, 0xfa, 0, 0, 4, 0, 16, 0
  , 0x64, 0x61, 0x74, 0x61, 8, 0, 0, 0
  , 100, 0, 0xf9, 0xff, 0, 0x80, 0xf9, 0xff ]

theorem stereo_holds : Wave.Holds stereo ⟨2, 16000, 16, 2, .integer⟩ 2 (stereo.drop 44) where
  opened := rfl
  known := .inl ⟨rfl, rfl⟩
  whole := by decide

/-- Read for another rate than its own and for that, and served by one and by five samples. -/
theorem recording_served_stereo :
    Wave.Holds stereo ⟨2, 16000, 16, 2, .integer⟩ 2 (stereo.drop 44) ∧
    ∃ recording answers after,
      ofBytes stereo 8000 = ([rateNote 8000 16000], .ok recording) ∧
      ofBytes stereo 16000 = ([], .ok recording) ∧
      recording.cursor.serve [1, 5, 1] = .ok (answers, after) ∧
      Cursor.given answers = recording.samples ∧
      recording.samples.map Single.toRat = [100 / 32768, -1] := by
  obtain ⟨-, recording, hread, hlength, hmeans, -, hserved⟩ :=
    (recording_served stereo).2 _ _ _ stereo_holds
  obtain ⟨answers, after, hserve, -, hgiven, hend⟩ := hserved [1, 5, 1] (by decide)
    (Cursor.room_of_le (show ∀ n ∈ [1, 5, 1], n ≤ 5 by decide) (by decide))
  obtain ⟨first, hfirst, hmeansFirst⟩ := hmeans 0 (by decide)
  obtain ⟨second, hsecond, hmeansSecond⟩ := hmeans 1 (by decide)
  refine ⟨stereo_holds, recording, answers, after, hread 8000, hread 16000, hserve,
    hgiven (hend (by decide)), ?_⟩
  obtain ⟨a, b, hsamples⟩ := List.length_eq_two.mp hlength
  rw [hsamples] at hfirst hsecond ⊢
  cases hfirst
  cases hsecond
  rw [List.map_cons, List.map_cons, List.map_nil, (hmeansFirst.integer rfl).2.1,
    (hmeansSecond.integer rfl).2.1]
  decide +kernel

end Recording
end SpeechProbe
