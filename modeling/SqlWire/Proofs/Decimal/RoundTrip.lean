import SqlWire.Proofs.Decimal.Value
import SqlWire.Proofs.Wire.Numbers

/-!
# Which octets are packed decimals

Octets that announce segments are read as a value exactly if they begin with what is written of it
(`PackedDecimal.decode_encode`, `PackedDecimal.exists_of_decode`) : the head gives the number of the
segments and the sign, and any two octets are a segment. What stands behind is left alone. Octets
that announce none are read as a zero, whose exponent is lost.

Which octets these are can be told without reading them (`PackedDecimal.Readable`).
`PackedDecimal.roundTrips` says both directions : what can be read and how it is written again, what
can be written and whether it is read back.
-/

namespace SqlWire.PackedDecimal

/-! ## Segments -/

/-- The octets of segments, high octet first. -/
def segmentOctets (segments : List UInt16) : Octets :=
  segments.flatMap fun segment => Octets.ofNat 2 segment.toNat

@[simp] theorem segmentOctets_cons (segment : UInt16) (segments : List UInt16) :
    segmentOctets (segment :: segments) =
      Octets.ofNat 2 segment.toNat ++ segmentOctets segments :=
  List.flatMap_cons

@[simp] theorem length_segmentOctets (segments : List UInt16) :
    (segmentOctets segments).length = 2 * segments.length := by
  induction segments with
  | nil => rfl
  | cons segment segments ih =>
    rw [segmentOctets_cons, List.length_append, Octets.length_ofNat, ih, List.length_cons]
    omega

theorem ofNat_two (n : Nat) : Octets.ofNat 2 n = [UInt8.ofNat (n / 256), UInt8.ofNat n] := rfl

/-- The number in a pair of octets, the high one first. -/
theorem toNat_ofNat_pair (high low : UInt8) :
    (UInt16.ofNat (256 * high.toNat + low.toNat)).toNat = 256 * high.toNat + low.toNat := by
  have := high.toNat_lt
  have := low.toNat_lt
  exact UInt16.toNat_ofNat_of_lt' (by simp only [UInt16.size]; omega)

theorem ofNat_two_pair (high low : UInt8) :
    Octets.ofNat 2 (UInt16.ofNat (256 * high.toNat + low.toNat)).toNat = [high, low] := by
  have below := low.toNat_lt
  have whole : (256 * high.toNat + low.toNat) / 256 = high.toNat := by omega
  have part : UInt8.ofNat (256 * high.toNat + low.toNat) = low := by
    rw [← UInt8.toNat_inj, UInt8.toNat_ofNat']
    omega
  rw [toNat_ofNat_pair, ofNat_two, whole, part, UInt8.ofNat_toNat]

/-- The segments are found again in their octets. -/
theorem pairs_segmentOctets (segments : List UInt16) :
    pairs (segmentOctets segments) = segments := by
  induction segments with
  | nil => rfl
  | cons segment segments ih =>
    have bound := segment.toNat_lt
    have high : (UInt8.ofNat (segment.toNat / 256)).toNat = segment.toNat / 256 :=
      UInt8.toNat_ofNat_of_lt' (by simp only [UInt8.size]; omega)
    have whole : 256 * (segment.toNat / 256) + segment.toNat % 256 = segment.toNat :=
      Nat.div_add_mod _ _
    rw [segmentOctets_cons, ofNat_two, List.cons_append, List.cons_append, List.nil_append, pairs,
      ih, high, UInt8.toNat_ofNat', whole, UInt16.ofNat_toNat]

/-- An even number of octets is that of its pairs. -/
theorem segmentOctets_pairs {octets : Octets} {n : Nat} (h : octets.length = 2 * n) :
    segmentOctets (pairs octets) = octets := by
  induction n generalizing octets with
  | zero =>
    obtain rfl := List.eq_nil_of_length_eq_zero h
    rfl
  | succ n ih =>
    match octets, h with
    | high :: low :: rest, h =>
      have even : rest.length = 2 * n := by
        simp only [List.length_cons] at h
        omega
      rw [pairs, segmentOctets_cons, ofNat_two_pair, ih even]
      rfl

/-- The number in the two octets of the segment at `i`, which stand behind the head and the
exponent. -/
def segmentAt (octets : Octets) (i : Nat) : Nat :=
  Octets.toNat ((octets.drop (2 + 2 * i)).take 2)

theorem segmentAt_segmentOctets (head exponent : UInt8) {segments : List UInt16} (rest : Octets)
    {i : Nat} (hi : i < segments.length) :
    segmentAt (head :: exponent :: (segmentOctets segments ++ rest)) i = segments[i].toNat := by
  rw [segmentAt, Nat.add_comm, List.drop_succ_cons, List.drop_succ_cons]
  induction segments generalizing i with
  | nil => exact absurd hi (Nat.not_lt_zero i)
  | cons segment segments ih =>
    have two : (Octets.ofNat 2 segment.toNat).length = 2 := Octets.length_ofNat _ _
    rw [segmentOctets_cons, List.append_assoc]
    cases i with
    | zero =>
      rw [Nat.mul_zero, List.drop_zero, List.take_left' two, Octets.toNat_ofNat]
      exact Nat.mod_eq_of_lt segment.toNat_lt
    | succ i =>
      rw [Nat.mul_succ, Nat.add_comm, ← List.drop_drop, List.drop_left' two]
      exact ih (Nat.lt_of_succ_lt_succ hi)

/-! ## Writing -/

variable {value : PackedDecimal} {octets written rest : Octets}

theorem encode_eq_ok_iff : value.encode = .ok written ↔ value.segments.length ≤ maxSegments ∧
    written = UInt8.ofNat (2 * value.segments.length + value.negative.toNat) ::
      value.exponent.toUInt8 :: segmentOctets value.segments := by
  simp only [encode]
  split
  · next many => exact iff_of_false nofun fun h => absurd h.1 (Nat.not_le.2 many)
  · next few =>
    rw [Except.ok.injEq, eq_comm]
    exact (and_iff_right (Nat.not_lt.1 few)).symm

/-- A number can be written if it has few enough segments. -/
theorem exists_encode_iff :
    (∃ written, value.encode = .ok written) ↔ value.segments.length ≤ maxSegments := by
  simp only [encode_eq_ok_iff, exists_and_left, exists_eq, and_true]

/-- The number of segments that the head of some octets announces. -/
def announced (octets : Octets) : Nat :=
  (octets.headD 0).toNat / 2

/-- The head holds the number of segments and the sign. -/
theorem toNat_head (few : value.segments.length ≤ maxSegments) :
    (UInt8.ofNat (2 * value.segments.length + value.negative.toNat)).toNat =
      2 * value.segments.length + value.negative.toNat := by
  have sign := value.negative.toNat_le
  refine UInt8.toNat_ofNat_of_lt' ?_
  simp only [maxSegments, UInt8.size] at few ⊢
  omega

theorem announced_encode (h : value.encode = .ok written) (rest : Octets) :
    announced (written ++ rest) = value.segments.length := by
  obtain ⟨few, rfl⟩ := encode_eq_ok_iff.1 h
  have sign := value.negative.toNat_le
  have head := toNat_head few
  simp only [announced, List.cons_append, List.headD_cons, head]
  have := value.negative.toNat_lt
  omega

/-! ## Reading -/

theorem outOfRange?_eq_none_iff {segments : List UInt16} :
    outOfRange? segments = none ↔ ∀ segment ∈ segments, segment.toNat < segmentBase := by
  simp [outOfRange?]

/-- Without segments nothing but the sign is read. -/
theorem decode_of_announced_eq_zero {head : UInt8} (none : announced (head :: rest) = 0) :
    decode (head :: rest) = .ok ⟨head.toNat % 2 == 1, 0, []⟩ := by
  have count : head.toNat / 2 = 0 := none
  simp only [decode, count, if_true]

/-- What is written of a value with segments is read as the value. -/
theorem decode_encode (some : value.segments ≠ []) (valid : value.Valid)
    (h : value.encode = .ok written) (rest : Octets) : decode (written ++ rest) = .ok value := by
  obtain ⟨few, rfl⟩ := encode_eq_ok_iff.1 h
  have head := toNat_head few
  have length := length_segmentOctets value.segments
  have positive := List.length_pos_iff.2 some
  have sign := value.negative.toNat_lt
  have count : (2 * value.segments.length + value.negative.toNat) / 2 = value.segments.length := by
    omega
  have negative : ((2 * value.segments.length + value.negative.toNat) % 2 == 1) =
      value.negative := by
    cases value.negative <;> simp
  have enough : ¬(segmentOctets value.segments ++ rest).length < 2 * value.segments.length := by
    rw [List.length_append, length]
    omega
  simp only [List.cons_append, decode, head, count, if_neg (Nat.ne_of_gt positive), if_neg enough,
    List.take_left' length, pairs_segmentOctets, outOfRange?_eq_none_iff.2 valid, negative,
    Int8.toInt8_toUInt8]

/-- The pairs behind a head and an exponent make a value that is written as just these octets. -/
theorem encode_pairs (head exponent : UInt8) {body : Octets}
    (enough : 2 * (head.toNat / 2) ≤ body.length) :
    (pairs (body.take (2 * (head.toNat / 2)))).length = head.toNat / 2 ∧
      encode ⟨head.toNat % 2 == 1, exponent.toInt8, pairs (body.take (2 * (head.toNat / 2)))⟩ =
        .ok (head :: exponent :: body.take (2 * (head.toNat / 2))) := by
  have taken := List.length_take_of_le enough
  have same := segmentOctets_pairs taken
  have length : (pairs (body.take (2 * (head.toNat / 2)))).length = head.toNat / 2 := by
    have both := congrArg List.length same
    rw [length_segmentOctets, taken] at both
    omega
  have bound := head.toNat_lt
  have sign : (head.toNat % 2 == 1).toNat = head.toNat % 2 := by
    obtain even | odd := Nat.mod_two_eq_zero_or_one head.toNat
    · rw [even]
      rfl
    · rw [odd]
      rfl
  refine ⟨length, encode_eq_ok_iff.2 ⟨?_, ?_⟩⟩
  · show (pairs _).length ≤ maxSegments
    rw [length, maxSegments]
    omega
  · simp only [length, sign, Nat.div_add_mod, UInt8.ofNat_toNat, UInt8.toUInt8_toInt8, same]

/-- Octets that are read as a value with segments begin with what is written of it. -/
theorem exists_of_decode (some : announced octets ≠ 0) (h : decode octets = .ok value) :
    value.segments ≠ [] ∧ value.Valid ∧ ∃ written rest, value.encode = .ok written ∧
      octets = written ++ rest := by
  cases octets with
  | nil => cases h
  | cons head rest =>
  have count : ¬head.toNat / 2 = 0 := some
  simp only [decode, if_neg count] at h
  cases rest with
  | nil => cases h
  | cons exponent body =>
  simp only at h
  split at h
  · cases h
  · next enough =>
    obtain ⟨length, encoded⟩ := encode_pairs head exponent (Nat.le_of_not_lt enough)
    split at h
    · cases h
    · next valid =>
      cases h
      refine ⟨?_, outOfRange?_eq_none_iff.1 valid, _, body.drop (2 * (head.toNat / 2)), encoded,
        ?_⟩
      · rw [← List.length_pos_iff, length]
        exact Nat.pos_of_ne_zero count
      · rw [List.cons_append, List.cons_append, List.take_append_drop]

/-! ## Both ways -/

theorem length_encode (h : value.encode = .ok written) :
    written.length = 2 + 2 * value.segments.length := by
  obtain ⟨-, rfl⟩ := encode_eq_ok_iff.1 h
  rw [List.length_cons, List.length_cons, length_segmentOctets]
  omega

/-- A number is valid if its segments behind the first are below the base. -/
theorem valid_iff : value.Valid ↔ ∀ i (hi : i < value.segments.length), 0 < i →
    value.segments[i].toNat < segmentBase := by
  constructor
  · intro valid i hi positive
    obtain ⟨j, rfl⟩ := Nat.exists_eq_succ_of_ne_zero (Nat.ne_of_gt positive)
    have behind : j < value.segments.tail.length := by
      rw [List.length_tail]
      omega
    rw [← List.getElem_tail (h := behind)]
    exact valid _ (List.getElem_mem behind)
  · intro below segment hsegment
    obtain ⟨j, hj, rfl⟩ := List.mem_iff_getElem.1 hsegment
    rw [List.getElem_tail]
    exact below _ _ (Nat.succ_pos j)

/-- Whether a value is valid can be told from its octets. -/
theorem valid_iff_segmentAt (h : value.encode = .ok written) (rest : Octets) : value.Valid ↔
    ∀ i, 0 < i → i < value.segments.length → segmentAt (written ++ rest) i < segmentBase := by
  obtain ⟨-, rfl⟩ := encode_eq_ok_iff.1 h
  rw [valid_iff]
  constructor
  · intro below i positive hi
    rw [List.cons_append, List.cons_append, segmentAt_segmentOctets _ _ _ hi]
    exact below i hi positive
  · intro below i hi positive
    have here := below i positive hi
    rwa [List.cons_append, List.cons_append, segmentAt_segmentOctets _ _ _ hi] at here

/-- The octets begin with a head and, if it announces segments, with an exponent and as many of
them, of which all but the leading one are digits of base ten thousand. -/
def Readable (octets : Octets) : Prop :=
  octets ≠ [] ∧ (announced octets = 0 ∨ 2 + 2 * announced octets ≤ octets.length ∧
    ∀ i, 0 < i → i < announced octets → segmentAt octets i < segmentBase)

/-- What was decoded could be read. -/
theorem readable_of_decode (h : decode octets = .ok value) : Readable octets := by
  constructor
  · rintro rfl
    cases h
  · by_cases none : announced octets = 0
    · exact Or.inl none
    · obtain ⟨-, valid, written, rest, encoded, rfl⟩ := exists_of_decode none h
      have count := announced_encode encoded rest
      refine Or.inr ⟨?_, ?_⟩
      · rw [count, List.length_append, length_encode encoded]
        exact Nat.le_add_right _ _
      · rw [count]
        exact (valid_iff_segmentAt encoded rest).1 valid

/-- What can be read is decoded. -/
theorem exists_decode (h : Readable octets) : ∃ value, decode octets = .ok value := by
  obtain ⟨given, readable⟩ := h
  obtain ⟨head, rest, rfl⟩ := List.exists_cons_of_ne_nil given
  by_cases none : announced (head :: rest) = 0
  · exact ⟨_, decode_of_announced_eq_zero none⟩
  obtain ⟨enough, below⟩ := readable.resolve_left none
  match rest, enough, below with
  | [], enough, _ =>
    simp only [List.length_cons, List.length_nil] at enough
    omega
  | exponent :: body, enough, below =>
    have room : 2 * (head.toNat / 2) ≤ body.length := by
      simp only [announced, List.headD_cons, List.length_cons] at enough
      omega
    obtain ⟨length, encoded⟩ := encode_pairs head exponent room
    have whole : head :: exponent :: body =
        (head :: exponent :: body.take (2 * (head.toNat / 2))) ++
          body.drop (2 * (head.toNat / 2)) := by
      rw [List.cons_append, List.cons_append, List.take_append_drop]
    rw [whole, announced_encode encoded] at below
    refine ⟨_, whole ▸ decode_encode ?_ ((valid_iff_segmentAt encoded _).2 below) encoded _⟩
    rw [← List.length_pos_iff, length]
    exact Nat.pos_of_ne_zero none

/-- How octets and a value go together with what they are read and written as. -/
structure RoundTrips (octets : Octets) (value : PackedDecimal) : Prop where
  reads : (∃ read, decode octets = .ok read) ↔ Readable octets
  /-- What is read with segments is written as the octets that it was read from. -/
  rewrites : ∀ read, decode octets = .ok read → announced octets ≠ 0 →
    read.encode = .ok (octets.take (2 + 2 * announced octets))
  writes : (∃ written, value.encode = .ok written) ↔ value.segments.length ≤ maxSegments
  /-- A value is read back, whatever stands behind it, unless a segment is too large or an exponent
  is lost. -/
  rereads : ∀ written, value.encode = .ok written → ∀ rest,
    decode (written ++ rest) = .ok value ↔
      value.Valid ∧ (value.segments ≠ [] ∨ value.exponent = 0)

/-- Of a value without segments the exponent is written and not read. -/
theorem decode_encode_of_nil (none : value.segments = []) (h : value.encode = .ok written)
    (rest : Octets) :
    decode (written ++ rest) = .ok ⟨value.negative, 0, []⟩ := by
  have count := announced_encode h rest
  obtain ⟨few, rfl⟩ := encode_eq_ok_iff.1 h
  have head := toNat_head few
  rw [none, List.length_nil, List.cons_append] at count
  rw [none, List.length_nil] at head
  have sign : ((2 * 0 + value.negative.toNat) % 2 == 1) = value.negative := by
    cases value.negative <;> rfl
  rw [none, List.length_nil, List.cons_append, decode_of_announced_eq_zero count, head, sign]

/-- Which numbers come back as they were written. -/
theorem decode_encode_iff (h : value.encode = .ok written) (rest : Octets) :
    decode (written ++ rest) = .ok value ↔
      value.Valid ∧ (value.segments ≠ [] ∨ value.exponent = 0) := by
  by_cases none : value.segments = []
  · rw [decode_encode_of_nil none h, Except.ok.injEq]
    obtain ⟨negative, exponent, _⟩ := value
    subst none
    have valid : Valid ⟨negative, exponent, []⟩ := fun _ => nofun
    simp [valid, eq_comm]
  · have count : announced (written ++ rest) ≠ 0 := by
      rw [announced_encode h]
      exact Nat.ne_of_gt (List.length_pos_iff.2 none)
    constructor
    · intro read
      exact ⟨(exists_of_decode count read).2.1, Or.inl none⟩
    · rintro ⟨valid, -⟩
      exact decode_encode none valid h rest

/-- The octets of packed decimals are told by their head and segments, and reading and writing undo
each other on them but for the exponent of a value without segments. -/
theorem roundTrips (octets : Octets) (value : PackedDecimal) : RoundTrips octets value where
  reads := ⟨fun ⟨_, read⟩ => readable_of_decode read, exists_decode⟩
  rewrites read h some := by
    obtain ⟨-, -, written, rest, encoded, rfl⟩ := exists_of_decode some h
    rw [announced_encode encoded, ← length_encode encoded, List.take_left, encoded]
  writes := exists_encode_iff
  rereads _ h rest := decode_encode_iff h rest

/-- A leading segment may be as large as its octets can hold, and what stands behind the segments
does not matter. Without segments the exponent is lost. -/
theorem roundTrips_wide :
    RoundTrips [0x05, 0xFF, 0xFF, 0xFF, 0x27, 0x0F, 0x09] ⟨true, 7, []⟩ ∧
      decode [0x05, 0xFF, 0xFF, 0xFF, 0x27, 0x0F, 0x09] = .ok ⟨true, -1, [65535, 9999]⟩ ∧
      encode ⟨true, -1, [65535, 9999]⟩ = .ok [0x05, 0xFF, 0xFF, 0xFF, 0x27, 0x0F] ∧
      encode ⟨true, 7, []⟩ = .ok [0x01, 0x07] ∧ decode [0x01, 0x07] ≠ .ok ⟨true, 7, []⟩ := by
  have both := roundTrips [0x05, 0xFF, 0xFF, 0xFF, 0x27, 0x0F, 0x09] ⟨true, 7, []⟩
  have read : decode [0x05, 0xFF, 0xFF, 0xFF, 0x27, 0x0F, 0x09] =
      .ok ⟨true, -1, [65535, 9999]⟩ := by decide
  have written : encode ⟨true, 7, []⟩ = .ok [0x01, 0x07] := by decide
  refine ⟨both, read, both.rewrites _ read (by decide), written, fun lost => ?_⟩
  obtain ⟨-, kept⟩ := (both.rereads _ written []).1 lost
  exact absurd kept (by decide)

end SqlWire.PackedDecimal
