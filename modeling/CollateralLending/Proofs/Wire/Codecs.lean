/-
  CollateralLending.Proofs.Wire.Codecs

  The law of a layout of fixed width (`Codec.Lawful`): a value takes exactly the
  width, it is read back whatever stands behind it, and nothing else is read. A
  byte string that is refused has a fault that can be told without reading it
  field by field (`frontFault?`): a flag in it is neither 0 nor 1, or else it is
  too short. A wrong flag goes before the length, because reading meets it before
  it meets the end.

  Fields are lawful, and so are fields behind each other (`lawful_pair`), hence all
  plain values. The flags of a layout are known by where they stand in it.
-/
import CollateralLending.Proofs.Outcome
import CollateralLending.Wire.Layout

namespace CollateralLending

variable {α β : Type}

/-! ## Numbers and their bytes -/

@[simp] theorem length_littleEndian (count number : Nat) :
    (littleEndian count number).length = count := by
  induction count generalizing number with
  | zero => rfl
  | succ count ih => simp only [littleEndian, List.length_cons, ih]

/-- Bytes that are left out are the high ones. -/
theorem ofLittleEndian_littleEndian (count number : Nat) :
    ofLittleEndian (littleEndian count number) = number % 2 ^ (8 * count) := by
  induction count generalizing number with
  | zero => simp only [littleEndian, ofLittleEndian, Nat.mul_zero, Nat.pow_zero, Nat.mod_one]
  | succ count ih =>
    have hpow : 2 ^ (8 * (count + 1)) = 256 * 2 ^ (8 * count) := by
      rw [Nat.mul_add, Nat.pow_add, Nat.mul_comm]
    rw [littleEndian, ofLittleEndian, ih, hpow, Nat.mod_mul, UInt8.toNat_ofNat']

theorem littleEndian_ofLittleEndian (bytes : List UInt8) :
    littleEndian bytes.length (ofLittleEndian bytes) = bytes := by
  induction bytes with
  | nil => rfl
  | cons byte rest ih =>
    have hbyte : byte.toNat < 256 := UInt8.toNat_lt byte
    have hrest : (byte.toNat + 256 * ofLittleEndian rest) / 256 = ofLittleEndian rest := by omega
    have hlow : UInt8.ofNat (byte.toNat + 256 * ofLittleEndian rest) = byte := by
      apply UInt8.toNat_inj.1
      rw [UInt8.toNat_ofNat']
      omega
    rw [List.length_cons, ofLittleEndian, littleEndian, hrest, ih, hlow]

/-! ## Flags in a layout -/

/-- A flag of a layout: where its byte stands, and what it tells about a value. -/
structure Flag (α : Type) where
  /-- How many bytes stand before it. -/
  offset : Nat
  /-- The flag of a value. -/
  tells : α → Bool

namespace Flag

/-- The byte of a flag. -/
def byteOf (flag : Bool) : UInt8 := if flag then 1 else 0

/-- The flag of a part, as a flag of the value whose part starts behind so many bytes. -/
def within (flag : Flag α) (start : Nat) (part : β → α) : Flag β :=
  ⟨start + flag.offset, fun value => flag.tells (part value)⟩

/-- The byte that stands at the flag, when it is neither 0 nor 1. -/
def wrong? (flag : Flag α) (bytes : List UInt8) : Option UInt8 :=
  bytes[flag.offset]?.filter fun byte => byte ≠ 0 && byte ≠ 1

theorem wrong?_within (flag : Flag α) (start : Nat) (part : β → α) (bytes : List UInt8) :
    (flag.within start part).wrong? bytes = flag.wrong? (bytes.drop start) := by
  unfold wrong? within
  rw [List.getElem?_drop]

/-- A flag is wrong when its byte is neither zero nor one. -/
theorem wrong?_eq_some_iff {flag : Flag α} {bytes : List UInt8} {byte : UInt8} :
    flag.wrong? bytes = some byte ↔ bytes[flag.offset]? = some byte ∧ byte ≠ 0 ∧ byte ≠ 1 := by
  unfold wrong?
  rw [Option.filter_eq_some_iff]
  simp only [Bool.and_eq_true, decide_eq_true_eq]

/-- A flag that is right in a byte string is right where the string is cut off. -/
theorem wrong?_of_append {flag : Flag α} {bytes rest : List UInt8}
    (h : flag.wrong? (bytes ++ rest) = none) : flag.wrong? bytes = none := by
  rw [Option.eq_none_iff_forall_ne_some] at h ⊢
  intro byte hwrong
  obtain ⟨hbyte, hne⟩ := wrong?_eq_some_iff.1 hwrong
  obtain ⟨hlt, -⟩ := List.getElem?_eq_some_iff.1 hbyte
  exact h byte (wrong?_eq_some_iff.2 ⟨by rw [List.getElem?_append_left hlt, hbyte], hne⟩)

theorem wrong?_of_byteOf {flag : Flag α} {bytes : List UInt8} {value : Bool}
    (h : bytes[flag.offset]? = some (byteOf value)) : flag.wrong? bytes = none := by
  unfold wrong?
  rw [h]
  cases value <;> rfl

end Flag

/-- The byte of the first flag that is neither 0 nor 1. -/
def wrongFlag? (flags : List (Flag α)) (bytes : List UInt8) : Option UInt8 :=
  flags.findSome? fun flag => flag.wrong? bytes

theorem wrongFlag?_within (flags : List (Flag α)) (start : Nat) (part : β → α)
    (bytes : List UInt8) :
    wrongFlag? (flags.map (·.within start part)) bytes = wrongFlag? flags (bytes.drop start) := by
  unfold wrongFlag?
  rw [List.findSome?_map]
  congr 1
  funext flag
  exact flag.wrong?_within start part bytes

/-- The first wrong flag of two lists is that of the first list, or else of the second. -/
theorem wrongFlag?_append (flags others : List (Flag α)) (bytes : List UInt8) :
    wrongFlag? (flags ++ others) bytes = (wrongFlag? flags bytes).or (wrongFlag? others bytes) :=
  List.findSome?_append

/-- No flag of an empty string is wrong. -/
theorem wrongFlag?_nil (flags : List (Flag α)) : wrongFlag? flags [] = none := by
  unfold wrongFlag?
  rw [List.findSome?_eq_none_iff]
  intro flag _
  rfl

/-! ## Faults -/

/-- Why the front of a byte string cannot be read as a value of this width with these flags. -/
def frontFault? (width : Nat) (flags : List (Flag α)) (bytes : List UInt8) : Option WireError :=
  match wrongFlag? flags bytes with
  | some byte => some (.invalidBool byte)
  | none => if bytes.length < width then some .unexpectedEnd else none

/-- What has no fault is long enough, and its flags are 0 or 1. -/
theorem frontFault?_eq_none_iff {width : Nat} {flags : List (Flag α)} {bytes : List UInt8} :
    frontFault? width flags bytes = none ↔
      width ≤ bytes.length ∧ ∀ flag ∈ flags, flag.wrong? bytes = none := by
  rw [← List.findSome?_eq_none_iff]
  show frontFault? width flags bytes = none ↔ width ≤ bytes.length ∧ wrongFlag? flags bytes = none
  unfold frontFault?
  cases wrongFlag? flags bytes with
  | some byte => simp only [reduceCtorEq, and_false]
  | none => simp only [ite_eq_right_iff, reduceCtorEq, imp_false, Nat.not_lt, and_true]

/-- Parts behind each other: the first part's fault, or else the second part's. -/
theorem frontFault?_pair (width other : Nat) (flags : List (Flag α)) (others : List (Flag β))
    (bytes : List UInt8) :
    frontFault? (width + other)
        (flags.map (·.within 0 Prod.fst) ++ others.map (·.within width Prod.snd)) bytes =
      (frontFault? width flags bytes).or (frontFault? other others (bytes.drop width)) := by
  unfold frontFault?
  rw [wrongFlag?_append, wrongFlag?_within, wrongFlag?_within, List.drop_zero, List.length_drop]
  cases wrongFlag? flags bytes with
  | some byte => rfl
  | none =>
    by_cases hshort : bytes.length < width
    · -- The string ends inside the first part, so no flag of the second is in it.
      rw [List.drop_of_length_le (Nat.le_of_lt hshort), wrongFlag?_nil]
      simp only [Option.or_none]
      rw [if_pos (Nat.lt_of_lt_of_le hshort (Nat.le_add_right _ _)), if_pos hshort]
      rfl
    · cases wrongFlag? others (bytes.drop width) with
      | some byte => simp only [if_neg hshort, Option.none_or]
      | none =>
        simp only [if_neg hshort, Option.none_or]
        congr 1
        simp only [eq_iff_iff]
        omega

theorem frontFault?_within (width : Nat) (flags : List (Flag α)) (part : β → α)
    (bytes : List UInt8) :
    frontFault? width (flags.map (·.within 0 part)) bytes = frontFault? width flags bytes := by
  unfold frontFault?
  rw [wrongFlag?_within, List.drop_zero]

namespace Codec

/-! ## The law -/

/-- A layout of fixed width, with its flags: it reads back what it writes and nothing else, and what
it refuses has a fault. -/
structure Lawful (codec : Codec α) (flags : List (Flag α)) : Prop where
  length_encode : ∀ value, (codec.encode value).length = codec.width
  decode_encode : ∀ value rest, codec.decode (codec.encode value ++ rest) = .ok (value, rest)
  eq_encode : ∀ {bytes value rest}, codec.decode bytes = .ok (value, rest) →
    bytes = codec.encode value ++ rest
  fault : ∀ {bytes error}, codec.decode bytes = .error error →
    frontFault? codec.width flags bytes = some error
  flag_encode : ∀ flag ∈ flags, ∀ value,
    (codec.encode value)[flag.offset]? = some (Flag.byteOf (flag.tells value))

namespace Lawful

variable {codec : Codec α} {flags : List (Flag α)} {bytes rest : List UInt8} {value : α}

/-- What is read is what was written, followed by the rest. -/
theorem decode_eq_ok_iff (h : codec.Lawful flags) :
    codec.decode bytes = .ok (value, rest) ↔ bytes = codec.encode value ++ rest := by
  constructor
  · exact h.eq_encode
  · rintro rfl
    exact h.decode_encode value rest

/-- What was written has no fault, whatever stands behind it. -/
theorem frontFault?_encode (h : codec.Lawful flags) (value : α) (rest : List UInt8) :
    frontFault? codec.width flags (codec.encode value ++ rest) = none := by
  refine frontFault?_eq_none_iff.2 ⟨?_, fun flag hflag => ?_⟩
  · rw [List.length_append, h.length_encode]
    exact Nat.le_add_right _ _
  · have hbyte := h.flag_encode flag hflag value
    obtain ⟨hlt, -⟩ := List.getElem?_eq_some_iff.1 hbyte
    exact flag.wrong?_of_byteOf (by rw [List.getElem?_append_left hlt, hbyte])

/-- Reading fails with the fault at the front of the bytes, and only then. -/
theorem decode_eq_error_iff (h : codec.Lawful flags) {error : WireError} :
    codec.decode bytes = .error error ↔ frontFault? codec.width flags bytes = some error := by
  constructor
  · exact h.fault
  · intro hfault
    cases hdecode : codec.decode bytes with
    | error other =>
      rw [h.fault hdecode] at hfault
      cases hfault
      rfl
    | ok found =>
      obtain ⟨value, rest⟩ := found
      rw [h.eq_encode hdecode, h.frontFault?_encode value rest] at hfault
      cases hfault

theorem exists_decoded (h : codec.Lawful flags)
    (hfault : frontFault? codec.width flags bytes = none) :
    ∃ value rest, codec.decode bytes = .ok (value, rest) := by
  cases hdecode : codec.decode bytes with
  | error error =>
    rw [h.fault hdecode] at hfault
    cases hfault
  | ok found => exact ⟨found.1, found.2, rfl⟩

end Lawful

/-! ## Fields -/

/-- A field of bytes that are interpreted, whatever they are, is lawful when they can be told from
what they mean. -/
theorem lawful_block {width : Nat} {encode : α → List UInt8}
    {interpret : (bytes : List UInt8) → bytes.length = width → Except WireError α}
    (hlength : ∀ value, (encode value).length = width)
    (hread : ∀ value, interpret (encode value) (hlength value) = .ok value)
    (hwrite : ∀ bytes h, ∃ value, interpret bytes h = .ok value ∧ encode value = bytes) :
    (block width encode interpret).Lawful [] where
  length_encode := hlength
  decode_encode value rest := by
    have htake : (encode value ++ rest).take width = encode value := by
      rw [← hlength value, List.take_left]
    have hdrop : (encode value ++ rest).drop width = rest := by
      rw [← hlength value, List.drop_left]
    -- The proof of the length is an argument of the reading, so the bytes are changed by
    -- substitution.
    have hinterpret : ∀ bytes h, bytes = encode value → interpret bytes h = .ok value := by
      rintro bytes h rfl
      exact hread value
    have hwidth : width ≤ (encode value ++ rest).length := by
      rw [List.length_append, hlength]
      exact Nat.le_add_right _ _
    simp only [block, dif_pos hwidth, hdrop, hinterpret _ _ htake, Except.map]
  eq_encode {bytes value rest} h := by
    simp only [block] at h
    split at h
    · rename_i hwidth
      obtain ⟨found, hfound, heq⟩ := map_eq_ok_iff.1 h
      cases heq
      obtain ⟨other, hother, hencode⟩ := hwrite (bytes.take width) (List.length_take_of_le hwidth)
      rw [hfound] at hother
      cases hother
      -- What was interpreted is the front of the bytes, and this value is the one it stands for.
      show bytes = encode value ++ bytes.drop width
      rw [hencode, List.take_append_drop]
    · cases h
  fault {bytes error} h := by
    simp only [block] at h
    split at h
    · rename_i hwidth
      obtain ⟨value, hvalue, -⟩ := hwrite (bytes.take width) (List.length_take_of_le hwidth)
      rw [hvalue] at h
      cases h
    · rename_i hwidth
      cases h
      exact if_pos (Nat.lt_of_not_le hwidth)
  flag_encode flag hflag := by cases hflag

/-- A word of any width is read back from its little-endian bytes. -/
theorem lawful_word (count : Nat) : (word count).Lawful [] := by
  have hlength : ∀ value : Word (8 * count), (littleEndian count value.toNat).length = count :=
    fun value => length_littleEndian count value.toNat
  refine lawful_block hlength ?_ ?_
  · intro value
    refine congrArg Except.ok (Word.ext ?_)
    dsimp only
    rw [ofLittleEndian_littleEndian, Nat.mod_eq_of_lt value.lt]
  · intro bytes h
    refine ⟨_, rfl, ?_⟩
    dsimp only
    rw [← h]
    exact littleEndian_ofLittleEndian bytes

theorem lawful_amount : amount.Lawful [] := lawful_word 8

theorem lawful_wide : wide.Lawful [] := lawful_word 16

/-- A signed number of 64 bits comes back from its two's complement. -/
theorem ofTwosComplement_twosComplement {value : Int} (hge : -(2 ^ (63 : Nat)) ≤ value)
    (hlt : value < 2 ^ (63 : Nat)) : ofTwosComplement (twosComplement value) = value := by
  unfold ofTwosComplement twosComplement
  split <;> omega

/-- A number below 2^64 is the two's complement of the signed number it stands for. -/
theorem twosComplement_ofTwosComplement {number : Nat} (h : number < 2 ^ (64 : Nat)) :
    twosComplement (ofTwosComplement number) = number := by
  unfold ofTwosComplement twosComplement
  split <;> omega

theorem twosComplement_lt (value : Int) : twosComplement value < 2 ^ (64 : Nat) := by
  unfold twosComplement
  omega

theorem lawful_seconds : seconds.Lawful [] := by
  have hlength : ∀ value : Seconds, (littleEndian 8 (twosComplement value.toInt)).length = 8 :=
    fun value => length_littleEndian 8 (twosComplement value.toInt)
  refine lawful_block hlength ?_ ?_
  · intro value
    refine congrArg Except.ok (Seconds.ext ?_)
    dsimp only
    rw [ofLittleEndian_littleEndian, Nat.mod_eq_of_lt (twosComplement_lt value.toInt)]
    exact ofTwosComplement_twosComplement value.ge value.lt
  · intro bytes h
    refine ⟨_, rfl, ?_⟩
    have hlt := ofLittleEndian_lt bytes
    rw [h] at hlt
    dsimp only
    rw [twosComplement_ofTwosComplement hlt, ← h]
    exact littleEndian_ofLittleEndian bytes

theorem lawful_key : key.Lawful [] :=
  lawful_block PublicKey.length_eq (fun _ => rfl) fun bytes h => ⟨⟨bytes, h⟩, rfl, rfl⟩

theorem lawful_byte : byte.Lawful [] where
  length_encode _ := rfl
  decode_encode _ _ := rfl
  eq_encode {bytes _ _} h := by
    cases bytes with
    | nil => cases h
    | cons first rest =>
      cases h
      rfl
  fault {bytes _} h := by
    cases bytes with
    | nil =>
      cases h
      rfl
    | cons first rest => cases h
  flag_encode flag hflag := by cases hflag

/-- A flag is one byte, and the only part of a record whose bytes may be wrong. -/
theorem lawful_flag : flag.Lawful [⟨0, id⟩] where
  length_encode _ := rfl
  decode_encode value rest := by cases value <;> rfl
  eq_encode {bytes value rest} h := by
    cases bytes with
    | nil => cases h
    | cons first bytes =>
      simp only [flag] at h
      split at h
      · rename_i hzero
        cases h
        rw [hzero]
        rfl
      · split at h
        · rename_i hone
          cases h
          rw [hone]
          rfl
        · cases h
  fault {bytes error} h := by
    cases bytes with
    | nil =>
      cases h
      rfl
    | cons first bytes =>
      simp only [flag] at h
      split at h
      · cases h
      · split at h
        · cases h
        · rename_i hzero hone
          cases h
          -- Neither zero nor one: this byte is the fault.
          have hwrong : (⟨0, id⟩ : Flag Bool).wrong? (first :: bytes) = some first :=
            Flag.wrong?_eq_some_iff.2 ⟨rfl, hzero, hone⟩
          unfold frontFault? wrongFlag?
          rw [List.findSome?_cons, hwrong]
  flag_encode flag hflag value := by
    obtain rfl := List.mem_singleton.1 hflag
    cases value <;> rfl

/-! ## Composition -/

/-- Two codecs one after the other: the second starts where the first ends, with its flags moved
there. -/
theorem lawful_pair {first : Codec α} {second : Codec β} {flags : List (Flag α)}
    {others : List (Flag β)} (hfirst : first.Lawful flags) (hsecond : second.Lawful others) :
    (first.pair second).Lawful
      (flags.map (·.within 0 Prod.fst) ++ others.map (·.within first.width Prod.snd)) where
  length_encode value := by
    simp only [pair, List.length_append, hfirst.length_encode, hsecond.length_encode]
  decode_encode value rest := by
    simp only [pair]
    rw [List.append_assoc]
    refine bind_eq_ok_iff.2 ⟨_, hfirst.decode_encode value.1 _, ?_⟩
    exact bind_eq_ok_iff.2 ⟨_, hsecond.decode_encode value.2 rest, rfl⟩
  eq_encode {bytes value rest} h := by
    simp only [pair] at h ⊢
    obtain ⟨⟨a, middle⟩, ha, h⟩ := bind_eq_ok_iff.1 h
    obtain ⟨⟨b, last⟩, hb, h⟩ := bind_eq_ok_iff.1 h
    cases h
    have hmiddle : middle = second.encode b ++ last := hsecond.eq_encode hb
    rw [hfirst.eq_encode ha, hmiddle, List.append_assoc]
  fault {bytes error} h := by
    simp only [pair] at h
    show frontFault? (first.width + second.width) _ bytes = some error
    rw [frontFault?_pair]
    -- Either the first part fails, or it is clean and the second one fails on what is left.
    rcases bind_eq_error_iff.1 h with hfail | ⟨⟨a, middle⟩, ha, h⟩
    · rw [hfirst.fault hfail]
      rfl
    · have hbytes := hfirst.eq_encode ha
      have hdrop : bytes.drop first.width = middle := by
        rw [hbytes, ← hfirst.length_encode a, List.drop_left]
      have hclean : frontFault? first.width flags bytes = none := by
        rw [hbytes]
        exact hfirst.frontFault?_encode a middle
      rw [hclean, hdrop, Option.none_or]
      rcases bind_eq_error_iff.1 h with hfail | ⟨_, -, hdone⟩
      · exact hsecond.fault hfail
      · cases hdone
  flag_encode flag hflag value := by
    simp only [pair]
    rcases List.mem_append.1 hflag with hmem | hmem
    · -- A flag of the first part stands where it stood.
      obtain ⟨part, hpart, rfl⟩ := List.mem_map.1 hmem
      have hbyte := hfirst.flag_encode part hpart value.1
      obtain ⟨hlt, -⟩ := List.getElem?_eq_some_iff.1 hbyte
      simp only [Flag.within, Nat.zero_add]
      rw [List.getElem?_append_left hlt, hbyte]
    · obtain ⟨part, hpart, rfl⟩ := List.mem_map.1 hmem
      have hbyte := hsecond.flag_encode part hpart value.2
      simp only [Flag.within]
      rw [← hfirst.length_encode value.1, List.getElem?_append_right (Nat.le_add_right _ _),
        Nat.add_sub_cancel_left, hbyte]

/-- The same values in different words. -/
theorem lawful_imap {codec : Codec α} {flags : List (Flag α)} {build : α → β} {parts : β → α}
    (h : codec.Lawful flags) (hbuild : ∀ value, build (parts value) = value)
    (hparts : ∀ value, parts (build value) = value) :
    (codec.imap build parts).Lawful (flags.map (·.within 0 parts)) where
  length_encode value := h.length_encode (parts value)
  decode_encode value rest := by
    simp only [imap]
    refine map_eq_ok_iff.2 ⟨_, h.decode_encode (parts value) rest, ?_⟩
    rw [hbuild]
  eq_encode {bytes value rest} hdecode := by
    simp only [imap] at hdecode ⊢
    obtain ⟨⟨a, last⟩, ha, heq⟩ := map_eq_ok_iff.1 hdecode
    cases heq
    rw [hparts]
    exact h.eq_encode ha
  fault {bytes error} hdecode := by
    simp only [imap] at hdecode
    show frontFault? codec.width _ bytes = some error
    rw [frontFault?_within]
    exact h.fault (map_eq_error_iff.1 hdecode)
  flag_encode flag hflag value := by
    obtain ⟨part, hpart, rfl⟩ := List.mem_map.1 hflag
    simp only [imap, Flag.within, Nat.zero_add]
    exact h.flag_encode part hpart (parts value)

end Codec

/-! ## Plain values -/

open Codec

theorem Record.lawful_codec : Record.codec.Lawful [] :=
  lawful_imap (lawful_pair lawful_amount lawful_amount) (fun _ => rfl) fun _ => rfl

theorem FixedRate.lawful_codec : FixedRate.codec.Lawful [] :=
  lawful_imap (lawful_pair lawful_amount lawful_byte) (fun _ => rfl) fun _ => rfl

theorem FeedTerms.lawful_codec : FeedTerms.codec.Lawful [⟨17, FeedTerms.isStale⟩] :=
  lawful_imap
    (lawful_pair lawful_amount (lawful_pair FixedRate.lawful_codec
      (lawful_pair lawful_flag lawful_seconds)))
    (fun _ => rfl) fun _ => rfl

theorem FeedAnswer.lawful_codec : FeedAnswer.codec.Lawful [⟨9, FeedAnswer.isStale⟩] :=
  lawful_imap
    (lawful_pair FixedRate.lawful_codec
      (lawful_pair lawful_flag (lawful_pair lawful_seconds lawful_seconds)))
    (fun _ => rfl) fun _ => rfl

theorem Totals.lawful_codec : Totals.codec.Lawful [] :=
  lawful_imap (lawful_pair lawful_amount lawful_amount) (fun _ => rfl) fun _ => rfl

end CollateralLending
