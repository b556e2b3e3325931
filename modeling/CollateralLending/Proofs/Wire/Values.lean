/-
  CollateralLending.Proofs.Wire.Values

  Values and events that take up their whole byte string. Reading accepts exactly
  what writing produces, and every other byte string is refused for the one reason
  there is (`ReadsWhole`): a flag in it is neither 0 nor 1, or else it is too short,
  or else something stands behind the value (`wholeFault?`).

  An event is laid out by its kind: the kinds only differ in what they carry, so
  their laws are those of what they carry, read through `EventKind.event`.

  Main statement: `values_read_whole`.
-/
import CollateralLending.Proofs.Wire.Codecs

namespace CollateralLending

variable {α β : Type}

/-! ## The law -/

/-- Why a whole byte string is no value of this width with these flags. -/
def wholeFault? (width : Nat) (flags : List (Flag α)) (bytes : List UInt8) : Option WireError :=
  (frontFault? width flags bytes).or (if width < bytes.length then some .trailingBytes else none)

/-- A result is a failure, and it is reported in these words. -/
def RefusedFor (message : String) (result : Except WireError α) : Prop :=
  ∃ error, result = .error error ∧ error.report.message = message

/-- Reading accepts the written form of each value and nothing else, and tells what is wrong with
the rest. The flags say which bytes stand for them. -/
structure ReadsWhole (IsValue : α → Prop) (encode : α → List UInt8)
    (decode : List UInt8 → Except WireError α) (width : Nat) (flags : List (Flag α)) : Prop where
  length_encode : ∀ value, IsValue value → (encode value).length = width
  /-- What is accepted is the written form of what is read. -/
  accepts : ∀ bytes value, decode bytes = .ok value ↔ IsValue value ∧ bytes = encode value
  /-- A flag that is accepted is 0 or 1, and what the value says. -/
  flagged : ∀ bytes value, decode bytes = .ok value → ∀ flag ∈ flags,
    bytes[flag.offset]? = some (Flag.byteOf (flag.tells value))
  /-- A written form that is cut off is too short. -/
  cut : ∀ value, IsValue value → ∀ front, front <+: encode value → front ≠ encode value →
    RefusedFor "Unexpected length of input" (decode front)
  /-- Nothing may stand behind a written form. -/
  extended : ∀ value, IsValue value → ∀ rest, rest ≠ [] →
    RefusedFor "Not all bytes read" (decode (encode value ++ rest))
  refuses : ∀ bytes error, decode bytes = .error error ↔ wholeFault? width flags bytes = some error

/-- A value that takes up the whole byte string leaves nothing over. -/
theorem Codec.decodeExact_eq_ok {codec : Codec α} {bytes : List UInt8} {value : α} :
    codec.decodeExact bytes = .ok value ↔ codec.decode bytes = .ok (value, []) := by
  unfold decodeExact
  split
  · rename_i hdecode
    simp only [hdecode, reduceCtorEq]
  · rename_i hdecode
    simp only [hdecode, Except.ok.injEq, Prod.mk.injEq, and_true]
  · rename_i hdecode
    simp only [hdecode, reduceCtorEq, Except.ok.injEq, Prod.mk.injEq, and_false]

namespace Codec.Lawful

variable {codec : Codec α} {flags : List (Flag α)} {bytes rest : List UInt8} {value : α}

/-- A value is read from exactly the bytes it is written as. -/
theorem decodeExact_eq_ok_iff (h : codec.Lawful flags) :
    codec.decodeExact bytes = .ok value ↔ bytes = codec.encode value := by
  rw [decodeExact_eq_ok, h.decode_eq_ok_iff, List.append_nil]

/-- Bytes left over are refused. -/
theorem decodeExact_of_extended (h : codec.Lawful flags) (value : α) (hrest : rest ≠ []) :
    codec.decodeExact (codec.encode value ++ rest) = .error .trailingBytes := by
  unfold decodeExact
  rw [h.decode_encode]
  cases rest with
  | nil => exact absurd rfl hrest
  | cons => rfl

/-- Each byte string is read, or has a front that is not, or goes on behind a value. -/
theorem decodeExact_eq_error_iff (h : codec.Lawful flags) {error : WireError} :
    codec.decodeExact bytes = .error error ↔
      wholeFault? codec.width flags bytes = some error := by
  unfold wholeFault?
  -- Either the front is at fault, or a value is read and there is something behind it.
  cases hdecode : codec.decode bytes with
  | error other =>
    have hread : codec.decodeExact bytes = .error other := by
      unfold decodeExact
      rw [hdecode]
    rw [hread, h.fault hdecode, Option.some_or, Except.error.injEq, Option.some.injEq]
  | ok found =>
    obtain ⟨value, rest⟩ := found
    obtain rfl := h.eq_encode hdecode
    rw [h.frontFault?_encode, Option.none_or, List.length_append, h.length_encode]
    cases rest with
    | nil =>
      rw [List.append_nil, h.decodeExact_eq_ok_iff.2 rfl, List.length_nil, Nat.add_zero,
        if_neg (Nat.lt_irrefl _)]
      simp only [reduceCtorEq]
    | cons byte rest =>
      have hlong : codec.width < codec.width + (byte :: rest).length :=
        Nat.lt_add_of_pos_right (Nat.succ_pos rest.length)
      rw [h.decodeExact_of_extended value (List.cons_ne_nil byte rest), if_pos hlong,
        Except.error.injEq, Option.some.injEq]

/-- The flags that are left of a written form are right, so it is only too short. -/
theorem wholeFault?_of_cut (h : codec.Lawful flags) {front : List UInt8}
    (hfront : front <+: codec.encode value) (hne : front ≠ codec.encode value) :
    wholeFault? codec.width flags front = some .unexpectedEnd := by
  have hshort : front.length < codec.width := by
    rw [← h.length_encode value]
    exact Nat.lt_of_le_of_ne hfront.length_le fun hlen => hne (hfront.eq_of_length hlen)
  -- Each flag that is still there stands where it stands in the whole.
  have hright : wrongFlag? flags front = none := by
    obtain ⟨rest, hrest⟩ := hfront
    have hwhole := (frontFault?_eq_none_iff.1 (h.frontFault?_encode value [])).2
    rw [List.append_nil, ← hrest] at hwhole
    exact List.findSome?_eq_none_iff.2 fun flag hflag => Flag.wrong?_of_append (hwhole flag hflag)
  unfold wholeFault? frontFault?
  rw [hright]
  simp only [if_pos hshort, Option.some_or]

/-- A lawful layout reads whole byte strings. -/
theorem readsWhole (h : codec.Lawful flags) :
    ReadsWhole (fun _ => True) codec.encode codec.decodeExact codec.width flags where
  length_encode value _ := h.length_encode value
  accepts bytes value := by rw [h.decodeExact_eq_ok_iff, true_and]
  flagged bytes value hdecode flag hflag := by
    rw [h.decodeExact_eq_ok_iff.1 hdecode]
    exact h.flag_encode flag hflag value
  cut value _ front hfront hne :=
    ⟨_, h.decodeExact_eq_error_iff.2 (h.wholeFault?_of_cut hfront hne), rfl⟩
  extended value _ rest hrest := ⟨_, h.decodeExact_of_extended value hrest, rfl⟩
  refuses bytes error := h.decodeExact_eq_error_iff

end Codec.Lawful

/-- Values that are made of others, and written as those are, are read whole as well. -/
theorem ReadsWhole.built {IsPart : α → Prop} {IsValue : β → Prop} {build : α → β}
    {encode : α → List UInt8} {encodeBuilt : β → List UInt8}
    {decode : List UInt8 → Except WireError α} {width : Nat} {flags : List (Flag β)}
    (h : ReadsWhole IsPart encode decode width (flags.map (·.within 0 build)))
    (hencode : ∀ part, encodeBuilt (build part) = encode part)
    (hvalue : ∀ value, IsValue value ↔ ∃ part, IsPart part ∧ build part = value) :
    ReadsWhole IsValue encodeBuilt (fun bytes => (decode bytes).map build) width flags where
  length_encode value hof := by
    obtain ⟨part, hpart, rfl⟩ := (hvalue value).1 hof
    rw [hencode]
    exact h.length_encode part hpart
  accepts bytes value := by
    rw [map_eq_ok_iff, hvalue]
    constructor
    · rintro ⟨part, hdecode, rfl⟩
      obtain ⟨hpart, hbytes⟩ := (h.accepts bytes part).1 hdecode
      exact ⟨⟨part, hpart, rfl⟩, by rw [hencode, hbytes]⟩
    · rintro ⟨⟨part, hpart, rfl⟩, hbytes⟩
      rw [hencode] at hbytes
      exact ⟨part, (h.accepts bytes part).2 ⟨hpart, hbytes⟩, rfl⟩
  flagged bytes value hread flag hflag := by
    -- The flag of the whole is a flag of its part, at the same place.
    obtain ⟨part, hdecode, rfl⟩ := map_eq_ok_iff.1 hread
    have hbyte := h.flagged bytes part hdecode _ (List.mem_map_of_mem hflag)
    rwa [Flag.within, Nat.zero_add] at hbyte
  cut value hof front hfront hne := by
    obtain ⟨part, hpart, rfl⟩ := (hvalue value).1 hof
    rw [hencode] at hfront hne
    obtain ⟨error, herror, hmessage⟩ := h.cut part hpart front hfront hne
    exact ⟨error, map_eq_error_iff.2 herror, hmessage⟩
  extended value hof rest hrest := by
    obtain ⟨part, hpart, rfl⟩ := (hvalue value).1 hof
    obtain ⟨error, herror, hmessage⟩ := h.extended part hpart rest hrest
    exact ⟨error, map_eq_error_iff.2 (hencode part ▸ herror), hmessage⟩
  refuses bytes error := by
    rw [map_eq_error_iff, h.refuses]
    unfold wholeFault?
    rw [frontFault?_within]

/-! ## Events -/

/-- The kind of an event. -/
def Event.kind (event : Event PublicKey) : EventKind := event.parts.1

/-- What an event says about the stale flag of a feed. -/
def Event.tellsStale : Event PublicKey → Bool
  | .feed (.stalenessSet _ isStale) => isStale
  | _ => false

namespace EventKind

/-- The flags in what an event of the kind carries: a stale flag stands behind the key of its feed.
-/
def flags : EventKind → List (Flag (Event PublicKey))
  | stalenessSet => [⟨32, Event.tellsStale⟩]
  | _ => []

/-- How many bytes an event of the kind takes behind its discriminator. -/
def width : EventKind → Nat
  | deposited => 8
  | borrowed => 8 + 8
  | paidBack => 8 + 8
  | withdrawn => 8
  | liquidated => 32
  | answerUpdated => 32 + (8 + 1)
  | stalenessSet => 32 + 1
  | minted => 32 + (32 + 8)
  | burned => 32 + (32 + 8)
  | exchangeRateSet => 16

theorem width_codec (kind : EventKind) : kind.codec.width = kind.width := by
  cases kind <;> rfl

theorem kind_event (kind : EventKind) (body : kind.Body) : (kind.event body).kind = kind := by
  cases kind <;> rfl

theorem encodeBody_event (kind : EventKind) (body : kind.Body) :
    (kind.event body).encodeBody = kind.codec.encode body := by
  cases kind <;> rfl

/-- An event is its kind and its body. -/
theorem event_parts (event : Event PublicKey) : event.kind.event event.parts.2 = event := by
  rcases event with event | event | event <;> cases event <;> rfl

/-- An event is of a kind when it carries what such events carry. -/
theorem kind_eq_iff {kind : EventKind} {event : Event PublicKey} :
    event.kind = kind ↔ ∃ body, kind.event body = event := by
  constructor
  · rintro rfl
    exact ⟨event.parts.2, event_parts event⟩
  · rintro ⟨body, rfl⟩
    exact kind_event kind body

open Codec

theorem lawful_codec :
    (kind : EventKind) → kind.codec.Lawful (kind.flags.map (·.within 0 kind.event))
  | deposited => lawful_amount
  | borrowed => lawful_pair lawful_amount lawful_amount
  | paidBack => lawful_pair lawful_amount lawful_amount
  | withdrawn => lawful_amount
  | liquidated => lawful_key
  | answerUpdated => lawful_pair lawful_key FixedRate.lawful_codec
  | stalenessSet => lawful_pair lawful_key lawful_flag
  | minted => lawful_pair lawful_key (lawful_pair lawful_key lawful_amount)
  | burned => lawful_pair lawful_key (lawful_pair lawful_key lawful_amount)
  | exchangeRateSet => lawful_wide

/-- Every kind of event is read from its own bytes only. -/
theorem readsWhole (kind : EventKind) :
    ReadsWhole (fun event => event.kind = kind) Event.encodeBody kind.decodeBody kind.width
      kind.flags := by
  rw [← kind.width_codec]
  refine kind.lawful_codec.readsWhole.built kind.encodeBody_event fun event => ?_
  simp only [true_and]
  exact kind_eq_iff

end EventKind

/-- Reading a record, a rate, the terms of a feed, or an event of any kind accepts exactly the
written forms of such values, and refuses each other byte string for the reason there is. -/
theorem values_read_whole :
    ReadsWhole (fun _ => True) Record.codec.encode Record.codec.decodeExact 16 [] ∧
      ReadsWhole (fun _ => True) FixedRate.codec.encode FixedRate.codec.decodeExact 9 [] ∧
      ReadsWhole (fun _ => True) FeedTerms.codec.encode FeedTerms.codec.decodeExact 26
        [⟨17, FeedTerms.isStale⟩] ∧
      ∀ kind : EventKind,
        ReadsWhole (fun event => event.kind = kind) Event.encodeBody kind.decodeBody kind.width
          kind.flags :=
  ⟨Record.lawful_codec.readsWhole, FixedRate.lawful_codec.readsWhole,
    FeedTerms.lawful_codec.readsWhole, EventKind.readsWhole⟩

/-- The terms of a feed that starts stale. -/
def staleTerms : FeedTerms :=
  ⟨.units 7, ⟨.units 250, 2⟩, true, ⟨.ofNat 3600, by decide, by decide⟩⟩

/-- They are read back. Without their last byte they are too short, a byte behind them is too much,
and with a flag of 2 it is the flag that is wrong, whatever stands behind. -/
theorem stale_terms_are_read_whole :
    let bytes := FeedTerms.codec.encode staleTerms
    FeedTerms.codec.decodeExact bytes = .ok staleTerms ∧
      RefusedFor "Unexpected length of input" (FeedTerms.codec.decodeExact (bytes.take 25)) ∧
      RefusedFor "Not all bytes read" (FeedTerms.codec.decodeExact (bytes ++ [0])) ∧
      RefusedFor "Invalid bool representation: 2"
        (FeedTerms.codec.decodeExact (bytes.set 17 2 ++ [0])) := by
  obtain ⟨-, -, hterms, -⟩ := values_read_whole
  refine ⟨(hterms.accepts _ _).2 ⟨trivial, rfl⟩, ?_, ?_, ?_⟩
  · exact hterms.cut staleTerms trivial _ (List.take_prefix 25 _) (by decide)
  · exact hterms.extended staleTerms trivial [0] (List.cons_ne_nil 0 [])
  · exact ⟨.invalidBool 2, (hterms.refuses _ _).2 (by decide), by decide⟩

end CollateralLending
