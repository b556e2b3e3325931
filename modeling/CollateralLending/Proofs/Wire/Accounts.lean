/-
  CollateralLending.Proofs.Wire.Accounts

  Accounts as bytes. The four account types are laid out so that each is read back
  from what was written, whatever stands behind it, and is written back as what was
  read. All other byte strings are refused, for one of three reasons: they are too
  short for a discriminator, they have another one, or the fields behind it are cut
  off or have a flag that is neither 0 nor 1 (`AccountLayout.Faithful`).

  The discriminators of the types differ, so no byte string is an account of two
  types.

  Main statement: `accounts_read_back`.
-/
import CollateralLending.Chain.Account
import CollateralLending.Proofs.Wire.Codecs

namespace CollateralLending

variable {α : Type}

namespace AccountLayout

/-- What an account type of a given size, with flags at given places, reads and what it refuses. The
places are counted from the start of the account. -/
structure Faithful (layout : AccountLayout α) (size : Nat) (flags : List (Flag α)) : Prop where
  /-- A discriminator takes 8 bytes. -/
  length_discriminator : layout.discriminator.length = 8
  /-- What is written starts with it, -/
  marked : ∀ value, layout.discriminator <+: layout.encode value
  /-- and has the size of the type. -/
  length_encode : ∀ value, (layout.encode value).length = size
  /-- The byte of a flag is 0 or 1. -/
  flag_encode : ∀ flag ∈ flags, ∀ value,
    (layout.encode value)[flag.offset]? = some (Flag.byteOf (flag.tells value))
  /-- What was written is read back, and what stands behind it is left over. -/
  reads : ∀ value rest, layout.decode (layout.encode value ++ rest) = .ok (value, rest)
  /-- What was read is written back. -/
  writes : ∀ bytes value rest, layout.decode bytes = .ok (value, rest) →
    layout.encode value = bytes.take size ∧ rest = bytes.drop size
  /-- Whatever has the discriminator, the size, and flags that are 0 or 1 is read. -/
  accepts : ∀ bytes, bytes.take 8 = layout.discriminator → size ≤ bytes.length →
    (∀ flag ∈ flags, ∀ byte, bytes[flag.offset]? = some byte → byte = 0 ∨ byte = 1) →
      ∃ value rest, layout.decode bytes = .ok (value, rest)
  headless : ∀ bytes, bytes.length < 8 → layout.decode bytes = .error .discriminatorNotFound
  foreign : ∀ bytes, 8 ≤ bytes.length → bytes.take 8 ≠ layout.discriminator →
    layout.decode bytes = .error .discriminatorMismatch
  cut : ∀ bytes, bytes.take 8 = layout.discriminator → bytes.length < size →
    layout.decode bytes = .error .didNotDeserialize
  misflagged : ∀ bytes, bytes.take 8 = layout.discriminator →
    ∀ flag ∈ flags, ∀ byte, bytes[flag.offset]? = some byte → byte ≠ 0 → byte ≠ 1 →
      layout.decode bytes = .error .didNotDeserialize

variable {layout : AccountLayout α} {flags : List (Flag α)} {bytes rest : List UInt8} {value : α}

/-! ## Behind the discriminator -/

/-- The fields are read after the eight bytes of the discriminator. -/
theorem decodeFields_eq_ok_iff (h : layout.fields.Lawful flags) :
    layout.decodeFields bytes = .ok (value, rest) ↔
      bytes.drop 8 = layout.fields.encode value ++ rest := by
  unfold decodeFields
  rw [mapError_eq_ok_iff, h.decode_eq_ok_iff]

theorem decodeFields_of_fault (h : layout.fields.Lawful flags)
    (hfault : frontFault? layout.fields.width flags (bytes.drop 8) ≠ none) :
    layout.decodeFields bytes = .error .didNotDeserialize := by
  obtain ⟨error, herror⟩ := Option.ne_none_iff_exists'.1 hfault
  unfold decodeFields
  rw [h.decode_eq_error_iff.2 herror]
  rfl

theorem exists_decodeFields (h : layout.fields.Lawful flags)
    (hfault : frontFault? layout.fields.width flags (bytes.drop 8) = none) :
    ∃ value rest, layout.decodeFields bytes = .ok (value, rest) := by
  obtain ⟨value, rest, hdecode⟩ := h.exists_decoded hfault
  exact ⟨value, rest, mapError_eq_ok_iff.2 hdecode⟩

/-! ## With the discriminator -/

/-- An account takes up its size, whatever it holds. -/
theorem length_encode (h : layout.fields.Lawful flags) (value : α) :
    (layout.encode value).length = layout.size := by
  unfold encode size
  rw [List.length_append, h.length_encode]

variable (hlength : layout.discriminator.length = 8)

include hlength

/-- What has the discriminator is long enough for it. -/
theorem le_length_of_marked (hmark : bytes.take 8 = layout.discriminator) : 8 ≤ bytes.length := by
  rw [← hmark, List.length_take] at hlength
  omega

/-- Where the discriminator is, the fields decide. -/
theorem decode_of_marked (hmark : bytes.take 8 = layout.discriminator) :
    layout.decode bytes = layout.decodeFields bytes := by
  unfold decode
  rw [if_neg (Nat.not_lt.2 (le_length_of_marked hlength hmark)), if_pos hmark]

omit hlength in
/-- What is read has the discriminator. -/
theorem marked_of_decode (h : layout.decode bytes = .ok (value, rest)) :
    bytes.take 8 = layout.discriminator ∧ layout.decodeFields bytes = .ok (value, rest) := by
  unfold decode at h
  split at h
  · cases h
  · split at h
    · rename_i hmark
      exact ⟨hmark, h⟩
    · cases h

/-- What was written is read back, with the rest of the bytes left over. -/
theorem decode_encode (h : layout.fields.Lawful flags) (value : α) (rest : List UInt8) :
    layout.decode (layout.encode value ++ rest) = .ok (value, rest) := by
  have hbytes : layout.encode value ++ rest =
      layout.discriminator ++ (layout.fields.encode value ++ rest) := List.append_assoc _ _ _
  have hmark : (layout.encode value ++ rest).take 8 = layout.discriminator := by
    rw [hbytes, ← hlength, List.take_left]
  rw [decode_of_marked hlength hmark, decodeFields_eq_ok_iff h, hbytes, ← hlength, List.drop_left]

/-- Lawful fields make the layout of an account faithful. -/
theorem faithful_of_lawful (h : layout.fields.Lawful flags) :
    layout.Faithful layout.size (flags.map (·.within 8 id)) where
  length_discriminator := hlength
  marked value := List.prefix_append _ _
  length_encode := layout.length_encode h
  flag_encode flag hflag value := by
    obtain ⟨field, hfield, rfl⟩ := List.mem_map.1 hflag
    unfold encode
    dsimp only [Flag.within, id]
    rw [← hlength, List.getElem?_append_right (Nat.le_add_right _ _), Nat.add_sub_cancel_left]
    exact h.flag_encode field hfield value
  reads := decode_encode hlength h
  writes bytes value rest hdecode := by
    obtain ⟨hmark, hfields⟩ := marked_of_decode hdecode
    have hbytes : bytes = layout.encode value ++ rest := by
      -- The first eight bytes are the discriminator, and the rest is what the fields were read
      -- from.
      have hdrop := (decodeFields_eq_ok_iff h).1 hfields
      rw [← List.take_append_drop 8 bytes, hmark, hdrop]
      exact (List.append_assoc _ _ _).symm
    rw [hbytes, ← layout.length_encode h value, List.take_left, List.drop_left]
    exact ⟨rfl, rfl⟩
  accepts bytes hmark hlong hflags := by
    rw [decode_of_marked hlength hmark]
    apply exists_decodeFields h
    refine frontFault?_eq_none_iff.2 ⟨?_, fun field hfield => ?_⟩
    · -- The bytes after the discriminator are as many as the fields take.
      unfold size at hlong
      rw [List.length_drop]
      omega
    · -- A flag stands eight bytes further on in the account than in its fields.
      rw [← Flag.wrong?_within field 8 id, Option.eq_none_iff_forall_ne_some]
      intro byte hwrong
      obtain ⟨hbyte, hzero, hone⟩ := Flag.wrong?_eq_some_iff.1 hwrong
      rcases hflags _ (List.mem_map_of_mem hfield) byte hbyte with rfl | rfl
      · exact hzero rfl
      · exact hone rfl
  headless bytes hshort := if_pos hshort
  foreign bytes hlong hmark := by
    unfold decode
    rw [if_neg (Nat.not_lt.2 hlong), if_neg hmark]
  cut bytes hmark hshort := by
    rw [decode_of_marked hlength hmark]
    apply decodeFields_of_fault h
    intro hnone
    -- Fields without a fault would be long enough.
    have hlong := (frontFault?_eq_none_iff.1 hnone).1
    have hhead := le_length_of_marked hlength hmark
    unfold size at hshort
    rw [List.length_drop] at hlong
    omega
  misflagged bytes hmark flag hflag byte hbyte hzero hone := by
    obtain ⟨field, hfield, rfl⟩ := List.mem_map.1 hflag
    rw [decode_of_marked hlength hmark]
    apply decodeFields_of_fault h
    intro hnone
    -- Fields without a fault would have this flag right.
    have hright := (frontFault?_eq_none_iff.1 hnone).2 field hfield
    rw [← Flag.wrong?_within field 8 id, Flag.wrong?_eq_some_iff.2 ⟨hbyte, hzero, hone⟩] at hright
    cases hright

end AccountLayout

/-! ## The account types -/

/-- The types of accounts that are laid out here. -/
inductive AccountType where
  | priceFeed
  | vault
  | userPosition
  | shareVault
deriving DecidableEq

namespace AccountType

/-- What an account of the type holds. -/
def Value : AccountType → Type
  | priceFeed => PriceFeed PublicKey UInt8
  | vault => Vault PublicKey UInt8
  | userPosition => UserPosition PublicKey UInt8
  | shareVault => ShareVault PublicKey UInt8

/-- How it is laid out. -/
def layout : (type : AccountType) → AccountLayout type.Value
  | priceFeed => PriceFeed.layout
  | vault => Vault.layout
  | userPosition => UserPosition.layout
  | shareVault => ShareVault.layout

/-- The size of an account of the type: the discriminator and the fields. -/
def size : AccountType → Nat
  | priceFeed => 8 + (32 + 8 + 8 + 1 + 1 + 8 + 8 + 1)
  | vault => 8 + (32 + 32 + 32 + 32 + 32 + 8 + 8 + 8 + 1 + 1 + 1)
  | userPosition => 8 + (32 + 32 + 16 + 1)
  | shareVault => 8 + (32 + 32 + 32 + 32 + 16 + 8 + 1 + 1 + 1)

/-- How many bytes a new account of the type is given. -/
def allotted : AccountType → Nat
  | priceFeed => AccountKind.feed.size
  | vault => AccountKind.vault.size
  | userPosition => AccountKind.position.size
  | shareVault => AccountKind.shareVault.size

/-- The flags in an account of the type: a feed has one, behind the decimals of its rate. -/
def flags : (type : AccountType) → List (Flag type.Value)
  | priceFeed => [⟨8 + (32 + 8 + 8 + 1), fun feed => feed.answer.isStale⟩]
  | vault => []
  | userPosition => []
  | shareVault => []

/-- These bytes are read as an account of the type. -/
def Accepts (type : AccountType) (bytes : List UInt8) : Prop :=
  ∃ value rest, type.layout.decode bytes = .ok (value, rest)

end AccountType

/-! ### Their fields -/

open Codec

theorem PriceFeed.lawful_fields :
    PriceFeed.layout.fields.Lawful [⟨49, fun feed => feed.answer.isStale⟩] := by
  have hanswer := lawful_pair FeedAnswer.lawful_codec lawful_byte
  dsimp only [PriceFeed.layout]
  exact lawful_imap (lawful_pair lawful_key (lawful_pair lawful_amount hanswer))
    (fun _ => rfl) fun _ => rfl

theorem Vault.lawful_fields : Vault.layout.fields.Lawful [] := by
  have hbumps := lawful_pair lawful_byte (lawful_pair lawful_byte lawful_byte)
  have htotals := lawful_pair Totals.lawful_codec (lawful_pair lawful_amount hbumps)
  dsimp only [Vault.layout]
  exact lawful_imap
    (lawful_pair lawful_key (lawful_pair lawful_key (lawful_pair lawful_key
      (lawful_pair lawful_key (lawful_pair lawful_key htotals)))))
    (fun _ => rfl) fun _ => rfl

theorem UserPosition.lawful_fields : UserPosition.layout.fields.Lawful [] := by
  have hrecord := lawful_pair Record.lawful_codec lawful_byte
  dsimp only [UserPosition.layout]
  exact lawful_imap (lawful_pair lawful_key (lawful_pair lawful_key hrecord))
    (fun _ => rfl) fun _ => rfl

theorem ShareVault.lawful_fields : ShareVault.layout.fields.Lawful [] := by
  have hbumps := lawful_pair lawful_byte (lawful_pair lawful_byte lawful_byte)
  have hrate := lawful_pair lawful_wide (lawful_pair lawful_amount hbumps)
  dsimp only [ShareVault.layout]
  exact lawful_imap
    (lawful_pair lawful_key (lawful_pair lawful_key (lawful_pair lawful_key
      (lawful_pair lawful_key hrate))))
    (fun _ => rfl) fun _ => rfl

/-! ### What they read -/

namespace AccountType

theorem faithful : (type : AccountType) → type.layout.Faithful type.size type.flags
  | priceFeed => AccountLayout.faithful_of_lawful rfl PriceFeed.lawful_fields
  | vault => AccountLayout.faithful_of_lawful rfl Vault.lawful_fields
  | userPosition => AccountLayout.faithful_of_lawful rfl UserPosition.lawful_fields
  | shareVault => AccountLayout.faithful_of_lawful rfl ShareVault.lawful_fields

/-- No two account types have the same discriminator. -/
theorem discriminator_injective {type other : AccountType}
    (h : type.layout.discriminator = other.layout.discriminator) : type = other := by
  cases type <;> cases other <;> first | rfl | exact absurd h (by decide)

/-- No bytes are accepted as accounts of two types. -/
theorem eq_of_accepts {type other : AccountType} {bytes : List UInt8} (h : type.Accepts bytes)
    (hother : other.Accepts bytes) : type = other := by
  obtain ⟨_, _, hdecode⟩ := h
  obtain ⟨_, _, hdecodeOther⟩ := hother
  obtain ⟨hmark, -⟩ := AccountLayout.marked_of_decode hdecode
  obtain ⟨hmarkOther, -⟩ := AccountLayout.marked_of_decode hdecodeOther
  exact discriminator_injective (hmark.symm.trans hmarkOther)

end AccountType

/-- Each account type reads back what it writes, whatever stands behind it, writes back what it
reads, and refuses everything else for the reason there is. It takes as many bytes as new accounts
are given, and no byte string is read as two types. -/
theorem accounts_read_back :
    (∀ type : AccountType,
      type.layout.Faithful type.size type.flags ∧ type.allotted = type.size) ∧
    ∀ (type other : AccountType) (bytes : List UInt8), type.Accepts bytes → other.Accepts bytes →
      type = other := by
  refine ⟨fun type => ⟨type.faithful, ?_⟩, fun type other bytes => AccountType.eq_of_accepts⟩
  cases type <;> rfl

/-- A feed with a time before the epoch. -/
def earlyFeed : PriceFeed PublicKey UInt8 where
  authority := .zero
  feedId := .units 7
  answer :=
    ⟨⟨.units 250, 2⟩, true, ⟨.ofNat 60, by decide, by decide⟩, ⟨.negSucc 1, by decide, by decide⟩⟩
  bump := 254

/-- Its bytes are read with two more behind them, but not with a flag of 2, and not as anything but
a feed. -/
theorem early_feed_is_read_back :
    PriceFeed.layout.decode (PriceFeed.layout.encode earlyFeed ++ [9, 9]) =
        .ok (earlyFeed, [9, 9]) ∧
      PriceFeed.layout.decode ((PriceFeed.layout.encode earlyFeed).set 57 2) =
        .error .didNotDeserialize ∧
      ∀ other : AccountType, other.Accepts (PriceFeed.layout.encode earlyFeed) →
        other = .priceFeed := by
  obtain ⟨htypes, hone⟩ := accounts_read_back
  have hfeed : PriceFeed.layout.Faithful AccountType.priceFeed.size AccountType.priceFeed.flags :=
    (htypes .priceFeed).1
  have hread : AccountType.priceFeed.Accepts (PriceFeed.layout.encode earlyFeed) := by
    refine ⟨earlyFeed, [], ?_⟩
    have hwhole := hfeed.reads earlyFeed []
    rwa [List.append_nil] at hwhole
  refine ⟨hfeed.reads earlyFeed [9, 9], ?_,
    fun other hother => hone other .priceFeed _ hother hread⟩
  exact hfeed.misflagged _ (by decide) _ (List.mem_singleton_self _) 2 (by decide) (by decide)
    (by decide)

end CollateralLending
