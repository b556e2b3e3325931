/-
  CollateralLending.Wire.Layout

  The layout of every value that is stored or announced. An account starts with
  a discriminator of 8 bytes that tells its type, an event with one that tells
  its kind; behind it the fields follow in order.

  An account may be larger than its layout: bytes behind the fields are left
  alone. Plain values and events fill their byte string exactly.
-/
import CollateralLending.AccountError
import CollateralLending.Event
import CollateralLending.Feed.PriceFeed
import CollateralLending.Lending.Vault
import CollateralLending.Share.ShareVault
import CollateralLending.Wire.Codec

namespace CollateralLending

/-! ## Plain values -/

/-- Deposit, then debt. -/
def Record.codec : Codec Record :=
  (Codec.amount.pair Codec.amount).imap (fun (deposited, debt) => ⟨deposited, debt⟩)
    fun record => (record.deposited, record.debt)

/-- Magnitude, then decimals. -/
def FixedRate.codec : Codec FixedRate :=
  (Codec.amount.pair Codec.byte).imap (fun (raw, decimals) => ⟨raw, decimals⟩)
    fun rate => (rate.raw, rate.decimals)

/-- Number of the feed, rate, flag, age limit. -/
def FeedTerms.codec : Codec FeedTerms :=
  (Codec.amount.pair (FixedRate.codec.pair (Codec.flag.pair Codec.seconds))).imap
    (fun (feedId, rate, isStale, maxAge) => ⟨feedId, rate, isStale, maxAge⟩)
    fun terms => (terms.feedId, terms.rate, terms.isStale, terms.maxAge)

/-- Rate, flag, age limit, time of publication. -/
def FeedAnswer.codec : Codec FeedAnswer :=
  (FixedRate.codec.pair (Codec.flag.pair (Codec.seconds.pair Codec.seconds))).imap
    (fun (rate, isStale, maxAge, updatedAt) => ⟨rate, isStale, maxAge, updatedAt⟩)
    fun answer => (answer.rate, answer.isStale, answer.maxAge, answer.updatedAt)

/-- Deposits, then debts. -/
def Totals.codec : Codec Totals :=
  (Codec.amount.pair Codec.amount).imap (fun (deposited, borrowed) => ⟨deposited, borrowed⟩)
    fun totals => (totals.deposited, totals.borrowed)

/-! ## Accounts -/

/-- The layout of an account type. -/
structure AccountLayout (α : Type) where
  /-- The 8 bytes that tell the type. -/
  discriminator : List UInt8
  /-- The fields behind them. -/
  fields : Codec α

namespace AccountLayout

variable {α : Type}

/-- How many bytes an account of the type takes. -/
def size (layout : AccountLayout α) : Nat := layout.discriminator.length + layout.fields.width

/-- The bytes of an account. -/
def encode (layout : AccountLayout α) (value : α) : List UInt8 :=
  layout.discriminator ++ layout.fields.encode value

/-- Reads the fields behind the discriminator, and yields the bytes behind them. -/
def decodeFields (layout : AccountLayout α) (bytes : List UInt8) :
    Except AccountError (α × List UInt8) :=
  (layout.fields.decode (bytes.drop 8)).mapError fun _ => .didNotDeserialize

/-- Reads an account of the type, and yields the bytes behind its fields. -/
def decode (layout : AccountLayout α) (bytes : List UInt8) :
    Except AccountError (α × List UInt8) :=
  if bytes.length < 8 then .error .discriminatorNotFound
  else if bytes.take 8 = layout.discriminator then layout.decodeFields bytes
  else .error .discriminatorMismatch

/-- Reads an account whatever its discriminator; there has to be one to skip. -/
def decodeUnchecked? (layout : AccountLayout α) (bytes : List UInt8) :
    Option (Except AccountError (α × List UInt8)) :=
  if bytes.length < 8 then none else some (layout.decodeFields bytes)

end AccountLayout

/-- Price feeds. -/
def PriceFeed.layout : AccountLayout (PriceFeed PublicKey UInt8) where
  discriminator := [0xbd, 0x67, 0xfc, 0x17, 0x98, 0x23, 0xf3, 0x9c]
  fields :=
    (Codec.key.pair (Codec.amount.pair (FeedAnswer.codec.pair Codec.byte))).imap
      (fun (authority, feedId, answer, bump) => ⟨authority, feedId, answer, bump⟩)
      fun feed => (feed.authority, feed.feedId, feed.answer, feed.bump)

/-- Lending vaults. -/
def Vault.layout : AccountLayout (Vault PublicKey UInt8) where
  discriminator := [0xd3, 0x08, 0xe8, 0x2b, 0x02, 0x98, 0x75, 0x77]
  fields :=
    (Codec.key.pair (Codec.key.pair (Codec.key.pair (Codec.key.pair (Codec.key.pair
      (Totals.codec.pair (Codec.amount.pair
        (Codec.byte.pair (Codec.byte.pair Codec.byte))))))))).imap
      (fun (admin, debtMint, debtVault, collateralVault, priceFeed, totals, seized,
          bump, collateralBump, debtVaultBump) =>
        ⟨admin, debtMint, debtVault, collateralVault, priceFeed, totals, seized, bump,
          collateralBump, debtVaultBump⟩)
      fun vault =>
        (vault.admin, vault.debtMint, vault.debtVault, vault.collateralVault, vault.priceFeed,
          vault.totals, vault.seizedCollateral, vault.bump, vault.collateralBump,
          vault.debtVaultBump)

/-- Positions. -/
def UserPosition.layout : AccountLayout (UserPosition PublicKey UInt8) where
  discriminator := [0xfb, 0xf8, 0xd1, 0xf5, 0x53, 0xea, 0x11, 0x1b]
  fields :=
    (Codec.key.pair (Codec.key.pair (Record.codec.pair Codec.byte))).imap
      (fun (owner, vault, record, bump) => ⟨owner, vault, record, bump⟩)
      fun position => (position.owner, position.vault, position.record, position.bump)

/-- Share vaults. -/
def ShareVault.layout : AccountLayout (ShareVault PublicKey UInt8) where
  discriminator := [0x81, 0x52, 0x41, 0xe1, 0x7d, 0x21, 0x83, 0x45]
  fields :=
    (Codec.key.pair (Codec.key.pair (Codec.key.pair (Codec.key.pair (Codec.wide.pair
      (Codec.amount.pair (Codec.byte.pair (Codec.byte.pair Codec.byte)))))))).imap
      (fun (admin, underlyingMint, shareMint, pool, exchangeRate, totalUnderlying,
          bump, shareMintBump, poolBump) =>
        ⟨admin, underlyingMint, shareMint, pool, exchangeRate, totalUnderlying, bump,
          shareMintBump, poolBump⟩)
      fun vault =>
        (vault.admin, vault.underlyingMint, vault.shareMint, vault.pool, vault.exchangeRate,
          vault.totalUnderlying, vault.bump, vault.shareMintBump, vault.poolBump)

/-! ## Events -/

/-- The kinds of events. -/
inductive EventKind where
  /-- Collateral came in. -/
  | deposited
  /-- Debt was handed out. -/
  | borrowed
  /-- Debt came back. -/
  | paidBack
  /-- Collateral went out. -/
  | withdrawn
  /-- A position was wiped. -/
  | liquidated
  /-- A feed published a rate. -/
  | answerUpdated
  /-- A stale flag was set or cleared. -/
  | stalenessSet
  /-- Shares were issued. -/
  | minted
  /-- Shares were taken back. -/
  | burned
  /-- An exchange rate was set. -/
  | exchangeRateSet
deriving DecidableEq

namespace EventKind

/-- The 8 bytes that tell the kind. -/
def discriminator : EventKind → List UInt8
  | deposited => [0x6f, 0x8d, 0x1a, 0x2d, 0xa1, 0x23, 0x64, 0x39]
  | borrowed => [0xe1, 0xb6, 0xf1, 0x4e, 0x22, 0x91, 0xfd, 0xe6]
  | paidBack => [0x2c, 0x11, 0x05, 0x87, 0x12, 0x23, 0xf1, 0x57]
  | withdrawn => [0x14, 0x59, 0xdf, 0xc6, 0xc2, 0x7c, 0xdb, 0x0d]
  | liquidated => [0xe7, 0x39, 0x37, 0x4b, 0x00, 0xaa, 0xf6, 0x44]
  | answerUpdated => [0x16, 0xae, 0xc6, 0x3e, 0x70, 0x05, 0xbe, 0x8b]
  | stalenessSet => [0xf6, 0xd6, 0x5a, 0x58, 0xed, 0xe7, 0x9b, 0x8e]
  | minted => [0xae, 0x83, 0x15, 0x39, 0x58, 0x75, 0x72, 0x79]
  | burned => [0xcf, 0x25, 0xfb, 0x9a, 0xef, 0xe5, 0x0e, 0x43]
  | exchangeRateSet => [0x12, 0xa3, 0x2c, 0x61, 0xae, 0x66, 0x08, 0xb2]

/-- What an event of the kind carries. -/
def Body : EventKind → Type
  | deposited => Amount
  | borrowed => Amount × Amount
  | paidBack => Amount × Amount
  | withdrawn => Amount
  | liquidated => PublicKey
  | answerUpdated => PublicKey × FixedRate
  | stalenessSet => PublicKey × Bool
  | minted => PublicKey × PublicKey × Amount
  | burned => PublicKey × PublicKey × Amount
  | exchangeRateSet => Wide

/-- The layout of what an event of the kind carries. -/
def codec : (kind : EventKind) → Codec kind.Body
  | deposited => Codec.amount
  | borrowed => Codec.amount.pair Codec.amount
  | paidBack => Codec.amount.pair Codec.amount
  | withdrawn => Codec.amount
  | liquidated => Codec.key
  | answerUpdated => Codec.key.pair FixedRate.codec
  | stalenessSet => Codec.key.pair Codec.flag
  | minted => Codec.key.pair (Codec.key.pair Codec.amount)
  | burned => Codec.key.pair (Codec.key.pair Codec.amount)
  | exchangeRateSet => Codec.wide

/-- The event of the kind that carries this. -/
def event : (kind : EventKind) → kind.Body → Event PublicKey
  | deposited, amount => .lending (.deposited amount)
  | borrowed, (requested, value) => .lending (.borrowed requested value)
  | paidBack, (repaid, value) => .lending (.paidBack repaid value)
  | withdrawn, amount => .lending (.withdrawn amount)
  | liquidated, account => .lending (.liquidated account)
  | answerUpdated, (feed, rate) => .feed (.answerUpdated feed rate)
  | stalenessSet, (feed, isStale) => .feed (.stalenessSet feed isStale)
  | minted, (user, token, shares) => .share (.minted user token shares)
  | burned, (user, token, shares) => .share (.burned user token shares)
  | exchangeRateSet, rate => .share (.exchangeRateSet rate)

/-- Reads an event of the kind from the bytes behind its discriminator. -/
def decodeBody (kind : EventKind) (bytes : List UInt8) : Except WireError (Event PublicKey) :=
  (kind.codec.decodeExact bytes).map kind.event

end EventKind

namespace Event

/-- The kind of an event and what it carries. -/
def parts : Event PublicKey → (kind : EventKind) × kind.Body
  | .lending (.deposited amount) => ⟨.deposited, amount⟩
  | .lending (.borrowed requested value) => ⟨.borrowed, requested, value⟩
  | .lending (.paidBack repaid value) => ⟨.paidBack, repaid, value⟩
  | .lending (.withdrawn amount) => ⟨.withdrawn, amount⟩
  | .lending (.liquidated account) => ⟨.liquidated, account⟩
  | .feed (.answerUpdated source rate) => ⟨.answerUpdated, source, rate⟩
  | .feed (.stalenessSet source isStale) => ⟨.stalenessSet, source, isStale⟩
  | .share (.minted user token shares) => ⟨.minted, user, token, shares⟩
  | .share (.burned user token shares) => ⟨.burned, user, token, shares⟩
  | .share (.exchangeRateSet rate) => ⟨.exchangeRateSet, rate⟩

/-- The bytes of an event behind its discriminator. -/
def encodeBody (event : Event PublicKey) : List UInt8 :=
  event.parts.1.codec.encode event.parts.2

/-- The bytes of an event. -/
def encode (event : Event PublicKey) : List UInt8 :=
  event.parts.1.discriminator ++ event.encodeBody

end Event

end CollateralLending
