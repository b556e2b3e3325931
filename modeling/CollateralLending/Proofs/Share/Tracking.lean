/-
  CollateralLending.Proofs.Share.Tracking

  A share vault tracks no more than its pool holds, whatever rates were set in
  between. A deposit counts what the transfer brings in; a withdrawal counts
  down, not below zero, by no less than what leaves the pool; and everybody else
  can only add to the pool. So there is room for every deposit whose transfer
  went through: a deposit overflows where its shares are priced, or nowhere.

  Main statement: `tracked_underlying_is_in_pool`.
-/
import CollateralLending.Proofs.Chain.Failures
import CollateralLending.Proofs.Share.Redemption

namespace CollateralLending

open Bank

/-! ## What a share vault tracks -/

/-- The pool holds what the share vault tracks. -/
def ShareVault.tracking : Condition := fun vault _ pool =>
  vault.totalUnderlying.toNat ≤ pool.amount.toNat

/-- The tracked amount rises and falls with the pool, and never gets ahead of it. -/
theorem ShareVault.tracking_lasts : tracking.Lasts where
  given htracked _ hpool := Nat.le_trans htracked hpool.amount
  opens _ _ := Nat.zero_le _
  deposits htracked _ hcount _ hpool := by
    unfold tracking at *
    rw [hcount, hpool]
    exact Nat.add_le_add_right htracked _
  withdrawals htracked _ _ hpool := by
    unfold tracking at *
    rw [Word.toNat_monus]
    omega

/-! ## Where a deposit overflows -/

namespace ShareProgram

open Tx (Yields Fails)

variable {call : Call} {amount : Amount} {s t : Session} {cause : Cause}

/-- Taking the accounts in fails with no error of the program's own. -/
theorem fails_takeSite (hown : cause.isOwn = true) : Fails (takeSite call) s cause ↔ False := by
  simp only [takeSite, Tx.fails_bind, Tx.fails_pure, Call.fails_signer hown,
    Call.fails_load hown AccountKind.shareVault_neutral,
    Call.fails_load hown AccountKind.token_neutral, Call.fails_load hown AccountKind.mint_neutral,
    and_false, exists_false, or_false]

theorem fails_checkSite (hown : cause.isOwn = true) {site : Site}
    (h : Fails (checkSite call site) s cause) : cause = transferFailed := by
  simp only [checkSite, Tx.fails_bind, Tx.fails_check, Call.fails_mutable hown,
    Call.fails_hasOne hown, Call.fails_derivedWith hown, and_false, exists_false, or_false,
    false_or] at h
  obtain ⟨_, _, -, _, _, -, _, _, -, _, _, -, _, _, -, -, rfl⟩ := h
  rfl

theorem fails_shareAccount (hown : cause.isOwn = true) {site : Site} {address : Address} :
    Fails (shareAccount call site address) s cause ↔ False := by
  have hload : ∀ u : Session, ∀ account,
      Fails (Tx.liftCause (AccountKind.token.load account) (some .userShareAccount)) u cause ↔
        False := by
    intro u account
    rw [Tx.fails_liftCause, iff_false]
    intro hfail
    rw [AccountKind.token_neutral account cause hfail] at hown
    cases hown
  simp only [shareAccount, Tx.fails_bind, Tx.fails_account, iff_false, false_or, not_exists,
    not_and]
  intro account u _
  split
  all_goals
    simp only [Tx.fails_bind, Tx.fails_account, Tx.fails_check, Tx.fails_invoke, hload,
      Call.fails_created hown, Failure.account, Call.account_ne_of_isOwn hown,
      Call.program_ne_of_isOwn hown, and_false, exists_false, or_false, not_false_eq_true]

/-- A deposit overflows while its shares are priced, or when it is counted after the transfer. -/
theorem deposit_overflows (h : Fails (deposit call amount) s (.share .mathOverflow)) :
    ∃ visit : Visit call s, visit.vault.mintedShares amount = .error .mathOverflow ∨
      ∃ opened paid, Opens call visit.user visit.vault.shareMint s.bank opened ∧
        Tokens.transfer call.signs visit.wallet (.sharePool visit.home) visit.user amount opened =
          .ok paid ∧
        visit.vault.totalUnderlying.add? amount = none := by
  have hown : (Cause.share .mathOverflow).isOwn = true := rfl
  have hcheck : ∀ site u, Fails (checkSite call site) u (.share .mathOverflow) ↔ False :=
    fun site u => iff_false_intro fun h => nomatch fails_checkSite hown h
  simp only [deposit, Tx.fails_bind, fails_takeSite hown, Call.fails_pending hown,
    Call.fails_program hown, fails_shareAccount hown, hcheck, Tx.fails_liftCause, Tx.fails_check,
    Tx.fails_invoke, Tx.fails_invokeOr, Tx.fails_emit, Tx.fails_save, mapError_eq_error_iff,
    someOr_eq_error_iff, Failure.unblamed, transferFailed, Cause.share.injEq, reduceCtorEq,
    exists_eq_right, and_true, and_false, exists_false, or_false, false_or, Call.yields_pending,
    Call.yields_program, and_assoc, exists_and_left, exists_eq_left, exists_const] at h
  obtain ⟨site, _, htake, address, -, -, -, -, -, -, -, _, u, hshare, _, v, hcheck, h⟩ := h
  obtain ⟨⟨rfl, rfl⟩, visit, rfl⟩ := visit_of_site htake hcheck
  obtain ⟨rfl, opened, held, hopens, -, rfl⟩ := opens_of_shareAccount hshare
  refine ⟨visit, h.imp_right ?_⟩
  simp only [Tx.yields_liftCause, Tx.yields_check, Tx.yields_invokeOr, and_assoc, exists_and_left,
    exists_eq_left, exists_const]
  rintro ⟨shares, -, -, _, ⟨paid, hpays, -⟩, _, _, -, hcount⟩
  exact ⟨opened, hopens, paid, hpays, hcount⟩

/-- What the transfer of a deposit brought in can be counted. -/
theorem Visit.add?_ne_none {opened paid : Bank} (visit : Visit call s)
    (htracked : s.bank.Upholds ShareVault.tracking visit.home) (hkeys : call.KeysSign)
    (hopens : Opens call visit.user visit.vault.shareMint s.bank opened)
    (hpays : Tokens.transfer call.signs visit.wallet (.sharePool visit.home) visit.user amount
      opened = .ok paid) : visit.vault.totalUnderlying.add? amount ≠ none := by
  have hmeets := htracked visit.vault (find?_of_load visit.loads)
  have hsteps : Steps (fun _ => False) s.bank opened := hopens.steps
  obtain ⟨mint, pool, hissues, htotal⟩ :=
    (hmeets.of_spares ShareVault.tracking_lasts (hsteps.spares id)).issues
  have huser : visit.user ≠ visit.home := by
    intro heq
    exact hmeets.seated.not_signs hkeys (heq ▸ visit.signs)
  obtain ⟨payment⟩ := transfer_run hpays
  obtain ⟨nextPool, -, hreceived⟩ := hissues.of_receipt huser payment
  -- The pool had room, and the share vault tracks no more than it holds.
  have hroom := nextPool.amount.lt
  rw [Ne, Word.add?_eq_none_iff]
  unfold ShareVault.tracking at htotal
  omega

end ShareProgram

/-! ## In every reached state -/

/-- In every reached state the pool of a share vault holds what the share vault tracks, whatever its
rates were. So a deposit that overflows did so where its shares were priced, before anything moved:
it never overflows where it is counted after the transfer. -/
theorem tracked_underlying_is_in_pool {start chain : Chain} {moves : List Move}
    (hfresh : start.bank.Fresh) (run : start.Run moves chain)
    (hkeys : ∀ move ∈ moves, move.KeysSign) :
    (∀ home vault, chain.bank.find? .shareVault home = some vault →
      ∃ pool, (chain.bank.get vault.pool).data = .token pool ∧
        vault.totalUnderlying.toNat ≤ pool.amount.toNat) ∧
    ∀ (amount : Amount) (passed : Passed),
      (Move.transact (.depositUnderlying amount) passed).KeysSign →
      chain.Fails (.depositUnderlying amount) passed (.share .mathOverflow) →
      ∃ home vault,
        (chain.callOf (.depositUnderlying amount) passed).address? .shareVault = some home ∧
        chain.bank.find? .shareVault home = some vault ∧
        vault.mintedShares amount = .error .mathOverflow := by
  have htracked : ∀ home, chain.bank.Upholds ShareVault.tracking home :=
    upholds_of_chain_run ShareVault.tracking_lasts (fun _ h => h) hfresh run hkeys
  constructor
  · intro home vault hvault
    obtain ⟨hseated, mint, pool, hissues, htotal⟩ := htracked home vault hvault
    exact ⟨pool, by rw [hseated.pool, hissues.pool_data], htotal⟩
  · intro amount passed hsigns hfails
    obtain ⟨visit, hprice | ⟨opened, paid, hopens, hpays, hcount⟩⟩ :=
      ShareProgram.deposit_overflows (fails_of_chain hfails)
    · exact ⟨visit.home, visit.vault, visit.vault_role, find?_of_load visit.loads, hprice⟩
    · exact absurd hcount (visit.add?_ne_none (htracked visit.home) (hsigns chain) hopens hpays)

namespace FirstShares

/-- The rate falls to half a share per unit. -/
def fall : Move :=
  .transact (.setExchangeRate (rate 1)) ⟨[(.shareVault, home), (.admin, admin)], [], []⟩

def fallen : Chain := deposited.after fall

/-- The chain after the rate fell and went up to two. -/
def swung : Chain := fallen.after raise

theorem fallen_run : start.Run [openShareVault, deposit, fall] fallen :=
  .snoc (.snoc (.snoc .nil openShareVault trivial) deposit trivial) fall trivial

theorem swung_run : start.Run [openShareVault, deposit, fall, raise] swung :=
  fallen_run.snoc raise trivial

theorem swung_keysSign : ∀ move ∈ [openShareVault, deposit, fall, raise], move.KeysSign := by
  simp only [List.mem_cons, List.not_mem_nil, or_false, forall_eq_or_imp, forall_eq]
  exact ⟨Move.keysSign_of_passed (by decide), Move.keysSign_of_passed (by decide),
    Move.keysSign_of_passed (by decide), Move.keysSign_of_passed (by decide)⟩

theorem find?_swung : swung.bank.find? .shareVault home = some (vault 4 1001) := by decide +kernel

/-- The accounts that the user deposits with. -/
def depositing : Passed :=
  ⟨[(.user, user), (.shareVault, home), (.userTokenAccount, wallet), (.vault, .sharePool home),
    (.shareMint, .shareMint home), (.userShareAccount, .associated user (.shareMint home)),
    (.tokenProgram, .tokenProgram), (.associatedTokenProgram, .associatedTokenProgram),
    (.systemProgram, .systemProgram)], [], []⟩

theorem depositing_shareVault (chain : Chain) (amount : Amount) :
    (chain.callOf (.depositUnderlying amount) depositing).address? .shareVault = some home := rfl

/-- More units than there can be shares for. -/
def tooMuch : Amount := .units (2 ^ 63)

theorem tooMuch_overflows :
    swung.Fails (.depositUnderlying tooMuch) depositing (.share .mathOverflow) :=
  fails_iff_cause?.2 (by decide +kernel)

end FirstShares

open FirstShares in
theorem first_shares_are_tracked :
    (∃ pool, (swung.bank.get (vault 4 1001).pool).data = .token pool ∧
      (vault 4 1001).totalUnderlying.toNat ≤ pool.amount.toNat) ∧
      (vault 4 1001).mintedShares tooMuch = .error .mathOverflow := by
  obtain ⟨htracked, hoverflows⟩ :=
    tracked_underlying_is_in_pool start_fresh swung_run swung_keysSign
  obtain ⟨place, found, hplace, hfound, hprice⟩ := hoverflows tooMuch depositing
    (Move.keysSign_of_passed (by decide)) tooMuch_overflows
  cases (depositing_shareVault swung tooMuch).symm.trans hplace
  cases find?_swung.symm.trans hfound
  exact ⟨htracked home _ find?_swung, hprice⟩

end CollateralLending
