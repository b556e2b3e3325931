/-
  CollateralLending.Token.TokenLedger

  A fungible token kept as a ledger of balances, allowances and a supply. The
  owner of a balance moves it freely; anyone else needs an allowance, which the
  move uses up.

  A minting that is refused because the receiver's balance would overflow has
  already raised the supply, so operations yield the ledger they leave behind
  together with their result.
-/
import CollateralLending.Table
import CollateralLending.Word
import CollateralLending.Error

namespace CollateralLending

/-- Balances, allowances and the supply of one token. -/
@[ext]
structure TokenLedger (K : Type) [Ord K] where
  /-- What each account holds. -/
  balances : Table K Amount
  /-- By owner and then by spender, what the spender may still move. -/
  allowances : Table K (Table K Amount)
  /-- The number of units in existence. -/
  supply : Amount

namespace TokenLedger

variable {K : Type} [Ord K]

/-- A token nobody holds. -/
def empty : TokenLedger K := ⟨.empty, .empty, .zero⟩

/-- What an account holds. -/
def balanceOf (token : TokenLedger K) (owner : K) : Amount := token.balances.get owner

/-- What `spender` may still move of the balance of `owner`. -/
def allowance (token : TokenLedger K) (owner spender : K) : Amount :=
  (token.allowances.get owner).get spender

variable [Std.TransOrd K] [Std.LawfulEqOrd K] [DecidableEq K]

/-- Creates units. The supply is raised before the balance is. -/
def mint (token : TokenLedger K) (receiver : K) (amount : Amount) :
    TokenLedger K × Except LendingError Unit :=
  match token.supply.add? amount with
  | none => (token, .error .mathOverflow)
  | some supply =>
    let raised := { token with supply := supply }
    match (raised.balanceOf receiver).add? amount with
    | none => (raised, .error .mathOverflow)
    | some balance => ({ raised with balances := raised.balances.set receiver balance }, .ok ())

/-- Sets what `spender` may move of the balance of `owner`. -/
def approve (token : TokenLedger K) (owner spender : K) (amount : Amount) : TokenLedger K :=
  { token with
    allowances := token.allowances.set owner ((token.allowances.get owner).set spender amount) }

/-- Moves units between balances. A move of an account to itself changes nothing, but the account
has to hold the amount. -/
def moved (token : TokenLedger K) (source target : K) (amount : Amount) :
    Except LendingError (TokenLedger K) :=
  match (token.balanceOf source).sub? amount with
  | none => .error .transferFailed
  | some rest =>
    if source = target then .ok token
    else
      match (token.balanceOf target).add? amount with
      | none => .error .transferFailed
      | some sum => .ok { token with balances := (token.balances.set source rest).set target sum }

/-- Keeps the ledger where an operation on it was refused. -/
def commit (token : TokenLedger K) (outcome : Except LendingError (TokenLedger K)) :
    TokenLedger K × Except LendingError Unit :=
  match outcome with
  | .ok next => (next, .ok ())
  | .error error => (token, .error error)

/-- Moves units at the request of the account that holds them. -/
def transfer (token : TokenLedger K) (source target : K) (amount : Amount) :
    TokenLedger K × Except LendingError Unit :=
  token.commit (token.moved source target amount)

/-- Moves units at the request of a spender. An owner who spends needs no allowance and uses none
up. -/
def transferFrom (token : TokenLedger K) (spender owner target : K) (amount : Amount) :
    TokenLedger K × Except LendingError Unit :=
  if spender = owner then token.transfer owner target amount
  else
    match (token.allowance owner spender).sub? amount with
    | none => (token, .error .transferFailed)
    | some rest =>
      token.commit ((token.moved owner target amount).map fun next =>
        next.approve owner spender rest)

end TokenLedger

end CollateralLending
