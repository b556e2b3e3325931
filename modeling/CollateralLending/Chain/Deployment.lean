/-
  CollateralLending.Chain.Deployment

  Where programs live, and the words they derive addresses from. A program
  lives at a key: the three programs of this library, and those that every chain
  has, at the keys written here in base 58. A chain has further keys of its own
  that belong to no program. An address is derived by one program from one of
  its words and the address it belongs to, so two programs may use the same
  word.
-/
import CollateralLending.PublicKey

namespace CollateralLending.Deployment

/-! ## Programs -/

/-- The key of the lending program. -/
def lendingProgram : String := "Gv7sAYAW7YfiZWD8eY2nuCPKZA3ZJRPfoF7ENt5AXxGq"

/-- The key of the price feed program. -/
def feedProgram : String := "HZNRTXmAMPURf2CSrn22FaLh3NF959gqxHk8oBEpG9YJ"

/-- The key of the share vault program. -/
def shareProgram : String := "Ehe6zHt41fpkPFefxC8Bn8tSnEAF5Z3MhvFy8sWuksLR"

/-! ## Keys that every chain has -/

/-- The key of the token program. -/
def tokenProgram : String := "TokenkegQfeZyiNwAJbNbGKPFXCWuBvf9Ss623VQ5DA"

/-- The key of the program of associated token accounts. -/
def associatedTokenProgram : String := "ATokenGPvbdGVxr1b2hvZbsiqW5xWH25efTNsLJA8knL"

/-- The key of the system variable that holds the rent rates. -/
def rentSysvar : String := "SysvarRent111111111111111111111111111111111"

/-- The key that owns the programs. -/
def loader : PublicKey :=
  (PublicKey.ofBase58? "NativeLoader1111111111111111111111111111111").getD .zero

/-- The key that owns the system variables. -/
def sysvars : PublicKey :=
  (PublicKey.ofBase58? "Sysvar1111111111111111111111111111111111111").getD .zero

/-- The key whose holdings count as destroyed: nobody can sign for it. -/
def incinerator : PublicKey :=
  (PublicKey.ofBase58? "1nc1nerator11111111111111111111111111111111").getD .zero

/-! ## Words of the lending program -/

/-- For the vault of a debt token. -/
def vaultSeed : String := "vault"

/-- For the collateral pool of a vault. -/
def collateralSeed : String := "collateral"

/-- For the debt pool of a vault. -/
def debtVaultSeed : String := "debt_vault"

/-- For the position of a user in a vault. -/
def positionSeed : String := "position"

/-! ## Words of the share vault program -/

/-- For the share vault of an underlying token. -/
def shareVaultSeed : String := "share_vault"

/-- For the share token of a share vault. -/
def shareMintSeed : String := "shares"

/-- For the pool of a share vault. -/
def sharePoolSeed : String := "vault"

end CollateralLending.Deployment
