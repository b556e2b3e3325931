import CollateralLending.Word
import CollateralLending.Table
import CollateralLending.Table.Lemmas
import CollateralLending.Error
import CollateralLending.Price.FixedRate
import CollateralLending.Price.Oracle
import CollateralLending.Feed.PriceFeed
import CollateralLending.Event
import CollateralLending.Lending.Record
import CollateralLending.Lending.Settlement
import CollateralLending.Lending.Ledger
import CollateralLending.Lending.LedgerVault
import CollateralLending.Lending.Vault
import CollateralLending.Token.TokenLedger
import CollateralLending.Share.ShareVault
import CollateralLending.PublicKey
import CollateralLending.AccountError
import CollateralLending.Wire.Hex
import CollateralLending.Wire.Codec
import CollateralLending.Wire.Layout
import CollateralLending.Chain.Address
import CollateralLending.Chain.Address.Text
import CollateralLending.Chain.Deployment
import CollateralLending.Chain.Failure
import CollateralLending.Chain.Account
import CollateralLending.Chain.TokenAccount
import CollateralLending.Chain.AddressBook
import CollateralLending.Chain.System
import CollateralLending.Chain.Tokens
import CollateralLending.Chain.Transaction
import CollateralLending.Chain.FeedProgram
import CollateralLending.Chain.LendingProgram
import CollateralLending.Chain.ShareProgram
import CollateralLending.Chain.Instruction
import CollateralLending.Proofs.Outcome
import CollateralLending.Proofs.Sums
import CollateralLending.Proofs.Portions
import CollateralLending.Proofs.Wire.Codecs
import CollateralLending.Proofs.Wire.Accounts
import CollateralLending.Proofs.Wire.Values
import CollateralLending.Proofs.Chain.Yields
import CollateralLending.Proofs.Chain.Failures
import CollateralLending.Proofs.Chain.Calls
import CollateralLending.Proofs.Chain.TokenCalls
import CollateralLending.Proofs.Chain.FeedProgram
import CollateralLending.Proofs.Chain.LendingProgram
import CollateralLending.Proofs.Chain.ShareProgram
import CollateralLending.Proofs.Chain.Run
import CollateralLending.Proofs.Chain.Records
import CollateralLending.Proofs.Chain.Steps
import CollateralLending.Proofs.Chain.Holdings
import CollateralLending.Proofs.Chain.TokenSupply
import CollateralLending.Proofs.Lending.Settlements
import CollateralLending.Proofs.Price.Worth
import CollateralLending.Proofs.Price.Conversion
import CollateralLending.Proofs.Lending.Acceptance
import CollateralLending.Proofs.Lending.Health
import CollateralLending.Proofs.Lending.Instalments
import CollateralLending.Proofs.Lending.Repayment
import CollateralLending.Proofs.Lending.Books
import CollateralLending.Proofs.Lending.LedgerRun
import CollateralLending.Proofs.Lending.Pools
import CollateralLending.Proofs.Lending.Effect
import CollateralLending.Proofs.Lending.TotalsMove
import CollateralLending.Proofs.Lending.Reached
import CollateralLending.Proofs.Lending.Backing
import CollateralLending.Proofs.Lending.Totals
import CollateralLending.Proofs.Lending.Authority
import CollateralLending.Proofs.Lending.VaultRun
import CollateralLending.Proofs.Lending.Operations
import CollateralLending.Proofs.Lending.PriceGate
import CollateralLending.Proofs.Lending.Coverage
import CollateralLending.Proofs.Lending.PoolAccounts
import CollateralLending.Proofs.Lending.History
import CollateralLending.Proofs.Lending.Simulation
import CollateralLending.Proofs.Lending.Exits
import CollateralLending.Proofs.Token.Supply
import CollateralLending.Proofs.Token.Flows
import CollateralLending.Proofs.Token.Run
import CollateralLending.Proofs.Token.Conservation
import CollateralLending.Proofs.Token.Spending
import CollateralLending.Proofs.Lending.Transfers
import CollateralLending.Proofs.Lending.Undoing
import CollateralLending.Proofs.Lending.AllOrNothing
import CollateralLending.Proofs.Lending.Isolation
import CollateralLending.Proofs.Lending.Quotes
import CollateralLending.Proofs.Share.Conversions
import CollateralLending.Proofs.Share.Prices
import CollateralLending.Proofs.Share.Splitting
import CollateralLending.Proofs.Share.RoundTrip
import CollateralLending.Proofs.Share.Issuance
import CollateralLending.Proofs.Share.Standing
import CollateralLending.Proofs.Share.Solvency
import CollateralLending.Proofs.Share.Payments
import CollateralLending.Proofs.Share.Redemption
import CollateralLending.Proofs.Share.Tracking
import CollateralLending.Proofs.Share.Dealings
import CollateralLending.Proofs.Feed.Frame
import CollateralLending.Proofs.Feed.Usable
import CollateralLending.Proofs.Feed.Staleness
import CollateralLending.Proofs.Feed.Age
import CollateralLending.Proofs.Lending.DebtPool
import CollateralLending.Proofs.Lending.DebtAccount
import CollateralLending.Proofs.Lending.Separation
import CollateralLending.Proofs.Lending.Binding
