import Couponry.Config
import Couponry.Json.Respell
import Couponry.Rehearsal
import Couponry.Sql.Coupons
import Couponry.Sql.Products
import Couponry.Sql.Script
import Couponry.Text.Replace
import Couponry.Proofs.Ledger.Counter
import Couponry.Proofs.Ledger.Effect
import Couponry.Proofs.Ledger.WellFormed
import Couponry.Proofs.Ledger.Accounting
import Couponry.Proofs.Coupon.Prediction
import Couponry.Proofs.Program.Follows
import Couponry.Proofs.Purchase.Course
import Couponry.Proofs.Purchase.Following
import Couponry.Proofs.Purchase.Market
import Couponry.Proofs.Ledger.Later
import Couponry.Proofs.Purchase.Transactions
import Couponry.Proofs.Purchase.Holding
import Couponry.Proofs.Purchase.Turn
import Couponry.Proofs.Purchase.Conservation
import Couponry.Proofs.Ledger.Spared
import Couponry.Proofs.Purchase.Sale
import Couponry.Proofs.Purchase.Quota
import Couponry.Proofs.Text.Percent
import Couponry.Proofs.Text.Numeral
import Couponry.Proofs.Text.Form
import Couponry.Proofs.Text.Blank
import Couponry.Proofs.Http.Path
import Couponry.Proofs.Http.Target
import Couponry.Proofs.Http.Address
import Couponry.Proofs.Http.Base
import Couponry.Proofs.Http.Caller
import Couponry.Proofs.Http.Exchange
import Couponry.Proofs.Http.Transparent
import Couponry.Proofs.Json.Token
import Couponry.Proofs.Json.Reading
import Couponry.Proofs.Json.Record
import Couponry.Proofs.Time.Calendar
import Couponry.Proofs.Time.Rfc3339
import Couponry.Proofs.Wire.Faithful
import Couponry.Proofs.Ledger.Fits
import Couponry.Proofs.Network.Tally
import Couponry.Proofs.Network.Quiet
import Couponry.Proofs.Network.Redeeming
import Couponry.Proofs.Network.Attempt
import Couponry.Proofs.Network.Shop
import Couponry.Proofs.Network.Reported
import Couponry.Proofs.Sql.Keyed
import Couponry.Proofs.Sql.Server
import Couponry.Proofs.Sql.Shelf
import Couponry.Proofs.Sql.Changes
import Couponry.Proofs.Sql.Statements
import Couponry.Proofs.Sql.Lookups
import Couponry.Proofs.Sql.Sessions
import Couponry.Proofs.Sql.Calls
import Couponry.Proofs.Sql.Mirror
import Couponry.Proofs.Sql.History
import Couponry.Proofs.Sql.Agreement
import Couponry.Proofs.Sql.Stores
import Couponry.Proofs.Ledger.Representation
import Couponry.Proofs.Coupon.Permanence
import Couponry.Proofs.Http.Authority
import Couponry.Proofs.Program.Conversation
import Couponry.Proofs.Program.Steps
import Couponry.Proofs.Sql.Writes
import Couponry.Proofs.Sql.Discipline
import Couponry.Proofs.Json.Decoded
import Couponry.Proofs.Time.Parsed
import Couponry.Proofs.Wire.Stable
import Couponry.Proofs.Wire.Lossless
import Couponry.Proofs.Coupon.Alone
import Couponry.Proofs.Coupon.Desk
import Couponry.Proofs.Ledger.Stock
import Couponry.Proofs.Purchase.Alone
import Couponry.Proofs.Purchase.Exact
import Couponry.Proofs.Purchase.Metrics
import Couponry.Proofs.Purchase.Protocol
import Couponry.Proofs.Ledger.Frame
import Couponry.Proofs.Coupon.Commuting
import Couponry.Proofs.Coupon.Decision
import Couponry.Proofs.Coupon.Generation
import Couponry.Proofs.Purchase.Isolation
import Couponry.Proofs.Ledger.History
import Couponry.Proofs.Sql.Stored
import Couponry.Proofs.Purchase.Prices
