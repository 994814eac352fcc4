import Loyalty.Accrual.Gateway
import Loyalty.Accrual.Interval
import Loyalty.Accrual.Outcome
import Loyalty.Accrual.Teardown
import Loyalty.Accrual.Worker
import Loyalty.Balance
import Loyalty.Binary64.Basic
import Loyalty.Binary64.Shortest
import Loyalty.Compress.Bits
import Loyalty.Compress.Crc32
import Loyalty.Compress.Gzip
import Loyalty.Compress.Huffman
import Loyalty.Compress.Inflate
import Loyalty.Config
import Loyalty.Crypto.Argon2
import Loyalty.Crypto.Blake2b
import Loyalty.Crypto.Bytes
import Loyalty.Crypto.Sha256
import Loyalty.Decimal.Basic
import Loyalty.Decimal.Text
import Loyalty.Document.Model
import Loyalty.Document.Request
import Loyalty.Document.Response
import Loyalty.Error
import Loyalty.Http.App
import Loyalty.Http.Bearer
import Loyalty.Http.Body
import Loyalty.Http.Failure
import Loyalty.Http.Media
import Loyalty.Http.Message
import Loyalty.Http.Negotiation
import Loyalty.Http.Resource
import Loyalty.Http.Status
import Loyalty.Http.Wire
import Loyalty.Instant.Basic
import Loyalty.Instant.Text
import Loyalty.Json.Amount
import Loyalty.Json.Basic
import Loyalty.Json.Reader
import Loyalty.Json.Record
import Loyalty.Json.Strict
import Loyalty.Json.Token
import Loyalty.Json.Writer
import Loyalty.Luhn
import Loyalty.Main
import Loyalty.Order
import Loyalty.OrderNumber
import Loyalty.Password.Basic
import Loyalty.Password.Phc
import Loyalty.Program
import Loyalty.Proofs.Accrual.Amounts
import Loyalty.Proofs.Accrual.Answers
import Loyalty.Proofs.Accrual.Cell
import Loyalty.Proofs.Accrual.Cooldown
import Loyalty.Proofs.Accrual.Stage
import Loyalty.Proofs.Accrual.Visits
import Loyalty.Proofs.Background.Basic
import Loyalty.Proofs.Background.Dues
import Loyalty.Proofs.Background.Teardown
import Loyalty.Proofs.Balance
import Loyalty.Proofs.Balance.Cents
import Loyalty.Proofs.Database.Agreement
import Loyalty.Proofs.Database.Conservation
import Loyalty.Proofs.Database.Debit
import Loyalty.Proofs.Database.Exchanges
import Loyalty.Proofs.Database.Limits
import Loyalty.Proofs.Database.Sequential
import Loyalty.Proofs.Database.Server
import Loyalty.Proofs.Database.Tables
import Loyalty.Proofs.Database.Transfers
import Loyalty.Proofs.Database.Undisturbed
import Loyalty.Proofs.Decimal.Round
import Loyalty.Proofs.Decimal.Sum
import Loyalty.Proofs.Decimal.Text
import Loyalty.Proofs.Decimal.Value
import Loyalty.Proofs.Document.Kind
import Loyalty.Proofs.Document.Normal
import Loyalty.Proofs.Http.Bearer
import Loyalty.Proofs.Http.Isolation
import Loyalty.Proofs.Http.Protected
import Loyalty.Proofs.Http.Serving
import Loyalty.Proofs.Http.Withdrawal
import Loyalty.Proofs.Instant.Calendar
import Loyalty.Proofs.Instant.Text
import Loyalty.Proofs.Json.Machine
import Loyalty.Proofs.Json.Quotes
import Loyalty.Proofs.Json.Record
import Loyalty.Proofs.Json.Refusal
import Loyalty.Proofs.Json.Token
import Loyalty.Proofs.Luhn
import Loyalty.Proofs.Memory.Index
import Loyalty.Proofs.Memory.Ledger
import Loyalty.Proofs.Memory.Listings
import Loyalty.Proofs.Memory.Numbers
import Loyalty.Proofs.Memory.Orders
import Loyalty.Proofs.Memory.Refusals
import Loyalty.Proofs.Memory.Trace
import Loyalty.Proofs.Memory.Users
import Loyalty.Proofs.Memory.View
import Loyalty.Proofs.OrderNumber
import Loyalty.Proofs.Password.Stored
import Loyalty.Proofs.Program
import Loyalty.Proofs.Retry.Course
import Loyalty.Proofs.Retry.Schedule
import Loyalty.Proofs.Service.Registration
import Loyalty.Proofs.Service.Withdrawal
import Loyalty.Proofs.Shutdown
import Loyalty.Proofs.Shutdown.Listeners
import Loyalty.Proofs.Shutdown.Runs
import Loyalty.Proofs.Store.Budget
import Loyalty.Proofs.Store.Retrying
import Loyalty.Proofs.System.Accounts
import Loyalty.Proofs.System.Basic
import Loyalty.Proofs.System.Credits
import Loyalty.Proofs.System.Finality
import Loyalty.Proofs.System.FirstSubmitter
import Loyalty.Proofs.System.Following
import Loyalty.Proofs.System.Registration
import Loyalty.Proofs.System.Requests
import Loyalty.Proofs.System.Submissions
import Loyalty.Proofs.System.Web
import Loyalty.Proofs.Text.Base64
import Loyalty.Proofs.Text.Blank
import Loyalty.Proofs.Text.Utf8
import Loyalty.Proofs.Token.Accepted
import Loyalty.Proofs.Token.Audience
import Loyalty.Proofs.Token.Issued
import Loyalty.Proofs.Token.Parts
import Loyalty.Proofs.Token.Registered
import Loyalty.Proofs.Uuid
import Loyalty.Retry
import Loyalty.Service.Account
import Loyalty.Service.Ledger
import Loyalty.Service.Orders
import Loyalty.Service.Schemes
import Loyalty.Service.UseCase
import Loyalty.Shutdown
import Loyalty.Shutdown.Wait
import Loyalty.Simulation.Clock
import Loyalty.Simulation.Offline
import Loyalty.Simulation.Retry
import Loyalty.Simulation.Session
import Loyalty.Simulation.World
import Loyalty.Store.Call
import Loyalty.Store.Database.Address
import Loyalty.Store.Database.Calls
import Loyalty.Store.Database.Failure
import Loyalty.Store.Database.Host
import Loyalty.Store.Database.Row
import Loyalty.Store.Database.Statement
import Loyalty.Store.Memory
import Loyalty.Store.Retrying
import Loyalty.Store.Table
import Loyalty.Text.Base64
import Loyalty.Text.Blank
import Loyalty.Text.Digits
import Loyalty.Text.Hex
import Loyalty.Text.Percent
import Loyalty.Text.Utf8
import Loyalty.Token.Claims
import Loyalty.Token.Key
import Loyalty.Token.Registered
import Loyalty.Token.Signed
import Loyalty.User
import Loyalty.Uuid
import Loyalty.Watch
