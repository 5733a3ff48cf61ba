import MicroCoin.Decimal
import MicroCoin.Models
import MicroCoin.Limitbook.Heap
import MicroCoin.Limitbook.Book
import MicroCoin.Limitbook.Match
import MicroCoin.Limitbook.Loop
import MicroCoin.Limitbook.Fills
import MicroCoin.Limitbook.Reachable
import MicroCoin.Database
import MicroCoin.Ledger.Service
import MicroCoin.Ledger.Concurrent
import MicroCoin.Ledger.Solvency
import MicroCoin.Orders.Service
import MicroCoin.Orders.Outcome
import MicroCoin.Orders.Coverage
import MicroCoin.Handlers
import MicroCoin.Auth.Base64
import MicroCoin.Auth.Password
import MicroCoin.Rate.Limiter
import MicroCoin.Quotes.Service
import MicroCoin.Ledger.Journal
import MicroCoin.Auth.Users
import MicroCoin.Ledger.Funding
import MicroCoin.Server
import MicroCoin.Router
import MicroCoin.Reads
