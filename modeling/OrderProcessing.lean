import OrderProcessing.Library.Machine
import OrderProcessing.Library.Keyed
import OrderProcessing.Library.Word
import OrderProcessing.Library.Rounding
import OrderProcessing.Library.Program
import OrderProcessing.Library.ReadCommitted
import OrderProcessing.Library.Serializability
import OrderProcessing.Library.CommitLog
import OrderProcessing.Library.LockOrder
import OrderProcessing.Library.Channel
import OrderProcessing.Library.Scatter
import OrderProcessing.Models
import OrderProcessing.Ledger
import OrderProcessing.Repository.Database
import OrderProcessing.Repository.Order
import OrderProcessing.Repository.Product
import OrderProcessing.Repository.Effects
import OrderProcessing.Repository.Refinement
import OrderProcessing.Repository.Outcome
import OrderProcessing.Repository.Footprint
import OrderProcessing.Repository.Isolation
import OrderProcessing.Repository.Accounting
import OrderProcessing.Services.Order
import OrderProcessing.Services.CartKey
import OrderProcessing.Services.CreateOrder
import OrderProcessing.Services.Money
import OrderProcessing.Repository.LockOrder
import OrderProcessing.Repository.Deadlock
import OrderProcessing.Services.Product
import OrderProcessing.Services.Listing
import OrderProcessing.Services.Fulfillment
import OrderProcessing.Services.Charge
import OrderProcessing.Services.Backoff
import OrderProcessing.Payment.FakeGateway
import OrderProcessing.Idempotency.RedisStore
import OrderProcessing.Backend
import OrderProcessing.Backend.Invariant
import OrderProcessing.Backend.Coherence
import OrderProcessing.Backend.Conservation
import OrderProcessing.Backend.Charging
import OrderProcessing.Backend.Cancellation
import OrderProcessing.Backend.Deduplication
import OrderProcessing.Backend.Rejection
import OrderProcessing.Backend.StockEdit
import OrderProcessing.Backend.Release
import OrderProcessing.Backend.Placing
import OrderProcessing.Backend.Notification
import OrderProcessing.Backend.Retry
import OrderProcessing.Backend.Replicas
import OrderProcessing.Backend.Browsing
import OrderProcessing.Workers.Pool
import OrderProcessing.Workers.Drain
import OrderProcessing.Server.Completion
import OrderProcessing.Server.Shutdown
import OrderProcessing.Workers.Sweep
import OrderProcessing.Workers.Reclaim
import OrderProcessing.Workers.Settlement
import OrderProcessing.Workers.Recovery
import OrderProcessing.Ws.Hub
import OrderProcessing.Ws.Connections
import OrderProcessing.Ws.FanOut
import OrderProcessing.Ws.Placement
import OrderProcessing.Ws.Stream
import OrderProcessing.Ws.Invariant
import OrderProcessing.Api.Auth
import OrderProcessing.Services.User
import OrderProcessing.Services.Profile
import OrderProcessing.Api.Router
import OrderProcessing.Api.Provenance
import OrderProcessing.Api.Answers
import OrderProcessing.Services.Notification
import OrderProcessing.Api.WebSocket
import OrderProcessing.Deployment
import OrderProcessing.Deployment.Wiring
import OrderProcessing.Ws.Progress
import OrderProcessing.Deployment.Ownership
import OrderProcessing.Deployment.Delivery
import OrderProcessing.Deployment.Replay
import OrderProcessing.Deployment.Stream
