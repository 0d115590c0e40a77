import SharedState.About
import SharedState.Address
import SharedState.Address.Ipv6
import SharedState.Address.Url
import SharedState.Answer
import SharedState.Bus
import SharedState.Call
import SharedState.Endpoint
import SharedState.Engine
import SharedState.Fault
import SharedState.Handles
import SharedState.Hashes
import SharedState.InProcess
import SharedState.IndexRange
import SharedState.KeyValue
import SharedState.Lists
import SharedState.Mailbox
import SharedState.Message
import SharedState.Ranking
import SharedState.Rankings
import SharedState.Reader
import SharedState.Remote.Dialogue
import SharedState.Remote.Feed
import SharedState.Remote.Link
import SharedState.Remote.Reply
import SharedState.Remote.Session
import SharedState.Remote.Setup
import SharedState.Request
import SharedState.Run
import SharedState.Score
import SharedState.Score.Reading
import SharedState.Score.Shortest
import SharedState.Score.Text
import SharedState.Sets
import SharedState.Settings
import SharedState.Settings.Variables
import SharedState.Shards
import SharedState.Sorted
import SharedState.Store
import SharedState.Sweeper
import SharedState.Table
import SharedState.Tended
import SharedState.Text.Blank
import SharedState.Text.Decimal
import SharedState.Text.Elapsed
import SharedState.Text.Hex
import SharedState.Text.Percent
import SharedState.Text.Positional
import SharedState.Text.Printable
import SharedState.Text.Quoted
import SharedState.Text.Record
import SharedState.Text.Utf8
import SharedState.Time
import SharedState.Timer
import SharedState.Workload
import SharedState.Proofs.Address.RoundTrip
import SharedState.Proofs.Address.Spellings
import SharedState.Proofs.Bus.Consistency
import SharedState.Proofs.Bus.Receivers
import SharedState.Proofs.Bus.Registry
import SharedState.Proofs.Bus.Roster
import SharedState.Proofs.Bus.Streams
import SharedState.Proofs.Bus.Traffic
import SharedState.Proofs.Bus.WakeUps
import SharedState.Proofs.Collections
import SharedState.Proofs.Distinct
import SharedState.Proofs.Engine.Containers
import SharedState.Proofs.Engine.Flushing
import SharedState.Proofs.Engine.Lifetimes
import SharedState.Proofs.Engine.Locking
import SharedState.Proofs.Engine.Places
import SharedState.Proofs.Engine.Reclaiming
import SharedState.Proofs.Engine.Sharding
import SharedState.Proofs.Engine.Staleness
import SharedState.Proofs.Handles
import SharedState.Proofs.InProcess.Capacity
import SharedState.Proofs.IndexRange
import SharedState.Proofs.Interleaving
import SharedState.Proofs.KeyValue.Conservation
import SharedState.Proofs.KeyValue.Lapsing
import SharedState.Proofs.KeyValue.Vanishing
import SharedState.Proofs.Lists.History
import SharedState.Proofs.Lists.Sequences
import SharedState.Proofs.Rankings.Pages
import SharedState.Proofs.Rankings.Placement
import SharedState.Proofs.Rankings.Standings
import SharedState.Proofs.Rankings.Ties
import SharedState.Proofs.Remote.Calls
import SharedState.Proofs.Remote.Feeds
import SharedState.Proofs.Remote.Lifetimes
import SharedState.Proofs.Remote.Subscriptions
import SharedState.Proofs.Settings.Numerals
import SharedState.Proofs.Settings.Rejections
import SharedState.Proofs.Settings.Secrecy
import SharedState.Proofs.Shards
import SharedState.Proofs.Sweeper
import SharedState.Proofs.Tended.Lifecycle
import SharedState.Proofs.Tended.Owners
import SharedState.Proofs.Tended.Released
import SharedState.Proofs.Time
import SharedState.Proofs.Totals
import SharedState.Proofs.Workload.Calls
import SharedState.Proofs.Workload.Moves
import SharedState.Proofs.Workload.Outcomes
import SharedState.Proofs.Workload.Schedules
