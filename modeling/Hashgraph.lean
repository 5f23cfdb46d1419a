import Hashgraph.Advancement
import Hashgraph.Ancestry
import Hashgraph.Bytes
import Hashgraph.Checked
import Hashgraph.ChildlessEvents
import Hashgraph.CommandLine.Arguments
import Hashgraph.CommandLine.Program
import Hashgraph.Consensus
import Hashgraph.Creation.Counters
import Hashgraph.Creation.Creator
import Hashgraph.Creation.Settings
import Hashgraph.Decimal.Binary
import Hashgraph.Decimal.Quick
import Hashgraph.Decimal.Shortest
import Hashgraph.Decimal.Text
import Hashgraph.Digest.Blake3
import Hashgraph.Digest.Sha512
import Hashgraph.Digest.WordSquare
import Hashgraph.Document
import Hashgraph.Document.Decode
import Hashgraph.Document.Ini
import Hashgraph.Document.Json
import Hashgraph.Document.Json5
import Hashgraph.Document.Number
import Hashgraph.Document.Ron
import Hashgraph.Document.Toml.Key
import Hashgraph.Document.Toml.Quoted
import Hashgraph.Document.Toml.Reader
import Hashgraph.Document.Toml.Scalar
import Hashgraph.Document.Toml.Tree
import Hashgraph.Document.Toml05.Reader
import Hashgraph.Document.Toml05.Scalar
import Hashgraph.Document.Toml05.Section
import Hashgraph.Document.Yaml.Cursor
import Hashgraph.Document.Yaml.Lexer
import Hashgraph.Document.Yaml.Node
import Hashgraph.Document.Yaml.Reader
import Hashgraph.Document.Yaml.Scalar
import Hashgraph.Document.Yaml.Token
import Hashgraph.Event
import Hashgraph.Event.Hash
import Hashgraph.EventWindow
import Hashgraph.Interchange
import Hashgraph.Main
import Hashgraph.Metrics.Exposition
import Hashgraph.Network
import Hashgraph.Network.Live
import Hashgraph.Network.Report
import Hashgraph.Network.Simulation
import Hashgraph.Node.Counters
import Hashgraph.Node.HoldBuffer
import Hashgraph.Node.Manager
import Hashgraph.Node.Rule
import Hashgraph.Node.Service
import Hashgraph.Node.Status
import Hashgraph.Node.TransactionPool
import Hashgraph.NodeId
import Hashgraph.Progress
import Hashgraph.Random.Draw
import Hashgraph.Random.Stream
import Hashgraph.Roster
import Hashgraph.Saturating
import Hashgraph.Scenario.Cast
import Hashgraph.Scenario.Fault
import Hashgraph.Scenario.Field
import Hashgraph.Scenario.Parts
import Hashgraph.Scenario.Script
import Hashgraph.Scenario.View
import Hashgraph.Seat
import Hashgraph.Settings.FieldPattern
import Hashgraph.Settings.KeyPath
import Hashgraph.Settings.LogFilter
import Hashgraph.Settings.Node
import Hashgraph.Settings.PatternNesting
import Hashgraph.Settings.Sources
import Hashgraph.Signing.Curve
import Hashgraph.Signing.Ed25519
import Hashgraph.Signing.Signer
import Hashgraph.Table
import Hashgraph.Time.Instant
import Hashgraph.Tipset
import Hashgraph.Unicode.Bounds
import Hashgraph.Unicode.Class
import Hashgraph.Proofs.Accounts
import Hashgraph.Proofs.Accumulator
import Hashgraph.Proofs.AdvancementLaws
import Hashgraph.Proofs.Agreement
import Hashgraph.Proofs.AncestryRun
import Hashgraph.Proofs.BestParent
import Hashgraph.Proofs.Branches
import Hashgraph.Proofs.Burst
import Hashgraph.Proofs.CandidateOrder
import Hashgraph.Proofs.Candidates
import Hashgraph.Proofs.Chance
import Hashgraph.Proofs.ChildlessTips
import Hashgraph.Proofs.ConsensusRun
import Hashgraph.Proofs.CreatorRun
import Hashgraph.Proofs.DeadEvents
import Hashgraph.Proofs.Delivery
import Hashgraph.Proofs.Draining
import Hashgraph.Proofs.Freezing
import Hashgraph.Proofs.FreshStart
import Hashgraph.Proofs.GainMeaning
import Hashgraph.Proofs.Gains
import Hashgraph.Proofs.GenerationOrder
import Hashgraph.Proofs.Generations
import Hashgraph.Proofs.HashedBytes
import Hashgraph.Proofs.HighestTips
import Hashgraph.Proofs.Holding
import Hashgraph.Proofs.HoldingList
import Hashgraph.Proofs.Improvement
import Hashgraph.Proofs.LastRounds
import Hashgraph.Proofs.LatestNumbers
import Hashgraph.Proofs.LegalCandidates
import Hashgraph.Proofs.Liveness
import Hashgraph.Proofs.LoneMember
import Hashgraph.Proofs.ManagerRun
import Hashgraph.Proofs.MergeLaws
import Hashgraph.Proofs.NetworkLiveness
import Hashgraph.Proofs.NetworkRun
import Hashgraph.Proofs.NewEvents
import Hashgraph.Proofs.News
import Hashgraph.Proofs.Numbering
import Hashgraph.Proofs.OrderNumbers
import Hashgraph.Proofs.OwnTip
import Hashgraph.Proofs.PityDraw
import Hashgraph.Proofs.Pruning
import Hashgraph.Proofs.RateLimit
import Hashgraph.Proofs.Refusals
import Hashgraph.Proofs.Replay
import Hashgraph.Proofs.Retention
import Hashgraph.Proofs.RosterEntries
import Hashgraph.Proofs.RoundProgress
import Hashgraph.Proofs.SelfChain
import Hashgraph.Proofs.Selfishness
import Hashgraph.Proofs.SharedWindow
import Hashgraph.Proofs.SimulationRun
import Hashgraph.Proofs.Snapshots
import Hashgraph.Proofs.Tallies
import Hashgraph.Proofs.Telescope
import Hashgraph.Proofs.TransactionFlow
import Hashgraph.Proofs.TransactionTimes
import Hashgraph.Proofs.Youth
