import Courier.Argument.List
import Courier.Argument.Named
import Courier.AttemptBudget
import Courier.Backoff
import Courier.Client
import Courier.CommandLine.Plan
import Courier.Config.Load
import Courier.Double.Reader
import Courier.Duration
import Courier.Http.Progress
import Courier.Json.Printer
import Courier.Json.Written
import Courier.Main
import Courier.Node.Basic
import Courier.Operation.Market
import Courier.Operation.Staking
import Courier.Operation.Token
import Courier.Policy
import Courier.Proofs.Argument.HashForms
import Courier.Proofs.Argument.History
import Courier.Proofs.Argument.List
import Courier.Proofs.Argument.Named
import Courier.Proofs.Argument.NamedForms
import Courier.Proofs.Argument.ValueForms
import Courier.Proofs.AttemptBudget
import Courier.Proofs.Backoff
import Courier.Proofs.Client.Execution
import Courier.Proofs.Client.Trips
import Courier.Proofs.CommandLine.Calls
import Courier.Proofs.CommandLine.Confirmations
import Courier.Proofs.CommandLine.Receipts
import Courier.Proofs.CommandLine.Words
import Courier.Proofs.Config.Overrides
import Courier.Proofs.Config.Rules
import Courier.Proofs.Config.Service
import Courier.Proofs.Dialogue.Yields
import Courier.Proofs.Draft
import Courier.Proofs.Envelope
import Courier.Proofs.Hex.Reading
import Courier.Proofs.Json.ReadBack
import Courier.Proofs.Node.Exchange
import Courier.Proofs.Node.Health
import Courier.Proofs.Node.Outcome
import Courier.Proofs.Node.Post
import Courier.Proofs.Node.Query
import Courier.Proofs.Node.State
import Courier.Proofs.Numeral.Reading
import Courier.Proofs.Operation.Identifier
import Courier.Proofs.Operation.Request
import Courier.Proofs.Operation.Sent
import Courier.Proofs.Relay.Alone
import Courier.Proofs.Relay.Attempts
import Courier.Proofs.Relay.Call
import Courier.Proofs.Relay.Cancellation
import Courier.Proofs.Relay.Ceiling
import Courier.Proofs.Relay.Confirm
import Courier.Proofs.Relay.Counts
import Courier.Proofs.Relay.Finding
import Courier.Proofs.Relay.Heed
import Courier.Proofs.Relay.Independence
import Courier.Proofs.Relay.Pauses
import Courier.Proofs.Relay.Receipts
import Courier.Proofs.Relay.Retries
import Courier.Proofs.Relay.Script
import Courier.Proofs.Relay.SideBySide
import Courier.Proofs.Relay.Wait
import Courier.Proofs.Shutdown
import Courier.Proofs.Shutdown.Lineage
import Courier.Proofs.Shutdown.Waiting
import Courier.Proofs.TimeToLive
import Courier.Rehearsal
import Courier.Relay
import Courier.Request
import Courier.Shutdown
import Courier.SocketAddress
import Courier.Text.Cut
import Courier.Toml.Reader
import Courier.Url.Reader
