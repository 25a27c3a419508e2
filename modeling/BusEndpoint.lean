import BusEndpoint.Configuration
import BusEndpoint.Duration
import BusEndpoint.Endpoint
import BusEndpoint.Identifier
import BusEndpoint.Json.Reader
import BusEndpoint.Message.Inbound
import BusEndpoint.Message.Outgoing
import BusEndpoint.MessageType
import BusEndpoint.Proofs.Attempt.Cancellation
import BusEndpoint.Proofs.Attempt.Erasure
import BusEndpoint.Proofs.Attempt.Outcome
import BusEndpoint.Proofs.Attempt.Transactions
import BusEndpoint.Proofs.Start.Once
import BusEndpoint.Proofs.Sqs.Batches
import BusEndpoint.Proofs.Messages.RoundTrip
import BusEndpoint.Proofs.Recovery.Counters
import BusEndpoint.Proofs.Recovery.Decisions
import BusEndpoint.Proofs.Recovery.Watching
import BusEndpoint.Proofs.Transport.Sending
import BusEndpoint.Redelivery
import BusEndpoint.Scripted.Engine
import BusEndpoint.Scripted.Handler
import BusEndpoint.Scripted.Message
import BusEndpoint.Scripted.Transactions
import BusEndpoint.ServiceRegistry
import BusEndpoint.Sqs.Trigger
import BusEndpoint.Task.Rounds
import BusEndpoint.Proofs.Logging.Operations
import BusEndpoint.Proofs.Logging.Order
import BusEndpoint.Proofs.Logging.Destination
import BusEndpoint.Proofs.Task.LastPoll
import BusEndpoint.Proofs.Delivery.Processing
import BusEndpoint.Proofs.Delivery.Contents
import BusEndpoint.Proofs.Delivery.Conservation
import BusEndpoint.Proofs.Delivery.Plan
import BusEndpoint.Proofs.Delivery.Retries
import BusEndpoint.Proofs.Delivery.Exhaustion
import BusEndpoint.Proofs.Delivery.Failing
import BusEndpoint.Proofs.Transport.Operations
import BusEndpoint.Proofs.Transport.Queues
import BusEndpoint.Proofs.Transport.Order
import BusEndpoint.Proofs.Transport.Subscribers
import BusEndpoint.Proofs.Recovery.Account
import BusEndpoint.Proofs.Endpoint.Parts
import BusEndpoint.Proofs.Endpoint.Invocations
import BusEndpoint.Proofs.Endpoint.HostLogger
import BusEndpoint.Proofs.Endpoint.Observed
import BusEndpoint.Proofs.Endpoint.Asking
import BusEndpoint.Proofs.Endpoint.Guards
import BusEndpoint.Proofs.Recovery.Generations
import BusEndpoint.Proofs.Settlement.Calls
import BusEndpoint.Proofs.Settlement.Course
import BusEndpoint.Proofs.Start.Unseen
import BusEndpoint.Proofs.Endpoint.Outbound
import BusEndpoint.Proofs.Handling.Course
import BusEndpoint.Proofs.Endpoint.Handling
import BusEndpoint.Proofs.Messages.Translation
import BusEndpoint.Proofs.Json.Codecs
import BusEndpoint.Proofs.Logging.Placeholders
import BusEndpoint.Proofs.Messages.WireForm
import BusEndpoint.Proofs.Recovery.Settings
import BusEndpoint.Proofs.Sqs.Arrival
import BusEndpoint.Proofs.Endpoint.Naming
import BusEndpoint.Proofs.Attempt.Processors
import BusEndpoint.Proofs.Failure
import BusEndpoint.Proofs.Endpoint.Registration
import BusEndpoint.Proofs.Logging.Sinks
