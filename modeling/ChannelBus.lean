import ChannelBus.Bench
import ChannelBus.Main
import ChannelBus.Scheduler.Command
import ChannelBus.Proofs.Wakeups
import ChannelBus.Proofs.Rendezvous
import ChannelBus.Proofs.Closing
import ChannelBus.Proofs.Findable
import ChannelBus.Proofs.Atomicity
import ChannelBus.Proofs.Draining
import ChannelBus.Proofs.Summary
import ChannelBus.Proofs.Counters
import ChannelBus.Proofs.ArrivalOrder
import ChannelBus.Proofs.Cancelling
import ChannelBus.Proofs.Telemetry
import ChannelBus.Proofs.Batching
import ChannelBus.Proofs.Refusals
import ChannelBus.Proofs.Singletons
import ChannelBus.Proofs.Stretches
import ChannelBus.Proofs.Readiness
import ChannelBus.Proofs.Lives
import ChannelBus.Proofs.Grammar
import ChannelBus.Proofs.Reading
import ChannelBus.Proofs.Documents
import ChannelBus.Proofs.Likeness
import ChannelBus.Proofs.Slots
