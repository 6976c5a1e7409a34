import FramedVideo.Address
import FramedVideo.Bytes
import FramedVideo.Bytes.BigEndian
import FramedVideo.CommandLine.Commands
import FramedVideo.CommandLine.Options
import FramedVideo.Decode.Await
import FramedVideo.Decode.Call
import FramedVideo.Decode.Decoder
import FramedVideo.Decode.Failure
import FramedVideo.Decode.Progress
import FramedVideo.Decode.Window
import FramedVideo.Frame
import FramedVideo.Frame.Fault
import FramedVideo.Frame.Header
import FramedVideo.Frame.Picture
import FramedVideo.Frame.Protocol
import FramedVideo.Log
import FramedVideo.Loopback
import FramedVideo.Mailbox
import FramedVideo.Mailbox.Notifier
import FramedVideo.Mailbox.Waiter
import FramedVideo.Main
import FramedVideo.Number.Binary64
import FramedVideo.Number.Decimal
import FramedVideo.Number.Literal
import FramedVideo.Number.Rounding
import FramedVideo.Proofs.Transport.Alike
import FramedVideo.Receive.Config
import FramedVideo.Receive.Consumer
import FramedVideo.Receive.Failure
import FramedVideo.Receive.Session
import FramedVideo.Receive.Stats
import FramedVideo.Send.Config
import FramedVideo.Send.Failure
import FramedVideo.Send.Pacer
import FramedVideo.Send.Roster
import FramedVideo.Send.Session
import FramedVideo.Send.Synthetic
import FramedVideo.Send.Timeline
import FramedVideo.Text.Quoted
import FramedVideo.Text.Unprintable
import FramedVideo.Time
import FramedVideo.Transport.Chunked
import FramedVideo.Transport.ExactRead
import FramedVideo.Transport.Failure
import FramedVideo.Transport.Gauge
import FramedVideo.Transport.PartialRead
import FramedVideo.Transport.Script
import FramedVideo.Transport.Sink
import FramedVideo.Transport.Source
import FramedVideo.Writer
import FramedVideo.Proofs.Decode.Alike
import FramedVideo.Proofs.Decode.Polling
import FramedVideo.Proofs.Transport.Scripts
import FramedVideo.Proofs.Decode.Scripted
import FramedVideo.Proofs.Frame.Codec
import FramedVideo.Proofs.Frame.Layout
import FramedVideo.Proofs.Frame.Stream
import FramedVideo.Proofs.Decode.Resync
import FramedVideo.Proofs.Decode.RoundTrip
import FramedVideo.Proofs.Transport.Chunks
import FramedVideo.Proofs.Mailbox.Queue
import FramedVideo.Proofs.Mailbox.History
import FramedVideo.Proofs.Send.Service
import FramedVideo.Proofs.Send.Fates
import FramedVideo.Proofs.Receive.Stream
import FramedVideo.Proofs.Delivery
import FramedVideo.Proofs.Mailbox.Turns
import FramedVideo.Proofs.Mailbox.Counts
import FramedVideo.Proofs.Decode.Skipped
import FramedVideo.Proofs.Send.Steps
import FramedVideo.Proofs.Send.Order
import FramedVideo.Proofs.Send.Clients
import FramedVideo.Proofs.Frame.Parcel
import FramedVideo.Proofs.Transport.Stops
import FramedVideo.Proofs.Decode.Stopped
import FramedVideo.Proofs.Decode.Cut
import FramedVideo.Proofs.Decode.Format
import FramedVideo.Proofs.Send.Broken
import FramedVideo.Proofs.Decode.Search
import FramedVideo.Proofs.Decode.Recovery
import FramedVideo.Proofs.Decode.Waiting
import FramedVideo.Proofs.Receive.Stopping
import FramedVideo.Proofs.Receive.Resumed
import FramedVideo.Proofs.Receive.Totals
import FramedVideo.Proofs.Mailbox.Sections
import FramedVideo.Proofs.Mailbox.Tickets
import FramedVideo.Proofs.Mailbox.Wakes
import FramedVideo.Proofs.Transport.Meter
import FramedVideo.Proofs.Decode.Consumption
import FramedVideo.Proofs.Decode.Conservative
import FramedVideo.Proofs.Send.Sources
import FramedVideo.Proofs.Send.Writes
import FramedVideo.Proofs.Decode.Agreement
import FramedVideo.Proofs.Transport.Traced
import FramedVideo.Proofs.Send.Ending
import FramedVideo.Proofs.Send.Pacing
import FramedVideo.Proofs.Send.Ceiling
import FramedVideo.Proofs.Send.Clock
import FramedVideo.Proofs.Transport.Handed
import FramedVideo.Proofs.Decode.Dropped
import FramedVideo.Proofs.Decode.Carried
import FramedVideo.Proofs.Receive.Shutdowns
import FramedVideo.Proofs.Decode.Iterated
import FramedVideo.Proofs.Transport.Planned
import FramedVideo.Proofs.Transport.Watched
import FramedVideo.Proofs.Transport.Exact
import FramedVideo.Proofs.Send.Fitting
import FramedVideo.Proofs.Reports
import FramedVideo.Proofs.Receive.Tally
