import DeviceLink.Main
import DeviceLink.Registry.Desk
import DeviceLink.Script
import DeviceLink.Proofs.Client.Reconnecting
import DeviceLink.Proofs.Client.Timing
import DeviceLink.Proofs.Core.Admission
import DeviceLink.Proofs.Core.Answers
import DeviceLink.Proofs.Core.Emission
import DeviceLink.Proofs.Core.Items
import DeviceLink.Proofs.Core.Order
import DeviceLink.Proofs.Core.Progress
import DeviceLink.Proofs.Core.Requesting
import DeviceLink.Proofs.Core.Separation
import DeviceLink.Proofs.Core.Serial
import DeviceLink.Proofs.Core.Settling
import DeviceLink.Proofs.Core.Starvation
import DeviceLink.Proofs.Core.Submission
import DeviceLink.Proofs.Core.Truth
import DeviceLink.Proofs.Datum.Canonical
import DeviceLink.Proofs.Datum.Codec
import DeviceLink.Proofs.Datum.Echo
import DeviceLink.Proofs.Datum.Grammar
import DeviceLink.Proofs.Datum.Limits
import DeviceLink.Proofs.Datum.Number
import DeviceLink.Proofs.Datum.Settling
import DeviceLink.Proofs.Demo.Announced
import DeviceLink.Proofs.Desk.Ends
import DeviceLink.Proofs.Envelope.Grammar
import DeviceLink.Proofs.Envelope.Reread
import DeviceLink.Proofs.Fleet.LastWrite
import DeviceLink.Proofs.Json.Document
import DeviceLink.Proofs.Json.Number
import DeviceLink.Proofs.Json.Record
import DeviceLink.Proofs.Json.Size
import DeviceLink.Proofs.Json.Value
import DeviceLink.Proofs.Json.Written
import DeviceLink.Proofs.Link.Publication
import DeviceLink.Proofs.Link.Tracking
import DeviceLink.Proofs.Lobby.Delivery
import DeviceLink.Proofs.Pool.Reports
import DeviceLink.Proofs.Registry.Change
import DeviceLink.Proofs.Registry.Lookup
import DeviceLink.Proofs.Session.Attended
import DeviceLink.Proofs.Session.Calls
import DeviceLink.Proofs.Session.CoreRun
import DeviceLink.Proofs.Session.Drain
import DeviceLink.Proofs.Session.Emptying
import DeviceLink.Proofs.Session.Replies
import DeviceLink.Proofs.Session.Terminal
import DeviceLink.Proofs.Session.Waiting
