import BleMesh.Foundation.Execution
import BleMesh.Foundation.Observation
import BleMesh.Foundation.SlotTable
import BleMesh.Foundation.FirstMatch
import BleMesh.Foundation.BoundedMap
import BleMesh.Foundation.ByteReader
import BleMesh.Foundation.Insertion
import BleMesh.Foundation.Segments
import BleMesh.Foundation.Routes
import BleMesh.Foundation.SquareScale
import BleMesh.Foundation.Encoders
import BleMesh.Foundation.BlockCode
import BleMesh.Provisioner.UnprovTable
import BleMesh.Provisioner.CompositionFormat
import BleMesh.Provisioner.CompositionBounds
import BleMesh.Provisioner.Listing
import BleMesh.Provisioner.Agreement
import BleMesh.Provisioner.ReplyAttribution
import BleMesh.Provisioner.NodeMap
import BleMesh.Provisioner.AddressLookup
import BleMesh.Provisioner.AddNode
import BleMesh.Provisioner.FailedCompletion
import BleMesh.Provisioner.RejectedReply
import BleMesh.Provisioner.AddReports
import BleMesh.Provisioner.Exchange
import BleMesh.Provisioner.RecordLog
import BleMesh.Provisioner.Board
import BleMesh.OnOff.LastCommandWins
import BleMesh.OnOff.Retransmission
import BleMesh.OnOff.WorkQueue
import BleMesh.OnOff.Schedule
import BleMesh.OnOff.ImmediatePath
import BleMesh.OnOff.Replies
import BleMesh.OnOff.Node
import BleMesh.OnOff.Settling
import BleMesh.Uart.Framing
import BleMesh.Uart.Grammar
import BleMesh.Uart.ReadBounds
import BleMesh.Uart.Actions
import BleMesh.Initializer.Routing
import BleMesh.Initializer.TableAccess
import BleMesh.Initializer.Startup
import BleMesh.Initializer.VendorModels
import BleMesh.Initializer.Configuration
import BleMesh.Lightness.Conversions
import BleMesh.Lightness.BoundStates
import BleMesh.LightServer.Node
import BleMesh.LedStrip.SpiStrip
import BleMesh.LedStrip.Indicator
