import Hid.Number.Basic
import Hid.Number.Numeral
import Hid.Controllers
import Hid.Wire.Record
import Hid.Wire.InPlace
import Hid.Config
import Hid.Dispatch.Stats
import Hid.Queue.Exclusive
import Hid.Activation.Plan
import Hid.Device.Written
import Hid.Device.Simulated
import Hid.Service.Basic
import Hid.Service.Traffic
import Hid.Proofs.Queue.Run
import Hid.Proofs.Queue.Order
import Hid.Proofs.Queue.Drain
import Hid.Proofs.Activation.Run
import Hid.Proofs.Activation.Sequential
import Hid.Proofs.Activation.Contents
import Hid.Proofs.Activation.Section
import Hid.Proofs.Number.Rounding
import Hid.Proofs.Wire.Cursor
import Hid.Proofs.Wire.Field
import Hid.Proofs.Wire.Sequence
import Hid.Proofs.Wire.InPlace
import Hid.Proofs.Wire.Bounded
import Hid.Proofs.Wire.Catalogue
import Hid.Proofs.Dispatch.Decision
import Hid.Proofs.Service.Caution
import Hid.Proofs.Commands.Caution
import Hid.Proofs.Dispatch.Counting
import Hid.Proofs.Service.Violation
import Hid.Proofs.Service.Steady
import Hid.Proofs.Service.Plain
import Hid.Proofs.Commands.Plain
import Hid.Proofs.Commands.Steady
import Hid.Proofs.Service.Serving
import Hid.Proofs.Service.Containment
import Hid.Proofs.Commands.Effects
import Hid.Proofs.Dispatch.Accounting
import Hid.Proofs.Service.Change
import Hid.Proofs.Service.Accepted
import Hid.Proofs.Service.Separation
import Hid.Proofs.Service.Confinement
import Hid.Proofs.Commands.Limited
import Hid.Proofs.Commands.Managed
import Hid.Proofs.Service.LowLevel
import Hid.Proofs.Activation.Room
import Hid.Proofs.Service.Capacity
import Hid.Proofs.Wire.Faithful
import Hid.Proofs.Dispatch.Exchange
import Hid.Proofs.Service.Replies
import Hid.Proofs.Commands.Replies
import Hid.Proofs.Service.Response
import Hid.Proofs.Wire.Buffers
import Hid.Proofs.Commands.Sending
import Hid.Proofs.Service.Sending
import Hid.Proofs.Service.Discretion
import Hid.Proofs.Commands.Discretion
import Hid.Proofs.Service.Disclosure
import Hid.Proofs.Service.Aloof
import Hid.Proofs.Commands.Aloof
import Hid.Proofs.Service.Traffic
import Hid.Proofs.Service.Turns
import Hid.Proofs.Service.Overlap
import Hid.Proofs.Wire.Places
import Hid.Proofs.Service.Asking
import Hid.Proofs.Commands.Searching
import Hid.Proofs.Service.Motors
import Hid.Proofs.Service.Sensors
import Hid.Proofs.Commands.Lending
import Hid.Proofs.Service.Lending
import Hid.Proofs.Number.Nearest
import Hid.Proofs.Service.Words
import Hid.Proofs.Result.Packing
import Hid.Proofs.Dispatch.Building
import Hid.Proofs.Service.Readying
import Hid.Proofs.Config.Reading
import Hid.Proofs.Service.Configured
