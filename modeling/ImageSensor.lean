import ImageSensor.Bench.Transcript
import ImageSensor.Board.Transcript
import ImageSensor.Configuration.Json
import ImageSensor.Device.Operation
import ImageSensor.Proofs.Board.SetUp
import ImageSensor.Proofs.Bus.Frames
import ImageSensor.Proofs.Bus.Tables
import ImageSensor.Proofs.Configuration.Reading
import ImageSensor.Proofs.Control.History
import ImageSensor.Proofs.Control.Reordering
import ImageSensor.Proofs.Control.Replay
import ImageSensor.Proofs.Control.Selection
import ImageSensor.Proofs.Control.Wire
import ImageSensor.Proofs.Mode.Rounding
import ImageSensor.Proofs.Power.Parking
import ImageSensor.Proofs.Power.SettleDelay
import ImageSensor.Proofs.Session.Batches
import ImageSensor.Proofs.Session.BusAccess
import ImageSensor.Proofs.Session.ClosestMode
import ImageSensor.Proofs.Session.Detaching
import ImageSensor.Proofs.Session.ExposureWindow
import ImageSensor.Proofs.Session.FailedRequests
import ImageSensor.Proofs.Session.GrantedPower
import ImageSensor.Proofs.Session.LingeringStream
import ImageSensor.Proofs.Session.Negotiation
import ImageSensor.Proofs.Session.Probing
import ImageSensor.Proofs.Session.Quarantine
import ImageSensor.Proofs.Session.Resuming
import ImageSensor.Proofs.Session.StartSequence
import ImageSensor.Proofs.Session.Suspension
import ImageSensor.Proofs.Session.Widths
