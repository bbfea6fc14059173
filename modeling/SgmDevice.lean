import SgmDevice.Sink.PppLocks
import SgmDevice.Sink.PppInStep
import SgmDevice.Utils.SharedInit
import SgmDevice.PowerMgr.PowerManager
import SgmDevice.PowerMgr.CmuxLevel
import SgmDevice.PowerMgr.DriverCalls
import SgmDevice.PowerMgr.ReadinessFlags
import SgmDevice.PowerMgr.PowerThreads
import SgmDevice.Sink.SgmSink
import SgmDevice.Sink.MessageQueue
import SgmDevice.Sink.TopicAndPayload
import SgmDevice.Sink.NetworkReady
import SgmDevice.Sink.PppPause
import SgmDevice.Sensor.Readings
import SgmDevice.Utils.AtCommand
import SgmDevice.PowerMgr.BGS2CMux
import SgmDevice.Sink.AcceptedSocket
import SgmDevice.PowerMgr.DeviceNodes
import SgmDevice.PowerMgr.PowerCuts
import SgmDevice.PowerMgr.ControllerThreads
import SgmDevice.PowerMgr.IndicationEdges
import SgmDevice.Concurrency.Registers
import SgmDevice.PowerMgr.PinLevels
import SgmDevice.PowerMgr.CmuxAnnounced
import SgmDevice.PowerMgr.SerialPort
import SgmDevice.Sink.Acknowledged
import SgmDevice.Sink.QueueExit
import SgmDevice.Sink.MqttLink
import SgmDevice.Sink.IdleExit
import SgmDevice.Sink.ListeningSocket
import SgmDevice.Sensor.HubCalls
import SgmDevice.Sensor.Bme280Driver
import SgmDevice.Sensor.Bme280Sensor
import SgmDevice.Sensor.BusTransfers
import SgmDevice.Utils.AtResponses
import SgmDevice.Sink.PppStatus
import SgmDevice.PowerMgr.SwitchedOff
import SgmDevice.Utils.RepeatedInit
import SgmDevice.Sensor.SensorService
import SgmDevice.Sink.NameTables
import SgmDevice.Text.Regex
import SgmDevice.Utils.PlainAtInterpreter
import SgmDevice.PowerMgr.AtReply
import SgmDevice.Text.Decimal
import SgmDevice.Utils.Cops
import SgmDevice.Concurrency.Channel
import SgmDevice.Site.Connection
import SgmDevice.Sink.Publications
import SgmDevice.Site.Delivery
import SgmDevice.Site.NoneLost
import SgmDevice.Site.PublishedReadings
import SgmDevice.Bits.Slice
import SgmDevice.Sensor.Bme280Registers
import SgmDevice.Sensor.Bme280Settings
import SgmDevice.Concurrency.LockOrder
import SgmDevice.PowerMgr.ProcessThreads
import SgmDevice.PowerMgr.ModemPresenceQuery
import SgmDevice.PowerMgr.NeverBlocked
import SgmDevice.Sensor.Bme280Images
import SgmDevice.Sensor.Bme280System
import SgmDevice.Arith.Wrapping
import SgmDevice.Sensor.Bme280Overflow
import SgmDevice.Concurrency.Atomicity
import SgmDevice.Sink.MqttThreads
import SgmDevice.Sink.AtomicCalls
import SgmDevice.Sink.ServedCalls
