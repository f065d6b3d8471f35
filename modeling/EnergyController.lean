import EnergyController.Lib.PubSub
import EnergyController.Lib.Runs
import EnergyController.Lib.Transducer
import EnergyController.Lib.WrappedClock
import EnergyController.Lib.FloatOrder
import EnergyController.Lib.CString
import EnergyController.Lib.Decimal
import EnergyController.Lib.FloatValue
import EnergyController.Lib.Json
import EnergyController.Lib.Guarded
import EnergyController.Lib.GuardedTheorems
import EnergyController.Lib.BoundedQueue
import EnergyController.Lib.Throttle
import EnergyController.Lib.FloatBounds
import EnergyController.Lib.FloatRounding
import EnergyController.Lib.Terminal
import EnergyController.Measurement.Core
import EnergyController.Measurement.CoreTheorems
import EnergyController.Measurement.Exact
import EnergyController.Protection.Core
import EnergyController.Protection.Policy
import EnergyController.Protection.CoreTheorems
import EnergyController.Protection.Refinement
import EnergyController.Protection.History
import EnergyController.Protection.Latch
import EnergyController.Protection.Overpower
import EnergyController.Protection.TrueTime
import EnergyController.Protection.PolicyTable
import EnergyController.Protection.PolicyTableTheorems
import EnergyController.Protection.Noninterference
import EnergyController.Protection.TimeOrigin
import EnergyController.Protection.HeavierLoad
import EnergyController.Protection.Persistence
import EnergyController.Protection.FaultRecord
import EnergyController.Protection.Representation
import EnergyController.Firmware.Protection
import EnergyController.Firmware.ProtectionTheorems
import EnergyController.Firmware.Actuator
import EnergyController.Firmware.ControlTask
import EnergyController.Firmware.ControlTaskTheorems
import EnergyController.Firmware.Tasks
import EnergyController.Firmware.TasksTheorems
import EnergyController.Heartbeat.Monitor
import EnergyController.Heartbeat.MonitorTheorems
import EnergyController.Firmware.WatchdogManager
import EnergyController.Firmware.WatchdogManagerTheorems
import EnergyController.Firmware.WatchdogTask
import EnergyController.Firmware.WatchdogTaskTheorems
import EnergyController.Firmware.WatchdogTiming
import EnergyController.Telemetry.TelemetryJson
import EnergyController.Telemetry.TelemetryJsonTheorems
import EnergyController.Telemetry.AllOrNothing
import EnergyController.Telemetry.CompleteNumbers
import EnergyController.Mqtt.RemoteCommand
import EnergyController.Mqtt.RemoteCommandTheorems
import EnergyController.Mqtt.MqttManager
import EnergyController.Mqtt.MqttManagerTheorems
import EnergyController.Mqtt.Publish
import EnergyController.Mqtt.PublishTheorems
import EnergyController.Mqtt.Fleet
import EnergyController.Mqtt.FleetTheorems
import EnergyController.Firmware.NetworkTask
import EnergyController.Firmware.NetworkTaskTheorems
import EnergyController.Firmware.NetworkTiming
import EnergyController.Firmware.NetworkGate
import EnergyController.Firmware.LatestMeasurement
import EnergyController.Firmware.LatestMeasurementTheorems
import EnergyController.Firmware.CliTask
import EnergyController.Firmware.CliTaskTheorems
import EnergyController.Firmware.CliTerminal
import EnergyController.Firmware.DisplayTask
import EnergyController.Firmware.DisplayTaskTheorems
import EnergyController.Firmware.Concurrency
import EnergyController.Firmware.ConcurrencyTheorems
import EnergyController.Firmware.System
import EnergyController.Firmware.SystemTheorems
import EnergyController.Firmware.SystemCommands
import EnergyController.Firmware.SystemExposure
import EnergyController.Firmware.SystemResponse
import EnergyController.Firmware.SystemSupply
import EnergyController.Firmware.Gpio
