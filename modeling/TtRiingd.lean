import TtRiingd.Library.Machine
import TtRiingd.Library.Table
import TtRiingd.Library.Extend
import TtRiingd.Library.Call
import TtRiingd.Library.DoubleBuffer
import TtRiingd.Library.Mailbox
import TtRiingd.Library.Order
import TtRiingd.Library.Bezier
import TtRiingd.Library.Bisection
import TtRiingd.Library.Broadcast
import TtRiingd.Library.Radix
import TtRiingd.Library.Deadlines
import TtRiingd.Library.Wheel
import TtRiingd.Core.Fault
import TtRiingd.Config.Float
import TtRiingd.Config.Curve
import TtRiingd.Config.CurveRange
import TtRiingd.Config.Cfg
import TtRiingd.Config.Mappings
import TtRiingd.Drivers.Protocol
import TtRiingd.Drivers.DeviceIo
import TtRiingd.Drivers.Controller
import TtRiingd.Drivers.Pairing
import TtRiingd.Drivers.TTRiingQuad
import TtRiingd.Config.Load
import TtRiingd.Config.Merge
import TtRiingd.Config.AutoAdded
import TtRiingd.Drivers.Workers
import TtRiingd.Drivers.Manager
import TtRiingd.Drivers.Binding
import TtRiingd.Drivers.Hotplug
import TtRiingd.Drivers.Identity
import TtRiingd.Drivers.Delivery
import TtRiingd.Drivers.InitOrder
import TtRiingd.Drivers.Frames
import TtRiingd.Drivers.Truncation
import TtRiingd.Drivers.SpeedBatch
import TtRiingd.Core.Event
import TtRiingd.Providers.Monitoring
import TtRiingd.Providers.ChannelBounds
import TtRiingd.Providers.SpeedRange
import TtRiingd.Providers.Startup
import TtRiingd.Core.Coordinator
import TtRiingd.Core.HotReload
import TtRiingd.Core.Restart
import TtRiingd.Core.MainLoop
import TtRiingd.Core.Transactions
import TtRiingd.Core.EventsFirst
import TtRiingd.Core.Agreement
import TtRiingd.Core.ConfigWatcher
import TtRiingd.Core.ConfigEdits
import TtRiingd.Config.ExactCurve
import TtRiingd.Config.BezierSearch
import TtRiingd.Config.CurveShape
import TtRiingd.Config.MappingOverlap
import TtRiingd.Config.EffectMappings
import TtRiingd.Drivers.BatchStats
import TtRiingd.Drivers.Coverage
import TtRiingd.Drivers.Survival
import TtRiingd.Drivers.Unplug
import TtRiingd.Drivers.Mailbox
import TtRiingd.Drivers.WorkerNumbers
import TtRiingd.Providers.TickBatch
import TtRiingd.Providers.ColorOrder
import TtRiingd.Providers.ColorFrames
import TtRiingd.Providers.StaleColors
import TtRiingd.Core.Application
import TtRiingd.Core.HotplugPipeline
import TtRiingd.Core.PluggedHardware
import TtRiingd.Providers.WireTraffic
import TtRiingd.Effects.EffectRunner
import TtRiingd.Effects.Rainbow
import TtRiingd.Effects.Breathing
import TtRiingd.Providers.UdevWatcher
import TtRiingd.Providers.LitColors
import TtRiingd.Providers.TickDelivery
import TtRiingd.Core.TaskManager
import TtRiingd.Core.Services
import TtRiingd.Core.Daemon
import TtRiingd.Core.Lighting
import TtRiingd.Core.SpeedOrder
import TtRiingd.TemperatureSensors.SensorManager
import TtRiingd.TemperatureSensors.Sources
import TtRiingd.Providers.ColorProgress
