import AioHomematic.Central.Coordinators.Client.Primary
import AioHomematic.Central.Coordinators.Configuration
import AioHomematic.Central.Coordinators.ConnectionRecovery.Budget
import AioHomematic.Central.Coordinators.ConnectionRecovery.Cleanup
import AioHomematic.Central.Coordinators.ConnectionRecovery.Interfaces
import AioHomematic.Central.Coordinators.Device.Callbacks.Serial
import AioHomematic.Central.Coordinators.Device.Delayed
import AioHomematic.Central.Coordinators.Device.Missing
import AioHomematic.Central.Coordinators.Device.Persisted
import AioHomematic.Central.Coordinators.Event.Readded
import AioHomematic.Central.Events.Bus.Batch
import AioHomematic.Central.Health.Tracked
import AioHomematic.Central.RpcServer.Delivery
import AioHomematic.Central.RpcServer.Multicall
import AioHomematic.Central.Scheduler
import AioHomematic.Client.CircuitBreaker.Trace
import AioHomematic.Client.CommandRetry.Outcomes
import AioHomematic.Client.CommandThrottle.Burst
import AioHomematic.Client.CommandThrottle.Drain
import AioHomematic.Client.CommandThrottle.Spacing
import AioHomematic.Client.InterfaceClient.InFlight
import AioHomematic.Client.InterfaceClient.SharedParameter
import AioHomematic.Client.JsonRpc.Freshness
import AioHomematic.Client.JsonRpc.Login
import AioHomematic.Client.JsonRpc.Sanitize
import AioHomematic.Client.JsonRpc.Script.SetSystemVariable
import AioHomematic.Client.JsonRpc.Session
import AioHomematic.Client.Lifecycle
import AioHomematic.Client.RequestCoalescer.Overlap
import AioHomematic.Client.RequestCoalescer.Waiters
import AioHomematic.Client.RpcProxy.Accounting
import AioHomematic.Client.RpcProxy.HalfOpen
import AioHomematic.Client.StateChange
import AioHomematic.Metrics.Observer
import AioHomematic.Model.BindCollector
import AioHomematic.Model.Combined.Timer
import AioHomematic.Model.Custom.Cover.TiltOnly
import AioHomematic.Model.Custom.Definition
import AioHomematic.Model.DataPoint.Loading.NoReading
import AioHomematic.Model.DataPoint.Loading.Outdated
import AioHomematic.Model.DataPoint.RollbackTarget
import AioHomematic.Model.DataPoint.SendFailure
import AioHomematic.Model.Hub.InstallMode
import AioHomematic.Model.Hub.Reconciliation
import AioHomematic.Model.Schedule.Duration.Encoding
import AioHomematic.Model.Schedule.Lock
import AioHomematic.Model.Traffic.Accounting
import AioHomematic.Model.UniqueId
import AioHomematic.Model.WeekProfile.Climate.MostMinutes
import AioHomematic.Model.WeekProfile.Climate.RawSchedule
import AioHomematic.Model.WeekProfile.Climate.Reload
import AioHomematic.Model.WeekProfile.Climate.RoundTrip
import AioHomematic.Model.WeekProfile.Default.Write
import AioHomematic.Store.Dynamic.Command.Size
import AioHomematic.Store.Dynamic.Details
import AioHomematic.Store.Dynamic.PingPong.Tokens
import AioHomematic.Store.Persistent.Base.RoundTrip
import AioHomematic.Store.Persistent.Incident.History
import AioHomematic.Store.Persistent.Paramset.ChannelAddresses
import AioHomematic.Store.Persistent.Paramset.History
import AioHomematic.Store.Persistent.Session.Export
import AioHomematic.Store.Persistent.Session.Recorded
import AioHomematic.Store.Serialization.Key
import AioHomematic.Store.Serialization.Total
import AioHomematic.Store.Storage.Flush
import AioHomematic.Store.Visibility.Parser.Lines
import AioHomematic.Store.Visibility.PredefinedRules
