import JustRun.Concurrency.Interleaving
import JustRun.Machine.Clock
import JustRun.Machine.Text
import JustRun.Authorization.Calls
import JustRun.Authorization.Routes
import JustRun.Authorization.Service
import JustRun.Authorization.Handlers
import JustRun.Authorization.Effects
import JustRun.Authorization.Runs
import JustRun.Authorization.Replay
import JustRun.Authorization.Namespaces
import JustRun.Authorization.Grants
import JustRun.Authorization.Revocation
import JustRun.Authorization.Sessions
import JustRun.Authorization.Usability
import JustRun.Authorization.Transfers
import JustRun.Authorization.Bindings
import JustRun.Authorization.Registration
import JustRun.Authorization.Undisturbed
import JustRun.Authorization.Issuance
import JustRun.Desktop.Delivery
import JustRun.Desktop.ActiveSession
import JustRun.Desktop.Identity
import JustRun.Qemu.Qmp
import JustRun.Qemu.Fleet
import JustRun.Qemu.Admission
import JustRun.Guest.DataIsolation
import JustRun.Guest.Restoration
import JustRun.Guest.Executions
import JustRun.Authorization.Capacity
import JustRun.Runtime.Accounting
import JustRun.Runtime.Fairness
import JustRun.Runtime.Promptness
import JustRun.Runtime.Pressure
import JustRun.Runtime.IdleRelease
import JustRun.Runtime.NodeStop
import JustRun.Containers.Cancellation
import JustRun.Devices.Attribution
import JustRun.Devices.ShellText
import JustRun.Terminal.Slots
import JustRun.Settings.Updates
import JustRun.Settings.Atomicity
import JustRun.Frontend.QueueLaw
