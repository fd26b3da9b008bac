import NootedGreen.Lib.Assoc
import NootedGreen.Lib.Bits
import NootedGreen.Lib.ByteMem
import NootedGreen.Lib.CString
import NootedGreen.Lib.Fueled
import NootedGreen.Lib.Interleave
import NootedGreen.Lib.MaskedReg
import NootedGreen.Lib.Observations
import NootedGreen.Lib.Overlay
import NootedGreen.Lib.Ownership
import NootedGreen.Lib.Patching
import NootedGreen.Lib.RegKind
import NootedGreen.Lib.RegProg
import NootedGreen.Lib.Replace
import NootedGreen.Lib.Routing
import NootedGreen.Lib.Runs
import NootedGreen.Lib.SlotTable
import NootedGreen.Lib.ThreadCall
import NootedGreen.Lib.Updates
import NootedGreen.Lib.X86
import NootedGreen.Mmio.Access
import NootedGreen.Mmio.Workarounds
import NootedGreen.Mmio.PlaneArming
import NootedGreen.Mmio.Wide
import NootedGreen.Mmio.Masked
import NootedGreen.Mmio.GtWorkarounds
import NootedGreen.Mmio.Bounds
import NootedGreen.Mmio.Storage
import NootedGreen.Mmio.GuardedStorage
import NootedGreen.Mmio.Stores
import NootedGreen.Hooks.RegisterWrite
import NootedGreen.Hooks.ErrorMask
import NootedGreen.Hooks.FastPath
import NootedGreen.Hooks.SurfaceTable
import NootedGreen.Hooks.PlaneGuards
import NootedGreen.Hooks.Routes
import NootedGreen.Hooks.PatcherPlus
import NootedGreen.Hooks.SymbolSolving
import NootedGreen.Hooks.TraceSymbols
import NootedGreen.Hooks.KextPatches
import NootedGreen.Hooks.FramebufferKext
import NootedGreen.Hooks.PatchMeaning
import NootedGreen.Engine.Bringup
import NootedGreen.Engine.Lifecycle
import NootedGreen.Engine.Quarantine
import NootedGreen.Engine.Timers
import NootedGreen.Engine.IrqWatchdog
import NootedGreen.Engine.ForceWake
import NootedGreen.Engine.ForceWakeCall
import NootedGreen.Engine.ForceWakeProtocol
import NootedGreen.Engine.PollRegister
import NootedGreen.Engine.InterruptEnforcement
import NootedGreen.Engine.StartSequence
import NootedGreen.Engine.Supervisors
import NootedGreen.Engine.HealthMonitor
import NootedGreen.Display.ConnectorGate
import NootedGreen.Display.LinkCaps
import NootedGreen.Display.CdClock
import NootedGreen.Display.ScanoutFill
import NootedGreen.Display.ScanoutSafety
import NootedGreen.Display.DmcLoad
import NootedGreen.Platform.Detection
import NootedGreen.Platform.SchedulerChoice
import NootedGreen.Platform.PropertySeeding
import NootedGreen.Platform.EarlySeeding
import NootedGreen.Platform.ConfigSpace
import NootedGreen.Platform.MergeNub
import NootedGreen.Platform.RecursiveMerge
import NootedGreen.Platform.ObjectLifetimes
import NootedGreen.Platform.BringupTrace
import NootedGreen.Platform.FirstSeen
import NootedGreen.Platform.RcsTransitions
import NootedGreen.Platform.DyldPatches
import NootedGreen.Platform.PageDispatch
import NootedGreen.Platform.PatchOrder
import NootedGreen.Platform.MetalStubs
import NootedGreen.Platform.StubMeaning
