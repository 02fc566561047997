import Seej.WalFaults
import Seej.ReplaySafety
import Seej.RecoveryComplete
import Seej.WalRefinement
import Seej.CommandLemmas
import Seej.LiveReplay
import Seej.WalCrash
import Seej.Checkpoints
import Seej.Durability
import Seej.EngineCursor
import Seej.InterruptedSaves
import Seej.LiveIntegrity
import Seej.RestartParity
import Seej.Determinism
import Seej.EntityHistory
import Seej.HalfTicks
import Seej.JournalShape
import Seej.JsonLength
import Seej.LifeCycle
import Seej.Overcrowding
import Seej.WalFloats
import Seej.AfterValues
import Seej.Decoding
import Seej.RepeatedEvents
import Seej.WalCorruption
import Seej.WalInspection
import Seej.EngineCoherence
import Seej.InertEntities
import Seej.DumpedWorld
import Seej.DeterministicRun
import Seej.Foundation.CongruentialGenerator
import Seej.PurityDefects
import Seej.RangeDraws
import Seej.RngPeriod
import Seej.FilesystemRun
import Seej.StoreInspection
import Seej.Ledgers
import Seej.DataDirectory
import Seej.InitialPopulation
import Seej.CommandLine
import Seej.ObservedHistory
