import NamedSignal.Main
import NamedSignal.Program.Step
import NamedSignal.Proofs.CallStatus
import NamedSignal.Proofs.HandleMemory
import NamedSignal.Proofs.VanishedProcesses
import NamedSignal.Proofs.Roll
import NamedSignal.Proofs.SingleDelivery
import NamedSignal.Proofs.ListingOrder
import NamedSignal.Proofs.LookupTrace
import NamedSignal.Proofs.Evidence
import NamedSignal.Proofs.CallRecords
import NamedSignal.Proofs.DeliveryLog
import NamedSignal.Proofs.CommandLine
import NamedSignal.Proofs.RejectedCalls
import NamedSignal.Proofs.ConfiguredCalls
import NamedSignal.Proofs.FixedRoot
import NamedSignal.Proofs.LogHandlers
import NamedSignal.Proofs.LogHistory
import NamedSignal.Proofs.LookupEvents
import NamedSignal.Proofs.Verbosity
import NamedSignal.Proofs.InlineText
import NamedSignal.Proofs.OutsideText
import NamedSignal.Proofs.LogLines
import NamedSignal.Proofs.AsciiMarks
import NamedSignal.Proofs.LastComponent
import NamedSignal.Proofs.StatusBytes
import NamedSignal.Proofs.NameRecovery
import NamedSignal.Proofs.AsciiNames
import NamedSignal.Proofs.FailedSetUp
import NamedSignal.Proofs.ArgumentRecords
import NamedSignal.Proofs.ChosenNames
import NamedSignal.Proofs.LostNames
import NamedSignal.Proofs.FailedDeliveries
import NamedSignal.Proofs.MappingKeys
import NamedSignal.Proofs.UnusableFiles
import NamedSignal.Proofs.UnknownKeys
import NamedSignal.Proofs.AcceptedSettings
import NamedSignal.Proofs.SignalWords
import NamedSignal.Proofs.ListedProcesses
import NamedSignal.Proofs.StatusLines
import NamedSignal.Proofs.NestedBlocks
import NamedSignal.Proofs.RecordIdentity
