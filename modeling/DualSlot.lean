import DualSlot.Checksum
import DualSlot.Main
import DualSlot.Simulation.Bench
import DualSlot.Proofs.BootSafety
import DualSlot.Proofs.LoaderDrift
import DualSlot.Proofs.SlotTrust
import DualSlot.Proofs.RollbackOutcome
import DualSlot.Proofs.WholeBlocks
import DualSlot.Proofs.KnownSlots
import DualSlot.Proofs.Sessions
import DualSlot.Proofs.StagingRace
import DualSlot.Proofs.HistoryGrowth
import DualSlot.Proofs.TreeLayout
import DualSlot.Proofs.Cancellation
import DualSlot.Proofs.ExactAcceptance
import DualSlot.Proofs.RecordLeft
import DualSlot.Proofs.FailedCommit
import DualSlot.Proofs.MetadataFormat
import DualSlot.Proofs.RefreshedMenu
import DualSlot.Proofs.RepeatedKeys
import DualSlot.Proofs.OversizedSidecars
import DualSlot.Proofs.BookAtomicity
import DualSlot.Proofs.ActivationHistory
import DualSlot.Proofs.ChecksumOfPieces
import DualSlot.Proofs.DigestReading
import DualSlot.Proofs.TreeHeight
