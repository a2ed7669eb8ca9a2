import KernelMaps.Main
import KernelMaps.Proofs.BatchLoop
import KernelMaps.Proofs.LastWrite
import KernelMaps.Proofs.Dumps
import KernelMaps.Proofs.Targets
import KernelMaps.Testbed
import KernelMaps.Proofs.BatchWalks
import KernelMaps.Proofs.KeyOrder
import KernelMaps.Proofs.Interleavings
import KernelMaps.Proofs.BatchTraversals
import KernelMaps.Proofs.KeyTraversals
import KernelMaps.Proofs.Faults
import KernelMaps.Proofs.Quiet
import KernelMaps.Proofs.Footprints
import KernelMaps.Proofs.CommandFootprints
import KernelMaps.Proofs.Handles
import KernelMaps.Proofs.Ownership
import KernelMaps.Proofs.Requests
import KernelMaps.Proofs.Freezing
import KernelMaps.Proofs.Names
import KernelMaps.Proofs.Independence
import KernelMaps.Proofs.Drains
import KernelMaps.Proofs.HexText
import KernelMaps.Proofs.Deletions
import KernelMaps.Proofs.Utf8Text
import KernelMaps.Proofs.Creations
import KernelMaps.Proofs.BatchRounds
import KernelMaps.Proofs.BatchSlices
import KernelMaps.Proofs.BatchCounts
import KernelMaps.Proofs.Listing
import KernelMaps.Proofs.Pinning
import KernelMaps.Proofs.Atomicity
import KernelMaps.Proofs.ShortRecords
import KernelMaps.Proofs.HexSpellings
import KernelMaps.Proofs.KeyDeletions
import KernelMaps.Proofs.EmptyBatches
import KernelMaps.Proofs.Numerals
import KernelMaps.Proofs.Releases
import KernelMaps.Proofs.Blanks
import KernelMaps.Proofs.ProcessorRanges
import KernelMaps.Proofs.ProcessorRuns
import KernelMaps.Proofs.Labels
import KernelMaps.Proofs.Statuses
import KernelMaps.Proofs.CursorLives
import KernelMaps.Proofs.CommandLines
import KernelMaps.Proofs.Interface
