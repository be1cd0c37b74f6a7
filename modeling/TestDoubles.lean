import TestDoubles.Command
import TestDoubles.Dump.Error
import TestDoubles.Dump.State
import TestDoubles.Proofs.Filling.Again
import TestDoubles.Proofs.Filling.ByType
import TestDoubles.Proofs.Filling.Displaced
import TestDoubles.Proofs.Filling.EitherOrder
import TestDoubles.Proofs.Filling.HandedOut
import TestDoubles.Proofs.Filling.Residue
import TestDoubles.Proofs.Registry.Combining
import TestDoubles.Proofs.Registry.Doubles
import TestDoubles.Proofs.Registry.Replacing
import TestDoubles.Proofs.Registry.Together
import TestDoubles.Proofs.Run.Bodies
import TestDoubles.Proofs.Run.Chronicle
import TestDoubles.Proofs.Run.Freezing
import TestDoubles.Proofs.Run.Ledger
import TestDoubles.Proofs.Run.Leftovers
import TestDoubles.Proofs.Run.Singleton
import TestDoubles.Proofs.Run.SingletonValue
import TestDoubles.Proofs.Run.Stages
import TestDoubles.Proofs.Run.Termination
import TestDoubles.Proofs.Run.Watched
import TestDoubles.Proofs.Run.WellFormed
import TestDoubles.Proofs.Samples.WrittenOnce
import TestDoubles.Proofs.Selection.BySignature
import TestDoubles.Proofs.Selection.Candidates
import TestDoubles.Proofs.Selection.ProvidingMore
import TestDoubles.Proofs.Text.Legible
import TestDoubles.Samples.BatchWriter
import TestDoubles.Samples.Double
import TestDoubles.Samples.Subjects
import TestDoubles.Scenario.Run
