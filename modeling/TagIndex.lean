import TagIndex.Main
import TagIndex.Proofs.Recovery
import TagIndex.Proofs.ScopeClosure
import TagIndex.Proofs.TagLine
import TagIndex.Proofs.Jump
import TagIndex.Proofs.ConcreteWalk
import TagIndex.Proofs.Batch
import TagIndex.Proofs.Places
import TagIndex.Proofs.Replacement
import TagIndex.Proofs.Tally
import TagIndex.Proofs.Actions
import TagIndex.Proofs.Conclusion
import TagIndex.Proofs.Verbosity
import TagIndex.Proofs.Examination
import TagIndex.Proofs.Strictness
import TagIndex.Proofs.Hitch
import TagIndex.Proofs.Interruption
import TagIndex.Proofs.Comments
import TagIndex.Proofs.Provenance
import TagIndex.Proofs.Account
import TagIndex.Proofs.Precedence
import TagIndex.Proofs.FaultCount
