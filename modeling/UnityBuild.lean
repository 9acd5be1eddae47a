import UnityBuild.Main
import UnityBuild.Proofs.Refinement.Composition
import UnityBuild.Proofs.Refinement.Idempotence
import UnityBuild.Proofs.Run
import UnityBuild.Proofs.Expansion.Command
import UnityBuild.Proofs.Expansion.Relocation
import UnityBuild.Proofs.Refinement.Root
import UnityBuild.Proofs.Database.Acceptance
import UnityBuild.Proofs.Refinement.Canonical
import UnityBuild.Proofs.FileSystem.Overwriting
import UnityBuild.Proofs.Run.Repetition
import UnityBuild.Proofs.Expansion.Stack
import UnityBuild.Proofs.Database.Rejection
import UnityBuild.Proofs.Include.Selection
import UnityBuild.Proofs.FileSystem.Tree
import UnityBuild.Proofs.Refinement.RelativeRoot
import UnityBuild.Proofs.Include.Bytes
import UnityBuild.Proofs.Expansion.Trail
import UnityBuild.Proofs.Expansion.Traversal
import UnityBuild.Proofs.Refinement.Footprint
import UnityBuild.Proofs.Options.Forms
import UnityBuild.Proofs.Entry.BaseName
import UnityBuild.Proofs.Text.Occurrences
import UnityBuild.Proofs.SelfTest.Passing
import UnityBuild.Proofs.Clock
