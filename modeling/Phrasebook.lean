import Phrasebook.Text.Width
import Phrasebook.Resolve
import Phrasebook.Report
import Phrasebook.TableFile
import Phrasebook.ContextFile
import Phrasebook.Main
import Phrasebook.Proofs.ScanSteps
import Phrasebook.Proofs.Faults
import Phrasebook.Proofs.RunLaws
import Phrasebook.Proofs.TwoPasses
import Phrasebook.Proofs.Acceptance
import Phrasebook.Proofs.Documents
import Phrasebook.Proofs.Places
import Phrasebook.Proofs.ErrorPlaces
import Phrasebook.Proofs.Expansion
import Phrasebook.Proofs.Comparison
import Phrasebook.Proofs.Displacement
import Phrasebook.Proofs.Rendering
import Phrasebook.Proofs.Transparency
import Phrasebook.Proofs.Relevance
import Phrasebook.Proofs.LargerContexts
import Phrasebook.Proofs.ObjectIdentity
import Phrasebook.Proofs.Escaping
import Phrasebook.Proofs.KeyExpressions
import Phrasebook.Proofs.Unrolling
import Phrasebook.Proofs.Composition
import Phrasebook.Proofs.Outlines
import Phrasebook.Proofs.Substitution
import Phrasebook.Proofs.TruthfulErrors
import Phrasebook.Proofs.Percentages
import Phrasebook.Proofs.GeneralNotation
import Phrasebook.Proofs.IntegerNotations
import Phrasebook.Proofs.ProgramRuns
import Phrasebook.Proofs.LiteralTexts
import Phrasebook.Proofs.Branching
import Phrasebook.Proofs.EscapedExpressions
import Phrasebook.Proofs.SpecifierCapture
import Phrasebook.Proofs.InertSpecifiers
import Phrasebook.Proofs.Rounding
import Phrasebook.Proofs.SlotHistories
