import TreeAssist.Language.Bundle
import TreeAssist.Proofs.Assembly.Agreement
import TreeAssist.Proofs.Folding.Nesting
import TreeAssist.Proofs.Folding.Selection
import TreeAssist.Proofs.Indent.Alignment
import TreeAssist.Proofs.Indent.BaseLine
import TreeAssist.Proofs.Indent.BlockLines
import TreeAssist.Proofs.Indent.Locality
import TreeAssist.Proofs.Indent.Openers
import TreeAssist.Proofs.Indent.Origins
import TreeAssist.Proofs.Indent.Trailing
import TreeAssist.Proofs.Language.Invariance
import TreeAssist.Proofs.Style.Grammar
import TreeAssist.Proofs.Style.Priority
import TreeAssist.Proofs.Style.Scopes
import TreeAssist.Proofs.Style.Window
import TreeAssist.Proofs.Text.Breaks
import TreeAssist.Proofs.Text.Tiling
import TreeAssist.Proofs.Text.Widths
import TreeAssist.Proofs.Tree.Innermost
import TreeAssist.Proofs.Tree.Kinship
import TreeAssist.Proofs.Tree.Numbering
import TreeAssist.Proofs.Tree.RoundTrip
import TreeAssist.Proofs.Tree.Safety
import TreeAssist.Proofs.Tree.Scans
import TreeAssist.Tree.Assembly
import TreeAssist.Tree.Snapshot
