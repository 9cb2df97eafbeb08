import HeaderOrder.Main
import HeaderOrder.Proofs.Regular
import HeaderOrder.Proofs.Locating
import HeaderOrder.Proofs.Arranging
import HeaderOrder.Proofs.Preservation
import HeaderOrder.Proofs.Reordering
import HeaderOrder.Proofs.Rounds
import HeaderOrder.Proofs.Files
import HeaderOrder.Proofs.Accounting
import HeaderOrder.Proofs.Reassembly
import HeaderOrder.Proofs.GreedyBlocks
import HeaderOrder.Proofs.BraceCounts
import HeaderOrder.Proofs.Preamble
import HeaderOrder.Proofs.Concatenation
import HeaderOrder.Proofs.InPlace
import HeaderOrder.Proofs.Languages
import HeaderOrder.Proofs.Shapes
import HeaderOrder.Proofs.HeaderLines
import HeaderOrder.Proofs.MemberHeads
import HeaderOrder.Proofs.Outline
import HeaderOrder.Proofs.Defaults
import HeaderOrder.Proofs.Finding
import HeaderOrder.Proofs.InnerBlocks
import HeaderOrder.Proofs.Permuting
import HeaderOrder.Proofs.NormalForms
import HeaderOrder.Proofs.Reflowing
import HeaderOrder.Proofs.Replacements
import HeaderOrder.Proofs.ParamLists
import HeaderOrder.Proofs.Signatures
import HeaderOrder.Proofs.Fallback
import HeaderOrder.Proofs.Renaming
import HeaderOrder.Proofs.Overloads
import HeaderOrder.Proofs.Arguments
import HeaderOrder.Proofs.Commands
import HeaderOrder.Proofs.Effects
import HeaderOrder.Proofs.Paths
import HeaderOrder.Proofs.WindowRuns
import HeaderOrder.Proofs.History
import HeaderOrder.Proofs.Browsing
import HeaderOrder.Proofs.Trees
import HeaderOrder.Proofs.Inputs
