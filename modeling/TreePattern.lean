import TreePattern.Document.Label
import TreePattern.Markup.Reading
import TreePattern.Match.Matcher
import TreePattern.Pattern.Listing
import TreePattern.Tree.Table
import TreePattern.Proofs.Document.Growth
import TreePattern.Proofs.Markup.Advance
import TreePattern.Proofs.Markup.Alternatives
import TreePattern.Proofs.Markup.Equality
import TreePattern.Proofs.Markup.Joining
import TreePattern.Proofs.Markup.Rendering
import TreePattern.Proofs.Match.Bisimulation
import TreePattern.Proofs.Match.Captures
import TreePattern.Proofs.Match.Comparison
import TreePattern.Proofs.Match.Erasure
import TreePattern.Proofs.Match.FirstText
import TreePattern.Proofs.Match.Frames
import TreePattern.Proofs.Match.Nesting
import TreePattern.Proofs.Match.Origins
import TreePattern.Proofs.Match.Pruning
import TreePattern.Proofs.Match.Repetition
import TreePattern.Proofs.Match.Skipping
import TreePattern.Proofs.Match.TagScan
import TreePattern.Proofs.Match.Termination
import TreePattern.Proofs.Match.Variables
import TreePattern.Proofs.Match.Windows
import TreePattern.Proofs.Pattern.Notation
import TreePattern.Proofs.Scope.History
import TreePattern.Unicode.Segmentation
