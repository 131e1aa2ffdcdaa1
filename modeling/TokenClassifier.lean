import TokenClassifier.Main
import TokenClassifier.Proofs.Regex.Run
import TokenClassifier.Proofs.Regex.Search
import TokenClassifier.Proofs.Regex.Pattern
import TokenClassifier.Proofs.Except
import TokenClassifier.Proofs.Regex.Local
import TokenClassifier.Proofs.Regex.Scan
import TokenClassifier.Proofs.Regex.Tree
import TokenClassifier.Proofs.Regex.Meaning
import TokenClassifier.Proofs.Regex.Anchor
import TokenClassifier.Proofs.Regex.Splice
import TokenClassifier.Proofs.Endings
import TokenClassifier.Proofs.Forms
import TokenClassifier.Proofs.Classification
import TokenClassifier.Proofs.Stream
import TokenClassifier.Proofs.EndTokens
import TokenClassifier.Proofs.Output
import TokenClassifier.Proofs.Run
import TokenClassifier.Proofs.Text.Lines
import TokenClassifier.Proofs.Text.Lossy
import TokenClassifier.Proofs.Text.Tokens
import TokenClassifier.Proofs.Framing
import TokenClassifier.Proofs.CommandLine
import TokenClassifier.Proofs.Extension
import TokenClassifier.Proofs.Learning
import TokenClassifier.Proofs.Vocabulary
import TokenClassifier.Proofs.Growth
import TokenClassifier.Proofs.SameTokens
import TokenClassifier.Proofs.WholeToken
import TokenClassifier.Proofs.Regex.Concatenation
import TokenClassifier.Proofs.Synthesis
import TokenClassifier.Proofs.Regex.Copies
import TokenClassifier.Proofs.Faults
import TokenClassifier.Proofs.Segments
import TokenClassifier.Proofs.Dependence
import TokenClassifier.Proofs.Records
import TokenClassifier.Proofs.Insertion
import TokenClassifier.Proofs.Registration
import TokenClassifier.Proofs.Literal
import TokenClassifier.Proofs.Decode
import TokenClassifier.Proofs.Yaml.Blank
import TokenClassifier.Proofs.Layout
import TokenClassifier.Proofs.Indices
