import P4Outline.Main
import P4Outline.Proofs.Access
import P4Outline.Proofs.ActionBody
import P4Outline.Proofs.Comment
import P4Outline.Proofs.Conventional
import P4Outline.Proofs.Conversation
import P4Outline.Proofs.DescriptionContent
import P4Outline.Proofs.Expansion
import P4Outline.Proofs.Independence
import P4Outline.Proofs.InlineBlock
import P4Outline.Proofs.KeyText
import P4Outline.Proofs.Layout
import P4Outline.Proofs.LineNumber
import P4Outline.Proofs.Loading
import P4Outline.Proofs.Lookup
import P4Outline.Proofs.Nesting
import P4Outline.Proofs.Page
import P4Outline.Proofs.PageContent
import P4Outline.Proofs.Precedence
import P4Outline.Proofs.RoundTrip
import P4Outline.Proofs.Scope
import P4Outline.Proofs.Slice
import P4Outline.Proofs.Template
import P4Outline.Proofs.Annotation
import P4Outline.Proofs.Composition
import P4Outline.Proofs.Truncation
