import Stencil.Main
import Stencil.Proofs.Cache.Contents
import Stencil.Proofs.Template.Outline
import Stencil.Proofs.Template.Sighting
import Stencil.Proofs.Template.Machine
import Stencil.Proofs.Template.Literal
import Stencil.Proofs.Template.Excerpt
import Stencil.Proofs.Template.Section
import Stencil.Proofs.Template.Alongside
import Stencil.Proofs.Cache.History
import Stencil.Proofs.Cache.Operation
import Stencil.Proofs.Cache.Recency
import Stencil.Proofs.Cache.Residue
import Stencil.Proofs.Template.Line
import Stencil.Proofs.Tag.Append
import Stencil.Proofs.Template.Concatenation
import Stencil.Proofs.Render.Confined
import Stencil.Proofs.Render.Course
import Stencil.Proofs.Render.Effect
import Stencil.Proofs.Render.Markup
import Stencil.Proofs.Value.Face
import Stencil.Proofs.Render.Recorded
import Stencil.Proofs.Render.Calls
import Stencil.Proofs.Render.Mirror
import Stencil.Proofs.Render.Mirrored
import Stencil.Proofs.Render.Private
import Stencil.Proofs.Render.Query
import Stencil.Proofs.Render.Timeline
import Stencil.Proofs.Render.Settled
import Stencil.Proofs.Cache.Account
import Stencil.Proofs.Tag.Closing
import Stencil.Proofs.Command.Stage
import Stencil.Proofs.Command.Merged
import Stencil.Proofs.Command.Refusal
import Stencil.Proofs.Tag.Grammar
import Stencil.Proofs.Tag.Leftmost
import Stencil.Proofs.Template.DelimiterLine
import Stencil.Proofs.Render.Sections
import Stencil.Proofs.Render.PassedOver
import Stencil.Proofs.FrontMatter
import Stencil.Proofs.Render.Indentation
import Stencil.Proofs.Render.Nested
import Stencil.Proofs.Render.Agreement
import Stencil.Proofs.Text.Decoding
import Stencil.Proofs.Render.Holder
import Stencil.Proofs.Template.Bounds
