import Placeholder.Main
import Placeholder.Proofs.Pattern.Lockstep
import Placeholder.Proofs.Pattern.Forms
import Placeholder.Proofs.Tag.Scan
import Placeholder.Proofs.Tag.Splice
import Placeholder.Proofs.Tag.Context
import Placeholder.Proofs.Tag.Beside
import Placeholder.Proofs.Tag.Escaping
import Placeholder.Proofs.Tag.Enclosed
import Placeholder.Proofs.Tag.Restoring
import Placeholder.Proofs.Unicode.Lowering
import Placeholder.Proofs.Generator
import Placeholder.Proofs.Expansion.Passes
import Placeholder.Proofs.Expansion.Faults
import Placeholder.Proofs.Expansion.Limit
import Placeholder.Proofs.Expansion.Alike
import Placeholder.Proofs.Expansion.Strictness
import Placeholder.Proofs.Expansion.Masking
import Placeholder.Proofs.Expansion.Nesting
import Placeholder.Proofs.Expansion.Surroundings
import Placeholder.Proofs.Expansion.Inert
import Placeholder.Proofs.Expansion.Precedence
import Placeholder.Proofs.Expansion.SingleEntry
import Placeholder.Proofs.Expansion.Substitution
import Placeholder.Proofs.Number.Rounding
import Placeholder.Proofs.Display.Places
import Placeholder.Proofs.Display.Picture
import Placeholder.Proofs.Literal
import Placeholder.Proofs.Expansion.Settled
import Placeholder.Proofs.Pattern.Captures
import Placeholder.Proofs.Tag.Arguments
import Placeholder.Proofs.Expansion.Generators
import Placeholder.Proofs.Tag.Parts
import Placeholder.Proofs.Tag.Written
import Placeholder.Proofs.Expansion.Specifiers
import Placeholder.Proofs.Json.Document
import Placeholder.Proofs.Config.Paths
import Placeholder.Proofs.Config.Tables
import Placeholder.Proofs.ValueMap.Leaves
import Placeholder.Proofs.ValueMap.History
import Placeholder.Proofs.Expansion.Loaded
import Placeholder.Proofs.Command.Stages
import Placeholder.Proofs.Command.Delivery
import Placeholder.Proofs.Display.Exact
import Placeholder.Proofs.Display.FixedPoint
import Placeholder.Proofs.Display.Sections
import Placeholder.Proofs.Display.Standard
import Placeholder.Proofs.Pattern.Neighbours
import Placeholder.Proofs.Pattern.Groups
import Placeholder.Proofs.Pattern.Reading
import Placeholder.Proofs.Tag.Places
import Placeholder.Proofs.Expansion.Splicing
import Placeholder.Proofs.Expansion.Sharing
import Placeholder.Proofs.Expansion.Survivors
import Placeholder.Proofs.Display.Parts
import Placeholder.Proofs.Calendar.Projections
import Placeholder.Proofs.Display.Radix
import Placeholder.Proofs.Display.Sortable
import Placeholder.Proofs.Display.Precision
import Placeholder.Proofs.Number.Nearest
import Placeholder.Proofs.Number.Significant
import Placeholder.Proofs.Number.Shortest
import Placeholder.Proofs.Number.Whole
import Placeholder.Proofs.Display.General
import Placeholder.Proofs.Number.Accuracy
import Placeholder.Proofs.Number.Positional
import Placeholder.Proofs.Display.Exponential
import Placeholder.Proofs.Pattern.BuiltIn
