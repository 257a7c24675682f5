import Recital.Main
import Recital.Proofs.Reading.Rounds
import Recital.Proofs.Reading.Structure
import Recital.Proofs.Binary64.Bound
import Recital.Proofs.Instruction.Scaling
import Recital.Proofs.Draft.Failure
import Recital.Proofs.Reading.Restart
import Recital.Proofs.Reading.Repetition
import Recital.Proofs.Draft.Levels
import Recital.Proofs.Compilation
import Recital.Proofs.Document.Nested
import Recital.Proofs.Document.Segment
import Recital.Proofs.Audio.Spoken
import Recital.Proofs.Stateful
import Recital.Proofs.Delivery.Attempt
import Recital.Proofs.Delivery.Prompt
import Recital.Proofs.Delivery.Performance
import Recital.Proofs.Delivery.Printed
import Recital.Proofs.Delivery.Interruption
import Recital.Proofs.CommandLine.Item
import Recital.Proofs.CommandLine.Early
import Recital.Proofs.CommandLine.Literal
import Recital.Proofs.Template.Derivation
import Recital.Proofs.Segment.Boundary
import Recital.Proofs.Binary64.Order
import Recital.Proofs.Instruction.Fading
import Recital.Proofs.Reading.Live
import Recital.Proofs.Template.Limit
import Recital.Proofs.Document.Spacing
import Recital.Proofs.Instruction.Multiplication
import Recital.Proofs.Instruction.Trailing
import Recital.Proofs.Catalog.Search
import Recital.Proofs.Instruction.Halves
import Recital.Proofs.CommandLine.Roles
import Recital.Proofs.Audio.Layout
import Recital.Proofs.CommandLine.Halting
import Recital.Proofs.Text.Utf8
import Recital.Proofs.Source.Fetching
import Recital.Proofs.Json.Grammar
import Recital.Proofs.Template.Loading
import Recital.Proofs.Export.Manifest
