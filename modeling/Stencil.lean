import Stencil.Engine.Basic
import Stencil.Template.Print
import Stencil.Proofs.Agreement
import Stencil.Proofs.Operation
import Stencil.Proofs.Transparency
import Stencil.Proofs.Scanning
import Stencil.Proofs.TagEnd
import Stencil.Proofs.Printed
import Stencil.Proofs.Building
import Stencil.Proofs.RoundTrip
import Stencil.Proofs.Balance
import Stencil.Proofs.Nesting
import Stencil.Proofs.Pairing
import Stencil.Proofs.Running
import Stencil.Proofs.Deeds
import Stencil.Proofs.Escaping
import Stencil.Proofs.Failing
import Stencil.Proofs.Located
import Stencil.Proofs.Location
import Stencil.Proofs.Strictness
import Stencil.Proofs.Ending
import Stencil.Proofs.Keeping
import Stencil.Proofs.Cycles
import Stencil.Proofs.Published
import Stencil.Proofs.Scoping
import Stencil.Proofs.Tiling
import Stencil.Proofs.Caching
import Stencil.Proofs.Rounding
import Stencil.Proofs.Compilations
import Stencil.Proofs.Tally
import Stencil.Proofs.Inlining
import Stencil.Proofs.LineBreaks
import Stencil.Proofs.Colouring
import Stencil.Proofs.Snippets
import Stencil.Proofs.Whereabouts
import Stencil.Proofs.PlainData
import Stencil.Proofs.Lookups
import Stencil.Proofs.Dotted
import Stencil.Proofs.Decimals
import Stencil.Proofs.WholeArguments
import Stencil.Proofs.Truncation
import Stencil.Proofs.DeepNests
import Stencil.Proofs.Positions
import Stencil.Proofs.ReadingBack
import Stencil.Proofs.JsonGrammar
import Stencil.Proofs.JsonNumbers
import Stencil.Proofs.JsonReading
import Stencil.Proofs.JsonTexts
import Stencil.Proofs.Calculations
import Stencil.Proofs.Figures
import Stencil.Proofs.WrittenDates
import Stencil.Proofs.Entities
import Stencil.Proofs.Priority
import Stencil.Proofs.Wrapping
