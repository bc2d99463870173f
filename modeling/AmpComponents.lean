import AmpComponents.Files.Tree
import AmpComponents.Main
import AmpComponents.Proofs.Cache.Transparency
import AmpComponents.Proofs.Dispatch
import AmpComponents.Proofs.Script.Dispatcher
import AmpComponents.Rendering
import AmpComponents.Proofs.ExportName
import AmpComponents.Proofs.Identifiers
import AmpComponents.Proofs.Emission.Lines
import AmpComponents.Proofs.Outcome
import AmpComponents.Proofs.Emission.Unambiguous
import AmpComponents.Proofs.Emission.Exports
import AmpComponents.Proofs.Blocking
import AmpComponents.Proofs.Order
import AmpComponents.Proofs.Json.Numerals
import AmpComponents.Proofs.Json.Values
import AmpComponents.Proofs.Rules.Format
import AmpComponents.Proofs.Cache.Lookup
import AmpComponents.Proofs.CommandLine.Run
import AmpComponents.Proofs.Props
import AmpComponents.Proofs.Emission.Bindings
import AmpComponents.Proofs.ExportName.Origins
import AmpComponents.Proofs.Overriding
import AmpComponents.Proofs.TopLevel
import AmpComponents.Proofs.Cache.Isolation
import AmpComponents.Proofs.Script.Quotation
import AmpComponents.Proofs.Settings
import AmpComponents.Proofs.ExportName.Segments
import AmpComponents.Proofs.ExportName.Variants
import AmpComponents.Proofs.SharedTags
import AmpComponents.Proofs.Rules.Rewording
import AmpComponents.Proofs.VariantName
import AmpComponents.Proofs.Rendering.Extensions
import AmpComponents.Proofs.Script.Rendering
import AmpComponents.Proofs.Overrides
