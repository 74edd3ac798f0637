import Snippet.Conversion.Run
import Snippet.Conversion.Search
import Snippet.History.Recent
import Snippet.Json.Printer
import Snippet.Proofs.Conversion.Disclosure
import Snippet.Proofs.Conversion.Failure
import Snippet.Proofs.Markup.DrawingEdits
import Snippet.Proofs.Schema.Document
import Snippet.Proofs.Schema.Unambiguous
import Snippet.Proofs.Script.StringLiteral
import Snippet.Proofs.Script.WrittenLiterals
import Snippet.Proofs.TypeScript.Declared
import Snippet.Proofs.TypeScript.DeclarationText
import Snippet.Proofs.TypeScript.DiscoveryOrder
import Snippet.Proofs.TypeScript.ElementHints
import Snippet.Proofs.TypeScript.IdentifierNames
import Snippet.Proofs.TypeScript.NameOrigin
import Snippet.Proofs.TypeScript.Sharing
import Snippet.Proofs.TypeScript.Soundness
import Snippet.Proofs.Style.BoxSides
import Snippet.Proofs.Style.ClassNames
import Snippet.Proofs.Style.Composition
import Snippet.Proofs.Style.ObjectEntries
import Snippet.Proofs.Style.StepLength
import Snippet.Proofs.Style.WrittenDeclaration
import Snippet.Proofs.Text.Decoding
import Snippet.Proofs.TypeScript.SecondVisit
import Snippet.Proofs.History.TimestampText
import Snippet.Proofs.History.Truncation
import Snippet.Proofs.History.StoredEntry
import Snippet.Proofs.Style.LetterCase
import Snippet.Proofs.Markup.AttributePasses
import Snippet.Proofs.Text.Edits
import Snippet.Proofs.Markup.PageEdits
import Snippet.Proofs.Number.RoundingError
import Snippet.Proofs.Number.DecimalLiteral
import Snippet.Proofs.Style.OpacityScale
import Snippet.Proofs.History.Newest
import Snippet.Proofs.Request.FirstQuotation
import Snippet.Proofs.Text.Occurrences
import Snippet.Proofs.Text.Indentation
import Snippet.Proofs.Markup.DrawingText
import Snippet.Proofs.Markup.StyledDrawing
import Snippet.Proofs.Conversion.SearchResults
import Snippet.Proofs.Naming.Spellings
import Snippet.Proofs.PartialConfig
import Snippet.Proofs.TypeScript.NameSearch
import Snippet.Proofs.Style.WrittenDeclaration
