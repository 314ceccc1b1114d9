import HtmlTemplate.Main
import HtmlTemplate.Node.Builder
import HtmlTemplate.Tool.Session
import HtmlTemplate.Proofs.CallOnce
import HtmlTemplate.Proofs.DepthLimit
import HtmlTemplate.Proofs.DirectValues
import HtmlTemplate.Proofs.Expansion
import HtmlTemplate.Proofs.FixedText
import HtmlTemplate.Proofs.NodeRoundTrip
import HtmlTemplate.Proofs.TidyDocument
import HtmlTemplate.Proofs.PointerReading
import HtmlTemplate.Proofs.DistinctNames
import HtmlTemplate.Proofs.ParsingModes
import HtmlTemplate.Proofs.DecodingInverse
import HtmlTemplate.Proofs.FirstFault
import HtmlTemplate.Proofs.LayoutReading
import HtmlTemplate.Proofs.DocumentJson
import HtmlTemplate.Proofs.FileTree
import HtmlTemplate.Proofs.ToolRun
import HtmlTemplate.Proofs.SavedDocument
import HtmlTemplate.Proofs.EndlessTemplates
import HtmlTemplate.Proofs.FirstDeferred
import HtmlTemplate.Proofs.ElementSteps
import HtmlTemplate.Proofs.DirectoryRun
import HtmlTemplate.Proofs.ReferenceVisits
import HtmlTemplate.Proofs.SimilarObjects
import HtmlTemplate.Proofs.AttributeHistory
import HtmlTemplate.Proofs.RegistryHistory
import HtmlTemplate.Proofs.LowerCase
import HtmlTemplate.Proofs.TagCase
import HtmlTemplate.Proofs.NodeTexts
