import Preflight.Check.Document
import Preflight.Content.Writer
import Preflight.Conversion.Document
import Preflight.File
import Preflight.Metadata
import Preflight.Proofs.DocumentConversion
import Preflight.Proofs.PageWalks
import Preflight.Proofs.RepeatedWalks
import Preflight.Proofs.WiderLimits
import Preflight.Proofs.DepthFailures
import Preflight.Proofs.FollowedReaders
import Preflight.Proofs.FormNesting
import Preflight.Proofs.JoinedContent
import Preflight.Proofs.RepeatedConversion
import Preflight.Proofs.ReadableOutput
import Preflight.Proofs.KeptNames
import Preflight.Proofs.OrderedLevels
import Preflight.Proofs.PassingConversion
import Preflight.Proofs.WalkTasks
import Preflight.Proofs.StoredDefinitions
import Preflight.Proofs.PaintedColors
import Preflight.Proofs.ColorantTowers
import Preflight.Proofs.LocalReading
import Preflight.Proofs.Layouts
import Preflight.Proofs.ReadingProgress
import Preflight.Proofs.NumberAccuracy
import Preflight.Proofs.ComponentCounts
import Preflight.Proofs.CanonicalColors
import Preflight.Proofs.ImageSpaces
import Preflight.Proofs.CompletedMetadata
import Preflight.Proofs.FailedMetadata
import Preflight.Proofs.GrayReplacement
import Preflight.Proofs.InheritedAttributes
