import ClassTypings.Main
import ClassTypings.Proofs.SketchInterface
import ClassTypings.Session
import ClassTypings.Proofs.Access
import ClassTypings.Proofs.Appending
import ClassTypings.Proofs.DeclaredLines
import ClassTypings.Proofs.LineEnds
import ClassTypings.Proofs.MemberNames
import ClassTypings.Proofs.Attempts
import ClassTypings.Proofs.BatchRun
import ClassTypings.Proofs.BatchAgain
import ClassTypings.Proofs.Routes
import ClassTypings.Proofs.AccessorPlaces
import ClassTypings.Proofs.StatementLines
import ClassTypings.Proofs.NameEnds
import ClassTypings.Proofs.BesidePaths
import ClassTypings.Proofs.KeptInputs
import ClassTypings.Proofs.TypeWords
import ClassTypings.Proofs.ReadDeclarations
import ClassTypings.Proofs.SessionSteps
import ClassTypings.Proofs.StoppedBatch
import ClassTypings.Proofs.FirstHeader
import ClassTypings.Proofs.HeaderSpelling
import ClassTypings.Proofs.PathOrder
import ClassTypings.Proofs.FoundSources
import ClassTypings.Proofs.OutlineShape
import ClassTypings.Proofs.Members
import ClassTypings.Proofs.JsonDump
import ClassTypings.Proofs.WrittenCommands
import ClassTypings.Proofs.OutputPaths
import ClassTypings.Proofs.CharRanges
import ClassTypings.Proofs.PatternMatches
import ClassTypings.Proofs.PlainPatterns
import ClassTypings.Proofs.LogFilters
