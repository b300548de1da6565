import QuietSource.Code.Fragment
import QuietSource.Code.Indent
import QuietSource.Code.Sections
import QuietSource.Code.Writer
import QuietSource.Crate.Attribute
import QuietSource.Crate.Catalogue
import QuietSource.Crate.Function
import QuietSource.Crate.ImplBlock
import QuietSource.Crate.SourceFile
import QuietSource.Crate.StructDecl
import QuietSource.Document.Layout
import QuietSource.Document.Statement
import QuietSource.Document.StringToken
import QuietSource.Files.FileTree
import QuietSource.Files.Path
import QuietSource.Lint.File
import QuietSource.Lint.Name
import QuietSource.Lint.Problem
import QuietSource.Lint.Table
import QuietSource.Observation
import QuietSource.Ordered.Map
import QuietSource.Ordered.Set
import QuietSource.Package.AnnotationUse
import QuietSource.Package.ClassDecl
import QuietSource.Package.ClassType
import QuietSource.Package.CompilationUnit
import QuietSource.Package.Method
import QuietSource.Proofs.Allowance
import QuietSource.Proofs.ByteOrder
import QuietSource.Proofs.DirectivePlacement
import QuietSource.Proofs.DirectiveReading
import QuietSource.Proofs.EditHistory
import QuietSource.Proofs.FileSections
import QuietSource.Proofs.FirstMention
import QuietSource.Proofs.KnownItems
import QuietSource.Proofs.JudgedEntries
import QuietSource.Proofs.LintFile
import QuietSource.Proofs.LintName
import QuietSource.Proofs.LintTable
import QuietSource.Proofs.LogicalLines
import QuietSource.Proofs.ListedEntries
import QuietSource.Proofs.Preorder
import QuietSource.Proofs.Remainder
import QuietSource.Proofs.SeparatedSections
import QuietSource.Proofs.Separator
import QuietSource.Proofs.Warnings
import QuietSource.Text.Blank
import QuietSource.Text.Lines
import QuietSource.Text.Quoted
import QuietSource.Text.Shape
import QuietSource.Text.Source
import QuietSource.Text.Split
import QuietSource.Trial
import QuietSource.TypeTree
import QuietSource.Warning.Deprecation
import QuietSource.Warning.Directive
import QuietSource.Warning.Ledger
import QuietSource.Proofs.WalkOrder
import QuietSource.Proofs.CarriedStatus
import QuietSource.Proofs.GrowingDirective
import QuietSource.Proofs.ObservationOrder
import QuietSource.Proofs.LastSeparator
import QuietSource.Proofs.ImportList
import QuietSource.Proofs.OwnPackage
import QuietSource.Proofs.LineBreaks
import QuietSource.Proofs.SimpleNames
import QuietSource.Proofs.Nesting
import QuietSource.Proofs.TypeText
import QuietSource.Proofs.TypeReading
import QuietSource.Proofs.EscapedReading
import QuietSource.Proofs.DocComments
import QuietSource.Proofs.NoticeReading
import QuietSource.Proofs.BracketComments
import QuietSource.Proofs.DirectiveLines
import QuietSource.Proofs.ReservedWords
import QuietSource.Proofs.FilePlaces
import QuietSource.Proofs.JoinedPath
import QuietSource.Proofs.SourceRoot
import QuietSource.Proofs.ShownLedger
import QuietSource.Proofs.EqualTables
import QuietSource.Proofs.DecisiveChanges
import QuietSource.Proofs.ItemChanges
import QuietSource.Proofs.DeclarationChanges
import QuietSource.Proofs.UnitWriting
import QuietSource.Proofs.NameCheck
import QuietSource.Proofs.LineEndings
import QuietSource.Proofs.RawContent
