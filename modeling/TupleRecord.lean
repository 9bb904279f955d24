import TupleRecord.CompilationUnit.Store
import TupleRecord.Declaration.Expansion
import TupleRecord.Proofs.Name.Word
import TupleRecord.Proofs.Text.Pieces
import TupleRecord.Proofs.FieldType.SourceName
import TupleRecord.Proofs.FieldType.StorageFit
import TupleRecord.Proofs.FieldType.Grammar
import TupleRecord.Proofs.FieldType.RoundTrip
import TupleRecord.Proofs.Template.Validity
import TupleRecord.Proofs.Java.Layout
import TupleRecord.Proofs.Java.Plain
import TupleRecord.Proofs.Java.Escape
import TupleRecord.Proofs.Java.Erasure
import TupleRecord.Proofs.Java.Access
import TupleRecord.Proofs.Java.Reader
import TupleRecord.Proofs.RecordClass.Acceptance
import TupleRecord.Proofs.RecordClass.Members
import TupleRecord.Proofs.RecordClass.Lines
import TupleRecord.Proofs.RecordClass.PlainCode
import TupleRecord.Proofs.RecordClass.Documentation
import TupleRecord.Proofs.RecordClass.Accessors
import TupleRecord.Proofs.RecordClass.Shape
import TupleRecord.Proofs.RecordClass.Spelling
import TupleRecord.Proofs.Template.FirstFault
import TupleRecord.Proofs.Declaration.AttributeReader
import TupleRecord.Proofs.Declaration.Arguments
import TupleRecord.Proofs.Declaration.Fields
import TupleRecord.Proofs.Expansion.Quoted
import TupleRecord.Proofs.Expansion.Token
import TupleRecord.Proofs.Expansion.Reader
import TupleRecord.Proofs.Expansion.Generics
import TupleRecord.Proofs.Expansion.Implementation
import TupleRecord.Proofs.Java.Variable
import TupleRecord.Proofs.RecordClass.Capture
import TupleRecord.Proofs.RecordClass.TypeNames
import TupleRecord.Proofs.RecordClass.Sections
import TupleRecord.Proofs.Java.Nesting
import TupleRecord.Proofs.Java.Spacing
import TupleRecord.Proofs.RecordClass.Tidiness
import TupleRecord.Proofs.FileTree.Route
import TupleRecord.Proofs.CompilationUnit.Path
import TupleRecord.Proofs.CompilationUnit.Store
import TupleRecord.Proofs.CompilationUnit.Separation
import TupleRecord.Proofs.Name.CamelCase
import TupleRecord.Proofs.Name.CamelForm
import TupleRecord.Proofs.Declaration.DefaultType
import TupleRecord.Proofs.Java.Cast
import TupleRecord.Proofs.RecordClass.ReadBack
import TupleRecord.Proofs.RecordClass.Strictness
import TupleRecord.Proofs.Template.DerivedNames
import TupleRecord.Proofs.FieldType.SourceType
import TupleRecord.Proofs.Text.Replace
import TupleRecord.Proofs.Java.CommentText
import TupleRecord.Proofs.Name.UpperCase
import TupleRecord.Proofs.Java.LiteralText
import TupleRecord.Proofs.Java.Indentation
import TupleRecord.Proofs.Java.Level
import TupleRecord.Proofs.Declaration.Grouping
