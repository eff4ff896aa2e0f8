import Boilerplate.Generation.Session
import Boilerplate.Main
import Boilerplate.Proofs.Source.Group
import Boilerplate.Proofs.Source.FieldDeclaration
import Boilerplate.Proofs.Source.Accounting
import Boilerplate.Proofs.Source.Spelling
import Boilerplate.Proofs.Source.TypeForm
import Boilerplate.Proofs.Source.CanonicalText
import Boilerplate.Proofs.Source.ClassText
import Boilerplate.Proofs.Code.Evaluation
import Boilerplate.Proofs.Method.EqualHash
import Boilerplate.Proofs.Generation.History
import Boilerplate.Proofs.Source.Findings
import Boilerplate.Proofs.Source.SeveralFields
import Boilerplate.Proofs.Source.StatementPlace
import Boilerplate.Proofs.Source.ModifierReach
import Boilerplate.Proofs.Code.OneLine
import Boilerplate.Proofs.Method.CodeLines
import Boilerplate.Proofs.Generation.ReferenceLayout
import Boilerplate.Proofs.Source.PrefixFilter
import Boilerplate.Proofs.CommandLine.FileContents
import Boilerplate.Proofs.Generation.ResultEnvelope
import Boilerplate.Proofs.Generation.SelectedFields
import Boilerplate.Proofs.Source.LineComment
import Boilerplate.Proofs.Method.CopyEqual
import Boilerplate.Proofs.CommandLine.Delivery
import Boilerplate.Proofs.Json.Members
import Boilerplate.Proofs.Settings.Layers
import Boilerplate.Proofs.CommandLine.GivenOptions
import Boilerplate.Proofs.CommandLine.SettingsPrecedence
import Boilerplate.Proofs.Source.InstanceCreation
import Boilerplate.Proofs.Source.MethodHeader
import Boilerplate.Proofs.Source.StatementSplit
import Boilerplate.Proofs.Source.TextBlockEnd
import Boilerplate.Proofs.AccessorNames
import Boilerplate.Proofs.Generation.DuplicateAccessors
import Boilerplate.Proofs.Method.DeepArrays
import Boilerplate.Proofs.Source.ArrayDimensions
import Boilerplate.Proofs.Settings.Acceptance
import Boilerplate.Proofs.Generation.SetterParameters
import Boilerplate.Proofs.Method.BodyShape
import Boilerplate.Proofs.Source.CheckedReading
import Boilerplate.Proofs.Text.TidyLines
import Boilerplate.Proofs.Source.LexemePieces
import Boilerplate.Proofs.Source.BlockCut
import Boilerplate.Proofs.Code.Conjunction
