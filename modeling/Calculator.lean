import Calculator.Main
import Calculator.Expr.Functional
import Calculator.Proofs.Grammar
import Calculator.Proofs.Passing
import Calculator.Proofs.Language
import Calculator.Proofs.Recognition
import Calculator.Proofs.Grouping
import Calculator.Proofs.Spelling
import Calculator.Proofs.Reading
import Calculator.Proofs.ReadTree
import Calculator.Proofs.Building
import Calculator.Proofs.Obstacle
import Calculator.Proofs.FloatBits
import Calculator.Proofs.Nearest
import Calculator.Proofs.ReadBack
import Calculator.Proofs.NumberText
import Calculator.Proofs.InfixText
import Calculator.Proofs.Brackets
import Calculator.Proofs.Separation
import Calculator.Proofs.ReadFailure
import Calculator.Proofs.Acceptance
import Calculator.Proofs.CanonicalText
import Calculator.Proofs.MissingOperand
import Calculator.Proofs.RightmostSplit
import Calculator.Proofs.Exchange
import Calculator.Proofs.BracketValue
import Calculator.Proofs.ProblemPlace
import Calculator.Proofs.Description
import Calculator.Proofs.FirstLine
import Calculator.Proofs.FixedText
import Calculator.Proofs.Report
import Calculator.Proofs.FailurePlace
import Calculator.Proofs.Nesting
import Calculator.Proofs.PostOrder
import Calculator.Proofs.LeadingZero
import Calculator.Proofs.WrittenZero
import Calculator.Proofs.BracketCount
import Calculator.Proofs.OrderSteps
import Calculator.Proofs.Refilling
import Calculator.Proofs.OrderPrefix
import Calculator.Proofs.Drawing
import Calculator.Proofs.OutlineNodes
import Calculator.Proofs.OutlineText
import Calculator.Proofs.ByteRanges
import Calculator.Proofs.RangeSafety
import Calculator.Proofs.RangeEvents
