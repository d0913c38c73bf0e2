import DatePhrase.Expr.Printer
import DatePhrase.Main
import DatePhrase.Proofs.TokenLayout
import DatePhrase.Proofs.Grammar
import DatePhrase.Proofs.Parsing
import DatePhrase.Proofs.RoundTrip
import DatePhrase.Proofs.TooLarge
import DatePhrase.Proofs.ThereAndBack
import DatePhrase.Proofs.Moves
import DatePhrase.Proofs.Resolution
import DatePhrase.Proofs.MonthMoves
import DatePhrase.Proofs.DaySteps
import DatePhrase.Proofs.PeriodEnds
import DatePhrase.Proofs.Denotation
import DatePhrase.Proofs.YearMoves
import DatePhrase.Proofs.Lengths
import DatePhrase.Proofs.AnchorChains
import DatePhrase.Proofs.Spacing
import DatePhrase.Proofs.Reprinting
import DatePhrase.Proofs.Composition
import DatePhrase.Proofs.TableDocument
import DatePhrase.Proofs.DocumentStrings
import DatePhrase.Proofs.DocumentReader
import DatePhrase.Proofs.TableCommand
import DatePhrase.Proofs.Recognition
import DatePhrase.Proofs.Stability
import DatePhrase.Proofs.SurroundingBlanks
import DatePhrase.Proofs.FaultPosition
import DatePhrase.Proofs.PatternJoining
import DatePhrase.Proofs.PatternValidity
import DatePhrase.Proofs.DateOutput
import DatePhrase.Proofs.ExplainedTree
