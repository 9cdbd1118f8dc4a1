import InfixCalc.Arguments
import InfixCalc.Expression
import InfixCalc.Main
import InfixCalc.Outcome
import InfixCalc.Proofs.Evaluation.Explanation
import InfixCalc.Proofs.Evaluation.Grammar
import InfixCalc.Proofs.Evaluation.ReadBack
import InfixCalc.Proofs.Evaluation.Readers
import InfixCalc.Proofs.Evaluation.Reductions
import InfixCalc.Proofs.FrontEnds.Agreement
import InfixCalc.Proofs.Machine.History
import InfixCalc.Proofs.Service.Listener
import InfixCalc.Service.Tally
import InfixCalc.Proofs.Machine.Substitution
import InfixCalc.Proofs.Token.Partners
import InfixCalc.Proofs.Evaluation.Parentheses
import InfixCalc.Proofs.Evaluation.Checked
import InfixCalc.Proofs.Command.Flags
import InfixCalc.Proofs.Command.Fixtures
import InfixCalc.Proofs.Command.Streams
import InfixCalc.Proofs.Command.Verdicts
import InfixCalc.Proofs.Token.Splits
import InfixCalc.Proofs.Evaluation.Precision
import InfixCalc.Proofs.Service.UnknownPaths
import InfixCalc.Proofs.Service.Bodies
import InfixCalc.Proofs.Command.Pieces
import InfixCalc.Proofs.Schema.Language
import InfixCalc.Proofs.Settings.Loading
