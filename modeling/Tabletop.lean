import Tabletop.Text.Basic
import Tabletop.Text.Decimal
import Tabletop.Text.LetterCase
import Tabletop.Text.LowerCase
import Tabletop.Text.Printable
import Tabletop.Text.Quoted
import Tabletop.Number.Nearest
import Tabletop.Number.Shortest
import Tabletop.Number.FloatText
import Tabletop.Datum
import Tabletop.Notation.Basic
import Tabletop.Notation.Operation
import Tabletop.Notation.Error
import Tabletop.Notation.Number
import Tabletop.Notation.Parse
import Tabletop.Notation.Calculation
import Tabletop.Settings.Basic
import Tabletop.Settings.Error
import Tabletop.Settings.Bindings
import Tabletop.Settings.EnvFile
import Tabletop.Settings.Value
import Tabletop.Settings.Conventions
import Tabletop.Settings.Layers
import Tabletop.Failure
import Tabletop.Notation.Named
import Tabletop.Rolling.Rejection
import Tabletop.Rolling.Selection
import Tabletop.Rolling.Source
import Tabletop.Rolling.Event
import Tabletop.Rolling.Play
import Tabletop.Rolling.Explosion
import Tabletop.Rolling.Evaluation
import Tabletop.Rolling.Draft
import Tabletop.Rolling.Summary
import Tabletop.Scalar.Basic
import Tabletop.Scalar.RollCalculation
import Tabletop.Scalar.Operand
import Tabletop.Session.Basic
import Tabletop.Session.Command
import Tabletop.Session.Step
import Tabletop.Proofs.Number.Rounding
import Tabletop.Proofs.Number.Encoding
import Tabletop.Proofs.Number.Order
import Tabletop.Proofs.Number.Nearest
import Tabletop.Proofs.Notation.Spelling
import Tabletop.Proofs.Notation.Number
import Tabletop.Proofs.Notation.Reading
import Tabletop.Proofs.Notation.RoundTrip
import Tabletop.Proofs.Rolling.Completion
import Tabletop.Proofs.Rolling.Outcome
import Tabletop.Proofs.Rolling.Window
import Tabletop.Proofs.Rolling.Composition
import Tabletop.Proofs.Rolling.Sequencing
import Tabletop.Proofs.Rolling.Rejection
import Tabletop.Proofs.Rolling.History
import Tabletop.Proofs.Rolling.Conservation
import Tabletop.Proofs.Rolling.Explosion
import Tabletop.Proofs.Rolling.Chains
import Tabletop.Proofs.Rolling.Termination
import Tabletop.Proofs.Rolling.Interchange
import Tabletop.Proofs.Rolling.Monotone
import Tabletop.Proofs.Rolling.Complement
import Tabletop.Proofs.Notation.Scalar
import Tabletop.Proofs.Notation.Calculation
import Tabletop.Proofs.Notation.Whole
import Tabletop.Proofs.Notation.Tail
import Tabletop.Proofs.Notation.Stops
import Tabletop.Proofs.Scalar.RollCalculation
import Tabletop.Proofs.Scalar.Failures
import Tabletop.Proofs.Scalar.ParseErrors
import Tabletop.Proofs.Session.Cache
import Tabletop.Proofs.Rolling.Deletion
import Tabletop.Proofs.Rolling.Selection
import Tabletop.Proofs.Rolling.Reports
import Tabletop.Proofs.Notation.Folding
import Tabletop.Proofs.Notation.Limits
import Tabletop.Proofs.Number.Division
import Tabletop.Proofs.Scalar.Division
import Tabletop.Proofs.Settings.EnvFile
import Tabletop.Proofs.Settings.Layers
