import MotorTariff.Main
import MotorTariff.Premium.Audit
import MotorTariff.Profile.Samples
import MotorTariff.Program.Directory
import MotorTariff.Rates.Document
import MotorTariff.Proofs.Decimal.Value
import MotorTariff.Proofs.Money.Sum
import MotorTariff.Proofs.Premium.Accumulator
import MotorTariff.Proofs.Engine.Assembly
import MotorTariff.Proofs.Engine.Run
import MotorTariff.Proofs.Engine.Listening
import MotorTariff.Proofs.Engine.SetterOrder
import MotorTariff.Proofs.Rule.Appending
import MotorTariff.Proofs.Engine.Reordering
import MotorTariff.Proofs.Decimal.HalfEven
import MotorTariff.Proofs.Decimal.Nearest
import MotorTariff.Proofs.Decimal.Operations
import MotorTariff.Proofs.Engine.RiskOrder
import MotorTariff.Proofs.Json.Text
import MotorTariff.Proofs.Money.KeptPlaces
import MotorTariff.Proofs.Json.Integer
import MotorTariff.Proofs.Json.RoundTrip
import MotorTariff.Proofs.Json.Record
import MotorTariff.Proofs.Profile.RoundTrip
import MotorTariff.Proofs.Engine.RatingFormula
import MotorTariff.Proofs.Money.Shown
import MotorTariff.Proofs.Premium.Reconciliation
import MotorTariff.Proofs.Engine.StandardTable
import MotorTariff.Proofs.Program.Delivery
import MotorTariff.Proofs.Program.FormatOption
import MotorTariff.Proofs.Program.FormatOverride
import MotorTariff.Proofs.Decimal.HalfAway
import MotorTariff.Proofs.Engine.PrintedAdjustment
import MotorTariff.Json.Tree
import MotorTariff.Proofs.Binary64.Nearest
import MotorTariff.Proofs.Binary64.Operations
import MotorTariff.Proofs.Binary64.RoundingInterval
import MotorTariff.Proofs.Binary64.ShortDecimal
import MotorTariff.Proofs.Binary64.Text
import MotorTariff.Proofs.Decimal.Double
import MotorTariff.Proofs.Decimal.ShortDouble
import MotorTariff.Proofs.Decimal.Text
import MotorTariff.Proofs.Engine.AuditTrail
import MotorTariff.Proofs.Json.Amount
import MotorTariff.Proofs.Json.Tree
import MotorTariff.Proofs.Premium.Document
import MotorTariff.Proofs.Rates.RoundTrip
import MotorTariff.Proofs.Money.CheckedArithmetic
import MotorTariff.Proofs.Engine.FirstFault
import MotorTariff.Proofs.Json.Passing
import MotorTariff.Proofs.Json.OneValue
import MotorTariff.Proofs.Json.Extension
import MotorTariff.Proofs.Json.Source
import MotorTariff.Proofs.Json.ByKey
import MotorTariff.Proofs.Json.Rearranged
import MotorTariff.Proofs.Profile.WholeDocument
import MotorTariff.Proofs.Profile.ByKey
import MotorTariff.Proofs.Money.Multiplication
import MotorTariff.Proofs.Premium.PlainTotal
import MotorTariff.Proofs.Money.NearestCent
import MotorTariff.Proofs.Decimal.ZeroSign
import MotorTariff.Proofs.Money.EqualText
import MotorTariff.Proofs.Money.DifferenceSign
import MotorTariff.Proofs.Profile.Fields
import MotorTariff.Proofs.Profile.LastEntry
import MotorTariff.Proofs.Json.IntegerRange
import MotorTariff.Proofs.Json.Replaced
import MotorTariff.Proofs.Profile.IntegerFields
import MotorTariff.Proofs.Rates.Listing
import MotorTariff.Proofs.Text.LetterCase
import MotorTariff.Proofs.Vehicle.ListedWords
