import DecimalMoney.Amount.Balance
import DecimalMoney.Amount.Format
import DecimalMoney.Amount.Scaling
import DecimalMoney.Amount.Tax
import DecimalMoney.Currency.Iso4217
import DecimalMoney.Json.Money
import DecimalMoney.Json.Settings
import DecimalMoney.Proofs.Wide.Agreement
import DecimalMoney.Proofs.Rounding.Exact
import DecimalMoney.Proofs.Rounding.Truncated
import DecimalMoney.Proofs.Wide.ProductQuotient
import DecimalMoney.Proofs.Sums
import DecimalMoney.Proofs.Apportionment.Apportioned
import DecimalMoney.Proofs.Amount.Reachable
import DecimalMoney.Proofs.Numeral.Words
import DecimalMoney.Proofs.Numeral.Acceptance
import DecimalMoney.Proofs.Decimal.RoundTrip
import DecimalMoney.Proofs.Decimal.Bounded
import DecimalMoney.Proofs.Decimal.Comparison
import DecimalMoney.Proofs.Decimal.Reachable
import DecimalMoney.Proofs.Amount.Digits
import DecimalMoney.Proofs.Amount.Rates
import DecimalMoney.Proofs.Amount.RoundTrip
import DecimalMoney.Proofs.Amount.ScaledGross
import DecimalMoney.Proofs.Decimal.Value
import DecimalMoney.Proofs.Amount.Split
import DecimalMoney.Proofs.Amount.AddThenSplit
import DecimalMoney.Proofs.Apportionment.Candidates
import DecimalMoney.Proofs.Amount.Conversion
import DecimalMoney.Proofs.Rounding.Digits
import DecimalMoney.Proofs.Rounding.Nested
import DecimalMoney.Proofs.Decimal.ProductQuotient
import DecimalMoney.Proofs.Decimal.Order
import DecimalMoney.Proofs.Apportionment.Short
import DecimalMoney.Proofs.Amount.Shortcuts
import DecimalMoney.Proofs.Amount.Reflection
import DecimalMoney.Proofs.Decimal.Rescaling
import DecimalMoney.Proofs.Decimal.Places
import DecimalMoney.Proofs.Decimal.Rounded
import DecimalMoney.Proofs.Decimal.CommonScale
import DecimalMoney.Proofs.Decimal.Addition
import DecimalMoney.Proofs.Decimal.SumList
import DecimalMoney.Proofs.Decimal.CommonSum
import DecimalMoney.Proofs.Decimal.Reading
import DecimalMoney.Proofs.Decimal.Long
import DecimalMoney.Proofs.Decimal.Integers
import DecimalMoney.Proofs.Decimal.Parts
