import Triage.Comparison

/-!
# Errors of clauses

Every way in which a clause cannot be read, or does not apply to the evidence it is asked of.
-/

namespace Triage

/-- What is wrong with a quantity of bytes. -/
inductive QuantityError where
  | unknownSuffix (suffix : String)
  | missingNumber
  | malformedFraction
  | numberOutOfRange
  | overflow
  | notWhole
  | beyond64Bits
  deriving DecidableEq, Repr

def QuantityError.message : QuantityError → String
  | unknownSuffix suffix => s!"unknown unit suffix '{suffix}'"
  | missingNumber => "missing number"
  | malformedFraction => "malformed fraction"
  | numberOutOfRange => "number out of range"
  | overflow => "overflow"
  | notWhole => "quantity is not a whole number of bytes"
  | beyond64Bits => "quantity exceeds 64 bits"

inductive ConditionError where
  | unknownOperator (token : String)
  | wordCount (text : String) (count : Nat)
  | unexpectedSelector (text : String)
  | missingSelector (text : String)
  | notBoolean (text : String)
  | notInteger (text : String)
  | quantity (text : String) (error : QuantityError)
  | versionOutOfRange (text : String)
  | notVersion (text : String)
  | notRatio (text : String)
  /-- An ordering operator on texts that have no order. -/
  | unordered (operator : Comparison) (expected : String)
  | unorderedServices (operator : Comparison)
  | unorderedRuntimes (operator : Comparison)
  | unorderedCapture (operator : Comparison) (found expected : String)
  | malformedCpuClause (text : String)
  | unknownCpuSelector (selector : String)
  | unknownMicroarchitecture (level : String)
  | unknownTimeSelector (selector : String)
  | unknownNtpState (state : String)
  | unknownDiskStatistic (statistic : String)
  | unknownJobSelector (selector : String)
  deriving DecidableEq, Repr

def ConditionError.message : ConditionError → String
  | unknownOperator token => s!"unknown operator '{token}'"
  | wordCount text count => s!"expected 2 or 3 tokens in '{text}', got {count}"
  | unexpectedSelector text => s!"expected `operator operand` in '{text}'"
  | missingSelector text => s!"expected `selector operator operand` in '{text}'"
  | notBoolean text => s!"'{text}' is not a boolean condition"
  | notInteger text => s!"'{text}' is not an integer"
  | quantity text error => s!"invalid quantity '{text}': {error.message}"
  | versionOutOfRange text => s!"version component out of range in '{text}'"
  | notVersion text => s!"invalid version '{text}'"
  | notRatio text => s!"invalid ratio '{text}'"
  | unordered op expected => s!"operator {op.symbol} is not supported for '{expected}'"
  | unorderedServices op => s!"operator {op.symbol} is not supported for services"
  | unorderedRuntimes op => s!"operator {op.symbol} is not supported for container runtimes"
  | unorderedCapture op found expected =>
    s!"operator {op.symbol} cannot compare '{found}' and '{expected}'"
  | malformedCpuClause text => s!"unable to parse cpu condition '{text}'"
  | unknownCpuSelector selector => s!"unknown cpu selector '{selector}'"
  | unknownMicroarchitecture level => s!"unknown microarchitecture '{level}'"
  | unknownTimeSelector selector => s!"unknown time selector '{selector}'"
  | unknownNtpState state => s!"unknown ntp state '{state}'"
  | unknownDiskStatistic statistic => s!"unknown disk usage stat '{statistic}'"
  | unknownJobSelector selector => s!"unknown job selector '{selector}'"

end Triage
