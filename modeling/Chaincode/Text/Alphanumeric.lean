import Chaincode.Text.Alphabetic
import Chaincode.Text.Numeric

namespace Chaincode.Text

/-- Letters, digits and other numbers of any script. -/
def isAlphanumeric (char : Char) : Bool := isAlphabetic char || isNumeric char

end Chaincode.Text
