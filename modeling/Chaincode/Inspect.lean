import Chaincode.Dispatcher
import Chaincode.Wire.Message

namespace Chaincode

/-! Values written out with their structure, for diagnostics. -/

def Payload.inspect (payload : Payload) : String :=
  Text.bracketed (payload.map fun byte => toString byte.toNat)

def inspectOption (inspect : α → String) : Option α → String
  | none => "None"
  | some value => s!"Some({inspect value})"

/-- A name and its fields, in braces; without fields, the name alone. -/
def inspectRecord (name : String) (fields : List (String × String)) : String :=
  let items := fields.map fun field => field.1 ++ ": " ++ field.2
  name ++ " \x7b " ++ ", ".intercalate items ++ " \x7d"

def Outcome.inspect : Outcome → String
  | .success payload =>
      inspectRecord "Success" [("payload", inspectOption Payload.inspect payload)]
  | .failure message => inspectRecord "Failure" [("message", Text.quoted message)]

def Stub.inspect (stub : Stub) : String :=
  inspectRecord "ChaincodeStub" [("tx_id", Text.quoted stub.transactionId),
    ("channel_id", Text.quoted stub.channelId), ("args", Text.quotedList stub.arguments)]

def FunctionAndParameters.inspect (split : FunctionAndParameters) : String :=
  inspectRecord "FunctionAndParameters" [("fcn", Text.quoted split.function),
    ("params", Text.quotedList split.parameters)]

def Invocation.inspect (invocation : Invocation) : String :=
  inspectRecord "InvocationRequest" [("method_name", Text.quoted invocation.method),
    ("arguments", Text.quotedList invocation.arguments)]

def HandlerError.inspect : HandlerError → String
  | .message text => s!"Message({Text.quoted text})"
  | .argumentCount expected got =>
      inspectRecord "ArgumentCount" [("expected", toString expected), ("got", toString got)]
  | .panicked text => s!"Panicked({Text.quoted text})"

def DispatchError.inspect : DispatchError → String
  | .unknownMethod method => s!"UnknownMethod({Text.quoted method})"
  | .handler method source =>
      inspectRecord "Handler" [("method", Text.quoted method), ("source", source.inspect)]

def Wire.Response.inspect : Wire.Response → String
  | .pong => "Pong"
  | .methods names => s!"Methods({Text.quotedList names})"
  | .result outcome => s!"Result({outcome.inspect})"

end Chaincode
