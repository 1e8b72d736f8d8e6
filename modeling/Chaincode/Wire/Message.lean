import Chaincode.Outcome
import Chaincode.Stub
import Chaincode.Wire.Primitive

namespace Chaincode.Wire

/-! What clients and servers say to each other. -/

inductive Request where
  | ping
  | methods
  | start (stub : Stub)
  | invoke (stub : Stub)
deriving DecidableEq

inductive Response where
  | pong
  | methods (names : List String)
  | result (outcome : Outcome)
deriving DecidableEq

def encodeStub (stub : Stub) : Bytes :=
  encodeText stub.transactionId ++ encodeText stub.channelId ++
    encodeList encodeText stub.arguments

def encodePayload (payload : Payload) : Bytes := encodeList (fun byte => [byte]) payload

def encodeOutcome : Outcome → Bytes
  | .success payload => encodeInteger 0 ++ encodeOption encodePayload payload
  | .failure message => encodeInteger 1 ++ encodeText message

namespace Metered

def stub : Metered Stub :=
  text.andThen fun transactionId =>
    text.andThen fun channelId =>
      (list text).map fun arguments => { transactionId, channelId, arguments }

def outcome : Metered Outcome :=
  (variant 2).andThen fun
    | 0 => (option (list byte)).map .success
    | _ => text.map .failure

def request : Metered Request :=
  (variant 4).andThen fun
    | 0 => pure .ping
    | 1 => pure .methods
    | 2 => stub.map .start
    | _ => stub.map .invoke

def response : Metered Response :=
  (variant 3).andThen fun
    | 0 => pure .pong
    | 1 => (list text).map .methods
    | _ => outcome.map .result

end Metered

namespace Request

def encode : Request → Bytes
  | .ping => encodeInteger 0
  | .methods => encodeInteger 1
  | .start stub => encodeInteger 2 ++ encodeStub stub
  | .invoke stub => encodeInteger 3 ++ encodeStub stub

def decode : Decoder Request := Metered.request.decoder

end Request

namespace Response

def encode : Response → Bytes
  | .pong => encodeInteger 0
  | .methods names => encodeInteger 1 ++ encodeList encodeText names
  | .result outcome => encodeInteger 2 ++ encodeOutcome outcome

def decode : Decoder Response := Metered.response.decoder

end Response

end Chaincode.Wire
