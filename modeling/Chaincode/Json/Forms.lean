import Chaincode.Json.Document
import Chaincode.Json.Record
import Chaincode.Settings.Basic

namespace Chaincode.Json

/-! The JSON forms of stubs, invocations, outcomes, errors and settings. -/

open Reader (whole)

def anyText : Reader String := Reader.text "a string"

def size : Reader Nat := Reader.natural UInt64.size "usize"

def payload : Reader Payload :=
  Reader.list ((Reader.natural 256 "u8").map UInt8.ofNat) "a sequence"

structure StubDraft where
  transactionId : Option String := none
  channelId : Option String := none
  arguments : Option (List String) := none

def stubShape : Shape StubDraft where
  title := "struct ChaincodeStub"
  slots :=
    [ .of "tx_id" StubDraft.transactionId
        (fun draft value => { draft with transactionId := some value }) anyText,
      .of "channel_id" StubDraft.channelId
        (fun draft value => { draft with channelId := some value }) anyText,
      .of "args" StubDraft.arguments
        (fun draft value => { draft with arguments := some value }) Reader.texts ]

def stub : Reader Stub :=
  (Reader.record stubShape {}).map fun draft =>
    { transactionId := draft.transactionId.getD ""
      channelId := draft.channelId.getD ""
      arguments := draft.arguments.getD [] }

/-- A name and a list of texts, under whatever field names. -/
structure NamedTextsDraft where
  name : Option String := none
  texts : Option (List String) := none

def namedTexts (title nameField textsField : String) : Shape NamedTextsDraft where
  title
  slots :=
    [ .of nameField NamedTextsDraft.name
        (fun draft value => { draft with name := some value }) anyText,
      .of textsField NamedTextsDraft.texts
        (fun draft value => { draft with texts := some value }) Reader.texts ]

def invocation : Reader Invocation :=
  (Reader.record (namedTexts "struct InvocationRequest" "method_name" "arguments") {}).map
    fun draft => ⟨draft.name.getD "", draft.texts.getD []⟩

def functionAndParameters : Reader FunctionAndParameters :=
  (Reader.record (namedTexts "struct FunctionAndParameters" "fcn" "params") {}).map
    fun draft => ⟨draft.name.getD "", draft.texts.getD []⟩

structure SettingsDraft where
  values : Settings := {}
  keys : List Settings.Key := []

def settingsShape : Shape SettingsDraft where
  title := "struct ChaincodeConfig"
  strict := true
  slots := Settings.Key.all.map fun key =>
    { name := key.text
      isSet := fun draft => draft.keys.contains key
      read := fun draft => anyText.map fun value =>
        ⟨draft.values.set key value, key :: draft.keys⟩
      optional := true
      optionalInList := true }

def settings : Reader Settings :=
  (Reader.record settingsShape {}).map SettingsDraft.values

/-- A record with one field. -/
def single (title name : String) (optional : Bool) (value : Reader α) : Shape (Option α) where
  title
  slots :=
    [{ name
       isSet := Option.isSome
       read := fun _ => value.map some
       optional }]

def outcome : Reader Outcome :=
  Reader.variant
    [ { name := "Success"
        kind := "struct variant"
        content :=
          (Reader.record (single "struct variant InvocationResult::Success" "payload" true
            (Reader.nullable payload)) none).map fun draft => .success (draft.getD none) },
      { name := "Failure"
        kind := "struct variant"
        content :=
          (Reader.record (single "struct variant InvocationResult::Failure" "message" false
            anyText) none).map fun draft => .failure (draft.getD "") } ]

structure CountDraft where
  expected : Option Nat := none
  got : Option Nat := none

def countShape : Shape CountDraft where
  title := "struct variant HandlerError::ArgumentCount"
  slots :=
    [ .of "expected" CountDraft.expected
        (fun draft value => { draft with expected := some value }) size,
      .of "got" CountDraft.got (fun draft value => { draft with got := some value }) size ]

def handlerError : Reader HandlerError :=
  Reader.variant
    [ { name := "Message", kind := "newtype variant", content := anyText.map .message },
      { name := "ArgumentCount"
        kind := "struct variant"
        content := (Reader.record countShape {}).map fun draft =>
          .argumentCount (draft.expected.getD 0) (draft.got.getD 0) },
      { name := "Panicked", kind := "newtype variant", content := anyText.map .panicked } ]

structure SourceDraft where
  method : Option String := none
  source : Option HandlerError := none

def sourceShape : Shape SourceDraft where
  title := "struct variant DispatchError::Handler"
  slots :=
    [ .of "method" SourceDraft.method
        (fun draft value => { draft with method := some value }) anyText,
      .of "source" SourceDraft.source
        (fun draft value => { draft with source := some value }) handlerError ]

def dispatchError : Reader DispatchError :=
  Reader.variant
    [ { name := "UnknownMethod"
        kind := "newtype variant"
        content := anyText.map .unknownMethod },
      { name := "Handler"
        kind := "struct variant"
        content := (Reader.record sourceShape {}).map fun draft =>
          .handler (draft.method.getD "") (draft.source.getD (.message "")) } ]

namespace Document

def ofStub (stub : Stub) : Document :=
  .record [("tx_id", .text stub.transactionId), ("channel_id", .text stub.channelId),
    ("args", texts stub.arguments)]

def ofInvocation (invocation : Invocation) : Document :=
  .record [("method_name", .text invocation.method), ("arguments", texts invocation.arguments)]

def ofFunctionAndParameters (split : FunctionAndParameters) : Document :=
  .record [("fcn", .text split.function), ("params", texts split.parameters)]

def ofSettings (settings : Settings) : Document :=
  .record (Settings.Key.all.map fun key => (key.text, .text (settings.get key)))

def ofPayload : Option Payload → Document
  | none => .null
  | some payload => .list (payload.map fun byte => .number byte.toNat)

def ofOutcome : Outcome → Document
  | .success payload => .record [("Success", .record [("payload", ofPayload payload)])]
  | .failure message => .record [("Failure", .record [("message", .text message)])]

def ofHandlerError : HandlerError → Document
  | .message content => .record [("Message", .text content)]
  | .argumentCount expected got =>
      .record [("ArgumentCount", .record [("expected", .number expected), ("got", .number got)])]
  | .panicked content => .record [("Panicked", .text content)]

def ofDispatchError : DispatchError → Document
  | .unknownMethod method => .record [("UnknownMethod", .text method)]
  | .handler method source =>
      .record [("Handler", .record [("method", .text method), ("source", ofHandlerError source)])]

end Document

/-- A value as its JSON text, as its structure, and, if it has one, as a message. -/
structure Rendering where
  json : String
  inspected : String
  message : Option String := none

/-- The types whose JSON texts can be read. -/
inductive Form where
  | stub
  | invocation
  | functionAndParameters
  | settings
  | outcome
  | handlerError
  | dispatchError

namespace Form

/-- Reads a text as a value of a type and renders that value. -/
def render (form : Form) (text : String) : Except Problem Rendering :=
  match form with
  | .stub => (whole Json.stub text).map fun value =>
      { json := (Document.ofStub value).render, inspected := value.inspect }
  | .invocation => (whole Json.invocation text).map fun value =>
      { json := (Document.ofInvocation value).render, inspected := value.inspect }
  | .functionAndParameters => (whole Json.functionAndParameters text).map fun value =>
      { json := (Document.ofFunctionAndParameters value).render, inspected := value.inspect }
  | .settings => (whole Json.settings text).map fun value =>
      { json := (Document.ofSettings value).render, inspected := value.inspect }
  | .outcome => (whole Json.outcome text).map fun value =>
      { json := (Document.ofOutcome value).render
        inspected := value.inspect
        message := some value.describe }
  | .handlerError => (whole Json.handlerError text).map fun value =>
      { json := (Document.ofHandlerError value).render
        inspected := value.inspect
        message := some value.describe }
  | .dispatchError => (whole Json.dispatchError text).map fun value =>
      { json := (Document.ofDispatchError value).render
        inspected := value.inspect
        message := some value.describe }

end Form

end Chaincode.Json
