import Chaincode.Service.Script
import Chaincode.Session
import Chaincode.Inspect
import Chaincode.Json.Document
import Chaincode.Json.Forms
import Chaincode.Settings.Load
import Chaincode.Text.Alphanumeric
import Chaincode.Toml.Document
import Chaincode.Startup
import Chaincode.Text.Blank
import Chaincode.Wire.Inbox
import Chaincode.Main
import Chaincode.Proofs.Bytes
import Chaincode.Proofs.Future
import Chaincode.Proofs.Ledger
import Chaincode.Proofs.Dispatch
import Chaincode.Proofs.Course
import Chaincode.Proofs.Interleaving
import Chaincode.Proofs.Pool
import Chaincode.Proofs.Concurrency
import Chaincode.Proofs.Utf8
import Chaincode.Proofs.Wire
import Chaincode.Proofs.Frames
import Chaincode.Proofs.Replies
import Chaincode.Proofs.Conversation
import Chaincode.Proofs.Serving
import Chaincode.Proofs.Hub
import Chaincode.Proofs.Peers
import Chaincode.Proofs.Transparency
import Chaincode.Proofs.RoundTrip
import Chaincode.Proofs.Forms
import Chaincode.Proofs.Acceptance
import Chaincode.Proofs.ByteOrder
import Chaincode.Proofs.History
import Chaincode.Proofs.Order
import Chaincode.Proofs.Rounds
import Chaincode.Proofs.Delay
import Chaincode.Proofs.Caller
import Chaincode.Proofs.InStep
import Chaincode.Proofs.Matching
import Chaincode.Proofs.World
import Chaincode.Proofs.Accounting
import Chaincode.Proofs.Errand
import Chaincode.Proofs.Program
import Chaincode.Proofs.Quoted
import Chaincode.Proofs.Trace
import Chaincode.Proofs.Truncation
import Chaincode.Proofs.Chain
import Chaincode.Proofs.Table
import Chaincode.Proofs.Layers
import Chaincode.Proofs.Metering
import Chaincode.Proofs.Overrun
import Chaincode.Proofs.Spelling
import Chaincode.Proofs.Reading
import Chaincode.Proofs.Override
