import Chaincode.Dispatcher

namespace Chaincode

/-! The very-simple chaincode: it serves `ping` and nothing else. -/

namespace Ping

/-- The JSON text of the answer, as bytes. -/
def payload : Payload := "\x7b\"ping\":\"pong\"\x7d".toUTF8.toList

/-- Answers, and says in the log that it was called. -/
def work : Future σ Completion :=
  .perform fun store => ⟨.returned payload, store, ["ping called"]⟩

/-- Answers every call alike. -/
def handler : Handler σ := ⟨"ping", fun _ _ => Action.pure (.ok work)⟩

end Ping

namespace VerySimple

def registry : Registry σ where
  handlers := [Ping.handler]
  sorted := .cons (by simp) .nil
  named := by simp [Ping.handler]

def dispatcher : Dispatcher σ := ⟨"very-simple", VerySimple.registry⟩

end VerySimple

end Chaincode
