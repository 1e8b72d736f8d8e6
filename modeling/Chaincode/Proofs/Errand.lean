import Chaincode.Proofs.Accounting

namespace Chaincode

open Service Wire

/-! What a program has in progress, and what comes of it.

An errand is a query or a call of a handler, with the future that it has become.  A line is
a connection, with the requests that its task has taken from what was received, and the
responses that it has written.  Each accounts for the runs that were counted for it: what
its answers show, and what it still owes.
-/

inductive Asked (σ : Type) where
  | ofDispatcher (dispatcher : Dispatcher (World σ)) (query : Query)
  | ofHandler (handler : Handler (World σ)) (stub : Stub) (arguments : List String)

structure Errand (σ : Type) where
  asked : Asked σ
  future : Future (World σ) Told

namespace Asked

def begin : Asked σ → Errand σ
  | .ofDispatcher dispatcher query => ⟨.ofDispatcher dispatcher query, dispatcher.ask query⟩
  | .ofHandler handler stub arguments =>
      ⟨.ofHandler handler stub arguments, (handler.future stub arguments).map .completion⟩

/-- The runs that the answer shows. -/
noncomputable def shows (size : Nat) (asked : Asked σ) (told : Told) : Multiset Run :=
  match asked with
  | .ofDispatcher dispatcher query => dispatcher.shows size query told
  | .ofHandler handler _ _ => (told.payloads.map (shown (handler.counter? size))).sum

end Asked

namespace Errand

def poll (errand : Errand σ) : Action (World σ) (Errand σ) := fun world =>
  (errand.future.poll world).map fun future => { errand with future }

noncomputable def shown (size : Nat) (errand : Errand σ) : Multiset Run :=
  match errand.future with
  | .ready told => errand.asked.shows size told
  | .waiting _ => 0

def Pays (inventory : Inventory σ) (errand : Errand σ) (total : Multiset Run) : Prop :=
  errand.future.Pays inventory (errand.asked.shows inventory.size) total

variable {inventory : Inventory σ} {errand : Errand σ} {total : Multiset Run}

theorem query_pays {dispatcher : Dispatcher (World σ)}
    (pays : dispatcher.registry.Pays inventory) (query : Query) :
    (Asked.ofDispatcher dispatcher query).begin.Pays inventory 0 :=
  dispatcher.ask_pays pays query

theorem call_pays {handler : Handler (World σ)} (pays : handler.Pays inventory) (stub : Stub)
    (arguments : List String) : (Asked.ofHandler handler stub arguments).begin.Pays inventory 0 :=
  Future.Pays.map (pays stub arguments) fun _ => List.sum_singleton

theorem Pays.poll (pays : errand.Pays inventory total) {world : World σ}
    (sized : world.counters.counts.length = inventory.size) :
    ∃ left, inventory.Settles world total (errand.poll world).store left ∧
      (errand.poll world).value.Pays inventory left :=
  Future.Pays.poll pays sized

/-- What is not shown of the account is owed, and when the answer is there this is nothing. -/
theorem Pays.pending (pays : errand.Pays inventory total) :
    ∃ pending, errand.shown inventory.size + pending = total ∧
      (errand.future.isReady = true → pending = 0) := by
  obtain ⟨asked, future⟩ := errand
  cases pays with
  | ready same => exact ⟨0, (add_zero _).trans same, fun _ => rfl⟩
  | waiting left settles later => exact ⟨total, zero_add _, nofun⟩

end Errand

namespace Dispatcher

/-- The runs that the response to a request shows. -/
noncomputable def replied (size : Nat) (dispatcher : Dispatcher (World σ)) :
    Request → Response → Multiset Run
  | .invoke stub, .result outcome => dispatcher.shows size (.invoke stub) (.outcome outcome)
  | _, _ => 0

end Dispatcher

theorem Service.Server.answer_pays {inventory : Inventory σ} {server : Server (World σ)}
    (pays : server.dispatcher.registry.Pays inventory) (request : Request) :
    (server.answer request).Pays inventory
      (server.dispatcher.replied inventory.size request) 0 := by
  cases request with
  | ping | methods => exact .ready rfl
  | start stub =>
      exact (Dispatcher.start_pays server.dispatcher).map fun outcome => rfl
  | invoke stub =>
      exact (Dispatcher.dispatch_pays pays stub stub.invocation).map fun outcome =>
        server.dispatcher.shows_single _ rfl rfl

/-- The response that the next move of the task writes, if it writes one. -/
def Service.Connection.due (connection : Connection σ) : List Response :=
  match connection.task with
  | .working (.ready response) => [response]
  | _ => []

/-- All that a move of the task can come to: it waits or ends, begins with a request, polls, or
writes. -/
theorem Service.Connection.advance_cases (server : Server σ) (connection : Connection σ)
    (store : σ) :
    (∃ after, connection.advance server store = ⟨after, store, []⟩ ∧ connection.taken = [] ∧
      connection.due = [] ∧ connection.inProgress = 0 ∧ after.inProgress = 0 ∧
      after.outbox = connection.outbox ∧ (after.isFinished = false → after = connection)) ∨
    (∃ request inbox, connection.inbox.read Request.decode = (.value request, inbox) ∧
      connection.task = .reading ∧ connection.taken = [request] ∧ connection.due = [] ∧
      connection.advance server store = ((server.answer request).poll store).map fun answer =>
        { connection with inbox, task := .working answer }) ∨
    (∃ answer, connection.task = .working answer ∧ connection.taken = [] ∧ connection.due = [] ∧
      connection.advance server store = (answer.poll store).map fun answer =>
        { connection with task := .working answer }) ∨
    ∃ response, connection.task = .working (.ready response) ∧ connection.taken = [] ∧
      connection.due = [response] ∧
      connection.advance server store = ⟨connection.write response, store, []⟩ := by
  obtain ⟨inbox, task, written, reported⟩ := connection
  cases task with
  | reading =>
      cases found : inbox.read Request.decode with
      | mk reading after =>
          cases reading with
          | waiting =>
              exact .inl ⟨_, advance_waiting found, by simp only [taken, found], rfl, rfl, rfl, rfl,
                fun _ => rfl⟩
          | ended =>
              refine .inl ⟨⟨after, .finished, written, reported⟩, ?_, ?_, rfl, rfl, rfl, rfl,
                fun opened => Bool.noConfusion opened⟩
              · simp only [advance, step, found]
                rfl
              · simp only [taken, found]
          | failed error =>
              refine .inl ⟨Connection.giveUp ⟨after, .reading, written, reported⟩ error, ?_, ?_,
                rfl, rfl, rfl, rfl, fun opened => Bool.noConfusion opened⟩
              · simp only [advance, step, found]
                rfl
              · simp only [taken, found]
          | value request =>
              exact .inr (.inl ⟨request, after, rfl, rfl, by simp only [taken, found], rfl,
                advance_taken found⟩)
  | working answer =>
      right
      right
      cases answer with
      | ready response => exact .inr ⟨response, rfl, rfl, rfl, rfl⟩
      | waiting resume => exact .inl ⟨.waiting resume, rfl, rfl, rfl, rfl⟩
  | finished =>
      exact .inl ⟨_, rfl, rfl, rfl, rfl, rfl, rfl, fun _ => rfl⟩

structure Line (σ : Type) where
  server : Server (World σ)
  connection : Connection (World σ) := {}
  received : Bytes := []
  taken : List Request := []
  answered : List Response := []

namespace Line

def arrive (line : Line σ) (chunk : Bytes) : Line σ :=
  { line with
    connection := line.connection.arrive chunk, received := line.received ++ chunk }

def close (line : Line σ) : Line σ := { line with connection := line.connection.close }

def advance (line : Line σ) : Action (World σ) (Line σ) := fun world =>
  (line.connection.advance line.server world).map fun connection =>
    { line with
      connection
      taken := line.taken ++ line.connection.taken
      answered := line.answered ++ line.connection.due }

/-- The runs that some responses show, if they belong to these requests. -/
noncomputable def replies (size : Nat) (line : Line σ) (requests : List Request)
    (responses : List Response) : Multiset Run :=
  (List.zipWith (line.server.dispatcher.replied size) requests responses).sum

noncomputable def shown (size : Nat) (line : Line σ) : Multiset Run :=
  line.replies size line.taken line.answered

/-- The requests that were taken are the first of those received, and no others have been written
responses for. -/
structure Faithful (line : Line σ) : Prop where
  begins : ∀ more, ∃ others rest,
    Leads Request.decode (line.received ++ more) (line.taken ++ others) rest
  ahead : line.connection.isFinished = false → ∀ more others rest,
    Leads Request.decode (line.connection.inbox.buffer ++ more) others rest →
      Leads Request.decode (line.received ++ more) (line.taken ++ others) rest
  written : line.connection.outbox = replyStream line.answered

/-- The account of a line: between two requests, or while it works on one. -/
inductive Pays (inventory : Inventory σ) (line : Line σ) : Multiset Run → Prop
  | idle : line.connection.inProgress = 0 → line.taken.length = line.answered.length →
      Pays inventory line (line.shown inventory.size)
  | working : line.connection.task = .working answer → line.taken = earlier ++ [request] →
      earlier.length = line.answered.length →
      answer.Pays inventory (line.server.dispatcher.replied inventory.size request) owed →
      Pays inventory line (owed + line.replies inventory.size earlier line.answered)

theorem faithful_start (server : Server (World σ)) :
    (⟨server, {}, [], [], []⟩ : Line σ).Faithful where
  begins _ := ⟨_, _, leads_leading Request.decode _⟩
  ahead _ _ _ _ leads := leads
  written := rfl

variable {inventory : Inventory σ} {line : Line σ} {total : Multiset Run}

theorem Faithful.arrive (faithful : line.Faithful) (chunk : Bytes) :
    (line.arrive chunk).Faithful where
  begins more := by
    obtain ⟨others, rest, leads⟩ := faithful.begins (chunk ++ more)
    rw [← List.append_assoc] at leads
    exact ⟨others, rest, leads⟩
  ahead opened more others rest leads := by
    change Leads _ (line.connection.inbox.buffer ++ chunk ++ more) _ _ at leads
    rw [List.append_assoc] at leads
    have whole := faithful.ahead opened _ _ _ leads
    rw [← List.append_assoc] at whole
    exact whole
  written := faithful.written

theorem Faithful.close (faithful : line.Faithful) : line.close.Faithful :=
  ⟨faithful.begins, faithful.ahead, faithful.written⟩

theorem pays_start (server : Server (World σ)) :
    (⟨server, {}, [], [], []⟩ : Line σ).Pays inventory 0 :=
  .idle rfl rfl

/-- What arrives is not counted before it is taken. -/
theorem Pays.arrived (pays : line.Pays inventory total) (inbox : Inbox) (received : Bytes) :
    ({ line with connection := { line.connection with inbox }, received } : Line σ).Pays
      inventory total := by
  cases pays with
  | idle idle same => exact .idle idle same
  | working task last same owes => exact .working task last same owes

theorem Faithful.advance (faithful : line.Faithful) (world : World σ) :
    (line.advance world).value.Faithful := by
  have opened {answer : Future (World σ) Response}
      (working : line.connection.task = .working answer) :
      line.connection.isFinished = false := by
    rw [Connection.isFinished, working]
  rcases line.connection.advance_cases line.server world with
    ⟨after, moved, untaken, silent, _, _, outbox, same⟩ |
    ⟨request, inbox, found, reading, next, silent, moved⟩ |
    ⟨answer, working, untaken, silent, moved⟩ | ⟨response, working, untaken, due, moved⟩
  · simp only [Line.advance, moved, untaken, silent, List.append_nil, Turn.map_value]
    refine ⟨faithful.begins, fun opened => ?_, outbox.trans faithful.written⟩
    change after.isFinished = false at opened
    cases same opened
    exact faithful.ahead opened
  · simp only [Line.advance, moved, next, silent, List.append_nil, Turn.map_value]
    have ahead (more : Bytes) (others : List Request) (rest : Bytes)
        (leads : Leads Request.decode (inbox.buffer ++ more) others rest) :
        Leads Request.decode (line.received ++ more) ((line.taken ++ [request]) ++ others)
          rest := by
      rw [List.append_assoc]
      exact faithful.ahead (by rw [Connection.isFinished, reading]) _ _ _
        (.next ((opens_of_read found).append more) leads)
    exact ⟨fun more => ⟨_, _, ahead more _ _ (leads_leading Request.decode _)⟩, fun _ => ahead,
      faithful.written⟩
  · simp only [Line.advance, moved, untaken, silent, List.append_nil, Turn.map_value]
    exact ⟨faithful.begins, fun _ => faithful.ahead (opened working), faithful.written⟩
  · simp only [Line.advance, moved, untaken, due, List.append_nil, Turn.map_value]
    refine ⟨faithful.begins, fun _ => faithful.ahead (opened working), ?_⟩
    change line.connection.outbox ++ frame response.encode =
      replyStream (line.answered ++ [response])
    rw [faithful.written, replyStream, replyStream, List.flatMap_append, List.flatMap_singleton]

theorem Pays.advance (pays : line.Pays inventory total)
    (paying : line.server.dispatcher.registry.Pays inventory) {world : World σ}
    (sized : world.counters.counts.length = inventory.size) :
    ∃ left, inventory.Settles world total (line.advance world).store left ∧
      (line.advance world).value.Pays inventory left := by
  rcases line.connection.advance_cases line.server world with
    ⟨after, moved, untaken, silent, before, idle, _, _⟩ |
    ⟨request, inbox, found, reading, next, silent, moved⟩ |
    ⟨answer, working, untaken, silent, moved⟩ | ⟨response, working, untaken, due, moved⟩
  · simp only [Line.advance, moved, untaken, silent, List.append_nil, Turn.map_value,
      Turn.map_store]
    cases pays with
    | idle _ same => exact ⟨_, Inventory.settles_refl sized, .idle idle same⟩
    | working task =>
        rw [Connection.inProgress_working task] at before
        cases before
  · simp only [Line.advance, moved, next, silent, List.append_nil, Turn.map_value,
      Turn.map_store]
    cases pays with
    | idle _ same =>
        obtain ⟨left, settles, later⟩ := (Server.answer_pays paying request).poll sized
        rw [← zero_add (line.shown _)]
        exact ⟨_, settles.frame _, .working rfl rfl same later⟩
    | working task => cases reading.symm.trans task
  · simp only [Line.advance, moved, untaken, silent, List.append_nil, Turn.map_value,
      Turn.map_store]
    cases pays with
    | idle idle =>
        rw [Connection.inProgress_working working] at idle
        cases idle
    | working task last same owes =>
        cases working.symm.trans task
        obtain ⟨left, settles, later⟩ := owes.poll sized
        exact ⟨_, settles.frame _, .working rfl last same later⟩
  · simp only [Line.advance, moved, untaken, due, List.append_nil, Turn.map_value, Turn.map_store]
    cases pays with
    | idle idle =>
        rw [Connection.inProgress_working working] at idle
        cases idle
    | @working _ earlier request owed task last same owes =>
        cases working.symm.trans task
        cases owes with
        | ready shows =>
            have whole : owed + line.replies inventory.size earlier line.answered =
                line.replies inventory.size line.taken (line.answered ++ [response]) := by
              rw [replies, replies, last, List.zipWith_append same, List.sum_append, ← shows,
                List.zipWith_cons_cons, List.zipWith_nil_left, List.sum_singleton]
              exact add_comm _ _
            rw [whole]
            refine ⟨_, Inventory.settles_refl sized, .idle rfl ?_⟩
            rw [last, List.length_append, List.length_append, same]
            rfl

/-- What is not shown of the account is owed, and while no request is worked on this is nothing. -/
theorem Pays.pending (pays : line.Pays inventory total) :
    ∃ pending, line.shown inventory.size + pending = total ∧
      (line.connection.inProgress = 0 → pending = 0) := by
  cases pays with
  | idle => exact ⟨0, add_zero _, fun _ => rfl⟩
  | @working _ earlier request owed task last same =>
      have shown : line.shown inventory.size =
          line.replies inventory.size earlier line.answered := by
        have nothing : line.replies inventory.size [request] [] = 0 := rfl
        rw [Line.shown, last, replies, ← List.append_nil line.answered,
          List.zipWith_append same, List.sum_append]
        rw [replies] at nothing
        rw [nothing, add_zero, List.append_nil, replies]
      rw [shown, add_comm owed]
      refine ⟨owed, rfl, fun idle => ?_⟩
      rw [Connection.inProgress_working task] at idle
      cases idle

end Line

/-- The account of a list is the sum of those of its items. -/
inductive Sums (pays : α → Multiset Run → Prop) : List α → Multiset Run → Prop
  | nil : Sums pays [] 0
  | cons : pays item first → Sums pays items rest → Sums pays (item :: items) (first + rest)

namespace Sums

variable {pays : α → Multiset Run → Prop} {items : List α} {total : Multiset Run}

theorem append_toList (sums : Sums pays items total) {added : Option α}
    (new : ∀ item, added = some item → pays item 0) : Sums pays (items ++ added.toList) total := by
  induction sums with
  | nil =>
      cases added with
      | none => exact .nil
      | some item => exact .cons (new item rfl) .nil
  | cons first _ ih => exact .cons first ih

theorem modify (sums : Sums pays items total) (index : Nat) {change : α → α}
    (keeps : ∀ item total, pays item total → pays (change item) total) :
    Sums pays (items.modify index change) total := by
  induction sums generalizing index with
  | nil =>
      rw [List.modify_nil]
      exact .nil
  | cons first rest ih =>
      cases index with
      | zero => exact .cons (keeps _ _ first) rest
      | succ index => exact .cons first (ih index)

/-- One item can be replaced, and the accounts of the others stay. -/
theorem set (sums : Sums pays items total) {index : Nat} {item : α}
    (found : items[index]? = some item) :
    ∃ first others, pays item first ∧ total = first + others ∧
      ∀ new left, pays new left → Sums pays (items.set index new) (left + others) := by
  induction sums generalizing index with
  | nil => cases found
  | @cons head first items rest here later ih =>
      cases index with
      | zero =>
          cases found
          exact ⟨first, rest, here, rfl, fun new left pays => .cons pays later⟩
      | succ index =>
          obtain ⟨middle, others, pays, rfl, replace⟩ := ih found
          refine ⟨middle, first + others, pays, add_left_comm _ _ _, fun new left pays => ?_⟩
          rw [add_left_comm]
          exact .cons here (replace new left pays)

theorem pending (sums : Sums pays items total) {shown : α → Multiset Run} {idle : α → Prop}
    (each : ∀ item total, pays item total →
      ∃ pending, shown item + pending = total ∧ (idle item → pending = 0)) :
    ∃ pending, (items.map shown).sum + pending = total ∧
      ((∀ item ∈ items, idle item) → pending = 0) := by
  induction sums with
  | nil => exact ⟨0, rfl, fun _ => rfl⟩
  | cons here _ ih =>
      obtain ⟨first, rfl, settled⟩ := each _ _ here
      obtain ⟨rest, rfl, others⟩ := ih
      refine ⟨first + rest, ?_, fun idle => ?_⟩
      · rw [List.map_cons, List.sum_cons]
        exact add_add_add_comm _ _ _ _
      · obtain ⟨now, later⟩ := List.forall_mem_cons.mp idle
        rw [settled now, others later, add_zero]

end Sums

end Chaincode
