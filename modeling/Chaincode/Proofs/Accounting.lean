import Chaincode.Proofs.Site
import Chaincode.Proofs.World

namespace Chaincode

/-! What was counted and what was told of it.

An answer shows a run if it brings the payload of a counting handler.  A future owes the
runs that were counted for it until its value, or what a handler is told meanwhile, shows
them.  Polls keep this account, in whatever order they are done: it passes from handlers to
dispatches of them, and on to the answers of a server.
-/

theorem counting_inj {counter other : Nat} {name otherName : String} {pauses otherPauses : Nat}
    (same : (counting counter name pauses : Handler (World σ)) =
      counting other otherName otherPauses) (kept : σ) : counter = other := by
  let counters : Counters := ⟨List.replicate (counter + other + 1) 0⟩
  have ran (counter : Nat) (name : String) (pauses : Nat) :
      (((counting counter name pauses).future {} []).run { kept, counters }).store.counters =
        (counters.increment counter).2 := by
    rw [(counting_future counter name pauses {} []).run]
    rfl
  have increments : (counters.increment counter).2 = (counters.increment other).2 := by
    rw [← ran counter name pauses, same, ran]
  have enough {index : Nat} (inside : index < counter + other + 1) :
      index < counters.counts.length := by
    rwa [List.length_replicate]
  have counts := congrArg (Counters.read · counter) increments
  simp only [Counters.read_increment (enough (show counter < counter + other + 1 by omega)),
    Counters.read_increment (enough (show other < counter + other + 1 by omega)), if_pos,
    Nat.add_left_cancel_iff] at counts
  by_contra different
  rw [if_neg (Ne.symm different)] at counts
  cases counts

namespace Handler

open Classical in
/-- The counter of a handler, if it counts one of the first `size` counters. -/
noncomputable def counter? (size : Nat) (handler : Handler (World σ)) : Option Nat :=
  if counts : ∃ counter < size, ∃ name pauses, handler = counting counter name pauses then
    some counts.choose
  else none

theorem counter?_eq_some {size : Nat} {handler : Handler (World σ)} {counter : Nat} (kept : σ) :
    handler.counter? size = some counter ↔
      counter < size ∧ ∃ name pauses, handler = counting counter name pauses := by
  rw [counter?]
  split
  next counts =>
      obtain ⟨inside, name, pauses, chosen⟩ := counts.choose_spec
      rw [Option.some_inj]
      constructor
      · rintro rfl
        exact ⟨inside, name, pauses, chosen⟩
      · rintro ⟨_, _, _, same⟩
        exact counting_inj (chosen.symm.trans same) kept
  next idle =>
      refine iff_of_false nofun ?_
      rintro ⟨inside, name, pauses, same⟩
      exact idle ⟨counter, inside, name, pauses, same⟩

end Handler

/-- The run that a payload from the handler of a counter shows. -/
def shown (counter? : Option Nat) (payload? : Option Payload) : Multiset Run :=
  match counter?, payload? with
  | some counter, some payload => {(counter, payload)}
  | _, _ => 0

theorem shown_none (counter? : Option Nat) : shown counter? none = 0 := by
  cases counter? <;> rfl

namespace Dispatcher

/-- The counter that a method is counted by. -/
noncomputable def counter? (size : Nat) (dispatcher : Dispatcher (World σ)) (method : String) :
    Option Nat :=
  (dispatcher.registry.get? method).bind (Handler.counter? size)

/-- The runs that the answers to a query show. -/
noncomputable def shows (size : Nat) (dispatcher : Dispatcher (World σ)) (query : Query)
    (told : Told) : Multiset Run :=
  (List.zipWith (fun method => shown (dispatcher.counter? size method)) query.methods
    told.payloads).sum

end Dispatcher

/-- The counters and the dispatchers that there will ever be. -/
structure Inventory (σ : Type) where
  size : Nat
  dispatchers : List (Dispatcher (World σ))

namespace Inventory

variable {inventory : Inventory σ}

noncomputable def shows (inventory : Inventory σ) (hearing : Hearing) : Multiset Run :=
  match inventory.dispatchers[hearing.dispatcher]? with
  | none => 0
  | some dispatcher => dispatcher.shows inventory.size hearing.query hearing.told

/-- The runs that handlers have been told of. -/
noncomputable def heard (inventory : Inventory σ) (world : World σ) : Multiset Run :=
  (world.heard.map inventory.shows).sum

/-- Between two worlds, what is owed or heard grows by what is counted. -/
structure Settles (inventory : Inventory σ) (before : World σ) (owed : Multiset Run)
    (after : World σ) (left : Multiset Run) : Prop where
  sized : after.counters.counts.length = inventory.size
  balance : inventory.heard after + left + before.counters.runs =
    inventory.heard before + owed + after.counters.runs

variable {first second third : World σ} {owed left last : Multiset Run}

theorem settles_refl (sized : first.counters.counts.length = inventory.size) :
    inventory.Settles first owed first owed := ⟨sized, rfl⟩

theorem Settles.trans (settles : inventory.Settles first owed second left)
    (later : inventory.Settles second left third last) :
    inventory.Settles first owed third last := by
  refine ⟨later.sized, ?_⟩
  ext run
  have before := congrArg (Multiset.count run) settles.balance
  have after := congrArg (Multiset.count run) later.balance
  simp only [Multiset.count_add] at before after ⊢
  omega

/-- What others owe is not touched. -/
theorem Settles.frame (settles : inventory.Settles first owed second left)
    (others : Multiset Run) :
    inventory.Settles first (owed + others) second (left + others) := by
  refine ⟨settles.sized, ?_⟩
  ext run
  have balance := congrArg (Multiset.count run) settles.balance
  simp only [Multiset.count_add] at balance ⊢
  omega

theorem Settles.account (settles : inventory.Settles first owed second left)
    {others : Multiset Run}
    (account : inventory.heard first + owed + others = first.counters.runs) :
    inventory.heard second + left + others = second.counters.runs := by
  ext run
  have balance := congrArg (Multiset.count run) settles.balance
  have before := congrArg (Multiset.count run) account
  simp only [Multiset.count_add] at balance before ⊢
  omega

/-- Only what is kept has changed. -/
theorem settles_kept (sized : first.counters.counts.length = inventory.size) (kept : σ) :
    inventory.Settles first owed { first with kept } owed := ⟨sized, rfl⟩

theorem settles_hear (sized : first.counters.counts.length = inventory.size)
    (hearing : Hearing) :
    inventory.Settles first (inventory.shows hearing) (World.hear hearing first).store 0 := by
  refine ⟨sized, ?_⟩
  change ((first.heard ++ [hearing]).map inventory.shows).sum + 0 + _ = _
  rw [List.map_append, List.sum_append, List.map_singleton, List.sum_singleton, add_zero]
  rfl

theorem settles_count (sized : first.counters.counts.length = inventory.size) {counter : Nat}
    (inside : counter < inventory.size) :
    inventory.Settles first 0 (World.count counter first).store
      {(counter, (World.count counter first).value)} := by
  refine ⟨(first.counters.length_increment counter).trans sized, ?_⟩
  change inventory.heard first + _ + _ = inventory.heard first + 0 +
    (first.counters.increment counter).2.runs
  rw [Counters.runs_increment (sized ▸ inside), add_zero, add_assoc, add_comm (first.counters.runs)]
  rfl

end Inventory

namespace Future

/-- Polling the future keeps the account of what it owes, and its value shows all of this. -/
inductive Pays (inventory : Inventory σ) {α : Type} (shows : α → Multiset Run) :
    Multiset Run → Future (World σ) α → Prop
  | ready : shows value = owed → Pays inventory shows owed (.ready value)
  | waiting (left : World σ → Multiset Run) :
      (∀ world, world.counters.counts.length = inventory.size →
        inventory.Settles world owed (resume world).store (left world)) →
      (∀ world, world.counters.counts.length = inventory.size →
        Pays inventory shows (left world) (resume world).value) →
      Pays inventory shows owed (.waiting resume)

variable {inventory : Inventory σ} {shows : α → Multiset Run} {showsNext : β → Multiset Run}
  {owed : Multiset Run} {future : Future (World σ) α}

theorem pays_waiting {resume : World σ → Turn (World σ) (Future (World σ) α)}
    (pays : ∀ world, world.counters.counts.length = inventory.size →
      ∃ left, inventory.Settles world owed (resume world).store left ∧
        (resume world).value.Pays inventory shows left) :
    (waiting resume).Pays inventory shows owed := by
  choose! left settles later using pays
  exact .waiting left settles later

theorem Pays.poll (pays : future.Pays inventory shows owed) {world : World σ}
    (sized : world.counters.counts.length = inventory.size) :
    ∃ left, inventory.Settles world owed (future.poll world).store left ∧
      (future.poll world).value.Pays inventory shows left := by
  cases pays with
  | ready shown => exact ⟨owed, Inventory.settles_refl sized, .ready shown⟩
  | waiting left settles later => exact ⟨left world, settles world sized, later world sized⟩

/-- What a poll starts from may have been reached by a settlement itself. -/
theorem Pays.poll_after {first second : World σ} {before : Multiset Run}
    (pays : future.Pays inventory shows owed)
    (settles : inventory.Settles first before second owed) :
    ∃ left, inventory.Settles first before (future.poll second).store left ∧
      (future.poll second).value.Pays inventory shows left := by
  obtain ⟨left, more, later⟩ := pays.poll settles.sized
  exact ⟨left, settles.trans more, later⟩

/-- What is owed by others can be shown along with the value. -/
theorem Pays.frame (pays : future.Pays inventory shows owed) (others : Multiset Run) :
    future.Pays inventory (fun value => shows value + others) (owed + others) := by
  induction pays with
  | ready shown => exact .ready (by rw [shown])
  | waiting left settles _ ih =>
      exact .waiting (fun world => left world + others)
        (fun world sized => (settles world sized).frame others) ih

theorem Pays.bind (pays : future.Pays inventory shows owed) {next : α → Future (World σ) β}
    (later : ∀ value, (next value).Pays inventory showsNext (shows value)) :
    (future.bind next).Pays inventory showsNext owed := by
  induction pays with
  | @ready value _ shown =>
      rw [bind_ready, ← shown]
      exact later value
  | @waiting owed resume left settles _ ih =>
      rw [bind_waiting]
      refine pays_waiting fun world sized => ?_
      have settled := settles world sized
      have rest := ih world sized
      generalize resume world = turn at settled rest ⊢
      obtain ⟨future, store, lines⟩ := turn
      cases future with
      | ready value =>
          rw [bindOn_ready]
          rw [bind_ready] at rest
          exact rest.poll_after settled
      | waiting resume =>
          rw [bindOn_waiting]
          exact ⟨left world, settled, rest⟩

theorem Pays.map (pays : future.Pays inventory shows owed) {change : α → β}
    (same : ∀ value, showsNext (change value) = shows value) :
    (future.map change).Pays inventory showsNext owed :=
  pays.bind fun value => .ready (same value)

theorem pays_perform {action : Action (World σ) α}
    (settles : ∀ world, world.counters.counts.length = inventory.size →
      inventory.Settles world owed (action world).store (shows (action world).value)) :
    (perform action).Pays inventory shows owed :=
  pays_waiting fun world sized => ⟨_, settles world sized, .ready rfl⟩

/-- What follows an action may depend on it. -/
theorem pays_perform_bind {action : Action (World σ) α} {next : α → Future (World σ) β}
    (pays : ∀ world, world.counters.counts.length = inventory.size →
      ∃ left, inventory.Settles world owed (action world).store left ∧
        (next (action world).value).Pays inventory showsNext left) :
    ((perform action).bind next).Pays inventory showsNext owed := by
  rw [perform_bind]
  refine pays_waiting fun world sized => ?_
  obtain ⟨left, settles, later⟩ := pays world sized
  exact later.poll_after settles

theorem pays_pause (count : Nat) :
    (pause count : Future (World σ) Unit).Pays inventory (fun _ => owed) owed := by
  induction count with
  | zero => exact pays_waiting fun world sized =>
      ⟨owed, Inventory.settles_refl sized, .ready rfl⟩
  | succ count ih => exact pays_waiting fun world sized =>
      ⟨owed, Inventory.settles_refl sized, ih⟩

theorem Pays.both {showsOther : β → Multiset Run} {owedOther : Multiset Run}
    {other : Future (World σ) β} (pays : future.Pays inventory shows owed)
    (right : other.Pays inventory showsOther owedOther) :
    (both future other).Pays inventory (fun values => shows values.1 + showsOther values.2)
      (owed + owedOther) := by
  -- On the left future, for every right one, which is polled along with it.
  induction pays generalizing other owedOther with
  | @ready value owed shown =>
      rw [Future.both, add_comm owed, ← shown]
      exact (right.frame (shows value)).map fun second => add_comm _ _
  | @waiting owed resume left settles _ ih =>
      rw [Future.both]
      refine pays_waiting fun world sized => ?_
      have settled := settles world sized
      have rest {other : Future (World σ) β} {owedOther : Multiset Run}
          (right : other.Pays inventory showsOther owedOther) := ih world sized right
      generalize resume world = turn at settled rest ⊢
      obtain ⟨future, store, lines⟩ := turn
      rw [bothOn]
      obtain ⟨leftOther, settledOther, remaining⟩ := right.poll settled.sized
      refine ⟨left world + leftOther, (settled.frame owedOther).trans ?_, rest remaining⟩
      rw [add_comm _ owedOther, add_comm _ leftOther]
      exact settledOther.frame (left world)

theorem pays_all {work : ι → Future (World σ) α} {showsOf : ι → α → Multiset Run}
    {items : List ι} (pays : ∀ item ∈ items, (work item).Pays inventory (showsOf item) 0) :
    (all (items.map work)).Pays inventory
      (fun values => (List.zipWith showsOf items values).sum) 0 := by
  induction items with
  | nil => exact .ready rfl
  | cons item rest ih =>
      obtain ⟨first, others⟩ := List.forall_mem_cons.mp pays
      rw [List.map_cons, all, ← add_zero 0]
      refine (first.both (ih others)).map fun values => ?_
      rw [List.zipWith_cons_cons, List.sum_cons]

end Future

/-- A call of the handler pays with the runs that its completion shows. -/
def Handler.Pays (inventory : Inventory σ) (handler : Handler (World σ)) : Prop :=
  ∀ stub arguments, (handler.future stub arguments).Pays inventory
    (fun completion => shown (handler.counter? inventory.size) completion.caught.toOption) 0

def Registry.Pays (inventory : Inventory σ) (registry : Registry (World σ)) : Prop :=
  ∀ handler ∈ registry.handlers, handler.Pays inventory

section Payers

variable {inventory : Inventory σ} {handler : Handler (World σ)}
  {registry grown : Registry (World σ)}

theorem Registry.pays_empty : (Registry.empty : Registry (World σ)).Pays inventory :=
  fun _ member => nomatch member

theorem Registry.Pays.insert (pays : registry.Pays inventory) (inserted : handler.Pays inventory)
    (grew : registry.insert handler = .ok grown) : grown.Pays inventory := by
  intro other member
  rcases (Registry.mem_insert grew).mp member with rfl | old
  · exact inserted
  · exact pays other old

theorem counting_pays {counter : Nat} (inside : counter < inventory.size) (name : String)
    (pauses : Nat) : (counting counter name pauses : Handler (World σ)).Pays inventory := by
  intro stub arguments
  refine Future.pays_perform_bind fun world sized => ?_
  rw [counting_call]
  refine ⟨0, Inventory.settles_refl sized, (Future.pays_pause pauses).bind fun _ => ?_⟩
  refine Future.pays_perform fun world sized => ?_
  rw [(Handler.counter?_eq_some world.kept).mpr ⟨inside, name, pauses, rfl⟩]
  exact Inventory.settles_count sized inside

namespace Dispatcher

variable {dispatcher : Dispatcher (World σ)}

theorem start_pays (dispatcher : Dispatcher (World σ)) :
    (Future.perform dispatcher.start).Pays inventory (fun _ => 0) 0 :=
  Future.pays_perform fun _ sized => Inventory.settles_refl sized

theorem call_pays (pays : dispatcher.registry.Pays inventory) (stub : Stub)
    (invocation : Invocation) :
    (dispatcher.call stub invocation).Pays inventory (fun result =>
      shown (dispatcher.counter? inventory.size invocation.method) result.toOption) 0 := by
  cases found : dispatcher.registry.get? invocation.method with
  | none =>
      rw [call_unknown found]
      exact .ready (shown_none _)
  | some handler =>
      rw [call_known found]
      have member := (Registry.get?_eq_some.mp found).1
      refine (pays handler member stub invocation.arguments).map fun completion => ?_
      rw [counter?, found]
      cases completion.caught <;> rfl

theorem conclude_settles (result : Except DispatchError Payload) (store : τ) :
    (conclude result store).store = store ∧
      (conclude result store).value.payload = result.toOption := by
  cases result <;> exact ⟨rfl, rfl⟩

theorem dispatch_pays (pays : dispatcher.registry.Pays inventory) (stub : Stub)
    (invocation : Invocation) :
    (dispatcher.dispatch stub invocation).Pays inventory (fun outcome =>
      shown (dispatcher.counter? inventory.size invocation.method) outcome.payload) 0 := by
  rw [dispatch_eq]
  refine Future.pays_perform_bind fun world sized => ⟨0, Inventory.settles_refl sized, ?_⟩
  refine (call_pays pays stub invocation).bind fun result => ?_
  refine Future.pays_perform fun world sized => ?_
  obtain ⟨untouched, payload⟩ := conclude_settles result world
  rw [untouched, payload]
  exact Inventory.settles_refl sized

theorem shows_single (size : Nat) (dispatcher : Dispatcher (World σ)) {query : Query} {told : Told}
    {method : String} {payload? : Option Payload} (asked : query.methods = [method])
    (answered : told.payloads = [payload?]) :
    dispatcher.shows size query told = shown (dispatcher.counter? size method) payload? := by
  rw [shows, asked, answered, List.zipWith_cons_cons, List.zipWith_nil_left, List.sum_singleton]

theorem ask_pays (pays : dispatcher.registry.Pays inventory) (query : Query) :
    (dispatcher.ask query).Pays inventory (dispatcher.shows inventory.size query) 0 := by
  cases query with
  | start =>
      exact (start_pays dispatcher).map fun outcome => rfl
  | dispatch stub invocation =>
      exact (dispatch_pays pays stub invocation).map fun outcome =>
        dispatcher.shows_single _ rfl rfl
  | invoke stub =>
      exact (dispatch_pays pays stub stub.invocation).map fun outcome =>
        dispatcher.shows_single _ rfl rfl
  | call stub invocation =>
      exact (call_pays pays stub invocation).map fun result => dispatcher.shows_single _ rfl rfl
  | all calls =>
      refine (Future.pays_all fun call _ => dispatch_pays pays call.1 call.2).map fun outcomes => ?_
      rw [shows, Query.methods, Told.payloads, List.zipWith_map]

end Dispatcher

theorem Script.future_pays {held : List (Nat × Dispatcher (World σ))}
    (pays : ∀ one ∈ held, inventory.dispatchers[one.1]? = some one.2 ∧
      one.2.registry.Pays inventory) (script : Script σ) :
    (script.future held).Pays inventory (fun _ => 0) 0 := by
  induction script with
  | finish completion => exact .ready rfl
  | act work next ih =>
      exact Future.pays_waiting fun world sized =>
        (ih world.kept).poll_after (Inventory.settles_kept sized (work world.kept).store)
  | pause next ih =>
      exact Future.pays_waiting fun world sized =>
        ⟨0, Inventory.settles_refl sized, Future.pays_waiting fun world sized => ih.poll sized⟩
  | ask place query next ih =>
      rw [future]
      cases found : held[place]? with
      | none => exact ih none
      | some one =>
          obtain ⟨number, dispatcher⟩ := one
          obtain ⟨known, paying⟩ := pays _ (List.mem_of_getElem? found)
          refine (dispatcher.ask_pays paying query).bind fun told => ?_
          -- What the answer shows is owed until it is noted as heard, and then no more.
          refine Future.pays_perform_bind fun world sized => ⟨0, ?_, ih (some told)⟩
          have heard := inventory.settles_hear sized ⟨number, query, told⟩
          rwa [Inventory.shows, known] at heard

theorem Plan.handler_pays (plan : Plan σ) (name : String)
    {held : List (Nat × Dispatcher (World σ))}
    (pays : ∀ one ∈ held, inventory.dispatchers[one.1]? = some one.2 ∧
      one.2.registry.Pays inventory)
    (unlike : (plan.handler name held).counter? inventory.size = none) :
    (plan.handler name held).Pays inventory := by
  intro stub arguments
  rw [unlike]
  refine Future.pays_perform_bind fun world sized =>
    ⟨0, Inventory.settles_kept sized _, ?_⟩
  dsimp only [Plan.handler]
  cases (plan stub arguments world.kept).value with
  | error panic => exact .ready rfl
  | ok script => exact Script.future_pays pays script

end Payers

end Chaincode
