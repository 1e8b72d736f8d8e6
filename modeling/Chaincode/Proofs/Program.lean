import Chaincode.Proofs.Errand

namespace Chaincode

open Service Wire

/-! Registries that are copied, and handlers that are not.

A program has any number of registries, dispatchers and servers, each made from a copy of
another one, and of queries, handler calls and connections in progress, which move on in
any order.  Only an insertion changes a registry, and only the one that it inserts into.
The handlers work on one world, whichever copy they are called through: what a program is
told of the runs of counters are all of them, each of them once.  Main statement:
`copies_isolated_handlers_shared`.
-/

structure Program (σ : Type) where
  world : World σ
  registries : List (Registry (World σ)) := []
  dispatchers : List (Dispatcher (World σ)) := []
  servers : List (Server (World σ)) := []
  lines : List (Line σ) := []
  errands : List (Errand σ) := []

inductive Source (σ : Type) (size : Nat) where
  | counting (counter : Fin size) (pauses : Nat)
  /-- Follows a plan, and holds these dispatchers. -/
  | scripted (plan : Plan σ) (held : List Nat)

def Source.handler {size : Nat} (name : String) (dispatchers : List (Dispatcher (World σ))) :
    Source σ size → Handler (World σ)
  | .counting counter pauses => Chaincode.counting counter name pauses
  | .scripted plan held =>
      plan.handler name (held.filterMap fun number => dispatchers[number]?.map (number, ·))

/-- What a program can do next; what an operation selects need not be there. -/
inductive Operation (σ : Type) (size : Nat) where
  | create
  | copy (registry : Nat)
  | insert (registry : Nat) (name : String) (source : Source σ size)
  /-- Makes a dispatcher from a copy of a registry. -/
  | build (registry : Nat) (name : String)
  | serve (dispatcher : Nat)
  | connect (server : Nat)
  | ask (dispatcher : Nat) (query : Query)
  /-- Calls a handler without a dispatcher. -/
  | direct (registry : Nat) (stub : Stub) (invocation : Invocation)
  | poll (errand : Nat)
  | send (line : Nat) (chunk : Bytes)
  | close (line : Nat)
  | advance (line : Nat)

namespace Operation

variable {size : Nat}

def grows : Operation σ size → Option Nat
  | .insert registry _ _ => some registry
  | _ => none

end Operation

namespace Program

variable {size : Nat}

/-- A program that has nothing but as many counters as it will ever use. -/
def start (size : Nat) (kept : σ) : Program σ where
  world := { kept, counters := ⟨List.replicate size 0⟩ }

def insert (program : Program σ) (name : String) (source : Source σ size)
    (registry : Registry (World σ)) : Registry (World σ) :=
  match registry.insert (source.handler name program.dispatchers) with
  | .error _ => registry
  | .ok grown => grown

def direct (program : Program σ) (registry : Nat) (stub : Stub) (invocation : Invocation) :
    Option (Errand σ) :=
  (program.registries[registry]?.bind fun registry => registry.get? invocation.method).map
    fun handler => (Asked.ofHandler handler stub invocation.arguments).begin

def poll (program : Program σ) (index : Nat) : Program σ :=
  match program.errands[index]? with
  | none => program
  | some errand =>
      let turn := errand.poll program.world
      { program with world := turn.store, errands := program.errands.set index turn.value }

def advance (program : Program σ) (index : Nat) : Program σ :=
  match program.lines[index]? with
  | none => program
  | some line =>
      let turn := line.advance program.world
      { program with world := turn.store, lines := program.lines.set index turn.value }

def step (program : Program σ) : Operation σ size → Program σ
  | .create => { program with registries := program.registries ++ [.empty] }
  | .copy registry =>
      { program with registries := program.registries ++ program.registries[registry]?.toList }
  | .insert registry name source =>
      { program with registries := program.registries.modify registry (program.insert name source) }
  | .build registry name =>
      { program with
        dispatchers :=
          program.dispatchers ++ (program.registries[registry]?.map (Dispatcher.mk name)).toList }
  | .serve dispatcher =>
      { program with
        servers := program.servers ++ (program.dispatchers[dispatcher]?.map Server.mk).toList }
  | .connect server =>
      { program with
        lines := program.lines ++ (program.servers[server]?.map fun server =>
          ⟨server, {}, [], [], []⟩).toList }
  | .ask dispatcher query =>
      { program with
        errands := program.errands ++ (program.dispatchers[dispatcher]?.map fun dispatcher =>
          (Asked.ofDispatcher dispatcher query).begin).toList }
  | .direct registry stub invocation =>
      { program with
        errands := program.errands ++ (program.direct registry stub invocation).toList }
  | .poll errand => program.poll errand
  | .send line chunk =>
      { program with lines := program.lines.modify line fun line => line.arrive chunk }
  | .close line => { program with lines := program.lines.modify line Line.close }
  | .advance line => program.advance line

def run (program : Program σ) (operations : List (Operation σ size)) : Program σ :=
  operations.foldl step program

/-- What an operation leaves as it was: all dispatchers and servers, and all registries but the one
that it inserts into, where every name that had a handler still has it. -/
structure Extends (operation : Operation σ size) (before after : Program σ) : Prop where
  dispatchers : before.dispatchers <+: after.dispatchers
  servers : before.servers <+: after.servers
  registries : ∀ (index : Nat) (registry : Registry (World σ)),
    before.registries[index]? = some registry → operation.grows ≠ some index →
      after.registries[index]? = some registry
  lookups : ∀ (index : Nat) (registry : Registry (World σ)),
    before.registries[index]? = some registry →
      ∃ grown : Registry (World σ), after.registries[index]? = some grown ∧
        ∀ name handler, registry.get? name = some handler → grown.get? name = some handler

section Frames

variable {program : Program σ}

theorem getElem?_of_isPrefix {earlier later : List α} (extended : earlier <+: later) {index : Nat}
    {item : α} (found : earlier[index]? = some item) : later[index]? = some item := by
  obtain ⟨more, rfl⟩ := extended
  rw [List.getElem?_append_left (List.getElem?_eq_some_iff.mp found).1, found]

theorem get?_insert {source : Source σ size} {registry : Registry (World σ)} {name asked : String}
    {handler : Handler (World σ)} (found : registry.get? asked = some handler) :
    (program.insert name source registry).get? asked = some handler := by
  rw [insert]
  split
  next => exact found
  next grown inserted =>
      rw [Registry.get?_insert inserted, if_neg, found]
      rintro rfl
      rw [Registry.get?_of_insert inserted] at found
      cases found

theorem registries_insert {source : Source σ size} {index other : Nat} {name : String}
    {registry : Registry (World σ)} (found : program.registries[other]? = some registry) :
    (program.step (.insert index name source)).registries[other]? =
      some (if index = other then program.insert name source registry else registry) := by
  change (program.registries.modify index (program.insert name source))[other]? = _
  rw [List.getElem?_modify, found]
  rfl

theorem extends_append (operation : Operation σ size) {after : Program σ}
    (dispatchers : program.dispatchers <+: after.dispatchers)
    (servers : program.servers <+: after.servers)
    (registries : program.registries <+: after.registries) : Extends operation program after where
  dispatchers := dispatchers
  servers := servers
  registries _ _ found _ := getElem?_of_isPrefix registries found
  lookups _ registry found :=
    ⟨registry, getElem?_of_isPrefix registries found, fun _ _ same => same⟩

theorem step_extends (program : Program σ) (operation : Operation σ size) :
    Extends operation program (program.step operation) := by
  cases operation with
  | create => exact extends_append _ List.prefix_rfl List.prefix_rfl (List.prefix_append _ _)
  | copy => exact extends_append _ List.prefix_rfl List.prefix_rfl (List.prefix_append _ _)
  | insert index name source =>
      -- The only operation that changes what is there; all others append, or touch no registry.
      refine ⟨List.prefix_rfl, List.prefix_rfl, fun other registry found different => ?_,
        fun other registry found => ⟨_, registries_insert found, fun asked handler same => ?_⟩⟩
      · have distinct : index ≠ other := fun equal => different (congrArg some equal)
        rw [registries_insert found, if_neg distinct]
      · split
        · exact get?_insert same
        · exact same
  | build => exact extends_append _ (List.prefix_append _ _) List.prefix_rfl List.prefix_rfl
  | serve => exact extends_append _ List.prefix_rfl (List.prefix_append _ _) List.prefix_rfl
  | connect | ask | direct | send | close =>
      exact extends_append _ List.prefix_rfl List.prefix_rfl List.prefix_rfl
  | poll index =>
      rw [step, poll]
      split <;> exact extends_append _ List.prefix_rfl List.prefix_rfl List.prefix_rfl
  | advance index =>
      rw [step, advance]
      split <;> exact extends_append _ List.prefix_rfl List.prefix_rfl List.prefix_rfl

end Frames

theorem forall_mem_append_toList {property : α → Prop} {items : List α} {added : Option α}
    (old : ∀ item ∈ items, property item) (new : ∀ item, added = some item → property item) :
    ∀ item ∈ items ++ added.toList, property item := by
  intro item member
  rcases List.mem_append.mp member with before | after
  · exact old item before
  · exact new item (Option.mem_toList.mp after)

theorem forall_mem_modify {property : α → Prop} {items : List α} {index : Nat} {change : α → α}
    (old : ∀ item ∈ items, property item) (new : ∀ item, property item → property (change item)) :
    ∀ item ∈ items.modify index change, property item := by
  intro item member
  obtain ⟨other, found⟩ := List.mem_iff_getElem?.mp member
  rw [List.getElem?_modify, Option.map_eq_map, Option.map_eq_some_iff] at found
  obtain ⟨before, there, rfl⟩ := found
  have holds := old before (List.mem_of_getElem? there)
  split
  · exact new before holds
  · exact holds

theorem forall_mem_set {property : α → Prop} {items : List α} {index : Nat} {item : α}
    (old : ∀ item ∈ items, property item) (new : property item) :
    ∀ other ∈ items.set index item, property other := by
  intro other member
  rcases List.mem_or_eq_of_mem_set member with before | rfl
  · exact old other before
  · exact new

/-- The runs that the program is told of: what its handlers have heard, and what the answers to its
errands and the responses on its lines show. -/
noncomputable def shown (size : Nat) (program : Program σ) : Multiset Run :=
  (Inventory.mk size program.dispatchers).heard program.world +
    (program.errands.map (Errand.shown size)).sum + (program.lines.map (Line.shown size)).sum

/-- Nothing is in progress. -/
def Idle (program : Program σ) : Prop :=
  (∀ errand ∈ program.errands, errand.future.isReady = true) ∧
    ∀ line ∈ program.lines, line.connection.inProgress = 0

/-- All that the program has keeps its account, and together this accounts for all runs. -/
structure Sound (inventory : Inventory σ) (program : Program σ) : Prop where
  known : program.dispatchers <+: inventory.dispatchers
  sized : program.world.counters.counts.length = inventory.size
  registries : ∀ registry ∈ program.registries, registry.Pays inventory
  dispatchers : ∀ dispatcher ∈ program.dispatchers, dispatcher.registry.Pays inventory
  servers : ∀ server ∈ program.servers, server.dispatcher.registry.Pays inventory
  lines : ∀ line ∈ program.lines,
    line.server.dispatcher.registry.Pays inventory ∧ line.Faithful
  account : ∃ errands lines, Sums (Errand.Pays inventory) program.errands errands ∧
    Sums (Line.Pays inventory) program.lines lines ∧
    inventory.heard program.world + errands + lines = program.world.counters.runs

theorem sound_start (kept : σ) (dispatchers : List (Dispatcher (World σ))) :
    (start size kept).Sound ⟨size, dispatchers⟩ where
  known := List.nil_prefix
  sized := List.length_replicate
  registries := nofun
  dispatchers := nofun
  servers := nofun
  lines := nofun
  account := by
    refine ⟨0, 0, .nil, .nil, ?_⟩
    symm
    refine Finset.sum_eq_zero fun counter inside => ?_
    have unread : (start size kept).world.counters.read counter = 0 := by
      simp [start, Counters.read]
    rw [unread]
    rfl

section Soundness

variable {inventory : Inventory σ} {program : Program σ}

theorem Sound.handler_pays (sound : program.Sound inventory) (name : String)
    (source : Source σ inventory.size) :
    (source.handler name program.dispatchers).Pays inventory := by
  cases counts : (source.handler name program.dispatchers).counter? inventory.size with
  | some counter =>
      obtain ⟨inside, _, _, same⟩ := (Handler.counter?_eq_some program.world.kept).mp counts
      rw [same]
      exact counting_pays inside _ _
  | none =>
      cases source with
      | counting counter pauses =>
          have counted := (Handler.counter?_eq_some program.world.kept).mpr
            ⟨counter.isLt, name, pauses, rfl⟩
          cases counts.symm.trans counted
      | scripted plan held =>
          refine plan.handler_pays name (fun one member => ?_) counts
          obtain ⟨number, _, there⟩ := List.mem_filterMap.mp member
          obtain ⟨dispatcher, found, rfl⟩ := Option.map_eq_some_iff.mp there
          exact ⟨getElem?_of_isPrefix sound.known found,
            sound.dispatchers dispatcher (List.mem_of_getElem? found)⟩

theorem Sound.insert_pays (sound : program.Sound inventory) (name : String)
    (source : Source σ inventory.size) {registry : Registry (World σ)}
    (pays : registry.Pays inventory) : (program.insert name source registry).Pays inventory := by
  rw [insert]
  split
  next => exact pays
  next inserted => exact pays.insert (sound.handler_pays name source) inserted

/-- What has just begun owes nothing. -/
theorem Sound.begin (sound : program.Sound inventory) {added : Option (Errand σ)}
    (new : ∀ errand, added = some errand → errand.Pays inventory 0) :
    { program with errands := program.errands ++ added.toList }.Sound inventory := by
  obtain ⟨errands, lines, pays, others, account⟩ := sound.account
  exact { sound with
    account := ⟨errands, lines, pays.append_toList new, others, account⟩ }

theorem Sound.change (sound : program.Sound inventory) (index : Nat) {change : Line σ → Line σ}
    (served : ∀ line, (change line).server = line.server)
    (faithful : ∀ line, line.Faithful → (change line).Faithful)
    (pays : ∀ line total, line.Pays inventory total → (change line).Pays inventory total) :
    { program with lines := program.lines.modify index change }.Sound inventory := by
  obtain ⟨errands, lines, others, each, account⟩ := sound.account
  refine { sound with
    lines := forall_mem_modify sound.lines fun line good => ⟨?_, faithful line good.2⟩
    account := ⟨errands, lines, others, each.modify index pays, account⟩ }
  rw [served]
  exact good.1

theorem Sound.poll (sound : program.Sound inventory) (index : Nat) :
    (program.poll index).Sound inventory := by
  rw [Program.poll]
  split
  next => exact sound
  next errand found =>
      obtain ⟨_, lines, errands, others, account⟩ := sound.account
      obtain ⟨first, rest, pays, rfl, replace⟩ := errands.set found
      obtain ⟨left, settles, later⟩ := pays.poll sound.sized
      refine { sound with
        sized := settles.sized
        account := ⟨_, lines, replace _ _ later, others, ?_⟩ }
      rw [← add_assoc, add_assoc] at account ⊢
      exact settles.account account

theorem Sound.advance (sound : program.Sound inventory) (index : Nat) :
    (program.advance index).Sound inventory := by
  rw [Program.advance]
  split
  next => exact sound
  next line found =>
      obtain ⟨paying, faithful⟩ := sound.lines _ (List.mem_of_getElem? found)
      obtain ⟨errands, _, others, lines, account⟩ := sound.account
      obtain ⟨first, rest, pays, rfl, replace⟩ := lines.set found
      obtain ⟨left, settles, later⟩ := pays.advance paying sound.sized
      refine { sound with
        sized := settles.sized
        lines := forall_mem_set sound.lines ⟨paying, faithful.advance program.world⟩
        account := ⟨errands, _, others, replace _ _ later, ?_⟩ }
      rw [add_right_comm, ← add_assoc, add_assoc] at account ⊢
      exact settles.account account

theorem Sound.step (sound : program.Sound inventory) (operation : Operation σ inventory.size)
    (known : (program.step operation).dispatchers <+: inventory.dispatchers) :
    (program.step operation).Sound inventory := by
  cases operation with
  | create =>
      exact { sound with
        registries := List.forall_mem_append.mpr
          ⟨sound.registries, List.forall_mem_singleton.mpr Registry.pays_empty⟩ }
  | copy index =>
      exact { sound with
        registries := forall_mem_append_toList sound.registries fun registry found =>
          sound.registries registry (List.mem_of_getElem? found) }
  | insert index name source =>
      exact { sound with
        registries := forall_mem_modify sound.registries fun registry pays =>
          sound.insert_pays name source pays }
  | build index name =>
      refine { sound with
        known
        dispatchers := forall_mem_append_toList sound.dispatchers fun dispatcher built => ?_ }
      obtain ⟨registry, found, rfl⟩ := Option.map_eq_some_iff.mp built
      exact sound.registries registry (List.mem_of_getElem? found)
  | serve index =>
      refine { sound with
        servers := forall_mem_append_toList sound.servers fun server served => ?_ }
      obtain ⟨dispatcher, found, rfl⟩ := Option.map_eq_some_iff.mp served
      exact sound.dispatchers dispatcher (List.mem_of_getElem? found)
  | connect index =>
      obtain ⟨errands, lines, pays, others, account⟩ := sound.account
      refine { sound with
        lines := forall_mem_append_toList sound.lines fun line made => ?_
        account := ⟨errands, lines, pays, others.append_toList fun line made => ?_, account⟩ }
      all_goals obtain ⟨server, found, rfl⟩ := Option.map_eq_some_iff.mp made
      · exact ⟨sound.servers server (List.mem_of_getElem? found), Line.faithful_start server⟩
      · exact Line.pays_start server
  | ask index query =>
      refine sound.begin fun errand asked => ?_
      obtain ⟨dispatcher, found, rfl⟩ := Option.map_eq_some_iff.mp asked
      exact Errand.query_pays (sound.dispatchers dispatcher (List.mem_of_getElem? found)) query
  | direct index stub invocation =>
      refine sound.begin fun errand called => ?_
      obtain ⟨handler, selected, rfl⟩ := Option.map_eq_some_iff.mp called
      obtain ⟨registry, there, found⟩ := Option.bind_eq_some_iff.mp selected
      have paying := sound.registries registry (List.mem_of_getElem? there)
      exact Errand.call_pays (paying handler (Registry.get?_eq_some.mp found).1) stub
        invocation.arguments
  | poll index => exact sound.poll index
  | send index chunk =>
      exact sound.change index (fun line => rfl) (fun line faithful => faithful.arrive chunk)
        fun line total pays => pays.arrived _ _
  | close index =>
      exact sound.change index (fun line => rfl) (fun line faithful => faithful.close)
        fun line total pays => pays.arrived _ _
  | advance index => exact sound.advance index

end Soundness

section Runs

variable {program : Program σ} {later : List (Operation σ size)}

theorem run_induction {motive : Program σ → Prop} (begins : motive program)
    (step : ∀ reached, ∀ operation ∈ later, motive reached → motive (reached.step operation)) :
    motive (program.run later) :=
  List.foldlRecOn later Program.step begins fun reached holds operation member =>
    step reached operation member holds

theorem run_dispatchers (program : Program σ) (later : List (Operation σ size)) :
    program.dispatchers <+: (program.run later).dispatchers :=
  run_induction (motive := fun reached => program.dispatchers <+: reached.dispatchers)
    List.prefix_rfl fun reached operation _ extended =>
      extended.trans (step_extends reached operation).dispatchers

theorem run_servers (program : Program σ) (later : List (Operation σ size)) :
    program.servers <+: (program.run later).servers :=
  run_induction (motive := fun reached => program.servers <+: reached.servers)
    List.prefix_rfl fun reached operation _ extended =>
      extended.trans (step_extends reached operation).servers

theorem run_registries {index : Nat} {registry : Registry (World σ)}
    (found : program.registries[index]? = some registry)
    (elsewhere : ∀ operation ∈ later, operation.grows ≠ some index) :
    (program.run later).registries[index]? = some registry :=
  run_induction (motive := fun reached => reached.registries[index]? = some registry) found
    fun reached operation member still =>
      (step_extends reached operation).registries index registry still (elsewhere operation member)

theorem Sound.run {inventory : Inventory σ} (sound : program.Sound inventory)
    (operations : List (Operation σ inventory.size))
    (known : (program.run operations).dispatchers <+: inventory.dispatchers) :
    (program.run operations).Sound inventory := by
  induction operations generalizing program with
  | nil => exact sound
  | cons operation rest ih =>
      exact ih (sound.step operation ((run_dispatchers _ rest).trans known)) known

end Runs

/-- What is told to the program are all runs, but for those that are still owed. -/
theorem Sound.shown_pending {dispatchers : List (Dispatcher (World σ))} {program : Program σ}
    (sound : program.Sound ⟨size, dispatchers⟩) (all : dispatchers = program.dispatchers) :
    ∃ pending, (program.Idle → pending = 0) ∧
      program.shown size + pending = program.world.counters.runs := by
  subst all
  obtain ⟨_, _, errands, lines, account⟩ := sound.account
  obtain ⟨owed, rfl, settled⟩ := errands.pending fun _ _ pays => pays.pending
  obtain ⟨left, rfl, answered⟩ := lines.pending fun _ _ pays => pays.pending
  refine ⟨owed + left, fun idle => ?_, ?_⟩
  · rw [settled idle.1, answered idle.2, add_zero]
  · rw [← account, shown]
    abel

/-- Whatever a program has done, its next operation changes no dispatcher and no server, and no
registry but the one that it inserts into; so a dispatcher is for ever what the registry was that it
was made from, and a copy what the original was until something is inserted into the copy itself.
Of each counter the runs from one on have been told, each of them once, by answers to queries and
calls, by responses on connections, or to handlers that asked; only what is in progress may keep
some of them back.  The responses, which have to fit into frames, are what has been written, and
their requests the first of those received.  And a counting handler, whichever way it is called,
counts once and reports this in its last poll, and does nothing before. -/
theorem copies_isolated_handlers_shared (kept : σ) (operations : List (Operation σ size)) :
    let program := (start size kept).run operations
    (∀ operation : Operation σ size, Extends operation program (program.step operation)) ∧
    (∀ later : List (Operation σ size),
      program.dispatchers <+: (program.run later).dispatchers ∧
      program.servers <+: (program.run later).servers ∧
      ∀ (index : Nat) registry, program.registries[index]? = some registry →
        (∀ operation ∈ later, operation.grows ≠ some index) →
        (program.run later).registries[index]? = some registry) ∧
    (∀ (index : Nat) registry (later : List (Operation σ size)),
      program.registries[index]? = some registry →
      (∀ name, ((program.step (.build index name : Operation σ size)).run later).dispatchers[
          program.dispatchers.length]? = some ⟨name, registry⟩) ∧
      ((∀ operation ∈ later, operation.grows ≠ some program.registries.length) →
        ((program.step (.copy index : Operation σ size)).run later).registries[
          program.registries.length]? = some registry)) ∧
    (∃ pending : Multiset Run, (program.Idle → pending = 0) ∧
      program.shown size + pending = ∑ counter ∈ Finset.range size,
        (Multiset.range (program.world.counters.read counter)).map fun number =>
          (counter, Sample.text (toString (number + 1)))) ∧
    (∀ (handler : Handler (World σ)) counter, handler.counter? size = some counter ↔
      counter < size ∧ ∃ name pauses,
        handler = ((Sample.tally counter).handler name pauses).inWorld) ∧
    (∀ line ∈ program.lines, (∀ response ∈ line.answered, Framable response.encode) →
      line.connection.outbox = replyStream line.answered ∧
      ∃ others rest, Leads Request.decode line.received (line.taken ++ others) rest) ∧
    ∀ (dispatcher : Dispatcher (World σ)) stub invocation counter name pauses,
      let handler := ((Sample.tally counter).handler name pauses).inWorld
      dispatcher.registry.get? invocation.method = some handler →
      let counts {α : Type} (told : Payload → α) : Action (World σ) α := fun world =>
        let (runs, counters) := world.counters.increment counter
        ⟨told (Sample.text (toString runs)), { world with counters }, []⟩
      (handler.future stub invocation.arguments).Delays (counts .returned) pauses [] ∧
      (dispatcher.call stub invocation).Delays (counts .ok) pauses [] ∧
      (dispatcher.dispatch stub invocation).Delays (counts fun payload => .success (some payload))
        pauses [invocation.logLine] ∧
      (stub.invocation = invocation → (Server.answer ⟨dispatcher⟩ (.invoke stub)).Delays
        (counts fun payload => .result (.success (some payload))) pauses [invocation.logLine]) := by
  intro program
  have sound : program.Sound ⟨size, program.dispatchers⟩ :=
    (sound_start kept program.dispatchers).run operations List.prefix_rfl
  refine ⟨step_extends program, fun later => ⟨run_dispatchers program later,
    run_servers program later, fun index registry found elsewhere =>
      run_registries found elsewhere⟩, fun index registry later found => ⟨fun name => ?_,
    fun elsewhere => ?_⟩, ?_, fun handler counter => Handler.counter?_eq_some kept,
    fun line member _ => ?_, ?_⟩
  · have built : (program.step (.build index name : Operation σ size)).dispatchers[
        program.dispatchers.length]? = some ⟨name, registry⟩ := by
      simp [step, found]
    exact getElem?_of_isPrefix (run_dispatchers _ later) built
  · refine run_registries ?_ elsewhere
    simp [step, found]
  · obtain ⟨pending, settled, account⟩ := sound.shown_pending rfl
    rw [Counters.runs, sound.sized] at account
    exact ⟨pending, settled, account⟩
  · obtain ⟨_, faithful⟩ := sound.lines line member
    obtain ⟨others, rest, leads⟩ := faithful.begins []
    rw [List.append_nil] at leads
    exact ⟨faithful.written, others, rest, leads⟩
  · intro dispatcher stub invocation counter name pauses handler found counts
    refine ⟨counting_future counter name pauses stub invocation.arguments, counting_called found,
      counting_dispatched found, ?_⟩
    rintro rfl
    exact counting_served found

/-- One counter, reached through a registry, a dispatcher over a copy of it, a handler that holds
this dispatcher, and a connection. -/
example :
    let asking : Plan Unit := fun stub _ => Action.pure
      (.ok (.ask 0 (.dispatch stub ⟨"hits", []⟩) fun _ => .finish (.returned [])))
    let operations : List (Operation Unit 1) := [
      .create, .insert 0 "hits" (.counting 0 1), .copy 0, .build 1 "inner",
      .insert 0 "outer" (.scripted asking [0]), .build 0 "outer", .serve 0, .connect 0,
      .ask 1 (.dispatch {} ⟨"outer", []⟩), .ask 0 (.call {} ⟨"hits", []⟩),
      .direct 0 {} ⟨"hits", []⟩, .send 0 (frame (Request.invoke (.ofArguments ["hits"])).encode),
      .poll 0, .poll 1, .advance 0, .poll 2, .poll 2, .advance 0, .advance 0, .poll 0, .poll 1]
    let program := (start 1 ()).run operations
    let payloads (future : Future (World Unit) Told) : List (Option Payload) :=
      match future with
      | .ready told => told.payloads
      | .waiting _ => []
    program.errands.map (fun errand => payloads errand.future) =
        [[some []], [some (Sample.text "4")], [some (Sample.text "1")]] ∧
      program.lines.map Line.answered = [[.result (.success (some (Sample.text "2")))]] ∧
      program.world.heard.map (fun hearing => hearing.told.payloads) =
        [[some (Sample.text "3")]] ∧
      program.dispatchers.map Dispatcher.methods = [["hits"], ["hits", "outer"]] := by
  decide +kernel

end Program

end Chaincode
