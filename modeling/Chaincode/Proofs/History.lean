import Chaincode.Handlers.Ping
import Chaincode.Proofs.ByteOrder
import Chaincode.Proofs.Registry

namespace Chaincode

/-! Registries after any history of registrations.

An attempt to register a handler succeeds when its name is neither empty nor taken,
and else changes nothing.  So what a registry finds under a name is settled by the
first attempt with that name.  Main statement: `registerAll_exact`.
-/

/-- A handler to be registered: an object, or a function under a name. -/
inductive Attempt (σ : Type) where
  | object (handler : Handler σ)
  | function (name : String)
      (work : List String → Action σ (Except Panic (Future σ Completion)))

namespace Attempt

def handler : Attempt σ → Handler σ
  | .object handler => handler
  | .function name work => .ofFunction name work

def name (attempt : Attempt σ) : String := attempt.handler.name

/-- The answer that an attempt deserves after earlier ones. -/
def answer (earlier : List (Attempt σ)) (attempt : Attempt σ) : Except RegistryError Unit :=
  if attempt.name = "" then .error .emptyName
  else if attempt.name ∈ earlier.map name then .error (.duplicate attempt.name)
  else .ok ()

/-- The handler of the first attempt with this name. -/
def first? (attempts : List (Attempt σ)) (wanted : String) : Option (Handler σ) :=
  if wanted = "" then none
  else (attempts.find? fun attempt => attempt.name == wanted).map handler

end Attempt

namespace Registry

def attempt (registry : Registry σ) : Attempt σ → Except RegistryError (Registry σ)
  | .object handler => registry.insert handler
  | .function name work => registry.insertFunction name work

/-- The answer to an attempt, and the registry after it. -/
def register (registry : Registry σ) (attempt : Attempt σ) :
    Except RegistryError Unit × Registry σ :=
  match registry.attempt attempt with
  | .error error => (.error error, registry)
  | .ok grown => (.ok (), grown)

def registerAll (registry : Registry σ) :
    List (Attempt σ) → List (Except RegistryError Unit) × Registry σ
  | [] => ([], registry)
  | attempt :: rest =>
      let (answer, grown) := registry.register attempt
      let (answers, last) := grown.registerAll rest
      (answer :: answers, last)

theorem attempt_eq (registry : Registry σ) (attempt : Attempt σ) :
    registry.attempt attempt = registry.insert attempt.handler := by
  cases attempt <;> rfl

theorem register_error {registry : Registry σ} {attempt : Attempt σ} {error : RegistryError}
    (refused : registry.insert attempt.handler = .error error) :
    registry.register attempt = (.error error, registry) := by
  rw [register, attempt_eq, refused]

theorem register_ok {registry grown : Registry σ} {attempt : Attempt σ}
    (inserted : registry.insert attempt.handler = .ok grown) :
    registry.register attempt = (.ok (), grown) := by
  rw [register, attempt_eq, inserted]

theorem register_refused {registry : Registry σ} {attempt : Attempt σ} {error : RegistryError}
    (refused : (registry.register attempt).1 = .error error) :
    (registry.register attempt).2 = registry := by
  unfold register at refused ⊢
  cases inserted : registry.attempt attempt with
  | error => rfl
  | ok grown =>
      rw [inserted] at refused
      cases refused

theorem registerAll_cons (registry : Registry σ) (attempt : Attempt σ) (rest : List (Attempt σ)) :
    registry.registerAll (attempt :: rest) =
      ((registry.register attempt).1 :: ((registry.register attempt).2.registerAll rest).1,
        ((registry.register attempt).2.registerAll rest).2) := rfl

theorem registerAll_append (registry : Registry σ) (earlier later : List (Attempt σ)) :
    registry.registerAll (earlier ++ later) =
      ((registry.registerAll earlier).1 ++ ((registry.registerAll earlier).2.registerAll later).1,
        ((registry.registerAll earlier).2.registerAll later).2) := by
  induction earlier generalizing registry with
  | nil => rfl
  | cons attempt rest ih =>
      simp only [List.cons_append, registerAll]
      rw [ih]

theorem registerAll_length (registry : Registry σ) (attempts : List (Attempt σ)) :
    (registry.registerAll attempts).1.length = attempts.length := by
  induction attempts generalizing registry with
  | nil => rfl
  | cons attempt rest ih =>
      simp only [registerAll, List.length_cons]
      rw [ih]

/-- The registry finds what was attempted first under each name. -/
def Describes (registry : Registry σ) (attempts : List (Attempt σ)) : Prop :=
  ∀ name, registry.get? name = Attempt.first? attempts name

theorem empty_describes : (empty : Registry σ).Describes [] := by
  intro name
  simp [Attempt.first?, get?, empty]

theorem first?_eq_none {attempts : List (Attempt σ)} {name : String} (named : name ≠ "") :
    Attempt.first? attempts name = none ↔ name ∉ attempts.map Attempt.name := by
  rw [Attempt.first?, if_neg named, Option.map_eq_none_iff, List.find?_eq_none]
  simp only [List.mem_map, not_exists, not_and, beq_iff_eq]

theorem first?_append (earlier : List (Attempt σ)) (attempt : Attempt σ) {name : String}
    (named : name ≠ "") :
    Attempt.first? (earlier ++ [attempt]) name =
      (Attempt.first? earlier name).or
        (if attempt.name = name then some attempt.handler else none) := by
  rw [Attempt.first?, if_neg named, Attempt.first?, if_neg named, List.find?_append, Option.map_or,
    List.find?_singleton]
  by_cases same : attempt.name = name <;> simp [same]

theorem describes_of_named {registry : Registry σ} {attempts : List (Attempt σ)}
    (found : ∀ name, name ≠ "" → registry.get? name = Attempt.first? attempts name) :
    registry.Describes attempts := by
  intro name
  by_cases empty : name = ""
  · rw [empty, get?_empty, Attempt.first?, if_pos rfl]
  · exact found name empty

/-- What one attempt answers, and what it leaves behind. -/
theorem register_describes {registry : Registry σ} {earlier : List (Attempt σ)}
    (describes : registry.Describes earlier) (attempt : Attempt σ) :
    (registry.register attempt).1 = attempt.answer earlier ∧
      (registry.register attempt).2.Describes (earlier ++ [attempt]) := by
  by_cases unnamed : attempt.name = ""
  · rw [register_error (insert_unnamed unnamed), Attempt.answer, if_pos unnamed]
    refine ⟨rfl, describes_of_named fun name named => ?_⟩
    have different : ¬ attempt.name = name := fun same => named (same ▸ unnamed)
    rw [describes, first?_append _ _ named, if_neg different, Option.or_none]
  · rw [Attempt.answer, if_neg unnamed]
    cases found : registry.get? attempt.name with
    | some other =>
        have taken : attempt.name ∈ earlier.map Attempt.name := by
          by_contra free
          rw [describes, (first?_eq_none unnamed).mpr free] at found
          cases found
        rw [register_error (insert_duplicate unnamed found), if_pos taken]
        refine ⟨rfl, describes_of_named fun name named => ?_⟩
        rw [first?_append _ _ named, ← describes]
        by_cases same : attempt.name = name
        · rw [← same, found, Option.some_or]
        · rw [if_neg same, Option.or_none]
    | none =>
        have free : attempt.name ∉ earlier.map Attempt.name := by
          rw [describes, first?_eq_none unnamed] at found
          exact found
        obtain ⟨grown, inserted⟩ := insert_fresh unnamed found
        rw [register_ok inserted, if_neg free]
        refine ⟨rfl, describes_of_named fun name named => ?_⟩
        rw [get?_insert inserted, first?_append _ _ named, ← describes]
        by_cases same : attempt.name = name
        · rw [if_pos same, ← same, found, Option.none_or]
          exact if_pos rfl
        · rw [if_neg same, Option.or_none]
          exact if_neg same

theorem registerAll_describes {registry : Registry σ} {earlier : List (Attempt σ)}
    (describes : registry.Describes earlier) (attempts : List (Attempt σ)) :
    (registry.registerAll attempts).2.Describes (earlier ++ attempts) := by
  induction attempts generalizing registry earlier with
  | nil =>
      rw [List.append_nil]
      exact describes
  | cons attempt rest ih =>
      have whole := ih (register_describes describes attempt).2
      rw [List.append_assoc] at whole
      exact whole

theorem find?_eq_some {attempts : List (Attempt σ)}
    (distinct : (attempts.map Attempt.name).Nodup) {wanted : String} {attempt : Attempt σ} :
    (attempts.find? fun other => other.name == wanted) = some attempt ↔
      attempt ∈ attempts ∧ attempt.name = wanted := by
  constructor
  · intro found
    exact ⟨List.mem_of_find?_eq_some found, by simpa using List.find?_some found⟩
  · rintro ⟨member, rfl⟩
    induction attempts with
    | nil => cases member
    | cons first rest ih =>
        obtain ⟨fresh, restDistinct⟩ := List.nodup_cons.mp distinct
        rcases List.mem_cons.mp member with rfl | later
        · exact List.find?_cons_of_pos (by simp)
        · have different : first.name ≠ attempt.name := by
            intro same
            exact fresh (same ▸ List.mem_map_of_mem later)
          rw [List.find?_cons_of_neg (by simpa using different)]
          exact ih restDistinct later

theorem first?_perm {attempts others : List (Attempt σ)} (permuted : attempts.Perm others)
    (distinct : (attempts.map Attempt.name).Nodup) (name : String) :
    Attempt.first? attempts name = Attempt.first? others name := by
  have also : (others.map Attempt.name).Nodup := (permuted.map _).nodup_iff.mp distinct
  rw [Attempt.first?, Attempt.first?]
  congr 2
  ext attempt
  rw [find?_eq_some distinct, find?_eq_some also, permuted.mem_iff]

theorem mem_names_iff {registry : Registry σ} {attempts : List (Attempt σ)}
    (describes : registry.Describes attempts) (name : String) :
    name ∈ registry.names ↔ name ≠ "" ∧ name ∈ attempts.map Attempt.name := by
  rw [mem_names, ← Option.ne_none_iff_exists', describes]
  by_cases empty : name = ""
  · simp [Attempt.first?, empty]
  · rw [Ne, first?_eq_none empty, not_not]
    exact (and_iff_right empty).symm

/-- After any history of attempts, each was answered by what came before it, a refused one left no
trace, and the registry lists the names that are not empty, in the order of their bytes, and finds
the handler of the first attempt under each.  Attempts with distinct names may come in any order. -/
theorem registerAll_exact (attempts : List (Attempt σ)) :
    let answers := (empty.registerAll attempts).1
    let registry := (empty.registerAll attempts).2
    answers.length = attempts.length ∧
    (∀ earlier attempt later, attempts = earlier ++ attempt :: later →
      answers[earlier.length]? = some (attempt.answer earlier) ∧
      ∀ error, attempt.answer earlier = .error error →
        empty.registerAll (earlier ++ later) = (answers.eraseIdx earlier.length, registry)) ∧
    (registry.names.map Text.Utf8.encode).Pairwise (· < ·) ∧
    (∀ name, name ∈ registry.names ↔ name ≠ "" ∧ name ∈ attempts.map Attempt.name) ∧
    registry.size = registry.names.length ∧
    (registry.isEmpty = true ↔ registry.names = []) ∧
    (∀ name, registry.contains name = true ↔ name ∈ registry.names) ∧
    (∀ name, registry.get? name = Attempt.first? attempts name) ∧
    (∀ name handler, registry.get? name = some handler → handler.name = name) ∧
    (∀ others, attempts.Perm others → (attempts.map Attempt.name).Nodup →
      (empty.registerAll others).2 = registry ∧
      ∀ name, (⟨name, (empty.registerAll others).2⟩ : Dispatcher σ).methods =
        (⟨name, registry⟩ : Dispatcher σ).methods) := by
  intro answers registry
  have describes : registry.Describes attempts := registerAll_describes empty_describes attempts
  refine ⟨registerAll_length _ _, ?_, ?_, mem_names_iff describes, ?_, ?_, ?_, describes,
    fun _ _ => get?_name, ?_⟩
  · rintro earlier attempt later rfl
    have before : (empty.registerAll earlier).2.Describes earlier :=
      registerAll_describes empty_describes earlier
    have answered := (register_describes before attempt).1
    have size := registerAll_length (empty : Registry σ) earlier
    simp only [answers, registry, registerAll_append, registerAll_cons]
    generalize empty.registerAll earlier = reached at size answered ⊢
    rw [answered, ← size]
    refine ⟨by simp, fun error wrong => ?_⟩
    rw [register_refused (answered.trans wrong), List.eraseIdx_append_of_length_le (Nat.le_refl _)]
    simp
  · exact List.pairwise_map.mpr (registry.sorted.imp Text.Utf8.encode_lt_encode)
  · exact (List.length_map _).symm
  · rw [isEmpty, names, List.isEmpty_iff, List.map_eq_nil_iff]
  · intro name
    rw [contains, Option.isSome_iff_exists, mem_names]
  · intro others permuted distinct
    have same : (empty.registerAll others).2 = registry := by
      apply eq_of_get?
      intro name
      rw [describes, registerAll_describes empty_describes others]
      exact (first?_perm permuted distinct name).symm
    exact ⟨same, fun name => by rw [same]⟩

def trialAttempts : List (Attempt Unit) :=
  [.object Ping.handler, .function "é" fun _ => Action.pure (.error .other)]

theorem trial_registrations_commute :
    trialAttempts.Perm trialAttempts.reverse ∧ (trialAttempts.map Attempt.name).Nodup ∧
      (empty.registerAll trialAttempts.reverse).2 = (empty.registerAll trialAttempts).2 := by
  have permuted : trialAttempts.Perm trialAttempts.reverse := (List.reverse_perm _).symm
  have distinct : (trialAttempts.map Attempt.name).Nodup := by decide
  obtain ⟨_, _, _, _, _, _, _, _, _, anyOrder⟩ := registerAll_exact trialAttempts
  exact ⟨permuted, distinct, (anyOrder _ permuted distinct).1⟩

end Registry

end Chaincode
