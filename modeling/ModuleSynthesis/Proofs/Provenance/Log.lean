import ModuleSynthesis.Proofs.Dispatch

/-!
# Registries and logs of writes

A session that does nothing but write its registries is a log of records and of the emptying of
registries, those records included that are passed over or refused.

* `Attempt.first?`: what a registry was first asked to record of a name since it was last
  emptied.
* `World.performTimed`: actions that are each done at a time of their own; a session does them all
  at one time (`World.performTimed_map_now`).
* `World.RecordsLog`: a registry holds these first records and no others. Every write keeps this.
* `FirstDecides`: how a record is answered where the first one is known.
* `World.performAll_viewsFirstWrites`: what a registry says of a name after a log, and how it has
  answered the records of the log.
-/

namespace ModuleSynthesis

variable {σ : Type} {start world after : World σ} {id : RegistryId} {level : Nat}
  {action : Action σ} {log before : List (Action σ)}

/-! ## First records of a log -/

/-- What a registry is asked to record of a name. -/
structure Attempt where
  /-- The id of the loader. -/
  loader : String
  /-- The glob of the rule. -/
  pattern : String
deriving DecidableEq

/-- What an origin says apart from the time. -/
def Origin.attempt (origin : Origin) : Attempt :=
  ⟨origin.loader, origin.pattern⟩

namespace Action

/-- Whether an action empties a registry. -/
def clears (id : RegistryId) : Action σ → Bool
  | .clear other => other = id
  | _ => false

/-- What an action asks a registry to record of a name. -/
def attempt? (id : RegistryId) (name : String) : Action σ → Option Attempt
  | .record other recorded loader pattern =>
    if other = id ∧ recorded = name then some ⟨loader, pattern⟩ else none
  | _ => none

end Action

namespace Attempt

/-- What a registry was first asked to record of a name since it was last emptied. -/
def first? (id : RegistryId) (name : String) (log : List (Action σ)) : Option Attempt :=
  (log.reverse.takeWhile (!·.clears id)).reverse.findSome? (·.attempt? id name)

theorem first?_concat (id : RegistryId) (name : String) (log : List (Action σ))
    (action : Action σ) :
    first? id name (log ++ [action]) =
      if action.clears id then none
      else (first? id name log).or (action.attempt? id name) := by
  rw [first?, List.reverse_append, List.reverse_singleton, List.singleton_append,
    List.takeWhile_cons]
  cases action.clears id with
  | true => rfl
  | false =>
    rw [Bool.not_false, if_pos rfl, List.reverse_cons, List.findSome?_append,
      List.findSome?_singleton]
    rfl

theorem first?_concat_clear (id : RegistryId) (name : String) (log : List (Action σ))
    (written : RegistryId) :
    first? id name (log ++ [.clear written]) =
      if written = id then none else first? id name log := by
  have hattempt : (Action.clear written : Action σ).attempt? id name = none := rfl
  rw [first?_concat, hattempt, Option.or_none, Action.clears]
  by_cases hid : written = id <;> simp [hid]

theorem first?_concat_record (id : RegistryId) (name : String) (log : List (Action σ))
    (written : RegistryId) (recorded loader pattern : String) :
    first? id name (log ++ [.record written recorded loader pattern]) =
      (first? id name log).or
        (if written = id ∧ recorded = name then some ⟨loader, pattern⟩ else none) := by
  have hclears : (Action.record written recorded loader pattern : Action σ).clears id = false := rfl
  rw [first?_concat, hclears, if_neg Bool.false_ne_true, Action.attempt?]

end Attempt

/-! ## One write -/

namespace World

theorem setRegistry_self (world : World σ) (id : RegistryId) :
    world.setRegistry id (world.registries id) = world := by
  have hsame : (fun other => if other = id then world.registries id else world.registries other) =
      world.registries := by
    funext other
    split
    · next h => rw [h]
    · rfl
  rw [setRegistry, hsame]

variable {name : String} (loader pattern : String)

/-- The first record for a name is taken. -/
theorem perform_record_of_eq_none (h : (world.registries id).entries[name]? = none) :
    perform level (.record id name loader pattern) world =
      some (.recorded (.ok .recorded), world.setRegistry id
        ((world.registries id).insert (Origin.under ⟨loader, pattern, world.now⟩ name))) := by
  rw [perform, Registry.record_of_eq_none h]

/-- A later one is passed over or refused, and nothing else happens. -/
theorem perform_record_of_eq_some {existing : ProvenanceRecord}
    (h : (world.registries id).entries[name]? = some existing) :
    perform level (.record id name loader pattern) world =
      some (.recorded (if (world.registries id).policy = .rejectDuplicates ∧
          existing.loader ≠ loader then .error (.duplicateGeneration name existing.loader loader)
        else .ok .alreadyRecorded), world) := by
  rw [perform, Registry.record_of_eq_some h]
  by_cases hrefused : (world.registries id).policy = .rejectDuplicates ∧ existing.loader ≠ loader
  · rw [if_pos hrefused, if_pos hrefused]
  · rw [if_neg hrefused, if_neg hrefused]
    dsimp only
    rw [setRegistry_self]

theorem policy_setRegistry {written : RegistryId} {registry : Registry}
    (h : registry.policy = (world.registries written).policy) (id : RegistryId) :
    ((world.setRegistry written registry).registries id).policy =
      (world.registries id).policy := by
  rw [registries_setRegistry]
  split
  · next hid => rw [h, hid]
  · rfl

end World

/-! ## Writes at their times -/

namespace World

/-- Actions on a world, one after another, each at the time beside it. -/
def performTimed (level : Nat) : List (String × Action σ) → World σ → Option (List Reply × World σ)
  | [], world => some ([], world)
  | (time, action) :: log, world =>
    match perform level action { world with now := time } with
    | none => none
    | some (reply, world) =>
      match performTimed level log world with
      | none => none
      | some (replies, world) => some (reply :: replies, world)

theorem now_of_perform_write {action : Action σ} {reply : Reply}
    (h : perform level action world = some (reply, after)) (hwrite : action.isRequest = false) :
    after.now = world.now := by
  cases action with
  | dispatch | resolve | register => cases hwrite
  | clear => cases h; rfl
  | record written name loader pattern =>
    rw [perform] at h
    split at h <;> cases h <;> rfl

/-- Writes that are all done at one time are those of a session. -/
theorem performTimed_map_now {actions : List (Action σ)}
    (hwrites : ∀ action ∈ actions, action.isRequest = false) (level : Nat) (world : World σ) :
    performTimed level (actions.map (world.now, ·)) world = performAll level actions world := by
  induction actions generalizing world with
  | nil => rfl
  | cons action actions ih =>
    rw [List.map_cons, performTimed, performAll]
    cases hfirst : perform level action world with
    | none => rfl
    | some step =>
      obtain ⟨reply, after⟩ := step
      have hnow := now_of_perform_write hfirst (hwrites action List.mem_cons_self)
      have hrest := ih (fun other ho => hwrites other (List.mem_cons_of_mem _ ho)) after
      rw [hnow] at hrest
      cases hall : performAll level actions after <;> simp [hrest, hall]

end World

/-! ## Logs -/

/-- A registry holds the first records of a log since it was last emptied, under the policy that it
had at the start. -/
structure World.RecordsLog (start : World σ) (id : RegistryId) (log : List (Action σ))
    (world : World σ) : Prop where
  policy : (world.registries id).policy = (start.registries id).policy
  entries : ∀ name, (world.registries id).entries[name]?.map (·.attempt) =
    Attempt.first? id name log

namespace World.RecordsLog

/-- Every write keeps this, whichever registry it is for. -/
theorem perform (h : start.RecordsLog id log world) (hwrite : action.isRequest = false)
    (level : Nat) :
    ∃ reply after, World.perform level action world = some (reply, after) ∧
      start.RecordsLog id (log ++ [action]) after := by
  cases action with
  | dispatch | resolve | register => cases hwrite
  | clear written =>
    refine ⟨_, _, rfl, (policy_setRegistry (by rfl) id).trans h.policy, fun name => ?_⟩
    rw [registries_setRegistry, Attempt.first?_concat_clear]
    by_cases hid : id = written
    · rw [if_pos hid, if_pos hid.symm, Registry.clear, Std.TreeMap.getElem?_emptyc]
      rfl
    · rw [if_neg hid, if_neg fun hsame => hid hsame.symm]
      exact h.entries name
  | record written recorded loader pattern =>
    cases he : (world.registries written).entries[recorded]? with
    | some existing =>
      refine ⟨_, _, perform_record_of_eq_some loader pattern he, h.policy, fun name => ?_⟩
      rw [Attempt.first?_concat_record, h.entries name]
      by_cases hsame : written = id ∧ recorded = name
      · obtain ⟨rfl, rfl⟩ := hsame
        rw [← h.entries, he]
        rfl
      · rw [if_neg hsame, Option.or_none]
    | none =>
      refine ⟨_, _, perform_record_of_eq_none loader pattern he,
        (policy_setRegistry (by rfl) id).trans h.policy, fun name => ?_⟩
      rw [registries_setRegistry, Attempt.first?_concat_record, ← h.entries name]
      by_cases hid : id = written
      · subst hid
        rw [if_pos rfl, Registry.entry_of_insert, Origin.under_name]
        by_cases hname : recorded = name
        · subst hname
          rw [if_pos rfl, if_pos ⟨rfl, rfl⟩, he]
          rfl
        · rw [if_neg hname, if_neg fun hsame => hname hsame.2, Option.or_none]
      · rw [if_neg hid, if_neg fun hsame => hid hsame.1.symm, Option.or_none]

/-- What a registry holds does not depend on the time. -/
theorem setNow (h : start.RecordsLog id before world) (time : String) :
    start.RecordsLog id before { world with now := time } :=
  ⟨h.policy, h.entries⟩

/-- So does every log of writes, whatever the times, and none of them is without an answer. -/
theorem performTimed {timed : List (String × Action σ)} (h : start.RecordsLog id before world)
    (hwrites : ∀ entry ∈ timed, entry.2.isRequest = false) (level : Nat) :
    ∃ replies after, World.performTimed level timed world = some (replies, after) ∧
      start.RecordsLog id (before ++ timed.map (·.2)) after := by
  induction timed generalizing before world with
  | nil => exact ⟨[], world, rfl, by rwa [List.map_nil, List.append_nil]⟩
  | cons entry timed ih =>
    obtain ⟨time, action⟩ := entry
    obtain ⟨reply, middle, hfirst, hmiddle⟩ :=
      (h.setNow time).perform (hwrites (time, action) List.mem_cons_self) level
    obtain ⟨replies, after, hrest, hafter⟩ :=
      ih hmiddle fun other ho => hwrites other (List.mem_cons_of_mem _ ho)
    refine ⟨reply :: replies, after, ?_, ?_⟩
    · rw [World.performTimed, hfirst]
      dsimp only
      rw [hrest]
    · rwa [List.append_assoc, List.singleton_append] at hafter

/-- So does a session of writes. -/
theorem performAll (h : start.RecordsLog id before world)
    (hwrites : ∀ action ∈ log, action.isRequest = false) (level : Nat) :
    ∃ replies after, World.performAll level log world = some (replies, after) ∧
      start.RecordsLog id (before ++ log) after := by
  have htimed : ∀ entry ∈ log.map (world.now, ·), entry.2.isRequest = false :=
    List.forall_mem_map.mpr hwrites
  have hlog : (log.map (world.now, ·)).map (·.2) = log := by
    rw [List.map_map]
    exact List.map_id log
  obtain ⟨replies, after, hrun, hafter⟩ := h.performTimed htimed level
  rw [performTimed_map_now hwrites] at hrun
  rw [hlog] at hafter
  exact ⟨replies, after, hrun, hafter⟩

end World.RecordsLog

/-! ## What follows from a first record -/

/-- What was first asked of a name, if anything was, decides how a record for the name is answered
that comes from a loader. -/
structure FirstDecides (first? : Option Attempt) (policy : RegistryPolicy) (name loader : String)
    (outcome : Except RegistryError RecordOutcome) : Prop where
  recorded_iff : outcome = .ok .recorded ↔ first? = none
  error_iff : ∀ error, outcome = .error error ↔ policy = .rejectDuplicates ∧
    ∃ first, first? = some first ∧ first.loader ≠ loader ∧
      error = .duplicateGeneration name first.loader loader
  alreadyRecorded_iff : outcome = .ok .alreadyRecorded ↔
    ∃ first, first? = some first ∧ (policy = .firstWriterWins ∨ first.loader = loader)

theorem firstDecides_none (policy : RegistryPolicy) (name loader : String) :
    FirstDecides none policy name loader (.ok .recorded) :=
  ⟨by simp, by simp, by simp⟩

theorem firstDecides_some (first : Attempt) (policy : RegistryPolicy) (name loader : String) :
    FirstDecides (some first) policy name loader
      (if policy = .rejectDuplicates ∧ first.loader ≠ loader then
        .error (.duplicateGeneration name first.loader loader)
      else .ok .alreadyRecorded) := by
  by_cases hrefused : policy = .rejectDuplicates ∧ first.loader ≠ loader
  · obtain ⟨rfl, hloader⟩ := hrefused
    rw [if_pos ⟨rfl, hloader⟩]
    refine ⟨by simp, fun error => ⟨?_, ?_⟩, by simp [hloader]⟩
    · rintro ⟨⟩
      exact ⟨rfl, first, rfl, hloader, rfl⟩
    · rintro ⟨-, other, hother, -, rfl⟩
      cases hother
      rfl
  · have hagrees : policy = .firstWriterWins ∨ first.loader = loader := by
      cases policy with
      | firstWriterWins => exact .inl rfl
      | rejectDuplicates => exact .inr (Decidable.not_not.mp fun hne => hrefused ⟨rfl, hne⟩)
    rw [if_neg hrefused]
    refine ⟨by simp, fun error => ⟨nofun, ?_⟩, ?_⟩
    · rintro ⟨hpolicy, other, hother, hloader, -⟩
      cases hother
      exact absurd ⟨hpolicy, hloader⟩ hrefused
    · exact ⟨fun _ => ⟨first, rfl, hagrees⟩, fun _ => rfl⟩

namespace World

/-- A registry says of every name what it was first asked to record of it in a log since it was last
emptied. -/
structure ViewsFirstWrites (world : World σ) (id : RegistryId) (log : List (Action σ)) : Prop where
  recordFor?_eq : ∀ name,
    ((world.registries id).recordFor? name).map (fun found => (found.name, found.attempt)) =
      (Attempt.first? id name log).map fun first => (name, first)
  generatedBy?_eq : ∀ name,
    (world.registries id).generatedBy? name = (Attempt.first? id name log).map (·.loader)
  wasGenerated_eq : ∀ name,
    (world.registries id).wasGenerated name = (Attempt.first? id name log).isSome

theorem RecordsLog.viewsFirstWrites (h : start.RecordsLog id log world) :
    world.ViewsFirstWrites id log := by
  constructor
  case recordFor?_eq =>
    intro name
    rw [Registry.recordFor?, ← h.entries name, Option.map_map]
    refine Option.map_congr fun found hfound => ?_
    rw [(world.registries id).name_of_entry name found hfound]
    rfl
  case generatedBy?_eq =>
    intro name
    rw [Registry.generatedBy?, ← h.entries name, Option.map_map]
    rfl
  case wasGenerated_eq =>
    intro name
    rw [Registry.wasGenerated, Std.TreeMap.contains_eq_isSome_getElem?, ← h.entries name,
      Option.isSome_map]

/-- One more record is answered as the first one decides, and changes nothing unless it is the
first. -/
theorem RecordsLog.perform_record (h : start.RecordsLog id log world) (level : Nat)
    (name loader pattern : String) : ∃ outcome after,
      World.perform level (.record id name loader pattern) world =
        some (.recorded outcome, after) ∧
      FirstDecides (Attempt.first? id name log) (start.registries id).policy name loader outcome ∧
      (outcome ≠ .ok .recorded → after = world) := by
  rw [← h.entries name, ← h.policy]
  cases he : (world.registries id).entries[name]? with
  | none =>
    exact ⟨_, _, perform_record_of_eq_none loader pattern he, firstDecides_none _ _ _,
      fun hne => absurd rfl hne⟩
  | some existing =>
    exact ⟨_, _, perform_record_of_eq_some loader pattern he,
      firstDecides_some existing.attempt _ name loader, fun _ => rfl⟩

/-- What a session does after some actions. -/
theorem performAll_append_cons {later : List (Action σ)} {replies : List Reply}
    (h : performAll level (before ++ action :: later) start = some (replies, after)) :
    ∃ earlier middle reply next, performAll level before start = some (earlier, middle) ∧
      perform level action middle = some (reply, next) ∧ replies[before.length]? = some reply := by
  induction before generalizing start replies with
  | nil =>
    obtain ⟨reply, next, rest, hfirst, -, rfl⟩ := performAll_cons_eq_some_iff.mp h
    exact ⟨[], start, reply, next, rfl, hfirst, rfl⟩
  | cons other before ih =>
    obtain ⟨first, second, rest, hfirst, hrest, rfl⟩ := performAll_cons_eq_some_iff.mp h
    obtain ⟨earlier, middle, reply, next, hbefore, hreply, hlist⟩ := ih hrest
    exact ⟨first :: earlier, middle, reply, next,
      performAll_cons_eq_some_iff.mpr ⟨first, second, earlier, hfirst, hbefore, rfl⟩, hreply, hlist⟩

/-- Every log of writes runs to its end, and a registry that was empty before says of every name
what it was first asked to record of it since it was last emptied. That decided how each record of
the log was answered, too, and a record that was not the first changed nothing. -/
theorem performAll_viewsFirstWrites (hempty : (start.registries id).isEmpty)
    (hwrites : ∀ action ∈ log, action.isRequest = false) (level : Nat) :
    ∃ replies world, performAll level log start = some (replies, world) ∧
      world.ViewsFirstWrites id log ∧
      ∀ before name loader pattern later,
        log = before ++ .record id name loader pattern :: later →
        ∃ earlier middle outcome next, performAll level before start = some (earlier, middle) ∧
          perform level (.record id name loader pattern) middle = some (.recorded outcome, next) ∧
          replies[before.length]? = some (.recorded outcome) ∧
          FirstDecides (Attempt.first? id name before) (start.registries id).policy name loader
            outcome ∧
          (outcome ≠ .ok .recorded → next = middle) := by
  have hstart : start.RecordsLog id [] start :=
    ⟨rfl, fun name => by rw [Std.TreeMap.getElem?_of_isEmpty hempty]; rfl⟩
  obtain ⟨replies, world, hrun, hlog⟩ := hstart.performAll hwrites level
  refine ⟨replies, world, hrun, hlog.viewsFirstWrites, ?_⟩
  rintro before name loader pattern later rfl
  obtain ⟨earlier, middle, reply, next, hbefore, hreply, hlist⟩ := performAll_append_cons hrun
  -- the world that the log up to this record reaches is the one that the run lemma speaks of
  obtain ⟨earlier', middle', hbefore', hmiddle⟩ :=
    hstart.performAll (fun action hm => hwrites action (List.mem_append_left _ hm)) level
  rw [hbefore'] at hbefore
  cases hbefore
  obtain ⟨outcome, after, hanswer, hdecides, hsame⟩ :=
    hmiddle.perform_record level name loader pattern
  rw [hanswer] at hreply
  cases hreply
  exact ⟨earlier, middle, outcome, next, hbefore', hanswer, hlist, hdecides, hsame⟩

end World

/-- A world whose registries are empty and refuse second loaders. -/
def strict : World Unit where
  memory := ()
  registries := fun _ => { policy := .rejectDuplicates }
  now := ""

/-- A page is recorded, recorded again by its loader, refused to another one, and recorded for that
one when the registry has been emptied. -/
def handover : List (Action Unit) :=
  [.record (.own 0) "App::Page" "pages" "App::*", .record (.own 0) "App::Page" "pages" "**",
    .record (.own 0) "App::Page" "rival" "**", .record .shared "App::Page" "shop" "*::Page",
    .clear (.own 0), .record (.own 0) "App::Page" "rival" "**",
    .record (.own 0) "App::Page" "pages" "App::*"]

theorem handover_viewsFirstWrites :
    (strict.registries (.own 0)).isEmpty ∧ (∀ action ∈ handover, action.isRequest = false) ∧
      ∃ replies world, World.performAll 0 handover strict = some (replies, world) ∧
        world.ViewsFirstWrites (.own 0) handover ∧
        ∀ before name loader pattern later,
          handover = before ++ .record (.own 0) name loader pattern :: later →
          ∃ earlier middle outcome next,
            World.performAll 0 before strict = some (earlier, middle) ∧
            World.perform 0 (.record (.own 0) name loader pattern) middle =
              some (.recorded outcome, next) ∧
            replies[before.length]? = some (.recorded outcome) ∧
            FirstDecides (Attempt.first? (.own 0) name before) .rejectDuplicates name loader
              outcome ∧
            (outcome ≠ .ok .recorded → next = middle) := by
  have hwrites : ∀ action ∈ handover, action.isRequest = false := by
    simp [handover, Action.isRequest]
  exact ⟨rfl, hwrites, World.performAll_viewsFirstWrites rfl hwrites 0⟩

example : Attempt.first? (.own 0) "App::Page" handover = some ⟨"rival", "**"⟩ := by decide

end ModuleSynthesis
