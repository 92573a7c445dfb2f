import ModuleSynthesis.Session

/-!
# Chains and registries of a world

* `World.registries_setRegistry`: the registries after one of them was written.
* `Chain.unitAt?_keep`: a unit that is kept is found under its path unless one was there before;
  nothing else changes.
* `Chain.register_all`: loaders that are registered one after another are asked last, in order.
-/

namespace ModuleSynthesis

namespace Chain

variable {σ : Type}

theorem unitAt?_keep (chain : Chain σ) (path : String) (unit : SourceUnit) (other : String) :
    (chain.keep path unit).unitAt? other =
      (chain.unitAt? other).or
        (if path = other ∧ chain.loaded?.isSome then some unit else none) := by
  cases hl : chain.loaded? with
  | none => simp [keep, unitAt?, hl]
  | some loaded =>
    have hkept : (chain.keep path unit).unitAt? other = (loaded.insertIfNew path unit)[other]? := by
      simp only [keep, unitAt?, hl]
    have hold : chain.unitAt? other = loaded[other]? := by simp only [unitAt?, hl]
    rw [hkept, hold, Std.TreeMap.getElem?_insertIfNew]
    simp only [Std.TreeMap.mem_iff_isSome_getElem?]
    by_cases hp : path = other
    · subst hp
      cases loaded[path]? <;> simp
    · cases loaded[other]? <;> simp [hp]

theorem keep_resolvers (chain : Chain σ) (path : String) (unit : SourceUnit) :
    (chain.keep path unit).resolvers = chain.resolvers := by
  rw [keep]; split <;> rfl

theorem keep_extension (chain : Chain σ) (path : String) (unit : SourceUnit) :
    (chain.keep path unit).extension = chain.extension := by
  rw [keep]; split <;> rfl

theorem loaded?_keep (chain : Chain σ) (path : String) (unit : SourceUnit) :
    (chain.keep path unit).loaded?.isSome = chain.loaded?.isSome := by
  rw [keep]; split <;> simp [*]

theorem register_all (loaders : List (Loader σ)) (chain : Chain σ) :
    loaders.foldl (fun chain loader => chain.register (.loader loader)) chain =
      { chain with resolvers := chain.resolvers ++ loaders.map .loader } := by
  induction loaders generalizing chain with
  | nil => simp
  | cons loader loaders ih => rw [List.foldl_cons, ih]; simp [register]

end Chain

namespace World

variable {σ : Type}

theorem registries_setRegistry (world : World σ) (id : RegistryId) (registry : Registry)
    (other : RegistryId) :
    (world.setRegistry id registry).registries other =
      if other = id then registry else world.registries other := rfl

theorem registries_log (world : World σ) (event : Event) :
    (world.log event).registries = world.registries := rfl

end World

end ModuleSynthesis
