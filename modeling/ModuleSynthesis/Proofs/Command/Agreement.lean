import ModuleSynthesis.Command.Run
import ModuleSynthesis.Proofs.Json
import ModuleSynthesis.Proofs.Json.Reading
import ModuleSynthesis.Proofs.Manifest.Account
import ModuleSynthesis.Proofs.Manifest.Decision
import ModuleSynthesis.Proofs.Text.Order

/-!
# Agreement of the commands

Three commands read a manifest. One lists its loaders, one writes what the chain answers to
requests, and one makes the same requests and writes what the registry holds afterwards. They refuse
the same manifests, and what they write of the others goes together.

* `Exchange.Follow`: exchanges in which each request has its own answer, whatever comes before.
* `World.Accounts.askAll`: requests of a command are answered one by one as the loaders answer
  their names, and are accounted for.
* `Answer.hasText_result_iff`, `Query.generatedBy_iff`, `ProvenanceRecord.hasText_iff`: what the
  entries of reports say.
* `Json.Agree`: results, queries and records that go together.
* `Report.Shows`: what is found under a key in the text that a command writes, once it is read back.
* `Command.report_agree`: those of the commands do, for every manifest and all requests.
-/

namespace ModuleSynthesis

variable {registry : RegistryId} {loaders : List CompiledLoader} {asked : List String}
  {request name loader pattern : String} {answer : Answer} {unit : SourceUnit}

/-! ## Requests of a command -/

/-- A unit that loaders answer with has the name that they were asked for. -/
theorem CompiledLoader.name_of_firstAnswer
    (h : CompiledLoader.firstAnswer loaders name = .ok (some unit)) : unit.name = name := by
  obtain ⟨loader, -, hanswer⟩ := exists_answer_of_firstAnswer (by rw [h]; exact nofun)
  rw [eq_assemble_of_answer (hanswer.trans h)]
  rfl

/-- What loaders answer to a request. -/
def CompiledLoader.reply (loaders : List CompiledLoader) (request : String) : Answer :=
  CompiledLoader.firstAnswer loaders (Name.ofRequest request)

namespace Exchange

/-- The exchanges are those of the requests in order, and each request has its own answer. -/
def Follow (answer : String → Answer) (requests : List String) (exchanges : List Exchange) : Prop :=
  exchanges.map (fun exchange => (exchange.request, exchange.answer)) =
    requests.map fun request => (request, answer request)

variable {answer : String → Answer} {requests : List String} {exchanges others : List Exchange}

theorem Follow.toJson (h : Follow answer requests exchanges) :
    exchanges.map Exchange.toJson =
      requests.map fun request => (answer request).toJson request := by
  have hentries := congrArg (List.map fun (request, answer) => Answer.toJson request answer) h
  rw [List.map_map, List.map_map] at hentries
  exact hentries

theorem Follow.any_failure (h : Follow answer requests exchanges) :
    exchanges.any (·.answer.failure?.isSome) =
      requests.any fun request => (answer request).failure?.isSome := by
  have hany := congrArg (List.any · fun (_, answer) => answer.failure?.isSome) h
  rw [List.any_map, List.any_map] at hany
  exact hany

/-- The status after requests tells whether some answer is an error. -/
theorem Follow.exitAfter_cases (h : Follow answer requests exchanges) :
    (exitAfter exchanges = Report.generationError ∧
      ∃ request ∈ requests, ∃ error, answer request = .error error) ∨
    (exitAfter exchanges = 0 ∧
      ∀ request ∈ requests, ∀ error, answer request ≠ .error error) := by
  have hfails (request : String) :
      (answer request).failure?.isSome ↔ ∃ error, answer request = .error error := by
    cases answer request <;> simp [Answer.failure?]
  rw [exitAfter, h.any_failure]
  split
  · next hsome =>
    simp only [List.any_eq_true, hfails] at hsome
    exact .inl ⟨rfl, hsome⟩
  · next hnone =>
    simp only [List.any_eq_true, hfails, not_exists, not_and] at hnone
    exact .inr ⟨rfl, hnone⟩

/-- It is determined by the answers. -/
theorem Follow.exitAfter_eq (h : Follow answer requests exchanges)
    (h' : Follow answer requests others) : exitAfter exchanges = exitAfter others := by
  rw [exitAfter, exitAfter, h.any_failure, h'.any_failure]

end Exchange

namespace World.Accounts

theorem generatedBy? {world : World Unit} (h : world.Accounts registry loaders asked)
    (hname : name ∈ asked) : (world.registries registry).generatedBy? name =
      (CompiledLoader.firstAnswer loaders name).unit?.map (·.loader) := by
  have hrecorded := congrArg (Option.map Prod.fst) (h.recorded name)
  rw [if_pos hname, Option.map_map, Option.map_map] at hrecorded
  exact hrecorded

/-- A name is on record exactly if it was asked for and the loaders have a unit of it. -/
theorem mem_snapshot_iff {world : World Unit} (h : world.Accounts registry loaders asked) :
    (∃ record ∈ (world.registries registry).snapshot, record.name = name ∧
      record.loader = loader ∧ record.pattern = pattern) ↔
    name ∈ asked ∧ ∃ unit, (CompiledLoader.firstAnswer loaders name).unit? = some unit ∧
      unit.loader = loader ∧ unit.pattern = pattern := by
  have hmaker (record : ProvenanceRecord) :
      record.loader = loader ∧ record.pattern = pattern ↔ record.maker = (loader, pattern) := by
    rw [Origin.maker, Prod.mk.injEq]
  simp only [hmaker, Registry.exists_mem_snapshot_iff, h.recorded]
  split
  · next hname => simp [hname, SourceUnit.maker]
  · next hname => simp [hname]

/-- The requests of a command are answered one by one as the loaders answer their names, and are
accounted for. -/
theorem askAll {world : World Unit} (h : world.Accounts registry loaders asked)
    (requests : List String) :
    Exchange.Follow (CompiledLoader.reply loaders) requests (world.askAll requests).1 ∧
    (world.askAll requests).2.Accounts registry loaders
      ((requests.map Name.ofRequest).reverse ++ asked) := by
  induction requests generalizing world asked with
  | nil => exact ⟨rfl, h⟩
  | cons request requests ih =>
    obtain ⟨after, hresolve, hafter⟩ := h.resolve 0 request
    have hask : world.ask request =
        (CompiledLoader.firstAnswer loaders (Name.ofRequest request), after) := by
      rw [World.ask, hresolve]
    obtain ⟨hfollow, haccounts⟩ := ih hafter
    rw [World.askAll, hask]
    refine ⟨?_, ?_⟩
    · exact congrArg ((request, CompiledLoader.reply loaders request) :: ·) hfollow
    · rw [List.map_cons, List.reverse_cons, List.append_assoc]
      exact haccounts

end World.Accounts

/-! ## What entries say -/

/-- An object holds a text under a key. -/
def Json.HasText (json : Json) (key text : String) : Prop :=
  json.field? key = some (.text text)

namespace Answer

/-- The word for what became of a request. -/
def word : Answer → String
  | .ok (some _) => "generated"
  | .ok none => "not_handled"
  | .error _ => "error"

theorem word_eq_generated_iff : answer.word = "generated" ↔ ∃ unit, answer.unit? = some unit := by
  rcases answer with error | _ | unit <;> simp [word, unit?]

theorem hasText_request (request : String) (answer : Answer) :
    (toJson request answer).HasText "request" request := by
  rcases answer with error | _ | unit <;> exact Json.field?_object (by simp) _

theorem hasText_result_iff {word : String} :
    (toJson request answer).HasText "result" word ↔ answer.word = word := by
  rcases answer with error | _ | unit <;>
    rw [Json.HasText, toJson, Json.field?_object (by simp)] <;> simp [List.lookup_cons, Answer.word]

section

variable (h : answer.unit? = some unit)

include h

theorem hasText_name_iff : (toJson request answer).HasText "name" name ↔ unit.name = name := by
  rw [unit?_eq_some_iff.mp h, Json.HasText, toJson, Json.field?_object (by simp)]
  simp [List.lookup_cons]

theorem hasText_loader_iff :
    (toJson request answer).HasText "loader" loader ↔ unit.loader = loader := by
  rw [unit?_eq_some_iff.mp h, Json.HasText, toJson, Json.field?_object (by simp)]
  simp [List.lookup_cons]

theorem hasText_pattern_iff :
    (toJson request answer).HasText "pattern" pattern ↔ unit.pattern = pattern := by
  rw [unit?_eq_some_iff.mp h, Json.HasText, toJson, Json.field?_object (by simp)]
  simp [List.lookup_cons]

end

/-- An entry tells of a unit what the unit is. -/
theorem hasText_unit_iff :
    ((toJson request answer).HasText "result" "generated" ∧
      (toJson request answer).HasText "name" name ∧
      (toJson request answer).HasText "loader" loader ∧
      (toJson request answer).HasText "pattern" pattern) ↔
    ∃ unit, answer.unit? = some unit ∧ unit.name = name ∧ unit.loader = loader ∧
      unit.pattern = pattern := by
  rw [hasText_result_iff, word_eq_generated_iff]
  constructor
  · rintro ⟨⟨unit, hunit⟩, hname, hloader, hpattern⟩
    exact ⟨unit, hunit, (hasText_name_iff hunit).mp hname, (hasText_loader_iff hunit).mp hloader,
      (hasText_pattern_iff hunit).mp hpattern⟩
  · rintro ⟨unit, hunit, hname, hloader, hpattern⟩
    exact ⟨⟨unit, hunit⟩, (hasText_name_iff hunit).mpr hname,
      (hasText_loader_iff hunit).mpr hloader, (hasText_pattern_iff hunit).mpr hpattern⟩

end Answer

/-- A query says that a loader generated the name exactly if the registry said so. -/
theorem Query.generatedBy_iff {query : Query} :
    (query.toJson.field? "generated" = some (.boolean true) ∧
      query.toJson.HasText "generatedBy" loader) ↔ query.loader? = some loader := by
  rw [Json.HasText, toJson, Json.field?_object (by simp), Json.field?_object (by simp)]
  cases query.loader? <;> simp [List.lookup_cons, Json.text?]

theorem Query.hasText_request (query : Query) : query.toJson.HasText "request" query.request :=
  Json.field?_object (by simp) _

theorem ProvenanceRecord.field?_name (record : ProvenanceRecord) :
    record.toJson.field? "name" = some (.text record.name) :=
  Json.field?_object (by simp) _

/-- An entry tells of a record what the record is. -/
theorem ProvenanceRecord.hasText_iff {record : ProvenanceRecord} :
    (record.toJson.HasText "name" name ∧ record.toJson.HasText "loader" loader ∧
      record.toJson.HasText "pattern" pattern) ↔
    record.name = name ∧ record.loader = loader ∧ record.pattern = pattern := by
  simp only [Json.HasText, toJson]
  rw [Json.field?_object (by simp), Json.field?_object (by simp), Json.field?_object (by simp)]
  simp [List.lookup_cons]

/-! ## Entries that go together -/

/-- The results of requests, what is known of the requests afterwards, and all records. -/
structure Json.Agree (requests : List String) (results queries records : List Json) : Prop where
  length_results : results.length = requests.length
  length_queries : queries.length = requests.length
  rows : ∀ (index : Nat) (request : String), requests[index]? = some request →
    ∃ result query, results[index]? = some result ∧ queries[index]? = some query ∧
      result.HasText "request" request ∧ query.HasText "request" request ∧
      ∀ loader, (query.field? "generated" = some (.boolean true) ∧
          query.HasText "generatedBy" loader) ↔
        (result.HasText "result" "generated" ∧ result.HasText "loader" loader)
  sorted : ∃ names : List String,
    records.map (·.field? "name") = names.map (fun name => some (.text name)) ∧
      names.Pairwise fun name later => Text.bytes name < Text.bytes later
  records_iff : ∀ name loader pattern,
    (∃ record ∈ records, record.HasText "name" name ∧ record.HasText "loader" loader ∧
      record.HasText "pattern" pattern) ↔
    ∃ result ∈ results, result.HasText "result" "generated" ∧ result.HasText "name" name ∧
      result.HasText "loader" loader ∧ result.HasText "pattern" pattern

/-- What is on record after requests goes together with their results. -/
theorem World.Accounts.agree {world : World Unit} {requests : List String}
    (h : world.Accounts registry loaders (requests.map Name.ofRequest).reverse) :
    Json.Agree requests
      (requests.map fun request => (CompiledLoader.reply loaders request).toJson request)
      ((requests.map (Query.of (world.registries registry))).map Query.toJson)
      ((world.registries registry).snapshot.map ProvenanceRecord.toJson) where
  length_results := List.length_map _
  length_queries := by rw [List.length_map, List.length_map]
  rows index request hrequest := by
    have hasked : Name.ofRequest request ∈ (requests.map Name.ofRequest).reverse :=
      List.mem_reverse.mpr (List.mem_map_of_mem (List.mem_of_getElem? hrequest))
    refine ⟨_, _, by rw [List.getElem?_map, hrequest]; rfl,
      by rw [List.getElem?_map, List.getElem?_map, hrequest]; rfl,
      Answer.hasText_request request _, Query.hasText_request _, fun loader => ?_⟩
    rw [Query.generatedBy_iff, Answer.hasText_result_iff, Answer.word_eq_generated_iff]
    dsimp only [Query.of]
    rw [h.generatedBy? hasked, Option.map_eq_some_iff]
    constructor
    · rintro ⟨unit, hunit, hloader⟩
      exact ⟨⟨unit, hunit⟩, (Answer.hasText_loader_iff hunit).mpr hloader⟩
    · rintro ⟨⟨unit, hunit⟩, hloader⟩
      exact ⟨unit, hunit, (Answer.hasText_loader_iff hunit).mp hloader⟩
  sorted := by
    refine ⟨(world.registries registry).snapshot.map (·.name), ?_, ?_⟩
    · rw [List.map_map, List.map_map]
      exact List.map_congr_left fun record _ => record.field?_name
    · exact (world.registries registry).names_snapshot_sorted.imp Text.bytes_lt_iff.mpr
  records_iff name loader pattern := by
    simp only [List.mem_map, exists_exists_and_eq_and, ProvenanceRecord.hasText_iff,
      Answer.hasText_unit_iff]
    rw [h.mem_snapshot_iff]
    constructor
    · rintro ⟨hname, unit, hunit, hmaker⟩
      obtain ⟨request, hrequest, rfl⟩ := List.mem_map.mp (List.mem_reverse.mp hname)
      exact ⟨request, hrequest, unit, hunit,
        CompiledLoader.name_of_firstAnswer (Answer.unit?_eq_some_iff.mp hunit), hmaker⟩
    · rintro ⟨request, hrequest, unit, hunit, hname, hmaker⟩
      have hsame := CompiledLoader.name_of_firstAnswer (Answer.unit?_eq_some_iff.mp hunit)
      rw [← hname, hsame]
      exact ⟨List.mem_reverse.mpr (List.mem_map_of_mem hrequest), unit, hunit, hmaker⟩

/-! ## The commands -/

/-- A manifest that was read compiles. -/
theorem Manifest.exists_declared_of_read {text : String} {manifest : Manifest}
    (h : Manifest.read text = .ok manifest) : ∃ loaders, manifest.declared = .ok loaders := by
  rw [read] at h
  split at h
  · cases h
  · split at h
    · cases h
    · split at h
      · cases h
      · next hcompile =>
        cases h
        obtain ⟨declared, hdeclared, -⟩ := exists_declared_of_compile hcompile
        exact ⟨declared, hdeclared⟩

namespace Surroundings

variable {surroundings : Surroundings} {path message : String} {manifest : Manifest}

/-- The loaders of a manifest that can be used compile. -/
theorem exists_declared (h : surroundings.manifest path = .ok manifest) :
    ∃ loaders, manifest.declared = .ok loaders := by
  rw [Surroundings.manifest] at h
  split at h
  · cases h
  · split at h
    · next hread =>
      cases h
      exact Manifest.exists_declared_of_read hread
    · cases h
    · cases h
    · cases h

/-- A manifest that cannot be used is not installed either. -/
theorem install_of_error (h : surroundings.manifest path = .error message) :
    surroundings.install path = .error message := by
  rw [install, h]

variable (h : surroundings.manifest path = .ok manifest)
  (hdeclared : manifest.declared = .ok loaders)

include h hdeclared

/-- A manifest that can be used is installed with nothing on record. -/
theorem exists_install : ∃ world, surroundings.install path =
      .ok ⟨manifest, loaders.map (·.toLoader (.own 0)), world⟩ ∧
    world.Accounts (.own 0) loaders [] := by
  obtain ⟨world, hworld, haccounts⟩ :=
    Manifest.exists_accounts hdeclared () true Name.defaultExtension surroundings.now
  have hcaching : (Chain.fresh true Name.defaultExtension : Chain Unit) = .caching := rfl
  refine ⟨world, ?_, haccounts⟩
  rw [install, h, ← hcaching]
  dsimp only
  rw [hworld]

/-- Requests to the loaders of such a manifest are resolved as these answer their names. -/
theorem exists_resolution (requests : List String) :
    ∃ resolution, Resolution.of path requests surroundings = .ok resolution ∧
      Exchange.Follow (CompiledLoader.reply loaders) requests resolution.exchanges := by
  obtain ⟨world, hinstall, haccounts⟩ := exists_install h hdeclared
  rw [Resolution.of, hinstall]
  exact ⟨_, rfl, (haccounts.askAll requests).1⟩

/-- So they are where the registry is asked afterwards, and what it holds goes together with the
results. -/
theorem exists_lineage (requests : List String) :
    ∃ lineage, Lineage.of path requests surroundings = .ok lineage ∧
      Exchange.Follow (CompiledLoader.reply loaders) requests lineage.exchanges ∧
      Json.Agree requests
        (requests.map fun request => (CompiledLoader.reply loaders request).toJson request)
        (lineage.queries.map Query.toJson) (lineage.records.map ProvenanceRecord.toJson) := by
  obtain ⟨world, hinstall, haccounts⟩ := exists_install h hdeclared
  obtain ⟨hfollow, hafter⟩ := haccounts.askAll requests
  rw [List.append_nil] at hafter
  rw [Lineage.of, hinstall]
  exact ⟨_, rfl, hfollow, hafter.agree⟩

end Surroundings

/-! ## What commands write -/

/-- The text that a command writes says one JSON value, which is read back from it and holds these
entries under a key. -/
def Report.Shows (report : Report) (key : String) (entries : List Json) : Prop :=
  ∃ json : Json, report.stdout = ofJson json ∧ Json.read? report.stdout = some json ∧
    json.field? key = some (.array entries)

/-- A value is read back from the line that it is written in. -/
theorem Json.read?_ofJson (json : Json) : Json.read? (Report.ofJson json) = some json := by
  have hblank : ∀ c ∈ ['\n'], Json.isBlank c := by simp [Json.isBlank]
  exact Json.read?_pretty json hblank

theorem Report.shows_ofJson {report : Report} {json : Json} {key : String} {entries : List Json}
    (h : report.stdout = ofJson json) (hfield : json.field? key = some (.array entries)) :
    report.Shows key entries :=
  ⟨json, h, h ▸ Json.read?_ofJson json, hfield⟩

/-- The command that resolves requests writes an entry for each of them. -/
theorem Resolution.shows_results {path : String} {requests : List String}
    {surroundings : Surroundings} {resolution : Resolution} {answer : String → Answer}
    (h : Resolution.of path requests surroundings = .ok resolution)
    (hfollow : Exchange.Follow answer requests resolution.exchanges) :
    (Resolution.report path requests true surroundings).Shows "results"
      (requests.map fun request => (answer request).toJson request) := by
  rw [Resolution.report, h, ← hfollow.toJson]
  exact Report.shows_ofJson rfl (Json.field?_object (by simp) _)

section

variable {path : String} {requests : List String} {surroundings : Surroundings} {lineage : Lineage}
  (h : Lineage.of path requests surroundings = .ok lineage)

include h

/-- The command that asks for provenance writes the queries and the records. -/
theorem Lineage.shows_queries : (Lineage.report path requests true surroundings).Shows "requests"
    (lineage.queries.map Query.toJson) := by
  rw [Lineage.report, h]
  exact Report.shows_ofJson rfl (Json.field?_object (by simp) _)

theorem Lineage.shows_records : (Lineage.report path requests true surroundings).Shows "records"
    (lineage.records.map ProvenanceRecord.toJson) := by
  rw [Lineage.report, h]
  exact Report.shows_ofJson rfl (Json.field?_object (by simp) _)

end

namespace Command

/-- The three commands agree on every manifest and on all requests, whenever each of them is
carried out. A manifest that cannot be used is refused by all of them with one message. Of any other
one the loaders are listed; the other two commands have one exit status, which tells whether the
chain of the manifest fails some request; and what they write is read back as JSON: the results are
the answers of the chain, one for each request in order, and they go together with the queries and
the records. -/
theorem report_agree (read : String → Except ReadFault String) (checked resolved traced : String)
    (path : String) (requests : List String) :
    (∀ message, Surroundings.manifest ⟨read, checked⟩ path = .error message → ∀ json,
      (Command.check path).report json ⟨read, checked⟩ = .refused message ∧
      (Command.resolve path requests).report json ⟨read, resolved⟩ = .refused message ∧
      (Command.provenance path requests).report json ⟨read, traced⟩ = .refused message) ∧
    ∀ manifest, Surroundings.manifest ⟨read, checked⟩ path = .ok manifest →
      (∀ json, ((Command.check path).report json ⟨read, checked⟩).exit = 0) ∧
      ∃ (answer : String → Answer) (results queries records : List Json),
        (∀ request, manifest.Answers request (answer request)) ∧
        (∃ status, ((status = Report.generationError ∧
              ∃ request ∈ requests, ∃ error, answer request = .error error) ∨
            (status = 0 ∧ ∀ request ∈ requests, ∀ error, answer request ≠ .error error)) ∧
          ∀ json, ((Command.resolve path requests).report json ⟨read, resolved⟩).exit = status ∧
            ((Command.provenance path requests).report json ⟨read, traced⟩).exit = status) ∧
        results = requests.map (fun request => (answer request).toJson request) ∧
        ((Command.resolve path requests).report true ⟨read, resolved⟩).Shows "results" results ∧
        ((Command.provenance path requests).report true ⟨read, traced⟩).Shows
          "requests" queries ∧
        ((Command.provenance path requests).report true ⟨read, traced⟩).Shows
          "records" records ∧
        Json.Agree requests results queries records := by
  constructor
  · intro message h json
    have hinstall (now : String) : Surroundings.install ⟨read, now⟩ path = .error message :=
      Surroundings.install_of_error h
    refine ⟨?_, ?_, ?_⟩
    · rw [report, Inspection.report, h]
    · rw [report, Resolution.report, Resolution.of, hinstall]
    · rw [report, Lineage.report, Lineage.of, hinstall]
  · intro manifest h
    obtain ⟨loaders, hdeclared⟩ := Surroundings.exists_declared h
    have hmanifest (now : String) : Surroundings.manifest ⟨read, now⟩ path = .ok manifest := h
    obtain ⟨resolution, hresolution, hfollow⟩ :=
      Surroundings.exists_resolution (hmanifest resolved) hdeclared requests
    obtain ⟨lineage, hlineage, hsame, hagree⟩ :=
      Surroundings.exists_lineage (hmanifest traced) hdeclared requests
    refine ⟨fun json => ?_, CompiledLoader.reply loaders, _, _, _,
      Manifest.answers_of_declared hdeclared,
      ⟨exitAfter resolution.exchanges, hfollow.exitAfter_cases, fun json => ⟨?_, ?_⟩⟩, rfl,
      Resolution.shows_results hresolution hfollow, Lineage.shows_queries hlineage,
      Lineage.shows_records hlineage, hagree⟩
    · rw [report, Inspection.report, h]
    · rw [report, Resolution.report, hresolution]
    · rw [report, Lineage.report, hlineage]
      exact hsame.exitAfter_eq hfollow

end Command

end ModuleSynthesis
