import ClientGen.Proofs.Operation.TypeLinks
import ClientGen.Proofs.Operation.Hygiene

/-! # Names at the top level of a unit

  A unit binds the helpers that it imports, the local names of the definitions, the alias of the
  answer and the name of its function. The generator keeps a definition with the name of the alias
  away from all others. It does not do the same for a definition with the name of a helper, and not
  for the id of the operation, which becomes the name of the function.

  `topLevelNames_nodup_iff` says exactly when the names are distinct all the same. -/

namespace ClientGen.Operation

/-- Whether nothing that the document names meets another name at the top level of the unit. -/
structure ApartAtTopLevel (op : Operation) : Prop where
  /-- No linked definition has the name of the class of requests. -/
  links_request : Generated.request ∉ op.linkedNames
  /-- If the function that writes queries is imported, no linked definition has its name. -/
  links_makeQuery : op.hasQuery = true → Generated.makeQuery ∉ op.linkedNames
  id_response : op.id ≠ Generated.response
  id_request : op.id ≠ Generated.request
  id_makeQuery : op.hasQuery = true → op.id ≠ Generated.makeQuery
  /-- The id is not the local name of a linked definition. -/
  id_links : ∀ n ∈ op.linkedNames, op.localName n ≠ op.id

/-! ## Helpers and definitions -/

theorem nodup_helperNames (op : Operation) : op.helperNames.Nodup := by
  unfold helperNames
  cases op.hasQuery <;> decide

theorem response_not_mem_helperNames (op : Operation) :
    Generated.response ∉ op.helperNames := by
  unfold helperNames
  cases op.hasQuery <;> decide

/-- A definition meets a helper only under its own name: the fresh name keeps away from helpers. -/
theorem localName_eq_helper_iff {op : Operation} {n helper : String} (hn : n ∈ op.importedNames)
    (hhelper : helper ∈ op.helperNames) : op.localName n = helper ↔ n = helper := by
  -- The name that `Response` is moved to is never that of a helper.
  have hcandidate : ∀ j, candidate j ≠ helper := by
    intro j
    rcases mem_helperNames.mp hhelper with rfl | ⟨_, rfl⟩
    · exact candidate_ne_request j
    · exact candidate_ne_makeQuery j
  by_cases hresponse : n = Generated.response
  · subst hresponse
    obtain ⟨j, _, heq, _⟩ := responseImport?_spec hn
    have hlocal : op.localName Generated.response = candidate j := by simp [localName, heq]
    rw [hlocal]
    constructor
    · intro h
      exact absurd h (hcandidate j)
    · intro h
      exact absurd (h ▸ hhelper) op.response_not_mem_helperNames
  · rw [localName_of_ne hresponse]

theorem helpers_apart_iff {op : Operation} :
    (∀ helper ∈ op.helperNames, ∀ n ∈ op.importedNames.map op.localName, helper ≠ n)
      ↔ ∀ helper ∈ op.helperNames, helper ∉ op.linkedNames := by
  constructor
  · intro h helper hhelper hlinked
    have hn := mem_importedNames.mpr hlinked
    exact h helper hhelper _ (List.mem_map_of_mem hn)
      ((localName_eq_helper_iff hn hhelper).mpr rfl).symm
  · rintro h helper hhelper _ hmem rfl
    obtain ⟨n, hn, heq⟩ := List.mem_map.mp hmem
    have hname := (localName_eq_helper_iff hn hhelper).mp heq
    exact h _ hhelper (hname ▸ mem_importedNames.mp hn)

/-! ## All names -/

/-- When the names of the unit are distinct, in terms of the three lists that they come from. -/
theorem topLevelNames_sourceUnit_nodup_iff {op : Operation} :
    op.sourceUnit.script.topLevelNames.Nodup
      ↔ (∀ helper ∈ op.helperNames, helper ∉ op.linkedNames)
        ∧ op.id ∉ op.helperNames ∧ op.id ∉ op.importedNames.map op.localName
        ∧ op.id ≠ Generated.response := by
  rw [topLevelNames_sourceUnit, List.nodup_append, List.nodup_append, helpers_apart_iff]
  have hhelpers := op.nodup_helperNames
  have hlocals := op.nodup_localNames
  have hresponse : Generated.response ∉ op.helperNames ++ op.importedNames.map op.localName := by
    rw [List.mem_append]
    rintro (h | h)
    · exact op.response_not_mem_helperNames h
    · exact op.response_not_mem_localNames h
  constructor
  · rintro ⟨⟨_, _, hapart⟩, hpair, hid⟩
    have hid' : op.id ∉ op.helperNames ++ op.importedNames.map op.localName := by
      intro hmem
      exact hid op.id hmem op.id (by simp) rfl
    rw [List.mem_append, not_or] at hid'
    refine ⟨hapart, hid'.1, hid'.2, ?_⟩
    rintro heq
    simp [heq] at hpair
  · rintro ⟨hapart, hidHelper, hidLocal, hidResponse⟩
    refine ⟨⟨hhelpers, hlocals, hapart⟩, by simpa using hidResponse.symm, ?_⟩
    -- A name among the imports is neither the alias, which none of them is, nor the id.
    rintro n hn m hm rfl
    simp only [List.mem_cons, List.not_mem_nil, or_false] at hm
    rcases hm with rfl | rfl
    · exact hresponse hn
    · rcases List.mem_append.mp hn with hn | hn
      · exact hidHelper hn
      · exact hidLocal hn

/-- **Names at the top level**: the names that the unit of an accepted operation binds are distinct
    exactly if the document keeps its own names apart from those of the generator. -/
theorem topLevelNames_nodup_iff {op : Operation} {u : SourceUnit}
    (accepted : op.compile.result = .ok u) :
    u.script.topLevelNames.Nodup ↔ ApartAtTopLevel op := by
  obtain ⟨_, _, rfl⟩ := compile_eq_ok_iff.mp accepted
  rw [topLevelNames_sourceUnit_nodup_iff]
  simp only [mem_helperNames, List.mem_map, not_exists, not_and, not_or, mem_importedNames]
  constructor
  · rintro ⟨hapart, ⟨hrequest, hmake⟩, hlinks, hresponse⟩
    exact {
      links_request := hapart _ (Or.inl rfl)
      links_makeQuery := fun hquery => hapart _ (Or.inr ⟨hquery, rfl⟩)
      id_response := hresponse
      id_request := hrequest
      id_makeQuery := hmake
      id_links := hlinks }
  · rintro ⟨hrequest, hmake, hidResponse, hidRequest, hidMake, hidLinks⟩
    refine ⟨?_, ⟨hidRequest, hidMake⟩, hidLinks, hidResponse⟩
    -- The second helper is imported only if there is a query.
    rintro helper (rfl | ⟨hquery, rfl⟩)
    · exact hrequest
    · exact hmake hquery

/-- A schema that links to `Response` and to the first name that it could be moved to. -/
def movedAnswer : Schema where
  kind := some "object"
  properties := some [("a", Schema.linkTo "Response"), ("b", Schema.linkTo "ResponseType")]

/-- An operation that moves `Response` to the name before its own id. -/
def movedResponse : Operation where
  id := "ResponseType3"
  path := "/pets"
  parameters := [{ name := "tag", carrier := .query, kind := some "string" }]
  responses := [("200", { schema := some movedAnswer })]

theorem topLevelNames_movedResponse :
    ∃ u, movedResponse.compile.result = .ok u
      ∧ u.script.topLevelNames
        = ["makeQuery", "AjaxPipe", "ResponseType2", "ResponseType", "Response", "ResponseType3"]
      ∧ (u.script.topLevelNames.Nodup ↔ ApartAtTopLevel movedResponse) :=
  ⟨_, rfl, by decide, topLevelNames_nodup_iff rfl⟩

/-- An operation that links to a definition with the name of the class of requests. -/
def definitionNamedRequest : Operation where
  id := "getPet"
  path := "/pet"
  responses := [("200", { schema := some (Schema.linkTo "AjaxPipe") })]

/-- A definition with the name of a helper is imported beside that helper under the same name. -/
theorem topLevelNames_definitionNamedRequest :
    ∃ u, definitionNamedRequest.compile.result = .ok u
      ∧ u.script.topLevelNames = ["AjaxPipe", "AjaxPipe", "Response", "getPet"]
      ∧ ¬ u.script.topLevelNames.Nodup :=
  ⟨_, rfl, by decide, by decide⟩

end ClientGen.Operation
